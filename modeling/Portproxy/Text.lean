import Portproxy.State

/-! The text functions of the C library that the command line and the routing
table are read with, in the C locale. -/
namespace Portproxy

/-- The bytes of a string constant. -/
def cstr (text : String) : CString := text.toList.map Char.toUInt8

def isspace (c : UInt8) : Bool := c = 32 ∨ (9 ≤ c ∧ c ≤ 13)

def tolower (c : UInt8) : UInt8 := if 65 ≤ c ∧ c ≤ 90 then c + 32 else c

/-- `strcasecmp` answers 0. -/
def strcasecmpEq (a b : CString) : Bool := a.map tolower = b.map tolower

/-! ## Numbers -/

/-- What a character stands for as a digit of a base up to 16. -/
def digitValue (base : Nat) (c : UInt8) : Option Nat :=
  let value :=
    if 48 ≤ c.toNat ∧ c.toNat ≤ 57 then c.toNat - 48
    else if 97 ≤ c.toNat ∧ c.toNat ≤ 102 then c.toNat - 87
    else if 65 ≤ c.toNat ∧ c.toNat ≤ 70 then c.toNat - 55
    else 16
  if value < base then some value else none

/-- The digits a text starts with, and the text behind them. -/
def leadingDigits (base : Nat) : CString → List Nat × CString
  | [] => ([], [])
  | c :: rest =>
    match digitValue base c with
    | some value => (value :: (leadingDigits base rest).1, (leadingDigits base rest).2)
    | none => ([], c :: rest)

/-- The number written by these digits. -/
def numeral (base : Nat) (ds : List Nat) : Nat := ds.foldl (fun value d => base * value + d) 0

/-- Whether a minus sign stands in front, and the text behind the sign. -/
def signOf : CString → Bool × CString
  | [] => (false, [])
  | c :: rest => if c = 45 then (true, rest) else (false, if c = 43 then rest else c :: rest)

/-- `strtol` in base 10: a number out of range becomes the nearest `long`. -/
def strtol (longBits : Nat) (text : CString) : Int :=
  let number := signOf (text.dropWhile isspace)
  let value : Int := numeral 10 (leadingDigits 10 number.2).1
  max (-2 ^ (longBits - 1)) (min (if number.1 then -value else value) (2 ^ (longBits - 1) - 1))

/-- `atoi`, which is `strtol` converted to `int`. -/
def atoi (longBits : Nat) (text : CString) : Int := int32 (strtol longBits text)

/-- A `%lx` of `sscanf`: the number as an `unsigned long`, and the text behind
it. A sign and the mark `0x` may stand in front. -/
def scanHex (longBits : Nat) (text : CString) : Option (Nat × CString) :=
  let number := signOf (text.dropWhile isspace)
  let marked := number.2.head? = some 48 ∧ (number.2[1]?.map tolower) = some 120
  let read := leadingDigits 16 (if marked then number.2.drop 2 else number.2)
  if ¬ marked ∧ read.1 = [] then none
  else
    let value := numeral 16 read.1
    some (if 2 ^ longBits ≤ value then 2 ^ longBits - 1
          else if number.1 then (2 ^ longBits - value) % 2 ^ longBits
          else value, read.2)

/-! ## Addresses -/

/-- A decimal number up to 255 without leading zeroes. -/
def octet (text : CString) : Option UInt8 :=
  let read := leadingDigits 10 text
  if read.2 ≠ [] ∨ read.1 = [] ∨ (1 < read.1.length ∧ read.1.head? = some 0) ∨
      255 < numeral 10 read.1 then none
  else some (.ofNat (numeral 10 read.1))

/-- `inet_pton` for `AF_INET`; an address is stored only if it answers 1. -/
def inetPton4 (text : CString) : Option InAddr :=
  match (text.splitOn 46).mapM octet with
  | some [first, second, third, fourth] => some ⟨first, second, third, fourth⟩
  | _ => none

/-- Up to four hexadecimal digits, as two bytes. -/
def hexGroup (text : CString) : Option (List UInt8) :=
  let read := leadingDigits 16 text
  if read.2 ≠ [] ∨ read.1 = [] ∨ 4 < read.1.length then none
  else some [.ofNat (numeral 16 read.1 / 256), .ofNat (numeral 16 read.1)]

/-- The bytes of groups between colons. The last one may be an IPv4 address. -/
def hexGroups : List CString → Option (List UInt8)
  | [] => some []
  | [last] => (hexGroup last).or ((inetPton4 last).map InAddr.bytes)
  | first :: rest => do return (← hexGroup first) ++ (← hexGroups rest)

/-- The text on both sides of the first `::`. -/
def splitGap : CString → Option (CString × CString)
  | 58 :: 58 :: rest => some ([], rest)
  | c :: rest => (splitGap rest).map fun sides => (c :: sides.1, sides.2)
  | [] => none

/-- The bytes of one side of a gap. -/
def sideBytes (text : CString) : Option (List UInt8) :=
  if text = [] then some [] else hexGroups (text.splitOn 58)

/-- `inet_pton` for `AF_INET6`. An IPv4 address may stand only at the very end. -/
def inetPton6 (text : CString) : Option In6Addr :=
  match splitGap text with
  | none => do
    let bytes ← hexGroups (text.splitOn 58)
    if bytes.length = 16 then some (Vector.ofFn fun i => bytes.getD i 0) else none
  | some (left, right) => do
    let before ← if left = [] then some [] else ((left.splitOn 58).mapM hexGroup).map List.flatten
    let behind ← sideBytes right
    if before.length + behind.length < 16 then
      some (Vector.ofFn fun i =>
        (before ++ List.replicate (16 - before.length - behind.length) 0 ++ behind).getD i 0)
    else none

/-! ## Reading a hexadecimal word -/

variable {word gap rest : CString} {c b : UInt8}

theorem isspace_iff : isspace c = true ↔ c.toNat = 32 ∨ (9 ≤ c.toNat ∧ c.toNat ≤ 13) := by
  simp only [isspace, ← UInt8.toNat_inj, UInt8.le_iff_toNat_le]
  simp

theorem hex_digit_range (hex : (digitValue 16 c).isSome) :
    (48 ≤ c.toNat ∧ c.toNat ≤ 57) ∨ (97 ≤ c.toNat ∧ c.toNat ≤ 102) ∨
      (65 ≤ c.toNat ∧ c.toNat ≤ 70) := by
  simp only [digitValue] at hex
  split_ifs at hex <;> simp_all

theorem blank_no_digit (blank : isspace b = true) : digitValue 16 b = none := by
  cases value : digitValue 16 b with
  | none => rfl
  | some =>
    have range := hex_digit_range (c := b) (by simp [value])
    have small := isspace_iff.mp blank
    omega

/-- Neither a digit nor a blank is the `x` of a mark. -/
theorem tolower_ne_x (range : c.toNat ≤ 70 ∨ (97 ≤ c.toNat ∧ c.toNat ≤ 102)) : tolower c ≠ 120 := by
  simp only [tolower, ne_eq, ← UInt8.toNat_inj, UInt8.le_iff_toNat_le]
  split
  · rw [UInt8.toNat_add]
    simp
    omega
  · simp
    omega

theorem leading_digits_append (rest : CString) (digits : ∀ c ∈ word, (digitValue base c).isSome)
    (stops : digitValue base b = none) :
    leadingDigits base (word ++ b :: rest) = (word.filterMap (digitValue base), b :: rest) := by
  induction word with
  | nil => simp [leadingDigits, stops]
  | cons c word ih =>
    obtain ⟨value, digit⟩ := Option.isSome_iff_exists.mp (digits c List.mem_cons_self)
    have later := ih fun c member => digits c (List.mem_cons_of_mem _ member)
    simp [leadingDigits, digit, later]

/-- A word of digits between blanks is read as the number it writes. -/
theorem scan_hex_word (rest : CString) (blank : ∀ c ∈ gap, isspace c = true) (nonempty : word ≠ [])
    (hex : ∀ c ∈ word, (digitValue 16 c).isSome) (ends : isspace b = true)
    (fits : numeral 16 (word.filterMap (digitValue 16)) < 2 ^ longBits) :
    scanHex longBits (gap ++ word ++ b :: rest) =
      some (numeral 16 (word.filterMap (digitValue 16)), b :: rest) := by
  have read := leading_digits_append rest hex (blank_no_digit ends)
  obtain ⟨first, others, rfl⟩ := List.exists_cons_of_ne_nil nonempty
  have range := hex_digit_range (hex first List.mem_cons_self)
  have solid : ¬ isspace first = true := by
    rw [isspace_iff]
    omega
  have start : (gap ++ (first :: others) ++ b :: rest).dropWhile isspace = first :: others ++ b :: rest := by
    rw [List.append_assoc, List.dropWhile_append_of_pos blank, List.cons_append,
      List.dropWhile_cons_of_neg solid]
  have unsigned : signOf (first :: others ++ b :: rest) = (false, first :: others ++ b :: rest) := by
    have minus : first ≠ 45 := by
      rintro rfl
      simp at range
    have plus : first ≠ 43 := by
      rintro rfl
      simp at range
    simp [signOf, minus, plus]
  have unmarked : ¬ ((first :: others ++ b :: rest)[1]?.map tolower = some 120) := by
    cases others with
    | nil =>
      have small := isspace_iff.mp ends
      simpa using tolower_ne_x (.inl (by omega))
    | cons second others =>
      have range := hex_digit_range (hex second (by simp))
      simpa using tolower_ne_x (by omega)
  obtain ⟨value, digit⟩ := Option.isSome_iff_exists.mp (hex first List.mem_cons_self)
  unfold scanHex
  rw [start, unsigned]
  simp only [unmarked, and_false, if_false, read, if_neg (not_le.mpr fits)]
  simp [digit]

end Portproxy
