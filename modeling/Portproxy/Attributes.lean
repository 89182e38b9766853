import Portproxy.Interfaces
import Portproxy.SizedRecords

/-! The attributes of a netlink message in memory, as `parse_rtattr` of
`libnetlink.c` finds them. A pointer is memory from the place it points at on; a
read where there is no memory gives `none`. -/
namespace Portproxy.Attributes
open HostOrder SizedRecords

/-- A field of a structure: `width` bytes, `offset` bytes on. -/
def field (order : ByteOrder) (offset width : Nat) (mem : List UInt8) : Nat :=
  order.load ((mem.drop offset).take width)

theorem field_append (enough : offset + width ≤ bytes.length) (rest : List UInt8) :
    field order offset width (bytes ++ rest) = field order offset width bytes := by
  unfold field
  rw [List.drop_append_of_le_length (by omega), List.take_append_of_le_length (by simp; omega)]

theorem field_store (before : List UInt8) (order : ByteOrder) (width n : Nat) (rest : List UInt8) :
    field order before.length width (before ++ (order.store width n ++ rest)) = n % 256 ^ width := by
  unfold field
  rw [List.drop_left, List.take_left' (order.length_store width n), order.load_store]

/-- `RTA_OK` and `RTA_NEXT`. -/
def rtattrLayout (order : ByteOrder) : Layout where
  header := 4
  align := 4
  size := field order 0 2
  header_pos := by omega
  align_pos := by omega
  size_append _ rest enough := field_append (by omega) rest

def rtaLen (order : ByteOrder) (rta : List UInt8) : Nat := field order 0 2 rta
def rtaType (order : ByteOrder) (rta : List UInt8) : Nat := field order 2 2 rta

/-- `RTA_DATA`, to which the memory behind the attribute belongs too. -/
def rtaData (rta : List UInt8) : List UInt8 := rta.drop 4

/-- `RTA_DATA` as far as `RTA_PAYLOAD` goes. -/
def rtaPayload (order : ByteOrder) (rta : List UInt8) : List UInt8 :=
  (rtaData rta).take (rtaLen order rta - 4)

/-- `RTA_LENGTH` and `RTA_ALIGN`. -/
def rtaLength (size : Nat) : Nat := 4 + size
def rtaAlign (size : Nat) : Nat := (size + 3) / 4 * 4

/-- What `parse_rtattr` leaves: the table, and the line it prints when not all
bytes are used up, with the length it reads at the place it has come to. -/
structure Parsed (Table : Type) where
  tb : Table
  deficit : Option (Int × Nat)

def deficit (order : ByteOrder) (tb : Table) (left : Int) (rest : List UInt8) : Option (Parsed Table) :=
  if left = 0 then some ⟨tb, none⟩
  else if rest.length < 2 then none
  else some ⟨tb, some (left, rtaLen order rest)⟩

/-- The loop of both functions, which never returns early. -/
def rtattrLoop (order : ByteOrder) (visit : Table → List UInt8 → Table) (tb : Table) (rta : List UInt8)
    (len : Int) : Option (Parsed Table) :=
  match scan (rtattrLayout order) (fun tb rta => Except.ok (visit tb rta)) tb len rta with
  | .returned (stop : Empty) => nomatch stop
  | .ended tb left rest => deficit order tb left rest
  | .outside => none

/-- `parse_rtattr`; the table has a pointer for each type. -/
def parseRtattr (order : ByteOrder) (max : Nat) (rta : List UInt8) (len : Int) :
    Option (Parsed (Nat → Option (List UInt8))) :=
  rtattrLoop order
    (fun tb rta => if rtaType order rta ≤ max then Function.update tb (rtaType order rta) (some rta) else tb)
    (fun _ => none) rta len

/-- `parse_rtattr_byindex`; the table has the pointers it counts. -/
def parseRtattrByindex (order : ByteOrder) (max : Nat) (rta : List UInt8) (len : Int) :
    Option (Parsed (List (List UInt8))) :=
  rtattrLoop order
    (fun tb rta => if rtaType order rta ≤ max ∧ tb.length < max then tb ++ [rta] else tb) [] rta len

variable {order : ByteOrder} {max : Nat} {mem : List UInt8} {len : Int}

/-! ## What any bytes give -/

/-- Memory from each attribute on. -/
def rtas (order : ByteOrder) (mem : List UInt8) (len : Int) : List (List UInt8) :=
  (walk (rtattrLayout order) len mem).records

/-- The attribute a pointer points at. -/
def attrAt (order : ByteOrder) (rta : List UInt8) : RtAttr := ⟨rtaType order rta, rtaPayload order rta⟩

/-- The attributes in `len` bytes. -/
def attrs (order : ByteOrder) (mem : List UInt8) (len : Int) : List RtAttr :=
  (rtas order mem len).map (attrAt order)

/-- The line about a deficit is printed for what is left, and read inside memory. -/
abbrev Legible (order : ByteOrder) (mem : List UInt8) (len : Int) : Prop :=
  (walk (rtattrLayout order) len mem).left = 0 ∨ 2 ≤ (walk (rtattrLayout order) len mem).rest.length

theorem rtattr_loop_eq (visit : Table → List UInt8 → Table) (tb : Table) (inside : len ≤ mem.length) :
    rtattrLoop order visit tb mem len =
      deficit order ((rtas order mem len).foldl visit tb) (walk (rtattrLayout order) len mem).left
        (walk (rtattrLayout order) len mem).rest := by
  rw [rtattrLoop, scan_eq _ _ inside]
  have all : ∀ records : List (List UInt8),
      records.foldlM (fun tb rta => (Except.ok (visit tb rta) : Except Empty Table)) tb =
        .ok (records.foldl visit tb) := fun _ => List.foldlM_pure
  rw [all]
  rfl

theorem deficit_some (parsed : Parsed Table) :
    deficit order tb left rest = some parsed ↔
      (left = 0 ∨ 2 ≤ rest.length) ∧ parsed.tb = tb ∧
        parsed.deficit = if left = 0 then none else some (left, rtaLen order rest) := by
  obtain ⟨table, line⟩ := parsed
  unfold deficit
  by_cases none : left = 0
  · simp [none, eq_comm]
  · by_cases short : rest.length < 2
    · simp [none, short]
    · simp [none, short, eq_comm]
      omega

/-- What a table of the last of each kind holds. -/
theorem foldl_update_last (key : α → Nat) (records : List α) (tb : Nat → Option α) (type : Nat) :
    records.foldl (fun tb record =>
        if key record ≤ max then Function.update tb (key record) (some record) else tb) tb type =
      if type ≤ max then (records.reverse.find? (key · = type)).or (tb type) else tb type := by
  induction records generalizing tb with
  | nil => simp
  | cons record later ih =>
    rw [List.foldl_cons, ih, List.reverse_cons, List.find?_append]
    by_cases listed : type ≤ max
    · rw [if_pos listed, if_pos listed, Option.or_assoc]
      congr 1
      by_cases same : key record = type
      · simp [same, listed]
      · have other : type ≠ key record := Ne.symm same
        simp only [List.find?_singleton, decide_eq_true_eq, same, ↓reduceIte, Option.none_or]
        split <;> simp [Function.update_of_ne other]
    · rw [if_neg listed, if_neg listed]
      split
      · rename_i small
        exact Function.update_of_ne (by rintro rfl; exact listed small) _ _
      · rfl

/-- The table of `parse_rtattr`: a pointer to the last attribute of each type. -/
def lastTable (order : ByteOrder) (max : Nat) (records : List (List UInt8)) (type : Nat) :
    Option (List UInt8) :=
  if type ≤ max then records.reverse.find? (rtaType order · = type) else none

theorem parse_rtattr_some (max : Nat) (inside : len ≤ mem.length)
    (parsed : Parsed (Nat → Option (List UInt8))) :
    parseRtattr order max mem len = some parsed ↔
      Legible order mem len ∧ parsed.tb = lastTable order max (rtas order mem len) ∧
        parsed.deficit =
          if (walk (rtattrLayout order) len mem).left = 0 then none
          else some ((walk (rtattrLayout order) len mem).left,
            rtaLen order (walk (rtattrLayout order) len mem).rest) := by
  rw [parseRtattr, rtattr_loop_eq _ _ inside, deficit_some]
  have table : (rtas order mem len).foldl (fun tb rta =>
      if rtaType order rta ≤ max then Function.update tb (rtaType order rta) (some rta) else tb)
        (fun _ => none) = lastTable order max (rtas order mem len) := by
    funext type
    rw [foldl_update_last (rtaType order), lastTable]
    simp
  rw [table]

theorem last_table_rtattr (listed : type ≤ max) (records : List (List UInt8)) :
    (lastTable order max records type).map (rtaPayload order) =
      rtattr (records.map (attrAt order)) type := by
  rw [lastTable, if_pos listed, rtattr, ← List.map_reverse, List.find?_map, Option.map_map]
  rfl

/-- What a table says about `len` bytes: for each type up to `max` it has the last
attribute of that type, which lies within them, and it has nothing else. -/
structure LastOfEach (order : ByteOrder) (max : Nat) (mem : List UInt8) (len : Int)
    (tb : Nat → Option (List UInt8)) : Prop where
  last : ∀ type ≤ max, (tb type).map (rtaPayload order) = rtattr (attrs order mem len) type
  within : ∀ type rta, tb type = some rta → type ≤ max ∧ rtaType order rta = type ∧
    ∃ before, mem = before ++ rta ∧ 4 ≤ rtaLen order rta ∧ (before.length + rtaLen order rta : Int) ≤ len

theorem last_of_each (inside : len ≤ mem.length) :
    LastOfEach order max mem len (lastTable order max (rtas order mem len)) where
  last _ listed := last_table_rtattr listed _
  within type rta found := by
    unfold lastTable at found
    split at found
    · rename_i listed
      have member := List.mem_reverse.mp (List.mem_of_find?_eq_some found)
      have named : rtaType order rta = type := by simpa using List.find?_some found
      exact ⟨listed, named, walk_inside inside member⟩
    · cases found

/-- Whatever the bytes are, `parse_rtattr` comes to an end with the last
attribute of each type. It reads outside memory only if something is left over,
and then only for the line it prints about that. -/
theorem parse_rtattr_any_bytes (order : ByteOrder) (max : Nat) (inside : len ≤ mem.length) :
    (Legible order mem len → ∃ parsed, parseRtattr order max mem len = some parsed ∧
      LastOfEach order max mem len parsed.tb ∧
        (parsed.deficit = none ↔ (walk (rtattrLayout order) len mem).left = 0)) ∧
      (¬ Legible order mem len → parseRtattr order max mem len = none) := by
  constructor
  · intro legible
    let line := if (walk (rtattrLayout order) len mem).left = 0 then none
      else some ((walk (rtattrLayout order) len mem).left,
        rtaLen order (walk (rtattrLayout order) len mem).rest)
    have parsed := (parse_rtattr_some max inside
      ⟨lastTable order max (rtas order mem len), line⟩).mpr ⟨legible, rfl, rfl⟩
    exact ⟨_, parsed, last_of_each inside, by simp [line]⟩
  · intro illegible
    cases found : parseRtattr order max mem len with
    | none => rfl
    | some parsed => exact absurd ((parse_rtattr_some max inside parsed).mp found).1 illegible

/-- The bytes a loop over all of memory leaves; what the last attribute is padded
with may be missing, and then they are negative. -/
def leftover (order : ByteOrder) (mem : List UInt8) : Int :=
  (walk (rtattrLayout order) mem.length mem).left

theorem legible_iff (order : ByteOrder) (mem : List UInt8) :
    Legible order mem mem.length ↔ leftover order mem = 0 ∨ 2 ≤ leftover order mem := by
  obtain ⟨-, high, rest⟩ := walk_left (rtattrLayout order) mem (Int.natCast_nonneg mem.length)
  have long := congrArg List.length rest
  rw [List.length_drop] at long
  rw [Legible, long, leftover]
  omega

/-- In a block of memory that holds the bytes and nothing else, `parse_rtattr` reads
outside exactly if one byte is left over, or the last attribute is not padded to
its end. Otherwise it finds the last attribute of each type, and it complains
exactly if something is left over. -/
theorem parse_rtattr_block (order : ByteOrder) (max : Nat) (mem : List UInt8) :
    (parseRtattr order max mem mem.length = none ↔ leftover order mem = 1 ∨ leftover order mem < 0) ∧
      ∀ parsed, parseRtattr order max mem mem.length = some parsed →
        LastOfEach order max mem mem.length parsed.tb ∧ (parsed.deficit = none ↔ leftover order mem = 0) := by
  obtain ⟨legible, illegible⟩ := parse_rtattr_any_bytes order max (le_refl (mem.length : Int))
  rw [legible_iff] at legible illegible
  by_cases reads : leftover order mem = 0 ∨ 2 ≤ leftover order mem
  · obtain ⟨parsed, found, last, line⟩ := legible reads
    constructor
    · rw [found]
      constructor
      · intro none
        cases none
      · omega
    · intro other same
      obtain rfl := Option.some.inj (found.symm.trans same)
      exact ⟨last, line⟩
  · have nothing := illegible reads
    constructor
    · refine ⟨fun _ => ?_, fun _ => nothing⟩
      omega
    · intro parsed found
      rw [nothing] at found
      cases found

/-- The attributes of `parse_rtattr_byindex`: the first `max` that have a type up
to `max`, in their order, under the same conditions. -/
theorem parse_byindex_block (order : ByteOrder) (max : Nat) (mem : List UInt8)
    (parsed : Parsed (List (List UInt8))) :
    parseRtattrByindex order max mem mem.length = some parsed ↔
      (leftover order mem = 0 ∨ 2 ≤ leftover order mem) ∧
        parsed.tb = ((rtas order mem mem.length).filter (rtaType order · ≤ max)).take max ∧
          parsed.deficit =
            if leftover order mem = 0 then none
            else some (leftover order mem, rtaLen order (walk (rtattrLayout order) mem.length mem).rest) := by
  rw [parseRtattrByindex, rtattr_loop_eq _ _ (le_refl _), deficit_some, ← legible_iff]
  have kept : ∀ (records tb : List (List UInt8)),
      records.foldl (fun tb rta =>
          if rtaType order rta ≤ max ∧ tb.length < max then tb ++ [rta] else tb) tb =
        tb ++ (records.filter (rtaType order · ≤ max)).take (max - tb.length) := by
    intro records
    induction records with
    | nil => simp
    | cons rta later ih =>
      intro tb
      rw [List.foldl_cons, ih]
      by_cases listed : rtaType order rta ≤ max
      · by_cases room : tb.length < max
        · have one : max - tb.length = max - (tb.length + 1) + 1 := by omega
          simp [listed, room, one]
        · have full : max - tb.length = 0 := by omega
          simp [listed, room, full]
      · simp [listed]
  rw [kept, List.nil_append, List.length_nil, Nat.sub_zero]
  exact Iff.rfl

/-! ## What was written as attributes -/

/-- The bytes of an attribute. -/
def bytesOf (order : ByteOrder) (attr : RtAttr) : List UInt8 :=
  order.store 2 (rtaLength attr.data.length) ++ order.store 2 attr.type ++ attr.data

/-- The type and the length have room in their fields. -/
structure Writable (attr : RtAttr) : Prop where
  type : attr.type < 65536
  length : rtaLength attr.data.length < 65536

instance (attr : RtAttr) : Decidable (Writable attr) :=
  decidable_of_iff (attr.type < 65536 ∧ rtaLength attr.data.length < 65536)
    ⟨fun ⟨type, length⟩ => ⟨type, length⟩, fun ⟨type, length⟩ => ⟨type, length⟩⟩

@[simp] theorem length_bytesOf (order : ByteOrder) (attr : RtAttr) :
    (bytesOf order attr).length = rtaLength attr.data.length := by
  simp [bytesOf, rtaLength]
  omega

theorem rta_len_bytesOf (order : ByteOrder) (writable : Writable attr) (rest : List UInt8) :
    rtaLen order (bytesOf order attr ++ rest) = rtaLength attr.data.length := by
  have read := field_store [] order 2 (rtaLength attr.data.length)
    (order.store 2 attr.type ++ attr.data ++ rest)
  rw [Nat.mod_eq_of_lt (by simpa using writable.length)] at read
  simpa [bytesOf, rtaLen] using read

theorem rta_type_bytesOf (order : ByteOrder) (writable : Writable attr) (rest : List UInt8) :
    rtaType order (bytesOf order attr ++ rest) = attr.type := by
  have read := field_store (order.store 2 (rtaLength attr.data.length)) order 2 attr.type
    (attr.data ++ rest)
  rw [Nat.mod_eq_of_lt (by simpa using writable.type), order.length_store] at read
  simpa [bytesOf, rtaType] using read

theorem rta_data_bytesOf (attr : RtAttr) (rest : List UInt8) :
    rtaData (bytesOf order attr ++ rest) = attr.data ++ rest := by
  have front : (order.store 2 (rtaLength attr.data.length) ++ order.store 2 attr.type).length = 4 := by simp
  rw [rtaData, bytesOf, List.append_assoc, List.drop_left' front]

theorem attr_at_bytesOf (writable : Writable attr) (written : bytesOf order attr <+: rta) :
    attrAt order rta = attr := by
  obtain ⟨rest, rfl⟩ := written
  rw [attrAt, rta_type_bytesOf order writable, rtaPayload, rta_data_bytesOf, rta_len_bytesOf order writable,
    rtaLength, Nat.add_sub_cancel_left, List.take_left]

theorem record_bytesOf (writable : Writable attr) : (rtattrLayout order).Record (bytesOf order attr) where
  header := by rw [length_bytesOf]; exact Nat.le_add_right 4 _
  size := by
    have read := rta_len_bytesOf order writable []
    rw [List.append_nil] at read
    exact read.trans (length_bytesOf order attr).symm

theorem attrs_of_bytes (writable : ∀ attr ∈ written, Writable attr)
    (found : List.Forall₂ (· <+: ·) (written.map (bytesOf order)) records) :
    records.map (attrAt order) = written := by
  induction written generalizing records with
  | nil =>
    cases found
    rfl
  | cons attr later ih =>
    cases found with
    | cons here behind =>
      have first := attr_at_bytesOf (writable attr List.mem_cons_self) here
      rw [List.map_cons, first, ih (fun other member => writable other (List.mem_cons_of_mem _ member)) behind]

/-- Attributes are read as they were written. -/
theorem attrs_laid (writable : ∀ attr ∈ written, Writable attr)
    (laid : Laid (rtattrLayout order) (written.map (bytesOf order)) area) (tail : List UInt8) :
    attrs order (area ++ tail) area.length = written := by
  have found := walk_laid laid (le_refl area.length) tail
  rw [whole_all laid, List.take_length] at found
  exact attrs_of_bytes writable found

/-- `parse_rtattr` finds in written attributes, whatever they are padded with, the
last of each type, and nothing is left over. -/
theorem parse_rtattr_written (order : ByteOrder) (max : Nat) (writable : ∀ attr ∈ written, Writable attr)
    (laid : Laid (rtattrLayout order) (written.map (bytesOf order)) area) (tail : List UInt8) :
    ∃ parsed, parseRtattr order max (area ++ tail) area.length = some parsed ∧ parsed.deficit = none ∧
      (∀ type ≤ max, (parsed.tb type).map (rtaPayload order) = rtattr written type) ∧
        ∀ type > max, parsed.tb type = none := by
  have inside : (area.length : Int) ≤ (area ++ tail).length := by
    rw [List.length_append]
    omega
  obtain ⟨none, -⟩ := walk_laid_left laid tail
  have read := attrs_laid writable laid tail
  obtain ⟨parsed, found, table, line⟩ := (parse_rtattr_any_bytes order max inside).1 (.inl none)
  refine ⟨parsed, found, line.mpr none, fun type listed => ?_, fun type other => ?_⟩
  · rw [table.last type listed, read]
  · cases held : parsed.tb type with
    | none => rfl
    | some rta => exact absurd (table.within type rta held).1 (Nat.not_le.mpr other)

end Portproxy.Attributes
