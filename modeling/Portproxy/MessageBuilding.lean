import Portproxy.Attributes
import Portproxy.State

/-! Attributes that are added to a message, with the functions of `libnetlink.c`
for that, and what `parse_rtattr` finds of them. A block of memory begins with the
header of the message, or of the attribute that others are nested in. -/
namespace Portproxy.MessageBuilding
open HostOrder SizedRecords Attributes

/-- Bytes written `offset` bytes on, if they are within the block. -/
def write (offset : Nat) (bytes block : List UInt8) : Option (List UInt8) :=
  if offset + bytes.length ≤ block.length then
    some (block.take offset ++ bytes ++ block.drop (offset + bytes.length))
  else none

/-- `addattr_l` and `rta_addattr_l`, which differ in the header: its length is in the
first `width` bytes. The bytes an attribute is padded with are left as they are. -/
def addAttr (order : ByteOrder) (width : Nat) (maxlen : Int) (attr : RtAttr) (n : List UInt8) :
    Option (Int × List UInt8) :=
  let at' := rtaAlign (field order 0 width n) % 4294967296
  let len := rtaAlign (rtaLength attr.data.length)
  if ((at' + len) % 4294967296 : Nat) > uint32 maxlen then some (-1, n)
  else
    (write at' (bytesOf order attr) n).bind fun n =>
      (write 0 (order.store width (at' + len)) n).map fun n => (0, n)

/-- `addattr_l`. -/
def addattrL (order : ByteOrder) (maxlen : Int) (type : Nat) (data n : List UInt8) : Option (Int × List UInt8) :=
  addAttr order 4 maxlen ⟨type, data⟩ n

/-- `rta_addattr_l`. -/
def rtaAddattrL (order : ByteOrder) (maxlen : Int) (type : Nat) (data rta : List UInt8) :
    Option (Int × List UInt8) :=
  addAttr order 2 maxlen ⟨type, data⟩ rta

/-- `addattr32`, whose `RTA_LENGTH(4)` needs no padding. -/
def addattr32 (order : ByteOrder) (maxlen : Int) (type data : Nat) (n : List UInt8) : Option (Int × List UInt8) :=
  addAttr order 4 maxlen ⟨type, order.store 4 data⟩ n

/-- `rta_addattr32`. -/
def rtaAddattr32 (order : ByteOrder) (maxlen : Int) (type data : Nat) (rta : List UInt8) :
    Option (Int × List UInt8) :=
  addAttr order 2 maxlen ⟨type, order.store 4 data⟩ rta

/-- What begins the block. -/
inductive Header where
  | nlmsghdr
  | rtattr

/-- How many bytes hold its length. -/
def Header.width : Header → Nat
  | nlmsghdr => 4
  | rtattr => 2

/-- A call of one of the functions. -/
inductive Addition where
  | bytes (type : Nat) (data : List UInt8)
  | word (type data : Nat)

def Addition.attr (order : ByteOrder) : Addition → RtAttr
  | bytes type data => ⟨type, data⟩
  | word type data => ⟨type, order.store 4 data⟩

def add (order : ByteOrder) (maxlen : Int) (n : List UInt8) : Header → Addition → Option (Int × List UInt8)
  | .nlmsghdr, .bytes type data => addattrL order maxlen type data n
  | .nlmsghdr, .word type data => addattr32 order maxlen type data n
  | .rtattr, .bytes type data => rtaAddattrL order maxlen type data n
  | .rtattr, .word type data => rtaAddattr32 order maxlen type data n

/-- Attributes added one after the other: those for which the function returned 0, and
the block afterwards. -/
def addAll (order : ByteOrder) (header : Header) (maxlen : Int) :
    List Addition → List UInt8 → Option (List RtAttr × List UInt8)
  | [], n => some ([], n)
  | addition :: later, n =>
    (add order maxlen n header addition).bind fun added =>
      (addAll order header maxlen later added.2).map fun rest =>
        (if added.1 = 0 then addition.attr order :: rest.1 else rest.1, rest.2)

/-- The attributes there is room for, in the order in which they come. -/
def fitting : Nat → List RtAttr → List RtAttr
  | _, [] => []
  | room, attr :: later =>
    if rtaAlign (rtaLength attr.data.length) ≤ room then
      attr :: fitting (room - rtaAlign (rtaLength attr.data.length)) later
    else fitting room later

theorem fitting_sublist (room : Nat) (adds : List RtAttr) : (fitting room adds).Sublist adds := by
  induction adds generalizing room with
  | nil => exact .slnil
  | cons attr later ih =>
    rw [fitting]
    split
    · exact (ih _).cons_cons attr
    · exact (ih _).cons attr

variable {order : ByteOrder} {width base : Nat} {maxlen : Int} {front n : List UInt8} {attr : RtAttr}
  {written : List RtAttr} {header : Header}

theorem add_eq (order : ByteOrder) (maxlen : Int) (n : List UInt8) (header : Header) (addition : Addition) :
    add order maxlen n header addition = addAttr order header.width maxlen (addition.attr order) n := by
  cases header <;> cases addition <;> rfl

/-! ## Memory -/

/-- What is written over a part of the block replaces that part. -/
theorem write_part (before part after bytes : List UInt8) (long : bytes.length = part.length) :
    write before.length bytes (before ++ part ++ after) = some (before ++ bytes ++ after) := by
  have room : before.length + bytes.length ≤ (before ++ part ++ after).length := by
    simp only [List.length_append]
    omega
  have behind : (before ++ part ++ after).drop (before.length + bytes.length) = after := by
    rw [long, ← List.length_append, List.drop_left]
  rw [write, if_pos room, behind, List.append_assoc before part, List.take_left]

/-- Laid records end at an aligned place. -/
theorem laid_aligned (laid : Laid L records mem) : L.align ∣ mem.length := by
  induction laid with
  | nil => exact Nat.dvd_zero _
  | cons record padded _ ih =>
    rw [List.length_append, padded]
    exact (Nat.dvd_add_right (Nat.dvd_mul_left _ _)).mpr ih

/-- A part, what it is padded with, and what is behind it. -/
theorem split_room {rest : List UInt8} (enough : long + more ≤ rest.length) :
    ∃ part padding after, rest = part ++ (padding ++ after) ∧ part.length = long ∧ padding.length = more := by
  refine ⟨rest.take long, (rest.drop long).take more, rest.drop (long + more), ?_, ?_, ?_⟩
  · rw [← List.drop_drop, List.take_append_drop, List.take_append_drop]
  · rw [List.length_take]
    omega
  · rw [List.length_take, List.length_drop]
    omega

/-- Far enough behind, only what is there matters. -/
theorem drop_behind {before before' after : List UInt8} (same : before'.length = before.length)
    (far : before.length ≤ long) : (before' ++ after).drop long = (before ++ after).drop long := by
  rw [List.drop_append, List.drop_append, List.drop_of_length_le far, List.drop_of_length_le (same ▸ far), same]

/-! ## Adding -/

/-- What a caller passes: a length for a header of its own width, and a block that is
as long. -/
structure Room (width : Nat) (maxlen : Int) (n : List UInt8) : Prop where
  positive : 0 ≤ maxlen
  int : maxlen < 2147483648
  counted : maxlen < 256 ^ width
  inside : maxlen ≤ n.length

/-- A block whose header and what follows it have `base` bytes, with these attributes
behind them. -/
structure Built (order : ByteOrder) (width base : Nat) (maxlen : Int) (front : List UInt8) (written : List RtAttr)
    (n : List UInt8) : Prop where
  header : width + front.length = base
  aligned : 4 ∣ base
  laid : ∃ area rest, n = order.store width (base + area.length) ++ front ++ area ++ rest ∧
    Laid (rtattrLayout order) (written.map (bytesOf order)) area ∧ (base + area.length : Nat) ≤ maxlen

theorem read_length (order : ByteOrder) (n : Nat) (small : n < 256 ^ width) (rest : List UInt8) :
    field order 0 width (order.store width n ++ rest) = n := by
  have read := field_store [] order width n rest
  rwa [Nat.mod_eq_of_lt small] at read

/-- An attribute comes behind the others if there is room, and otherwise nothing
changes. -/
theorem add_attr_built (built : Built order width base maxlen front written n) (room : Room width maxlen n)
    (writable : Writable attr) :
    ∃ code n', addAttr order width maxlen attr n = some (code, n') ∧ n'.length = n.length ∧
      n'.drop maxlen.toNat = n.drop maxlen.toNat ∧
        (code = 0 ∧ field order 0 width n' = field order 0 width n + rtaAlign (rtaLength attr.data.length) ∧
            field order 0 width n' ≤ maxlen ∧ Built order width base maxlen front (written ++ [attr]) n' ∨
          code = -1 ∧ maxlen < (field order 0 width n + rtaAlign (rtaLength attr.data.length) : Nat) ∧ n' = n) := by
  obtain ⟨area, rest, rfl, laid, within⟩ := built.laid
  obtain ⟨positive, int, counted, inside⟩ := room
  have divides : 4 ∣ base + area.length := (Nat.dvd_add_right built.aligned).mpr (laid_aligned laid)
  have header := built.header
  have size := writable.length
  have further := (rtattrLayout order).le_padded (rtaLength attr.data.length)
  have near := (rtattrLayout order).padded_lt (rtaLength attr.data.length)
  have read : field order 0 width (order.store width (base + area.length) ++ front ++ area ++ rest) =
      base + area.length := by
    rw [List.append_assoc, List.append_assoc]
    exact read_length order _ (by exact_mod_cast lt_of_le_of_lt within counted) _
  have start : rtaAlign (base + area.length) % 4294967296 = base + area.length := by
    unfold rtaAlign
    omega
  have length := length_bytesOf order attr
  have whole : (order.store width (base + area.length) ++ front ++ area ++ rest).length =
      base + area.length + rest.length := by
    simp only [List.length_append, order.length_store]
    omega
  unfold addAttr
  simp only [read, start]
  change rtaLength attr.data.length ≤ rtaAlign (rtaLength attr.data.length) at further
  change rtaAlign (rtaLength attr.data.length) < _ + 4 at near
  have sum : (base + area.length + rtaAlign (rtaLength attr.data.length)) % 4294967296 =
      base + area.length + rtaAlign (rtaLength attr.data.length) := Nat.mod_eq_of_lt (by omega)
  rw [sum, uint32_of_range positive (by omega)]
  by_cases full : ((base + area.length + rtaAlign (rtaLength attr.data.length) : Nat) : Int) > maxlen
  · rw [if_pos full]
    exact ⟨-1, _, rfl, rfl, rfl, .inr ⟨rfl, by omega, rfl⟩⟩
  · rw [if_neg full]
    -- what the attribute is written over, what it is padded with, and what is behind it
    have enough : rtaLength attr.data.length +
        (rtaAlign (rtaLength attr.data.length) - rtaLength attr.data.length) ≤ rest.length := by omega
    obtain ⟨part, padding, after, rfl, same, padded⟩ := split_room enough
    have first := write_part (order.store width (base + area.length) ++ front ++ area) part (padding ++ after)
      (bytesOf order attr) (length.trans same.symm)
    have second := write_part [] (order.store width (base + area.length))
      (front ++ area ++ (bytesOf order attr ++ (padding ++ after)))
      (order.store width (base + area.length + rtaAlign (rtaLength attr.data.length))) (by simp)
    have place : (order.store width (base + area.length) ++ front ++ area).length = base + area.length := by
      simp only [List.length_append, order.length_store]
      omega
    rw [place] at first
    simp only [List.append_assoc, List.nil_append, List.length_nil] at first second ⊢
    rw [first, Option.bind_some, second]
    have record : (rtattrLayout order).Record (bytesOf order attr) := record_bytesOf writable
    have behind : (order.store width (base + area.length + rtaAlign (rtaLength attr.data.length)) ++ front ++
        area ++ bytesOf order attr ++ padding ++ after).drop maxlen.toNat =
          (order.store width (base + area.length) ++ front ++ area ++ part ++ padding ++ after).drop maxlen.toNat := by
      refine drop_behind (by simp [length, same]) ?_
      simp only [List.length_append] at place ⊢
      omega
    simp only [List.append_assoc] at behind
    have small : base + area.length + rtaAlign (rtaLength attr.data.length) < 256 ^ width := by
      exact_mod_cast lt_of_le_of_lt (Int.not_lt.mp full) counted
    have said := read_length order _ small
      (front ++ (area ++ (bytesOf order attr ++ (padding ++ after))))
    refine ⟨0, _, rfl, by simp [length, same], behind, .inl ⟨rfl, said, by rw [said]; exact Int.not_lt.mp full,
      built.header, built.aligned, area ++ (bytesOf order attr ++ padding), after, ?_, ?_, ?_⟩⟩
    · have long : base + area.length + rtaAlign (rtaLength attr.data.length) =
          base + (area ++ (bytesOf order attr ++ padding)).length := by
        simp only [List.length_append, length, padded]
        omega
      simp [long]
    · have filled : (bytesOf order attr ++ padding).length =
          (rtattrLayout order).padded (bytesOf order attr).length := by
        rw [List.length_append, length, padded]
        change _ = rtaAlign (rtaLength attr.data.length)
        omega
      have last : Laid (rtattrLayout order) [bytesOf order attr] (bytesOf order attr ++ padding ++ []) :=
        .cons record filled .nil
      rw [List.append_nil] at last
      rw [List.map_append]
      exact laid.append last
    · simp only [List.length_append, length, padded]
      omega

theorem add_all_built {adds : List Addition} (built : Built order header.width base maxlen front written n)
    (room : Room header.width maxlen n) (writable : ∀ addition ∈ adds, Writable (addition.attr order)) :
    ∃ added n', addAll order header maxlen adds n = some (added, n') ∧ n'.length = n.length ∧
      n'.drop maxlen.toNat = n.drop maxlen.toNat ∧
        added = fitting (maxlen.toNat - field order 0 header.width n) (adds.map (·.attr order)) ∧
          Built order header.width base maxlen front (written ++ added) n' := by
  induction adds generalizing n written with
  | nil => exact ⟨[], n, rfl, rfl, rfl, rfl, by rwa [List.append_nil]⟩
  | cons addition later ih =>
    obtain ⟨here, behind⟩ := List.forall_mem_cons.mp writable
    obtain ⟨code, n', ran, long, beyond, next⟩ := add_attr_built built room here
    have room' : Room header.width maxlen n' := { room with inside := by rw [long]; exact room.inside }
    rw [addAll, add_eq, ran, Option.bind_some, List.map_cons, fitting]
    rcases next with ⟨rfl, grown, within, built'⟩ | ⟨rfl, full, rfl⟩
    · obtain ⟨more, last, went, kept, beyond', fits, ended⟩ := ih built' room' behind
      have left : maxlen.toNat - field order 0 header.width n' = maxlen.toNat - field order 0 header.width n -
          rtaAlign (rtaLength (addition.attr order).data.length) := by omega
      refine ⟨addition.attr order :: more, last, by simp [went], kept.trans long, beyond'.trans beyond, ?_, ?_⟩
      · rw [if_pos (by omega), fits, left]
      · rwa [List.append_assoc] at ended
    · obtain ⟨more, last, went, kept, beyond', fits, ended⟩ := ih built room behind
      have some : 0 < rtaAlign (rtaLength (addition.attr order).data.length) := by
        unfold rtaAlign rtaLength
        omega
      exact ⟨more, last, by simp [went], kept, beyond', by rw [if_neg (by omega), fits], ended⟩

/-- A block without attributes yet. -/
theorem fresh_built (room : Room width maxlen n) (aligned : 4 ∣ field order 0 width n)
    (header : width ≤ field order 0 width n) (fits : field order 0 width n ≤ maxlen) :
    Built order width (field order 0 width n) maxlen ((n.take (field order 0 width n)).drop width) [] n where
  header := by
    have inside := room.inside
    rw [List.length_drop, List.length_take]
    omega
  aligned := aligned
  laid := by
    have inside := room.inside
    have first : order.store width (field order 0 width n) = n.take width := by
      have image := order.store_load (n.take width)
      rwa [List.length_take, Nat.min_eq_left (by omega)] at image
    refine ⟨[], n.drop (field order 0 width n), ?_, .nil, by simpa using fits⟩
    rw [List.length_nil, Nat.add_zero, first, List.append_nil, List.drop_take, ← List.take_add,
      Nat.add_sub_cancel' header, List.take_append_drop]

/-- What the header and what follows it hold, and how long the block says it is. -/
theorem Built.parts (built : Built order width base maxlen front written n) (room : Room width maxlen n) :
    ∃ area rest, field order 0 width n = base + area.length ∧ (n.take base).drop width = front ∧
      n.drop base = area ++ rest ∧ Laid (rtattrLayout order) (written.map (bytesOf order)) area ∧
        (base + area.length : Nat) ≤ maxlen := by
  obtain ⟨area, rest, whole, laid, within⟩ := built.laid
  have header := built.header
  have place : (order.store width (base + area.length) ++ front).length = base := by
    rw [List.length_append, order.length_store, header]
  refine ⟨area, rest, ?_, ?_, ?_, laid, within⟩
  · rw [whole, List.append_assoc, List.append_assoc]
    exact read_length order _ (by exact_mod_cast lt_of_le_of_lt within room.counted) _
  · rw [whole, List.append_assoc (_ ++ _), List.take_left' place, List.drop_left' (order.length_store _ _)]
  · rw [whole, List.append_assoc (_ ++ _), List.drop_left' place]

/-- Whatever attributes are added to a message, or nested in an attribute, by whichever of
the functions, those for which there is room are there and the others are refused,
nothing is written beyond `maxlen`, what was in front of them stays, and `parse_rtattr`
finds the last of each type among those that are there. -/
theorem attributes_added_parse_back (order : ByteOrder) (header : Header) (maxlen : Int) (n : List UInt8) (max : Nat)
    (adds : List Addition) (room : Room header.width maxlen n) (aligned : 4 ∣ field order 0 header.width n)
    (headed : header.width ≤ field order 0 header.width n) (fits : field order 0 header.width n ≤ maxlen)
    (writable : ∀ addition ∈ adds, Writable (addition.attr order)) :
    ∃ added n', addAll order header maxlen adds n = some (added, n') ∧ n'.length = n.length ∧
      added = fitting (maxlen.toNat - field order 0 header.width n) (adds.map (·.attr order)) ∧
        field order 0 header.width n' ≤ maxlen ∧ n'.drop maxlen.toNat = n.drop maxlen.toNat ∧
          (n'.take (field order 0 header.width n)).drop header.width =
              (n.take (field order 0 header.width n)).drop header.width ∧
            ∃ parsed, parseRtattr order max (n'.drop (field order 0 header.width n))
                (field order 0 header.width n' - field order 0 header.width n) = some parsed ∧
              parsed.deficit = none ∧
              (∀ type ≤ max, (parsed.tb type).map (rtaPayload order) = rtattr added type) ∧
                ∀ type > max, parsed.tb type = none := by
  have fresh := fresh_built room aligned headed fits
  obtain ⟨added, n', ran, long, beyond, fits', built⟩ := add_all_built fresh room writable
  have room' : Room header.width maxlen n' := { room with inside := by rw [long]; exact room.inside }
  obtain ⟨area, rest, counted, kept, behind, laid, within⟩ := built.parts room'
  refine ⟨added, n', ran, long, fits', by rw [counted]; exact within, beyond, kept, ?_⟩
  have length : ((field order 0 header.width n' : Nat) : Int) - (field order 0 header.width n : Nat) =
      area.length := by omega
  have members : ∀ attr ∈ added, Writable attr := by
    intro attr member
    rw [fits'] at member
    obtain ⟨addition, among, rfl⟩ := List.mem_map.mp ((fitting_sublist _ _).subset member)
    exact writable addition among
  rw [behind, length]
  exact parse_rtattr_written order max members laid rest

/-- An empty route message of 28 bytes in a block of 64. -/
def routeMessage : List UInt8 := [28] ++ List.replicate 63 0

/-- An output interface, a gateway that no longer fits in 40 bytes, and an attribute
without data, which does. -/
def routeAttributes : List Addition := [.word 4 3, .bytes 5 [192, 168, 1, 1], .bytes 6 []]

theorem route_attributes_parse_back :
    ∃ added n', addAll .little .nlmsghdr 40 routeAttributes routeMessage = some (added, n') ∧
      n'.length = routeMessage.length ∧ added = fitting 12 (routeAttributes.map (·.attr .little)) ∧
        field .little 0 4 n' ≤ (40 : Int) ∧ n'.drop 40 = routeMessage.drop 40 ∧
          (n'.take 28).drop 4 = (routeMessage.take 28).drop 4 ∧
            ∃ parsed, parseRtattr .little 20 (n'.drop 28) (field .little 0 4 n' - 28) = some parsed ∧
              parsed.deficit = none ∧
              (∀ type ≤ 20, (parsed.tb type).map (rtaPayload .little) = rtattr added type) ∧
                ∀ type > 20, parsed.tb type = none := by
  have room : Room 4 40 routeMessage := ⟨by decide, by decide, by decide, by decide⟩
  have writable : ∀ addition ∈ routeAttributes, Writable (addition.attr .little) := by decide
  exact attributes_added_parse_back .little .nlmsghdr 40 routeMessage 20 routeAttributes room (by decide) (by decide)
    (by decide) writable

end Portproxy.MessageBuilding
