import Mathlib.Data.Nat.Basic
import Mathlib.Tactic.Ring

/-! Integers as the bytes a host keeps in memory, for either byte order, and
the network order between hosts. Widths are in bytes; whatever does not fit
the width is lost, as in the unsigned types of C. -/
namespace HostOrder

inductive ByteOrder where
  | little
  | big
  deriving DecidableEq, Repr

/-- The `width` low bytes of a number, the least significant one first. -/
def digits : Nat → Nat → List UInt8
  | 0, _ => []
  | width + 1, n => UInt8.ofNat n :: digits width (n / 256)

/-- The number whose bytes these are, the least significant one first. -/
def value : List UInt8 → Nat
  | [] => 0
  | byte :: rest => byte.toNat + 256 * value rest

namespace ByteOrder

/-- The memory image of a number. -/
def store : ByteOrder → Nat → Nat → List UInt8
  | little, width, n => digits width n
  | big, width, n => (digits width n).reverse

/-- The number a memory image stands for. -/
def load : ByteOrder → List UInt8 → Nat
  | little, bytes => value bytes
  | big, bytes => value bytes.reverse

/-- `htons` and `htonl`: the number whose image in this host's memory is the
big-endian image of `n`. The way back is the same function. -/
def hton (order : ByteOrder) (width n : Nat) : Nat := order.load (big.store width n)

/-- The number a peer reads, in network order, out of a variable of this host. -/
def onWire (order : ByteOrder) (width n : Nat) : Nat := big.load (order.store width n)

end ByteOrder

@[simp] theorem length_digits (width n : Nat) : (digits width n).length = width := by
  induction width generalizing n with
  | zero => rfl
  | succ width ih => simp [digits, ih]

theorem value_digits (width n : Nat) : value (digits width n) = n % 256 ^ width := by
  induction width generalizing n with
  | zero => simp [digits, value, Nat.mod_one]
  | succ width ih =>
    have low : (UInt8.ofNat n).toNat = n % 256 := by simp
    rw [digits, value, ih, low, pow_succ', Nat.mod_mul]

theorem digits_value (bytes : List UInt8) : digits bytes.length (value bytes) = bytes := by
  induction bytes with
  | nil => rfl
  | cons byte rest ih =>
    have bound : byte.toNat < 256 := byte.toNat_lt
    have low : UInt8.ofNat (byte.toNat + 256 * value rest) = byte := by
      apply UInt8.toNat_inj.mp
      simp only [UInt8.toNat_ofNat']
      omega
    have high : (byte.toNat + 256 * value rest) / 256 = value rest := by omega
    simp only [List.length_cons, value, digits, low, high, ih]

theorem take_digits (first rest n : Nat) : (digits (first + rest) n).take first = digits first n := by
  induction first generalizing n with
  | zero => rfl
  | succ first ih =>
    have shape : first + 1 + rest = first + rest + 1 := by omega
    rw [shape, digits, List.take_succ_cons, ih, digits]

namespace ByteOrder

@[simp] theorem length_store (order : ByteOrder) (width n : Nat) :
    (order.store width n).length = width := by
  cases order <;> simp [store]

theorem load_store (order : ByteOrder) (width n : Nat) :
    order.load (order.store width n) = n % 256 ^ width := by
  cases order <;> simp [load, store, value_digits]

theorem store_load (order : ByteOrder) (bytes : List UInt8) :
    order.store bytes.length (order.load bytes) = bytes := by
  cases order with
  | little => exact digits_value bytes
  | big =>
    have back := digits_value bytes.reverse
    rw [List.length_reverse] at back
    simp only [store, load, back, List.reverse_reverse]

/-- What `htons` leaves in memory is the network image, whatever the host. -/
theorem store_hton (order : ByteOrder) (width n : Nat) :
    order.store width (order.hton width n) = big.store width n := by
  have back := order.store_load (big.store width n)
  rwa [length_store] at back

/-- A converted number arrives at the peer as it was, in its low bytes. -/
@[simp] theorem onWire_hton (order : ByteOrder) (width n : Nat) :
    order.onWire width (order.hton width n) = n % 256 ^ width := by
  rw [onWire, store_hton, load_store]

end ByteOrder
end HostOrder
