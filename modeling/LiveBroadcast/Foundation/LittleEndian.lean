import Mathlib.Algebra.Group.Nat.Defs

/-!
# Numbers in little-endian memory

A number is kept in `width` bytes with its lowest byte first (`encode`) and read back from
them (`decode`). Higher bytes are dropped, so what is read back is the number modulo
`256 ^ width`.

The first bytes of a number do not depend on the rest of it: they are the same for numbers that
agree modulo a power of 256 (`encode_congr`).
-/

set_option autoImplicit false

namespace LiveBroadcast

namespace LittleEndian

/-- The lowest bytes of a number, the lowest one first. -/
def encode : Nat → Nat → List UInt8
  | 0, _ => []
  | width + 1, n => UInt8.ofNat n :: encode width (n / 256)

/-- The number that bytes stand for. -/
def decode : List UInt8 → Nat
  | [] => 0
  | byte :: rest => byte.toNat + 256 * decode rest

@[simp] theorem length_encode (width n : Nat) : (encode width n).length = width := by
  induction width generalizing n with
  | zero => rfl
  | succ width ih => rw [encode, List.length_cons, ih]

theorem decode_lt (memory : List UInt8) : decode memory < 256 ^ memory.length := by
  induction memory with
  | nil => exact Nat.zero_lt_one
  | cons byte rest ih =>
      have low := byte.toNat_lt
      rw [decode, List.length_cons, Nat.pow_succ]
      omega

/-- **Writing what was read** changes nothing. -/
theorem encode_decode (memory : List UInt8) : encode memory.length (decode memory) = memory := by
  induction memory with
  | nil => rfl
  | cons byte rest ih =>
      have low := byte.toNat_lt
      have tail : (byte.toNat + 256 * decode rest) / 256 = decode rest := by omega
      have head : UInt8.ofNat (byte.toNat + 256 * decode rest) = byte := by
        apply UInt8.toNat_inj.mp
        rw [UInt8.toNat_ofNat']
        omega
      rw [decode, List.length_cons, encode, tail, head, ih]

/-- **Reading what was written** gives the number modulo a power of 256. -/
theorem decode_encode (width n : Nat) : decode (encode width n) = n % 256 ^ width := by
  induction width generalizing n with
  | zero => exact (Nat.mod_one n).symm
  | succ width ih =>
      have power : 256 ^ (width + 1) = 256 * 256 ^ width := Nat.pow_succ'
      rw [encode, decode, ih, UInt8.toNat_ofNat', power]
      exact Nat.mod_mul.symm

/-- **The lowest bytes** are those of any number that agrees with this one modulo their power. -/
theorem encode_congr {width n k : Nat} (agree : n % 256 ^ width = k % 256 ^ width) :
    encode width n = encode width k := by
  have numbers : decode (encode width n) = decode (encode width k) := by
    rw [decode_encode, decode_encode, agree]
  have bytes := encode_decode (encode width n)
  rw [length_encode, numbers] at bytes
  have same := encode_decode (encode width k)
  rw [length_encode] at same
  exact bytes.symm.trans same

end LittleEndian

end LiveBroadcast
