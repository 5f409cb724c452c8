import Mathlib.Algebra.Group.Nat.Defs
import Mathlib.Logic.Function.Basic

/-!
# Bytes and fixed-width fields

The codecs see a `Buffer` through its unread bytes only: `ReadableLength`, `ReadBegin`,
`AddReadIndex`, `AppendData` and `DropAllData` are, on the unread bytes, the length, the
list itself, `drop` (which clamps, as `AddReadIndex` does), `++` and `[]`. A buffer is
therefore the list of its unread bytes here.

A field that the source keeps as three raw bytes in network order is a `ByteTriple`, and
the four raw bytes that `memcpy` puts into `stream_id_` are a `ByteQuad`. Unsigned 32-bit
arithmetic is done on natural numbers; subtraction wraps explicitly (`sub32`).
-/

set_option autoImplicit false

namespace LiveBroadcast

/-- A run of bytes: the unread part of a `Buffer`, or what is appended to one. -/
abbrev Bytes := List UInt8

/-- How the program is compiled. `MONITOR_MODE` is the one switch the modelled code tests. -/
structure Build where
  monitorMode : Bool
  deriving DecidableEq, Repr

/-- The build of `CMakeLists.txt`, where the definition of `MONITOR_MODE` is commented out. -/
def Build.standard : Build := ⟨false⟩

/-- Why a handler does not come back: an exception that nothing catches, or a step whose
behaviour the language leaves undefined. -/
inductive Fault where
  /-- `std::out_of_range` from `substr`. -/
  | outOfRange
  /-- `std::length_error` from a string constructor or a vector. -/
  | lengthError
  /-- An access outside a string or a vector. -/
  | outOfBounds
  /-- A null pointer is dereferenced. -/
  | nullPointer
  deriving DecidableEq, Repr

/-! ## Three and four byte fields -/

/-- Three raw bytes in network order, as in `timestamp_[3]` and `data_size_[3]`. -/
structure ByteTriple where
  b0 : UInt8
  b1 : UInt8
  b2 : UInt8
  deriving DecidableEq, Repr

namespace ByteTriple

/-- The number three bytes in network order stand for. -/
def toNat (field : ByteTriple) : Nat :=
  field.b0.toNat * 65536 + field.b1.toNat * 256 + field.b2.toNat

/-- The low 24 bits of a number, in network order. -/
def ofNat (n : Nat) : ByteTriple :=
  ⟨UInt8.ofNat (n / 65536), UInt8.ofNat (n / 256), UInt8.ofNat n⟩

def bytes (field : ByteTriple) : Bytes := [field.b0, field.b1, field.b2]

theorem toNat_lt (field : ByteTriple) : field.toNat < 2 ^ 24 := by
  have h0 := field.b0.toNat_lt
  have h1 := field.b1.toNat_lt
  have h2 := field.b2.toNat_lt
  unfold toNat
  omega

@[simp] theorem toNat_ofNat (n : Nat) : (ofNat n).toNat = n % 2 ^ 24 := by
  simp only [toNat, ofNat, UInt8.toNat_ofNat']
  omega

@[simp] theorem length_bytes (field : ByteTriple) : field.bytes.length = 3 := rfl

end ByteTriple

/-- Four raw bytes in memory order, as `memcpy` leaves them in `stream_id_`. -/
structure ByteQuad where
  b0 : UInt8
  b1 : UInt8
  b2 : UInt8
  b3 : UInt8
  deriving DecidableEq, Repr

namespace ByteQuad

def bytes (field : ByteQuad) : Bytes := [field.b0, field.b1, field.b2, field.b3]

@[simp] theorem length_bytes (field : ByteQuad) : field.bytes.length = 4 := rfl

/-- The number four bytes in network order stand for. -/
def toNat (field : ByteQuad) : Nat :=
  field.b0.toNat * 16777216 + field.b1.toNat * 65536 + field.b2.toNat * 256 + field.b3.toNat

/-- The memory of `htonl(n)`: the low 32 bits of a number, in network order. -/
def htonl (n : Nat) : ByteQuad :=
  ⟨UInt8.ofNat (n / 16777216), UInt8.ofNat (n / 65536), UInt8.ofNat (n / 256), UInt8.ofNat n⟩

@[simp] theorem toNat_htonl (n : Nat) : (htonl n).toNat = n % 2 ^ 32 := by
  simp only [toNat, htonl, UInt8.toNat_ofNat']
  omega

theorem bytes_injective {field other : ByteQuad} (same : field.bytes = other.bytes) :
    field = other := by
  obtain ⟨b0, b1, b2, b3⟩ := field
  obtain ⟨c0, c1, c2, c3⟩ := other
  simp only [bytes, List.cons.injEq, and_true] at same
  obtain ⟨rfl, rfl, rfl, rfl⟩ := same
  rfl

/-- The bytes in memory tell 32-bit numbers apart. -/
theorem htonl_bytes_injective {n k : Nat} (small : n < 2 ^ 32) (low : k < 2 ^ 32)
    (same : (htonl n).bytes = (htonl k).bytes) : n = k := by
  have numbers := congrArg toNat (bytes_injective same)
  rwa [toNat_htonl, toNat_htonl, Nat.mod_eq_of_lt small, Nat.mod_eq_of_lt low] at numbers

end ByteQuad

/-! ## Unsigned 32-bit subtraction -/

/-- `a - b` on `uint32_t`. -/
def sub32 (a b : Nat) : Nat := (a + (2 ^ 32 - b % 2 ^ 32)) % 2 ^ 32

theorem sub32_of_le {a b : Nat} (le : b ≤ a) (lt : a < 2 ^ 32) : sub32 a b = a - b := by
  unfold sub32
  omega

/-- Subtraction below zero wraps to the distance from `2 ^ 32`. -/
theorem sub32_of_lt {a b : Nat} (below : a < b) (lt : b < 2 ^ 32) :
    sub32 a b = 2 ^ 32 - (b - a) := by
  unfold sub32
  omega

/-- Taking more away from `a` takes as much from the difference, while it lasts. -/
theorem sub32_add {a b n : Nat} (le : n ≤ sub32 a b) : sub32 a (b + n) = sub32 a b - n := by
  unfold sub32 at *
  omega

end LiveBroadcast
