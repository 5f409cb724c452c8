import Mathlib.Algebra.Group.Nat.Defs
import Mathlib.Data.List.Basic

/-!
# The AMF0 encoding

Commands are sequences of AMF0 values: a marker byte and what belongs to it. Numbers are eight
bytes in network order, strings stand behind two bytes with their length, and an object is its
properties, a name and a value each, behind which an empty name and an end marker stand.
-/

set_option autoImplicit false

namespace LiveBroadcast

namespace Amf0

/-- A string that two bytes can give the length of. -/
structure Text where
  bytes : List UInt8
  short : bytes.length < 2 ^ 16
  deriving DecidableEq, Repr

/-- Values without properties of their own. -/
inductive Value where
  /-- The bits of a double. -/
  | number (bits : BitVec 64)
  | boolean (value : Bool)
  | string (text : Text)
  | null
  deriving DecidableEq, Repr

/-- The properties of an object, in their order. -/
abbrev Properties := List (Text × Value)

/-- The high byte of the length of a text. -/
def Text.high (text : Text) : UInt8 := UInt8.ofNat (text.bytes.length / 256)

/-- The low byte of the length of a text. -/
def Text.low (text : Text) : UInt8 := UInt8.ofNat text.bytes.length

/-- A length and a text, without a marker. -/
def Text.encode (text : Text) : List UInt8 := text.high :: text.low :: text.bytes

def encodeNumber (bits : BitVec 64) : List UInt8 :=
  0 :: (List.range 8).map fun i => UInt8.ofNat (bits.toNat / 256 ^ (7 - i))

def encodeString (text : Text) : List UInt8 := 2 :: text.encode

def Value.encode : Value → List UInt8
  | .number bits => encodeNumber bits
  | .boolean value => [1, if value then 1 else 0]
  | .string text => encodeString text
  | .null => [5]

def Properties.encode (properties : Properties) : List UInt8 :=
  properties.flatMap fun property => property.1.encode ++ property.2.encode

/-- The empty name and the marker behind the properties of an object. -/
def objectEnd : List UInt8 := [0, 0, 9]

@[simp] theorem length_encodeNumber (bits : BitVec 64) : (encodeNumber bits).length = 9 := rfl

theorem Properties.encode_append (properties others : Properties) :
    Properties.encode (properties ++ others) = properties.encode ++ others.encode :=
  List.flatMap_append

theorem Text.high_eq_zero_iff (text : Text) : text.high = 0 ↔ text.bytes.length < 256 := by
  have short := text.short
  rw [high, ← UInt8.toNat_inj, UInt8.toNat_ofNat', UInt8.toNat_zero]
  omega

theorem Text.low_toNat (text : Text) : text.low.toNat = text.bytes.length % 256 := by
  rw [low, UInt8.toNat_ofNat']

/-- The two bytes tell the length. -/
theorem Text.length_eq_iff (text : Text) (high low : UInt8) :
    text.high = high ∧ text.low = low ↔
      text.bytes.length = 256 * high.toNat + low.toNat := by
  have short := text.short
  have high_lt := high.toNat_lt
  have low_lt := low.toNat_lt
  rw [Text.high, Text.low, ← UInt8.toNat_inj, ← UInt8.toNat_inj, UInt8.toNat_ofNat',
    UInt8.toNat_ofNat']
  omega

end Amf0

end LiveBroadcast
