import LiveBroadcast.Utils.Bytes

/-!
# RTMP packs and chunk headers

`RtmpPack` holds the header fields of the message being received and the part of its body
received so far. `decodeHeader` reads one chunk header into it. The format in the two high
bits of the first byte says which fields the header carries: the others keep the value the
pack had before, so a pack is decoded in place.

`decodeHeader` writes the format and the chunk stream id before it knows whether the rest
of the header has arrived. `decodeHeader_short` and `decodeHeader_complete` say what it
does on a header that is cut and on one that is whole.
-/

set_option autoImplicit false

namespace LiveBroadcast

inductive RtmpPackFmt where
  | fmt0
  | fmt1
  | fmt2
  | fmt3
  deriving DecidableEq, Repr

inductive RtmpPackType where
  | rtmpOther
  | rtmpAbort
  | rtmpAcknowledge
  | rtmpControl
  | rtmpAudio
  | rtmpVideo
  | rtmpScript
  deriving DecidableEq, Repr

/-- The value of the enumerator in `enum RtmpPackType : uint8_t`. -/
def RtmpPackType.toByte : RtmpPackType → UInt8
  | .rtmpOther => 0
  | .rtmpAbort => 2
  | .rtmpAcknowledge => 3
  | .rtmpControl => 4
  | .rtmpAudio => 8
  | .rtmpVideo => 9
  | .rtmpScript => 18

namespace RtmpPackFmt

/-- `static_cast<RtmpPackFmt>` after the comparison with `RTMPPACK_FMT_MAX`. -/
def ofByte (fmt : UInt8) : Option RtmpPackFmt :=
  if fmt = 0 then some .fmt0
  else if fmt = 1 then some .fmt1
  else if fmt = 2 then some .fmt2
  else if fmt = 3 then some .fmt3
  else none

def toByte : RtmpPackFmt → UInt8
  | .fmt0 => 0
  | .fmt1 => 1
  | .fmt2 => 2
  | .fmt3 => 3

/-- `FMT0_HEADER_LENGTH` and its siblings: the message header without the basic header. -/
def headerLength : RtmpPackFmt → Nat
  | .fmt0 => 11
  | .fmt1 => 7
  | .fmt2 => 3
  | .fmt3 => 0

/-- The two high bits of a byte are always one of the four formats. -/
theorem ofByte_high_bits (first : UInt8) : ∃ fmt, ofByte (first >>> 6) = some fmt := by
  have small : (first >>> 6).toNat < 4 := by
    have bound := first.toNat_lt
    rw [UInt8.toNat_shiftRight, Nat.shiftRight_eq_div_pow]
    exact Nat.div_lt_of_lt_mul bound
  have values : first >>> 6 = 0 ∨ first >>> 6 = 1 ∨ first >>> 6 = 2 ∨ first >>> 6 = 3 := by
    simp only [← UInt8.toNat_inj]
    simp only [UInt8.reduceToNat]
    omega
  rcases values with value | value | value | value <;> rw [value] <;> exact ⟨_, rfl⟩

end RtmpPackFmt

/-- `class RtmpPack`: `buffer` is the unread part of `buffer_`. -/
structure RtmpPack where
  fmt : RtmpPackFmt
  csid : UInt8
  timestamp : ByteTriple
  dataSize : ByteTriple
  packType : RtmpPackType
  streamId : ByteQuad
  buffer : Bytes
  deriving DecidableEq, Repr

namespace RtmpPack

/-- A pack whose members happen to be zero: the constructor does not set them. -/
def zero : RtmpPack := ⟨.fmt0, 0, ⟨0, 0, 0⟩, ⟨0, 0, 0⟩, .rtmpOther, ⟨0, 0, 0, 0⟩, []⟩

/-- `SetPackType`: a type the server does not know becomes `RTMP_OTHER`. -/
def typeOfByte (type : UInt8) : RtmpPackType :=
  if type = 8 then .rtmpAudio
  else if type = 9 then .rtmpVideo
  else if type = 18 then .rtmpScript
  else if type = 2 then .rtmpAbort
  else if type = 3 then .rtmpAcknowledge
  else if type = 4 then .rtmpControl
  else .rtmpOther

def setPackType (pack : RtmpPack) (type : UInt8) : RtmpPack :=
  { pack with packType := typeOfByte type }

/-- `DecodeFmt1`: timestamp, size and type. Too few bytes give 0 and change nothing. -/
def decodeFmt1 (pack : RtmpPack) : Bytes → RtmpPack × Int
  | t0 :: t1 :: t2 :: s0 :: s1 :: s2 :: type :: _ =>
      ({ pack with timestamp := ⟨t0, t1, t2⟩, dataSize := ⟨s0, s1, s2⟩ }.setPackType type, 7)
  | _ => (pack, 0)

/-- `DecodeFmt0`: the fields of `DecodeFmt1`, then the message stream id. -/
def decodeFmt0 (pack : RtmpPack) : Bytes → RtmpPack × Int
  | t0 :: t1 :: t2 :: s0 :: s1 :: s2 :: type :: i0 :: i1 :: i2 :: i3 :: rest =>
      ({ (pack.decodeFmt1
            (t0 :: t1 :: t2 :: s0 :: s1 :: s2 :: type :: i0 :: i1 :: i2 :: i3 :: rest)).1 with
          streamId := ⟨i0, i1, i2, i3⟩ }, 11)
  | _ => (pack, 0)

/-- `DecodeFmt2`: the timestamp alone. -/
def decodeFmt2 (pack : RtmpPack) : Bytes → RtmpPack × Int
  | t0 :: t1 :: t2 :: _ => ({ pack with timestamp := ⟨t0, t1, t2⟩ }, 3)
  | _ => (pack, 0)

/-- The dispatch on `fmt_` at the end of `DecodeHeader`. The FMT3 case returns at once:
its header length 0 would otherwise read as "not enough bytes". -/
def decodeFields (pack : RtmpPack) (rest : Bytes) : RtmpPack × Int :=
  let counted : RtmpPack × Int → RtmpPack × Int := fun decoded =>
    if decoded.2 ≤ 0 then decoded else (decoded.1, decoded.2 + 1)
  match pack.fmt with
  | .fmt0 => counted (pack.decodeFmt0 rest)
  | .fmt1 => counted (pack.decodeFmt1 rest)
  | .fmt2 => counted (pack.decodeFmt2 rest)
  | .fmt3 => (pack, 0 + 1)

/-- `RtmpPack::DecodeHeader`: the number of bytes read, 0 when more are needed and -1 on
an impossible format. -/
def decodeHeader (pack : RtmpPack) : Bytes → RtmpPack × Int
  | [] => (pack, 0)
  | first :: rest =>
      let pack := { pack with csid := first &&& 0b00111111 }
      match RtmpPackFmt.ofByte (first >>> 6) with
      | none => (pack, -1)
      | some fmt => { pack with fmt := fmt }.decodeFields rest

def getBodyDataSize (pack : RtmpPack) : Nat := pack.dataSize.toNat

/-- `GetBodyCurrentSize`: the readable length, returned as `uint32_t`. -/
def getBodyCurrentSize (pack : RtmpPack) : Nat := pack.buffer.length % 2 ^ 32

/-- `GetBodyRemainSize`: a `uint32_t` subtraction, which wraps when the stored body is
longer than the declared size. -/
def getBodyRemainSize (pack : RtmpPack) : Nat := sub32 pack.getBodyDataSize pack.getBodyCurrentSize

def appendData (pack : RtmpPack) (data : Bytes) : RtmpPack :=
  { pack with buffer := pack.buffer ++ data }

/-- `GetBuffer()->DropAllData()`. -/
def dropAllData (pack : RtmpPack) : RtmpPack := { pack with buffer := [] }

/-! ## What appending does to the sizes -/

@[simp] theorem appendData_getBodyDataSize (pack : RtmpPack) (data : Bytes) :
    (pack.appendData data).getBodyDataSize = pack.getBodyDataSize := rfl

@[simp] theorem appendData_buffer (pack : RtmpPack) (data : Bytes) :
    (pack.appendData data).buffer = pack.buffer ++ data := rfl

@[simp] theorem appendData_append (pack : RtmpPack) (a b : Bytes) :
    (pack.appendData a).appendData b = pack.appendData (a ++ b) := by
  simp [appendData]

@[simp] theorem appendData_nil (pack : RtmpPack) : pack.appendData [] = pack := by
  simp [appendData]

/-- Appending no more than the remaining size takes as much from it. -/
theorem getBodyRemainSize_appendData {pack : RtmpPack} {data : Bytes}
    (fits : data.length ≤ pack.getBodyRemainSize) :
    (pack.appendData data).getBodyRemainSize = pack.getBodyRemainSize - data.length := by
  have shifted := sub32_add fits
  simp only [getBodyRemainSize, appendData_getBodyDataSize, getBodyCurrentSize,
    appendData_buffer, List.length_append] at shifted ⊢
  rw [← shifted]
  unfold sub32
  omega

theorem getBodyDataSize_lt (pack : RtmpPack) : pack.getBodyDataSize < 2 ^ 24 :=
  pack.dataSize.toNat_lt

/-! ## Whole and cut headers -/

/-- What `DecodeHeader` has written when it finds the header cut: the chunk stream id and
the format of the first byte. -/
def touchHeader (pack : RtmpPack) : Bytes → RtmpPack
  | [] => pack
  | first :: _ =>
      match RtmpPackFmt.ofByte (first >>> 6) with
      | none => { pack with csid := first &&& 0b00111111 }
      | some fmt => { pack with csid := first &&& 0b00111111, fmt := fmt }

/-- The length of the chunk header that starts with this byte. -/
def headerSize (first : UInt8) : Nat :=
  match RtmpPackFmt.ofByte (first >>> 6) with
  | none => 0
  | some fmt => fmt.headerLength + 1

/-- The header at the front of the data has arrived in full. -/
def HeaderComplete : Bytes → Prop
  | [] => False
  | first :: rest => headerSize first ≤ rest.length + 1

instance : DecidablePred HeaderComplete
  | [] => inferInstanceAs (Decidable False)
  | first :: rest => inferInstanceAs (Decidable (headerSize first ≤ rest.length + 1))

theorem headerSize_pos (first : UInt8) : 0 < headerSize first := by
  obtain ⟨fmt, found⟩ := RtmpPackFmt.ofByte_high_bits first
  simp [headerSize, found]

theorem headerSize_le (first : UInt8) : headerSize first ≤ 12 := by
  obtain ⟨fmt, found⟩ := RtmpPackFmt.ofByte_high_bits first
  cases fmt <;> simp [headerSize, found, RtmpPackFmt.headerLength]

theorem HeaderComplete.append {a : Bytes} (complete : HeaderComplete a) (b : Bytes) :
    HeaderComplete (a ++ b) := by
  cases a with
  | nil => exact complete.elim
  | cons first rest =>
      simp only [List.cons_append, HeaderComplete, List.length_append] at complete ⊢
      omega

/-- The fields of a header are read from the bytes of the header alone, and on success the
count is the length of the header with its basic byte. -/
theorem decodeFields_complete (pack : RtmpPack) {rest : Bytes}
    (enough : pack.fmt.headerLength ≤ rest.length) :
    (pack.decodeFields rest).2 = pack.fmt.headerLength + 1 ∧
      (pack.decodeFields rest).1.buffer = pack.buffer ∧
      ∀ more, pack.decodeFields (rest ++ more) = pack.decodeFields rest := by
  unfold decodeFields
  cases format : pack.fmt with
  | fmt0 =>
      rw [format] at enough
      match rest, enough with
      | _ :: _ :: _ :: _ :: _ :: _ :: _ :: _ :: _ :: _ :: _ :: _, _ =>
          exact ⟨rfl, rfl, fun _ => rfl⟩
  | fmt1 =>
      rw [format] at enough
      match rest, enough with
      | _ :: _ :: _ :: _ :: _ :: _ :: _ :: _, _ => exact ⟨rfl, rfl, fun _ => rfl⟩
  | fmt2 =>
      rw [format] at enough
      match rest, enough with
      | _ :: _ :: _ :: _, _ => exact ⟨rfl, rfl, fun _ => rfl⟩
  | fmt3 => exact ⟨rfl, rfl, fun _ => rfl⟩

/-- A cut message header is left alone. -/
theorem decodeFields_short (pack : RtmpPack) {rest : Bytes}
    (short : rest.length < pack.fmt.headerLength) : pack.decodeFields rest = (pack, 0) := by
  unfold decodeFields
  cases format : pack.fmt with
  | fmt0 =>
      rw [format] at short
      have cut : pack.decodeFmt0 rest = (pack, 0) := by
        unfold decodeFmt0
        split
        · simp only [List.length_cons, RtmpPackFmt.headerLength] at short
          omega
        · rfl
      simp [cut]
  | fmt1 =>
      rw [format] at short
      have cut : pack.decodeFmt1 rest = (pack, 0) := by
        unfold decodeFmt1
        split
        · simp only [List.length_cons, RtmpPackFmt.headerLength] at short
          omega
        · rfl
      simp [cut]
  | fmt2 =>
      rw [format] at short
      have cut : pack.decodeFmt2 rest = (pack, 0) := by
        unfold decodeFmt2
        split
        · simp only [List.length_cons, RtmpPackFmt.headerLength] at short
          omega
        · rfl
      simp [cut]
  | fmt3 =>
      rw [format] at short
      exact absurd short (Nat.not_lt_zero _)

/-- **A cut header is not consumed**; only its first byte has left a trace. -/
theorem decodeHeader_short (pack : RtmpPack) {data : Bytes} (short : ¬ HeaderComplete data) :
    pack.decodeHeader data = (pack.touchHeader data, 0) := by
  cases data with
  | nil => rfl
  | cons first rest =>
      obtain ⟨fmt, found⟩ := RtmpPackFmt.ofByte_high_bits first
      have cut : rest.length < fmt.headerLength := by
        simp only [HeaderComplete, headerSize, found] at short
        omega
      simp only [decodeHeader, touchHeader, found]
      exact decodeFields_short _ cut

/-- **A whole header is read from its own bytes.** -/
theorem decodeHeader_complete (pack : RtmpPack) {first : UInt8} {rest : Bytes}
    (complete : HeaderComplete (first :: rest)) :
    (pack.decodeHeader (first :: rest)).2 = headerSize first ∧
      (pack.decodeHeader (first :: rest)).1.buffer = pack.buffer ∧
      ∀ more, pack.decodeHeader (first :: rest ++ more) = pack.decodeHeader (first :: rest) := by
  obtain ⟨fmt, found⟩ := RtmpPackFmt.ofByte_high_bits first
  have enough : fmt.headerLength ≤ rest.length := by
    simp only [HeaderComplete, headerSize, found] at complete
    omega
  obtain ⟨count, body, stable⟩ := decodeFields_complete
    { pack with csid := first &&& 0b00111111, fmt := fmt } enough
  simp only [List.cons_append, decodeHeader, headerSize, found]
  exact ⟨by simpa using count, body, stable⟩

/-- The trace of a cut header is overwritten when the header is read again. -/
theorem decodeHeader_touchHeader (pack : RtmpPack) (a b : Bytes) :
    (pack.touchHeader a).decodeHeader (a ++ b) = pack.decodeHeader (a ++ b) := by
  cases a with
  | nil => rfl
  | cons first rest =>
      obtain ⟨fmt, found⟩ := RtmpPackFmt.ofByte_high_bits first
      simp only [List.cons_append, decodeHeader, touchHeader, found]

@[simp] theorem touchHeader_buffer (pack : RtmpPack) (data : Bytes) :
    (pack.touchHeader data).buffer = pack.buffer := by
  cases data with
  | nil => rfl
  | cons first rest =>
      obtain ⟨fmt, found⟩ := RtmpPackFmt.ofByte_high_bits first
      simp only [touchHeader, found]

end RtmpPack

end LiveBroadcast
