import LiveBroadcast.Utils.Buffer

/-!
# Buffers in any state

`Buffer` is the class with its indices in order. A `RawBuffer` has the members of the class
and nothing else: the indices are `size_t`, nothing orders them, and what is added to them
wraps. It also has the two totals, of all bytes that were written and read.

`Intact` puts the indices in order. An intact buffer is a `Buffer` (`Intact.buffer`), and the
operations here do on it what they do on the `Buffer`.
-/

set_option autoImplicit false

namespace LiveBroadcast

/-- `class Buffer` with all of its members, in whatever state they are. -/
structure RawBuffer where
  memory : Bytes
  readIdx : UInt64
  writeIdx : UInt64
  sumRead : UInt64
  sumWrite : UInt64
  deriving DecidableEq, Repr

namespace RawBuffer

/-- The constructor with a size whose sum with `IDX_BEGIN` is a `size_t`. -/
def ofSize (bufferSize : Nat) : RawBuffer where
  memory := List.replicate (bufferSize + idxBegin) 0
  readIdx := UInt64.ofNat idxBegin
  writeIdx := UInt64.ofNat idxBegin
  sumRead := 0
  sumWrite := 0

def readableLength (buffer : RawBuffer) : UInt64 := buffer.writeIdx - buffer.readIdx

def writableLength (buffer : RawBuffer) : UInt64 :=
  UInt64.ofNat buffer.memory.length - buffer.writeIdx

/-- The bytes from `ReadBegin` on that are unread. -/
def readable (buffer : RawBuffer) : Bytes :=
  (buffer.memory.drop buffer.readIdx.toNat).take buffer.readableLength.toNat

def addWriteIndex (buffer : RawBuffer) (index : UInt64) : RawBuffer :=
  { buffer with sumWrite := buffer.sumWrite + index, writeIdx := buffer.writeIdx + index }

/-- `AdjustBuffer`: what is between the indices is copied to the front. -/
def adjustBuffer (buffer : RawBuffer) : RawBuffer :=
  { buffer with
    memory := overwrite buffer.memory idxBegin
      ((buffer.memory.drop buffer.readIdx.toNat).take
        (buffer.writeIdx.toNat - buffer.readIdx.toNat))
    readIdx := UInt64.ofNat idxBegin
    writeIdx := UInt64.ofNat idxBegin + buffer.readableLength }

/-- Bytes are copied to `WriteBegin`. -/
def copyIn (buffer : RawBuffer) (data : Bytes) : RawBuffer :=
  { buffer with memory := overwrite buffer.memory buffer.writeIdx.toNat data }

/-- The indices are in order. The last bound is the `max_size` of a vector of bytes. -/
structure Intact (buffer : RawBuffer) : Prop where
  begin_le : idxBegin ≤ buffer.readIdx.toNat
  read_le : buffer.readIdx.toNat ≤ buffer.writeIdx.toNat
  write_le : buffer.writeIdx.toNat ≤ buffer.memory.length
  size_lt : buffer.memory.length < 2 ^ 63

variable {raw : RawBuffer}

/-- An intact buffer is a buffer. -/
def Intact.buffer (intact : raw.Intact) : Buffer where
  memory := raw.memory
  readIdx := raw.readIdx.toNat
  writeIdx := raw.writeIdx.toNat
  begin_le := intact.begin_le
  read_le := intact.read_le
  write_le := intact.write_le

/-- The length of an object is a `size_t`. -/
theorem toNat_ofNat_of_small {length : Nat} (small : length < 2 ^ 63) :
    (UInt64.ofNat length).toNat = length :=
  UInt64.toNat_ofNat_of_lt' (Nat.lt_trans small (by decide))

theorem Intact.readableLength_toNat (intact : raw.Intact) :
    raw.readableLength.toNat = intact.buffer.readableLength :=
  UInt64.toNat_sub_of_le _ _ intact.read_le

theorem Intact.writableLength_toNat (intact : raw.Intact) :
    raw.writableLength.toNat = intact.buffer.writableLength := by
  have writes := intact.write_le
  have size := intact.size_lt
  have length := toNat_ofNat_of_small size
  have le : raw.writeIdx ≤ UInt64.ofNat raw.memory.length := by
    rw [UInt64.le_iff_toNat_le, length]
    exact writes
  rw [writableLength, UInt64.toNat_sub_of_le _ _ le, length]
  rfl

theorem Intact.readable_eq (intact : raw.Intact) : raw.readable = intact.buffer.readable := by
  rw [readable, intact.readableLength_toNat]
  rfl

/-! ## Adjusting -/

theorem Intact.adjustBuffer_memory (intact : raw.Intact) :
    raw.adjustBuffer.memory = intact.buffer.adjustBuffer.memory := rfl

theorem Intact.adjustBuffer_writeIdx (intact : raw.Intact) :
    raw.adjustBuffer.writeIdx.toNat = intact.buffer.adjustBuffer.writeIdx := by
  have reads := intact.read_le
  have writes := intact.write_le
  have size := intact.size_lt
  have begins := intact.begin_le
  have length := intact.readableLength_toNat
  have span : intact.buffer.readableLength = raw.writeIdx.toNat - raw.readIdx.toNat := rfl
  have front : (UInt64.ofNat idxBegin).toNat = idxBegin := rfl
  have sum : idxBegin + intact.buffer.readableLength < 2 ^ 64 := by omega
  show (UInt64.ofNat idxBegin + raw.readableLength).toNat = _
  rw [UInt64.toNat_add, length, front, Nat.mod_eq_of_lt sum]
  rfl

/-- **`AdjustBuffer`** leaves a buffer intact. -/
theorem Intact.adjustBuffer (intact : raw.Intact) : raw.adjustBuffer.Intact where
  begin_le := Nat.le_refl _
  read_le := by
    rw [intact.adjustBuffer_writeIdx]
    exact intact.buffer.adjustBuffer.read_le
  write_le := by
    rw [intact.adjustBuffer_writeIdx]
    exact intact.buffer.adjustBuffer.write_le
  size_lt := by
    rw [intact.adjustBuffer_memory, Buffer.adjustBuffer_memory_length]
    exact intact.size_lt

theorem Intact.adjustBuffer_buffer (intact : raw.Intact) :
    intact.adjustBuffer.buffer = intact.buffer.adjustBuffer :=
  Buffer.eq_of_members rfl rfl intact.adjustBuffer_writeIdx

theorem Intact.adjustBuffer_readable (intact : raw.Intact) :
    raw.adjustBuffer.readable = raw.readable := by
  rw [intact.adjustBuffer.readable_eq, intact.adjustBuffer_buffer, intact.readable_eq]
  exact Buffer.adjustBuffer_readable _

/-! ## Writing -/

/-- The write index is moved over bytes that have been copied. -/
theorem Intact.written_writeIdx (intact : raw.Intact) {data : Bytes}
    (fits : data.length ≤ raw.writableLength.toNat) :
    ((raw.copyIn data).addWriteIndex (UInt64.ofNat data.length)).writeIdx.toNat =
      raw.writeIdx.toNat + data.length := by
  have writes := intact.write_le
  have size := intact.size_lt
  have room : intact.buffer.writableLength = raw.memory.length - raw.writeIdx.toNat := rfl
  rw [intact.writableLength_toNat] at fits
  have sum : raw.writeIdx.toNat + data.length < 2 ^ 64 := by omega
  have small : data.length < 2 ^ 63 := by omega
  have length := toNat_ofNat_of_small small
  show (raw.writeIdx + UInt64.ofNat data.length).toNat = _
  rw [UInt64.toNat_add, length, Nat.mod_eq_of_lt sum]

/-- **Writing into the room that there is** leaves a buffer intact. -/
theorem Intact.written (intact : raw.Intact) {data : Bytes}
    (fits : data.length ≤ raw.writableLength.toNat) :
    ((raw.copyIn data).addWriteIndex (UInt64.ofNat data.length)).Intact := by
  have room : data.length ≤ intact.buffer.writableLength := by
    rw [← intact.writableLength_toNat]
    exact fits
  have index := intact.written_writeIdx fits
  have memory : ((raw.copyIn data).addWriteIndex (UInt64.ofNat data.length)).memory =
      (intact.buffer.write data room).memory := rfl
  have length : ((raw.copyIn data).addWriteIndex (UInt64.ofNat data.length)).memory.length =
      raw.memory.length := by
    have span : intact.buffer.writableLength =
      raw.memory.length - raw.writeIdx.toNat := rfl
    have writes := intact.write_le
    exact overwrite_length (by omega)
  refine ⟨intact.begin_le, ?_, ?_, ?_⟩
  · rw [index]
    exact Nat.le_trans intact.read_le (Nat.le_add_right _ _)
  · rw [index, memory]
    exact (intact.buffer.write data room).write_le
  · rw [length]
    exact intact.size_lt

theorem Intact.written_buffer (intact : raw.Intact) {data : Bytes}
    (fits : data.length ≤ raw.writableLength.toNat)
    (room : data.length ≤ intact.buffer.writableLength) :
    (intact.written fits).buffer = intact.buffer.write data room :=
  Buffer.eq_of_members rfl rfl (intact.written_writeIdx fits)

theorem Intact.written_readable (intact : raw.Intact) {data : Bytes}
    (fits : data.length ≤ raw.writableLength.toNat) :
    ((raw.copyIn data).addWriteIndex (UInt64.ofNat data.length)).readable =
      raw.readable ++ data := by
  have room : data.length ≤ intact.buffer.writableLength := by
    rw [← intact.writableLength_toNat]
    exact fits
  rw [(intact.written fits).readable_eq, intact.written_buffer fits room, intact.readable_eq]
  exact Buffer.write_readable _ _ _

end RawBuffer

end LiveBroadcast
