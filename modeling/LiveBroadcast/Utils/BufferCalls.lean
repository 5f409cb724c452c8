import LiveBroadcast.Utils.RawBuffer
import LiveBroadcast.Foundation.Ledgers

/-!
# The methods of a buffer

All methods of `Buffer` that move its indices, on the members as they are (`RawBuffer`). They
fail where the vector throws `length_error`, for more than `max_size` bytes, and where bytes are
copied past the end of the vector.

**Sizes.** The constructor and `ReSize` add `IDX_BEGIN` to a `size_t`, and the sum can wrap. Then
the vector is smaller than what it was asked for: a buffer is built whose indices are behind its
end (`construct_wraps`), or the copy of `AppendData` runs past the end
(`Intact.appendData_wraps`).

**Queues.** Where no size wraps, every method is a step of a queue with its history (`Tracks`):
the unread bytes are the queue, and the two totals are what has entered and left.
-/

set_option autoImplicit false

namespace LiveBroadcast

namespace RawBuffer

/-- `max_size` of a vector of bytes. -/
def maxVectorSize : Nat := 2 ^ 63 - 1

/-- The constructor with a size. The sum with `IDX_BEGIN` is a `size_t`. -/
def construct (bufferSize : UInt64) : Except Fault RawBuffer :=
  let size := (bufferSize + UInt64.ofNat idxBegin).toNat
  if maxVectorSize < size then .error .lengthError
  else
    .ok
      { memory := List.replicate size 0
        readIdx := UInt64.ofNat idxBegin
        writeIdx := UInt64.ofNat idxBegin
        sumRead := 0
        sumWrite := 0 }

/-- `AddReadIndex`. -/
def addReadIndex (buffer : RawBuffer) (index : UInt64) : RawBuffer :=
  if buffer.readableLength < index then
    { buffer with
      sumRead := buffer.sumRead + buffer.readableLength
      readIdx := buffer.readIdx + buffer.readableLength }
  else { buffer with sumRead := buffer.sumRead + index, readIdx := buffer.readIdx + index }

/-- `DropAllData`. -/
def dropAllData (buffer : RawBuffer) : RawBuffer := buffer.addReadIndex buffer.readableLength

/-- `ReadAllAsString`: the string, and the buffer behind it. -/
def readAllAsString (buffer : RawBuffer) : Bytes × RawBuffer :=
  (buffer.readable, buffer.addReadIndex buffer.readableLength)

/-- `Reset`. -/
def reset (buffer : RawBuffer) : RawBuffer :=
  { buffer with
    readIdx := UInt64.ofNat idxBegin
    writeIdx := UInt64.ofNat idxBegin
    sumRead := 0
    sumWrite := 0 }

/-- `ReSize`; `resize` cuts the vector off or fills it up. -/
def reSize (buffer : RawBuffer) (newSize : UInt64) : Except Fault RawBuffer :=
  let size := (newSize + UInt64.ofNat idxBegin).toNat
  if maxVectorSize < size then .error .lengthError
  else
    .ok
      { buffer with
        memory := buffer.memory.take size ++ List.replicate (size - buffer.memory.length) 0 }

/-- Bytes are copied to `WriteBegin`, and `AddWriteIndex` is called with their number. -/
def write (buffer : RawBuffer) (data : Bytes) : Except Fault RawBuffer :=
  if data ≠ [] ∧ buffer.memory.length < buffer.writeIdx.toNat + data.length then
    .error .outOfBounds
  else .ok ((buffer.copyIn data).addWriteIndex (UInt64.ofNat data.length))

/-- The vector of `AppendData`, in front of the copy. -/
def reserve (buffer : RawBuffer) (length : UInt64) : Except Fault RawBuffer :=
  let buffer := buffer.adjustBuffer
  if buffer.writableLength < length then
    buffer.reSize (UInt64.ofNat buffer.memory.length + (length - buffer.writableLength))
  else .ok buffer

/-- `AppendData` with a pointer and a length, which the other overloads call. -/
def appendData (buffer : RawBuffer) (data : Bytes) : Except Fault RawBuffer :=
  (buffer.reserve (UInt64.ofNat data.length)).bind fun buffer => buffer.write data

/-- `SwapBuffer`: both buffers, member by member. -/
def swapBuffer (buffer other : RawBuffer) : RawBuffer × RawBuffer :=
  (⟨other.memory, other.readIdx, other.writeIdx, other.sumRead, other.sumWrite⟩,
    ⟨buffer.memory, buffer.readIdx, buffer.writeIdx, buffer.sumRead, buffer.sumWrite⟩)

variable {raw : RawBuffer}

/-- Nothing is unread where the indices meet. -/
theorem readable_of_eq {buffer : RawBuffer} (meet : buffer.writeIdx = buffer.readIdx) :
    buffer.readable = [] := by
  have none : buffer.readableLength.toNat = 0 := by
    rw [readableLength, meet, UInt64.sub_self]
    rfl
  rw [readable, none, List.take_zero]

theorem Intact.readable_length (intact : raw.Intact) :
    raw.readableLength.toNat = raw.readable.length := by
  rw [intact.readableLength_toNat, intact.readable_eq, Buffer.readable_length]

/-- The unread bytes and what is in front of them are in the vector. -/
theorem Intact.readable_le (intact : raw.Intact) :
    idxBegin + raw.readable.length ≤ raw.memory.length := by
  have begins := intact.begin_le
  have reads := intact.read_le
  have writes := intact.write_le
  have span : intact.buffer.readableLength = raw.writeIdx.toNat - raw.readIdx.toNat := rfl
  rw [← intact.readable_length, intact.readableLength_toNat, span]
  omega

/-! ## Construction -/

theorem add_idxBegin_toNat (size : UInt64) :
    (size + UInt64.ofNat idxBegin).toNat = (size.toNat + idxBegin) % 2 ^ 64 :=
  UInt64.toNat_add _ _

/-- **A size that wraps** gives a buffer whose indices are behind its end. -/
theorem construct_wraps {bufferSize : UInt64} (wraps : 2 ^ 64 ≤ bufferSize.toNat + idxBegin) :
    ∃ buffer, construct bufferSize = .ok buffer ∧
      buffer.memory.length < buffer.writeIdx.toNat := by
  have bound := bufferSize.toNat_lt
  have size : (bufferSize + UInt64.ofNat idxBegin).toNat < idxBegin := by
    rw [add_idxBegin_toNat]
    omega
  have front : (UInt64.ofNat idxBegin).toNat = idxBegin := rfl
  have small : ¬ maxVectorSize < (bufferSize + UInt64.ofNat idxBegin).toNat := by
    unfold maxVectorSize
    unfold idxBegin at *
    omega
  refine ⟨_, if_neg small, ?_⟩
  rw [List.length_replicate, front]
  exact size

theorem construct_fits {bufferSize : UInt64} (fits : bufferSize.toNat + idxBegin < 2 ^ 64) :
    construct bufferSize = .error .lengthError ∨
      construct bufferSize = .ok (ofSize bufferSize.toNat) ∧
        (ofSize bufferSize.toNat).Intact := by
  have size : (bufferSize + UInt64.ofNat idxBegin).toNat = bufferSize.toNat + idxBegin := by
    rw [add_idxBegin_toNat, Nat.mod_eq_of_lt fits]
  have front : (UInt64.ofNat idxBegin).toNat = idxBegin := rfl
  by_cases large : maxVectorSize < bufferSize.toNat + idxBegin
  · rw [← size] at large
    exact Or.inl (if_pos large)
  · refine Or.inr ⟨?_, ?_⟩
    · rw [construct, size]
      exact if_neg large
    · have length : (ofSize bufferSize.toNat).memory.length = bufferSize.toNat + idxBegin :=
        List.length_replicate
      refine ⟨Nat.le_refl _, Nat.le_refl _, ?_, ?_⟩
      · rw [length]
        exact Nat.le_add_left _ _
      · rw [length]
        unfold maxVectorSize at large
        omega

/-! ## Reading -/

/-- Both totals of the source's two cases: what is read is at most what is readable. -/
theorem exists_addReadIndex (buffer : RawBuffer) (index : UInt64) :
    ∃ taken : UInt64, taken.toNat = min index.toNat buffer.readableLength.toNat ∧
      buffer.addReadIndex index =
        { buffer with sumRead := buffer.sumRead + taken, readIdx := buffer.readIdx + taken } := by
  rw [addReadIndex]
  by_cases more : buffer.readableLength < index
  · refine ⟨buffer.readableLength, ?_, if_pos more⟩
    rw [UInt64.lt_iff_toNat_lt] at more
    exact (Nat.min_eq_right (Nat.le_of_lt more)).symm
  · refine ⟨index, ?_, if_neg more⟩
    rw [UInt64.lt_iff_toNat_lt, Nat.not_lt] at more
    exact (Nat.min_eq_left more).symm

theorem Intact.addReadIndex_readIdx (intact : raw.Intact) (index : UInt64) :
    (raw.addReadIndex index).readIdx.toNat =
      (intact.buffer.addReadIndex index.toNat).readIdx := by
  obtain ⟨taken, count, after⟩ := exists_addReadIndex raw index
  have reads := intact.read_le
  have bound := raw.writeIdx.toNat_lt
  have length := intact.readableLength_toNat
  have span : intact.buffer.readableLength = raw.writeIdx.toNat - raw.readIdx.toNat := rfl
  have sum : raw.readIdx.toNat + taken.toNat < 2 ^ 64 := by omega
  rw [after]
  show (raw.readIdx + taken).toNat = _
  rw [UInt64.toNat_add, Nat.mod_eq_of_lt sum, count, length]
  rfl

theorem addReadIndex_memory (buffer : RawBuffer) (index : UInt64) :
    (buffer.addReadIndex index).memory = buffer.memory ∧
      (buffer.addReadIndex index).writeIdx = buffer.writeIdx ∧
      (buffer.addReadIndex index).sumWrite = buffer.sumWrite := by
  obtain ⟨taken, -, after⟩ := exists_addReadIndex buffer index
  rw [after]
  exact ⟨rfl, rfl, rfl⟩

/-- **`AddReadIndex`** leaves a buffer intact, whatever its argument is. -/
theorem Intact.addReadIndex (intact : raw.Intact) (index : UInt64) :
    (raw.addReadIndex index).Intact := by
  obtain ⟨memory, writeIdx, -⟩ := addReadIndex_memory raw index
  refine ⟨?_, ?_, ?_, ?_⟩
  · rw [intact.addReadIndex_readIdx]
    exact (intact.buffer.addReadIndex index.toNat).begin_le
  · rw [intact.addReadIndex_readIdx, writeIdx]
    exact (intact.buffer.addReadIndex index.toNat).read_le
  · rw [writeIdx, memory]
    exact intact.write_le
  · rw [memory]
    exact intact.size_lt

theorem Intact.addReadIndex_readable (intact : raw.Intact) (index : UInt64) :
    (raw.addReadIndex index).readable = raw.readable.drop index.toNat := by
  obtain ⟨memory, writeIdx, -⟩ := addReadIndex_memory raw index
  have same : (intact.addReadIndex index).buffer = intact.buffer.addReadIndex index.toNat :=
    Buffer.eq_of_members memory (intact.addReadIndex_readIdx index)
      (congrArg UInt64.toNat writeIdx)
  rw [(intact.addReadIndex index).readable_eq, same, Buffer.addReadIndex_readable,
    intact.readable_eq]

/-! ## Starting again -/

theorem Intact.reset (intact : raw.Intact) : raw.reset.Intact where
  begin_le := Nat.le_refl _
  read_le := Nat.le_refl _
  write_le := Nat.le_trans (Nat.le_add_right _ _) intact.readable_le
  size_lt := intact.size_lt

theorem reset_readable (buffer : RawBuffer) : buffer.reset.readable = [] :=
  readable_of_eq rfl

/-! ## Writing -/

/-- A copy into the room there is. -/
theorem Intact.write_eq (intact : raw.Intact) {data : Bytes}
    (fits : data.length ≤ raw.writableLength.toNat) :
    raw.write data = .ok ((raw.copyIn data).addWriteIndex (UInt64.ofNat data.length)) := by
  have writes := intact.write_le
  have room : intact.buffer.writableLength = raw.memory.length - raw.writeIdx.toNat := rfl
  rw [intact.writableLength_toNat] at fits
  refine if_neg fun past => ?_
  have beyond := past.2
  omega

/-- A copy of more than there is room for runs past the end of the vector. -/
theorem Intact.write_past (intact : raw.Intact) {data : Bytes}
    (more : raw.writableLength.toNat < data.length) : raw.write data = .error .outOfBounds := by
  have writes := intact.write_le
  have room : intact.buffer.writableLength = raw.memory.length - raw.writeIdx.toNat := rfl
  rw [intact.writableLength_toNat] at more
  refine if_pos ⟨?_, ?_⟩
  · rintro rfl
    exact absurd more (Nat.not_lt_zero _)
  · omega

/-! ## Appending -/

theorem Intact.adjustBuffer_memory_length (intact : raw.Intact) :
    raw.adjustBuffer.memory.length = raw.memory.length := by
  rw [intact.adjustBuffer_memory, Buffer.adjustBuffer_memory_length]
  rfl

/-- Once the buffer is adjusted, the rest of the vector is behind the unread bytes. -/
theorem Intact.adjustBuffer_writableLength (intact : raw.Intact) :
    raw.adjustBuffer.writableLength.toNat + (idxBegin + raw.readable.length) =
      raw.memory.length := by
  have inside := intact.readable_le
  have capacity : intact.buffer.capacity = raw.memory.length - idxBegin := rfl
  rw [intact.adjustBuffer.writableLength_toNat, intact.adjustBuffer_buffer,
    Buffer.adjustBuffer_writableLength, capacity, ← Buffer.readable_length, ← intact.readable_eq]
  omega

/-- **The size that `AppendData` asks for**, if there is too little room. -/
theorem Intact.newSize_toNat (intact : raw.Intact) {length : Nat} (small : length < 2 ^ 63)
    (more : raw.adjustBuffer.writableLength.toNat < length) :
    (UInt64.ofNat raw.adjustBuffer.memory.length +
        (UInt64.ofNat length - raw.adjustBuffer.writableLength) + UInt64.ofNat idxBegin).toNat =
      (raw.readable.length + length + 2 * idxBegin) % 2 ^ 64 := by
  have room := intact.adjustBuffer_writableLength
  have size := intact.size_lt
  have whole := toNat_ofNat_of_small size
  have number := toNat_ofNat_of_small small
  have le : raw.adjustBuffer.writableLength ≤ UInt64.ofNat length := by
    rw [UInt64.le_iff_toNat_le, number]
    exact Nat.le_of_lt more
  rw [add_idxBegin_toNat, UInt64.toNat_add, UInt64.toNat_sub_of_le _ _ le, number,
    intact.adjustBuffer_memory_length, whole]
  omega

theorem Intact.reserve_more (intact : raw.Intact) {length : Nat} (small : length < 2 ^ 63)
    (more : raw.adjustBuffer.writableLength.toNat < length) :
    raw.reserve (UInt64.ofNat length) =
      if maxVectorSize < (raw.readable.length + length + 2 * idxBegin) % 2 ^ 64 then
        .error .lengthError
      else
        .ok { raw.adjustBuffer with
          memory := raw.adjustBuffer.memory.take
              ((raw.readable.length + length + 2 * idxBegin) % 2 ^ 64) ++
            List.replicate ((raw.readable.length + length + 2 * idxBegin) % 2 ^ 64 -
              raw.memory.length) 0 } := by
  have number := toNat_ofNat_of_small small
  have less : raw.adjustBuffer.writableLength < UInt64.ofNat length := by
    rw [UInt64.lt_iff_toNat_lt, number]
    exact more
  rw [reserve, if_pos less, reSize, intact.newSize_toNat small more,
    intact.adjustBuffer_memory_length]

theorem reserve_enough {length : Nat} (small : length < 2 ^ 63)
    (enough : length ≤ raw.adjustBuffer.writableLength.toNat) :
    raw.reserve (UInt64.ofNat length) = .ok raw.adjustBuffer := by
  have number := toNat_ofNat_of_small small
  refine if_neg ?_
  rw [UInt64.lt_iff_toNat_lt, number, Nat.not_lt]
  exact enough

/-- **A size that wraps** makes the vector smaller than what is written to it. -/
theorem Intact.appendData_wraps (intact : raw.Intact) {data : Bytes}
    (small : data.length < 2 ^ 63)
    (wraps : 2 ^ 64 ≤ raw.readable.length + data.length + 2 * idxBegin) :
    raw.appendData data = .error .outOfBounds := by
  have room := intact.adjustBuffer_writableLength
  have size := intact.size_lt
  have index : raw.adjustBuffer.writeIdx.toNat = idxBegin + raw.readable.length := by
    rw [intact.adjustBuffer_writeIdx, intact.readable_eq, Buffer.readable_length]
    rfl
  have asked : (raw.readable.length + data.length + 2 * idxBegin) % 2 ^ 64 < idxBegin := by
    unfold idxBegin at *
    omega
  have more : raw.adjustBuffer.writableLength.toNat < data.length := by
    unfold idxBegin at *
    omega
  have allowed : ¬ maxVectorSize <
      (raw.readable.length + data.length + 2 * idxBegin) % 2 ^ 64 := by
    unfold maxVectorSize
    unfold idxBegin at *
    omega
  rw [appendData, intact.reserve_more small more, if_neg allowed]
  refine if_pos ⟨?_, ?_⟩
  · rintro rfl
    exact absurd more (Nat.not_lt_zero _)
  · show _ < raw.adjustBuffer.writeIdx.toNat + _
    rw [index, List.length_append, List.length_take, List.length_replicate]
    unfold idxBegin at *
    omega

/-- Bytes behind the end of the vector leave a buffer intact. -/
theorem Intact.filled (intact : raw.Intact) {size : Nat} (below : size < 2 ^ 63) :
    RawBuffer.Intact { raw with
      memory := raw.memory ++ List.replicate (size - raw.memory.length) 0 } where
  begin_le := intact.begin_le
  read_le := intact.read_le
  write_le := by
    rw [List.length_append]
    exact Nat.le_trans intact.write_le (Nat.le_add_right _ _)
  size_lt := by
    have size_lt := intact.size_lt
    rw [List.length_append, List.length_replicate]
    omega

/-- **A vector with enough room**, or `length_error`. -/
theorem Intact.reserve_fits (intact : raw.Intact) {length : Nat} (small : length < 2 ^ 63)
    (fits : raw.readable.length + length + 2 * idxBegin < 2 ^ 64) :
    raw.reserve (UInt64.ofNat length) = .error .lengthError ∨
      ∃ reserved, raw.reserve (UInt64.ofNat length) = .ok reserved ∧
        reserved.sumRead = raw.sumRead ∧ reserved.sumWrite = raw.sumWrite ∧
          ∃ after : reserved.Intact, after.buffer = intact.buffer.reserve length := by
  have room := intact.adjustBuffer.writableLength_toNat
  rw [intact.adjustBuffer_buffer] at room
  rcases Nat.lt_or_ge raw.adjustBuffer.writableLength.toNat length with more | enough
  · rw [intact.reserve_more small more, Nat.mod_eq_of_lt fits]
    by_cases large : maxVectorSize < raw.readable.length + length + 2 * idxBegin
    · exact Or.inl (if_pos large)
    · have whole := intact.adjustBuffer_memory_length
      have span := intact.adjustBuffer_writableLength
      have longer : raw.adjustBuffer.memory.length ≤
          raw.readable.length + length + 2 * idxBegin := by omega
      have below : raw.readable.length + length + 2 * idxBegin < 2 ^ 63 := by
        unfold maxVectorSize at large
        omega
      have grows : intact.buffer.reserve length = intact.buffer.adjustBuffer.reSize
          (intact.buffer.adjustBuffer.memory.length +
            (length - intact.buffer.adjustBuffer.writableLength)) :=
        if_pos (by rwa [← room])
      have size : intact.buffer.adjustBuffer.memory.length +
          (length - intact.buffer.adjustBuffer.writableLength) + idxBegin =
            raw.readable.length + length + 2 * idxBegin := by
        rw [← room, ← intact.adjustBuffer_memory]
        omega
      refine Or.inr ⟨_, if_neg large, rfl, rfl, ?_⟩
      rw [List.take_of_length_le longer, ← whole]
      refine ⟨intact.adjustBuffer.filled below, Buffer.eq_of_members ?_ ?_ ?_⟩
      · have memory (newSize : Nat) : (intact.buffer.adjustBuffer.reSize newSize).memory =
            raw.adjustBuffer.memory ++
              List.replicate (newSize + idxBegin - raw.adjustBuffer.memory.length) 0 := rfl
        rw [grows, memory, size]
        rfl
      · rw [grows]
        rfl
      · rw [grows]
        exact intact.adjustBuffer_writeIdx
  · refine Or.inr ⟨_, reserve_enough small enough, rfl, rfl, intact.adjustBuffer, ?_⟩
    rw [room] at enough
    rw [intact.adjustBuffer_buffer, Buffer.reserve, if_neg (Nat.not_lt.mpr enough)]

/-- **`AppendData`**, where no size wraps: it appends, or the vector throws. -/
theorem Intact.appendData_fits (intact : raw.Intact) {data : Bytes}
    (small : data.length < 2 ^ 63)
    (fits : raw.readable.length + data.length + 2 * idxBegin < 2 ^ 64) :
    raw.appendData data = .error .lengthError ∨
      ∃ appended, raw.appendData data = .ok appended ∧ appended.Intact ∧
        appended.readable = raw.readable ++ data ∧ appended.sumRead = raw.sumRead ∧
          appended.sumWrite = raw.sumWrite + UInt64.ofNat data.length := by
  rcases intact.reserve_fits small fits with
    throws | ⟨reserved, reserves, sumRead, sumWrite, after, same⟩
  · refine Or.inl ?_
    rw [appendData, throws]
    rfl
  · have room : data.length ≤ reserved.writableLength.toNat := by
      rw [after.writableLength_toNat, same]
      exact intact.buffer.le_reserve_writableLength data.length
    refine Or.inr ⟨_, ?_, after.written room, ?_, sumRead,
      congrArg (· + UInt64.ofNat data.length) sumWrite⟩
    · rw [appendData, reserves]
      exact after.write_eq room
    · rw [after.written_readable room, after.readable_eq, same, Buffer.reserve_readable,
        intact.readable_eq]

/-! ## Queues -/

/-- A buffer is a queue with its history: the unread bytes are the queue, and the totals are
those of the history. -/
structure Tracks (ledger : Ledger UInt8) (buffer : RawBuffer) : Prop where
  intact : buffer.Intact
  readable : buffer.readable = ledger.queue
  sumWrite : buffer.sumWrite = UInt64.ofNat ledger.entered.length
  sumRead : buffer.sumRead = UInt64.ofNat ledger.left

variable {ledger : Ledger UInt8}

theorem Tracks.readableLength_toNat (tracks : Tracks ledger raw) :
    raw.readableLength.toNat = ledger.queue.length := by
  rw [tracks.intact.readable_length, tracks.readable]

/-- **The totals differ by what is readable**, also where they have wrapped. -/
theorem Tracks.accounts (tracks : Tracks ledger raw) :
    raw.sumWrite - raw.sumRead = raw.readableLength := by
  have length : raw.readableLength = UInt64.ofNat (ledger.entered.length - ledger.left) := by
    rw [← ledger.queue_length, ← tracks.readableLength_toNat, UInt64.ofNat_toNat]
  rw [tracks.sumWrite, tracks.sumRead, length, UInt64.ofNat_sub ledger.left_le]

theorem Tracks.ofSize {bufferSize : Nat} (intact : (RawBuffer.ofSize bufferSize).Intact) :
    Tracks .empty (RawBuffer.ofSize bufferSize) where
  intact := intact
  readable := readable_of_eq rfl
  sumWrite := rfl
  sumRead := rfl

/-- **`AddReadIndex`**: as many bytes leave as the argument says, and all of them if there are
fewer. -/
theorem Tracks.addReadIndex (tracks : Tracks ledger raw) (index : UInt64) :
    Tracks (ledger.leave index.toNat) (raw.addReadIndex index) where
  intact := tracks.intact.addReadIndex index
  readable := by
    rw [tracks.intact.addReadIndex_readable, tracks.readable, Ledger.queue_leave]
  sumWrite := (addReadIndex_memory raw index).2.2.trans tracks.sumWrite
  sumRead := by
    obtain ⟨taken, count, after⟩ := exists_addReadIndex raw index
    rw [tracks.readableLength_toNat] at count
    have number : taken = UInt64.ofNat (min index.toNat ledger.queue.length) := by
      rw [← count, UInt64.ofNat_toNat]
    rw [after, Ledger.leave]
    show raw.sumRead + taken = _
    rw [tracks.sumRead, number, ← UInt64.ofNat_add]

/-- **`DropAllData`**: all bytes leave. -/
theorem Tracks.dropAllData (tracks : Tracks ledger raw) :
    Tracks ledger.leaveAll raw.dropAllData := by
  have all := tracks.addReadIndex raw.readableLength
  rw [tracks.readableLength_toNat] at all
  exact all

/-- **`ReadAllAsString`** returns the queue, and leaves nothing of it. -/
theorem Tracks.readAllAsString (tracks : Tracks ledger raw) :
    raw.readAllAsString.1 = ledger.queue ∧ Tracks ledger.leaveAll raw.readAllAsString.2 :=
  ⟨tracks.readable, tracks.dropAllData⟩

/-- `AdjustBuffer` is nothing to the queue. -/
theorem Tracks.adjustBuffer (tracks : Tracks ledger raw) : Tracks ledger raw.adjustBuffer where
  intact := tracks.intact.adjustBuffer
  readable := tracks.intact.adjustBuffer_readable.trans tracks.readable
  sumWrite := tracks.sumWrite
  sumRead := tracks.sumRead

/-- `Reset` begins a new history. -/
theorem Tracks.reset (tracks : Tracks ledger raw) : Tracks .empty raw.reset where
  intact := tracks.intact.reset
  readable := raw.reset_readable
  sumWrite := rfl
  sumRead := rfl

/-- A total that more bytes have been added to. -/
theorem Tracks.sumWrite_enter (tracks : Tracks ledger raw) (data : Bytes) :
    raw.sumWrite + UInt64.ofNat data.length =
      UInt64.ofNat (ledger.enter data).entered.length := by
  rw [Ledger.enter, List.length_append, UInt64.ofNat_add, tracks.sumWrite]

/-- **A direct write** into the room there is: the bytes enter. -/
theorem Tracks.write (tracks : Tracks ledger raw) {data : Bytes}
    (fits : data.length ≤ raw.writableLength.toNat) :
    ∃ written, raw.write data = .ok written ∧ Tracks (ledger.enter data) written := by
  refine ⟨_, tracks.intact.write_eq fits, tracks.intact.written fits, ?_,
    tracks.sumWrite_enter data, tracks.sumRead⟩
  rw [tracks.intact.written_readable fits, tracks.readable, Ledger.queue_enter]

/-- **`AppendData`**, where no size wraps: the bytes enter, or the vector throws. -/
theorem Tracks.appendData (tracks : Tracks ledger raw) {data : Bytes}
    (small : data.length < 2 ^ 63)
    (fits : raw.readable.length + data.length + 2 * idxBegin < 2 ^ 64) :
    raw.appendData data = .error .lengthError ∨
      ∃ appended, raw.appendData data = .ok appended ∧ Tracks (ledger.enter data) appended := by
  rcases tracks.intact.appendData_fits small fits with
    throws | ⟨appended, appends, intact, readable, sumRead, sumWrite⟩
  · exact Or.inl throws
  · refine Or.inr ⟨appended, appends, intact, ?_, ?_, sumRead.trans tracks.sumRead⟩
    · rw [readable, tracks.readable, Ledger.queue_enter]
    · rw [sumWrite, tracks.sumWrite_enter]

end RawBuffer

end LiveBroadcast
