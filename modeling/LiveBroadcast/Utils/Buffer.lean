import LiveBroadcast.Utils.Bytes

/-!
# Buffers

A `Buffer` is a vector with two indices: the bytes between `read_idx_` and `write_idx_` are
unread. Data is written behind `write_idx_`, and `AdjustBuffer` makes room for it by moving
the unread bytes to the front. `AppendData` lets the vector grow when they leave too little
room; `ReadFromSockfd` does not, and offers the kernel what room there is.

On the unread bytes (`readable`) the operations are those that the rest of the model works
with: `AppendData` is `++`, `AddReadIndex` is `drop`, and `DropAllData` leaves nothing.
-/

set_option autoImplicit false

namespace LiveBroadcast

/-- `IDX_BEGIN`: the bytes in front of the first index. -/
def idxBegin : Nat := 8

/-- `DEFAULT_BUFFER_SIZE`. -/
def defaultBufferSize : Nat := 4096

/-- A copy of `data` to the index `index` of `memory`, as by `memcpy`. -/
def overwrite (memory : Bytes) (index : Nat) (data : Bytes) : Bytes :=
  memory.take index ++ data ++ memory.drop (index + data.length)

theorem overwrite_length {memory data : Bytes} {index : Nat}
    (room : index + data.length ≤ memory.length) :
    (overwrite memory index data).length = memory.length := by
  simp only [overwrite, List.length_append, List.length_take, List.length_drop]
  omega

/-- The copy is where it was written to. -/
theorem overwrite_written {memory data : Bytes} {index : Nat} (inside : index ≤ memory.length) :
    ((overwrite memory index data).drop index).take data.length = data := by
  have front : (memory.take index).length = index := List.length_take_of_le inside
  rw [overwrite, List.append_assoc, List.drop_left' front, List.take_left]

/-- The bytes in front of the copy stay. -/
theorem overwrite_before {memory data : Bytes} {index first : Nat} (before : first ≤ index)
    (inside : index ≤ memory.length) :
    ((overwrite memory index data).drop first).take (index - first) =
      (memory.drop first).take (index - first) := by
  have front : (memory.take index).length = index := List.length_take_of_le inside
  have enough : index - first ≤ ((memory.take index).drop first).length :=
    Nat.le_of_eq (by rw [List.length_drop, front])
  rw [overwrite, List.append_assoc, List.drop_append_of_le_length (by omega),
    List.take_append_of_le_length enough, List.drop_take, List.take_take, Nat.min_self]

/-- `class Buffer`, without its two totals, which the servers do not use. -/
structure Buffer where
  memory : Bytes
  readIdx : Nat
  writeIdx : Nat
  begin_le : idxBegin ≤ readIdx
  read_le : readIdx ≤ writeIdx
  write_le : writeIdx ≤ memory.length

namespace Buffer

/-- A buffer is its memory and its indices. -/
theorem eq_of_members {buffer other : Buffer} (memory : buffer.memory = other.memory)
    (readIdx : buffer.readIdx = other.readIdx) (writeIdx : buffer.writeIdx = other.writeIdx) :
    buffer = other := by
  obtain ⟨_, _, _, _, _, _⟩ := buffer
  obtain rfl := memory
  obtain rfl := readIdx
  obtain rfl := writeIdx
  rfl

/-- The constructor with a size. -/
def ofSize (bufferSize : Nat) : Buffer where
  memory := List.replicate (bufferSize + idxBegin) 0
  readIdx := idxBegin
  writeIdx := idxBegin
  begin_le := Nat.le_refl _
  read_le := Nat.le_refl _
  write_le := by
    rw [List.length_replicate]
    exact Nat.le_add_left _ _

/-- The constructor. -/
def new : Buffer := ofSize defaultBufferSize

def readableLength (buffer : Buffer) : Nat := buffer.writeIdx - buffer.readIdx

def writableLength (buffer : Buffer) : Nat := buffer.memory.length - buffer.writeIdx

/-- The bytes from `ReadBegin` on that are unread. -/
def readable (buffer : Buffer) : Bytes :=
  (buffer.memory.drop buffer.readIdx).take buffer.readableLength

theorem readable_length (buffer : Buffer) : buffer.readable.length = buffer.readableLength := by
  have := buffer.write_le
  rw [readable, List.length_take, List.length_drop, readableLength]
  omega

/-- `AddReadIndex`, which stops at the write index. -/
def addReadIndex (buffer : Buffer) (index : Nat) : Buffer :=
  { buffer with
    readIdx := buffer.readIdx + min index buffer.readableLength
    begin_le := Nat.le_trans buffer.begin_le (Nat.le_add_right _ _)
    read_le := by
      have := buffer.read_le
      simp only [readableLength]
      omega }

/-- `DropAllData`. -/
def dropAllData (buffer : Buffer) : Buffer := buffer.addReadIndex buffer.readableLength

/-- `ReadAllAsString`. -/
def readAllAsString (buffer : Buffer) : Bytes × Buffer :=
  (buffer.readable, buffer.addReadIndex buffer.readableLength)

/-- `AdjustBuffer`. -/
def adjustBuffer (buffer : Buffer) : Buffer where
  memory := overwrite buffer.memory idxBegin buffer.readable
  readIdx := idxBegin
  writeIdx := idxBegin + buffer.readableLength
  begin_le := Nat.le_refl _
  read_le := Nat.le_add_right _ _
  write_le := by
    have begins := buffer.begin_le
    have reads := buffer.read_le
    have writes := buffer.write_le
    have room : idxBegin + buffer.readable.length ≤ buffer.memory.length := by
      rw [readable_length, readableLength]
      omega
    rw [overwrite_length room, ← readable_length]
    exact room

/-- `memcpy` to `WriteBegin`, and `AddWriteIndex`. -/
def write (buffer : Buffer) (data : Bytes) (room : data.length ≤ buffer.writableLength) :
    Buffer where
  memory := overwrite buffer.memory buffer.writeIdx data
  readIdx := buffer.readIdx
  writeIdx := buffer.writeIdx + data.length
  begin_le := buffer.begin_le
  read_le := Nat.le_trans buffer.read_le (Nat.le_add_right _ _)
  write_le := by
    have writes := buffer.write_le
    rw [writableLength] at room
    rw [overwrite_length (by omega)]
    omega

/-- `ReSize`, to a size that is not below the present one. -/
def reSize (buffer : Buffer) (newSize : Nat) : Buffer :=
  { buffer with
    memory := buffer.memory ++ List.replicate (newSize + idxBegin - buffer.memory.length) 0
    write_le := by
      have writes := buffer.write_le
      rw [List.length_append]
      omega }

/-- The vector of `AppendData`, in front of the copy. -/
def reserve (buffer : Buffer) (length : Nat) : Buffer :=
  let buffer := buffer.adjustBuffer
  if buffer.writableLength < length then
    buffer.reSize (buffer.memory.length + (length - buffer.writableLength))
  else buffer

theorem le_reserve_writableLength (buffer : Buffer) (length : Nat) :
    length ≤ (buffer.reserve length).writableLength := by
  simp only [reserve]
  split
  · have writes := buffer.adjustBuffer.write_le
    simp only [writableLength, reSize, List.length_append, List.length_replicate]
    omega
  · omega

/-- `AppendData`. -/
def appendData (buffer : Buffer) (data : Bytes) : Buffer :=
  (buffer.reserve data.length).write data (buffer.le_reserve_writableLength data.length)

/-- `ReadFromSockfd`, when the socket holds the bytes `arrived`: the buffer and the result.
The kernel copies as many as there is room for. -/
def readFromSockfd (buffer : Buffer) (arrived : Bytes) : Buffer × Nat :=
  let buffer := buffer.adjustBuffer
  (buffer.write (arrived.take buffer.writableLength) (List.length_take_le _ _),
    (arrived.take buffer.writableLength).length)

/-! ## The unread bytes -/

@[simp] theorem new_readable : new.readable = [] := by
  have empty : new.readableLength = 0 := Nat.sub_self _
  rw [readable, empty, List.take_zero]

theorem addReadIndex_readableLength (buffer : Buffer) (index : Nat) :
    (buffer.addReadIndex index).readableLength =
      buffer.readableLength - min index buffer.readableLength :=
  (Nat.sub_sub buffer.writeIdx buffer.readIdx _).symm

@[simp] theorem addReadIndex_readable (buffer : Buffer) (index : Nat) :
    (buffer.addReadIndex index).readable = buffer.readable.drop index := by
  have skipped : (buffer.addReadIndex index).memory.drop (buffer.addReadIndex index).readIdx =
      (buffer.memory.drop buffer.readIdx).drop (min index buffer.readableLength) :=
    List.drop_drop.symm
  rw [readable, skipped, addReadIndex_readableLength, readable, List.drop_take]
  rcases Nat.le_total index buffer.readableLength with inside | beyond
  · rw [Nat.min_eq_left inside]
  · rw [Nat.min_eq_right beyond, Nat.sub_self, List.take_zero, Nat.sub_eq_zero_of_le beyond,
      List.take_zero]

@[simp] theorem dropAllData_readable (buffer : Buffer) : buffer.dropAllData.readable = [] := by
  rw [dropAllData, addReadIndex_readable, ← readable_length, List.drop_length]

@[simp] theorem adjustBuffer_readableLength (buffer : Buffer) :
    buffer.adjustBuffer.readableLength = buffer.readableLength := by
  rw [readableLength, adjustBuffer]
  exact Nat.add_sub_cancel_left _ _

@[simp] theorem adjustBuffer_readable (buffer : Buffer) :
    buffer.adjustBuffer.readable = buffer.readable := by
  have begins := buffer.begin_le
  have reads := buffer.read_le
  have writes := buffer.write_le
  have front : idxBegin ≤ buffer.memory.length :=
    Nat.le_trans begins (Nat.le_trans reads writes)
  rw [readable, adjustBuffer_readableLength, ← readable_length]
  exact overwrite_written front

/-- What is written comes behind the unread bytes. -/
@[simp] theorem write_readable (buffer : Buffer) (data : Bytes)
    (room : data.length ≤ buffer.writableLength) :
    (buffer.write data room).readable = buffer.readable ++ data := by
  have reads := buffer.read_le
  have writes := buffer.write_le
  have length : (buffer.write data room).readableLength =
      buffer.readableLength + data.length := by
    rw [readableLength, readableLength, write]
    dsimp only
    omega
  have index : buffer.readIdx + buffer.readableLength = buffer.writeIdx := by
    rw [readableLength]
    omega
  have behind : ((overwrite buffer.memory buffer.writeIdx data).drop buffer.writeIdx).take
      data.length = data := overwrite_written writes
  rw [readable, length, List.take_add, readable, write]
  dsimp only
  rw [List.drop_drop, index, behind]
  congr 1
  exact overwrite_before reads writes

@[simp] theorem reSize_readable (buffer : Buffer) (newSize : Nat) :
    (buffer.reSize newSize).readable = buffer.readable := by
  have reads := buffer.read_le
  have writes := buffer.write_le
  have length : (buffer.reSize newSize).readableLength = buffer.readableLength := rfl
  rw [readable, length, readable, reSize]
  dsimp only
  rw [List.drop_append_of_le_length (by omega),
    List.take_append_of_le_length (by rw [List.length_drop, readableLength]; omega)]

@[simp] theorem reserve_readable (buffer : Buffer) (length : Nat) :
    (buffer.reserve length).readable = buffer.readable := by
  simp only [reserve]
  split
  · rw [reSize_readable, adjustBuffer_readable]
  · exact adjustBuffer_readable buffer

/-- **`AppendData` appends.** -/
@[simp] theorem appendData_readable (buffer : Buffer) (data : Bytes) :
    (buffer.appendData data).readable = buffer.readable ++ data := by
  rw [appendData, write_readable, reserve_readable]

/-! ## The room for a read -/

/-- The number of unread bytes that a buffer can hold without growing. -/
def capacity (buffer : Buffer) : Nat := buffer.memory.length - idxBegin

@[simp] theorem new_capacity : new.capacity = defaultBufferSize := by
  rw [capacity, new, ofSize, List.length_replicate, Nat.add_sub_cancel]

@[simp] theorem addReadIndex_capacity (buffer : Buffer) (index : Nat) :
    (buffer.addReadIndex index).capacity = buffer.capacity := rfl

theorem adjustBuffer_memory_length (buffer : Buffer) :
    buffer.adjustBuffer.memory.length = buffer.memory.length := by
  have begins := buffer.begin_le
  have reads := buffer.read_le
  have writes := buffer.write_le
  rw [adjustBuffer]
  refine overwrite_length ?_
  rw [readable_length, readableLength]
  omega

/-- Once the buffer is adjusted, all the room that is not unread bytes is behind them. -/
theorem adjustBuffer_writableLength (buffer : Buffer) :
    buffer.adjustBuffer.writableLength = buffer.capacity - buffer.readableLength := by
  rw [writableLength, adjustBuffer_memory_length, capacity, Nat.sub_sub]
  rfl

@[simp] theorem readFromSockfd_capacity (buffer : Buffer) (arrived : Bytes) :
    (buffer.readFromSockfd arrived).1.capacity = buffer.capacity := by
  have same : (buffer.readFromSockfd arrived).1.memory.length =
      buffer.adjustBuffer.memory.length := by
    have writes := buffer.adjustBuffer.write_le
    rw [readFromSockfd, write]
    refine overwrite_length ?_
    rw [List.length_take, writableLength]
    omega
  rw [capacity, same, adjustBuffer_memory_length, capacity]

theorem readableLength_le_capacity (buffer : Buffer) : buffer.readableLength ≤ buffer.capacity := by
  have begins := buffer.begin_le
  have writes := buffer.write_le
  rw [readableLength, capacity]
  omega

/-- **`ReadFromSockfd` appends what it returns the length of.** -/
theorem readFromSockfd_readable (buffer : Buffer) (arrived : Bytes) :
    (buffer.readFromSockfd arrived).1.readable =
      buffer.readable ++ arrived.take (buffer.readFromSockfd arrived).2 := by
  rw [readFromSockfd, write_readable, adjustBuffer_readable, List.length_take,
    ← List.take_eq_take_min]

/-- **A read returns 0** exactly when nothing has arrived or the buffer is full. -/
theorem readFromSockfd_eq_zero (buffer : Buffer) (arrived : Bytes) :
    (buffer.readFromSockfd arrived).2 = 0 ↔
      arrived = [] ∨ buffer.capacity ≤ buffer.readableLength := by
  have length : (buffer.readFromSockfd arrived).2 =
      min (buffer.capacity - buffer.readableLength) arrived.length := by
    rw [← adjustBuffer_writableLength]
    exact List.length_take
  rw [length, ← List.length_eq_zero_iff]
  omega

/-- **Where every read is taken with `ReadAllAsString`**, a read hands over what has just
arrived, and leaves nothing for the next one. -/
theorem readAllAsString_readFromSockfd {buffer : Buffer} (empty : buffer.readable = [])
    (arrived : Bytes) :
    (buffer.readFromSockfd arrived).1.readAllAsString.1 =
        arrived.take (buffer.readFromSockfd arrived).2 ∧
      (buffer.readFromSockfd arrived).1.readAllAsString.2.readable = [] := by
  constructor
  · show (buffer.readFromSockfd arrived).1.readable = _
    rw [readFromSockfd_readable, empty, List.nil_append]
  · exact dropAllData_readable _

end Buffer

end LiveBroadcast
