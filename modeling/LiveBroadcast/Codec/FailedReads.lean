import LiveBroadcast.Codec.FlvManager
import LiveBroadcast.Utils.RawBuffer

/-!
# Reads that fail

Three functions fill a buffer: `File::Read` and `FlvManager::ReadDataFromFile` from a file, and
`Buffer::ReadFromSockfd` from a socket. All of them adjust the buffer, hand the room in it to
the system, and get a signed result.

`ReadFromSockfd` returns a result of 0 or -1 as it is. The other two hand it to `AddWriteIndex`,
whose argument is a `size_t`. So after a read of -1 the write index is one less than before, and
the buffer has lost its last unread byte, or if it had none its indices are out of order and
the length of its unread bytes wraps (`readableLength_failed`). A read is right exactly if it
does not fail or is one of the socket (`fill_readRight_iff`).
-/

set_option autoImplicit false

namespace LiveBroadcast

/-- What comes of the room that is handed to `read` or `fread`: -1, or the bytes that are copied
there, none of them at the end. -/
inductive FillOutcome where
  | failed
  | copied (data : Bytes)
  deriving DecidableEq, Repr

namespace FillOutcome

/-- What `read` or `fread` returns. -/
def result : FillOutcome → Int
  | failed => -1
  | copied data => data.length

/-- The bytes that are copied. -/
def data : FillOutcome → Bytes
  | failed => []
  | copied data => data

/-- No more bytes are copied than a buffer has room for once it is adjusted. -/
def Fits (outcome : FillOutcome) (buffer : RawBuffer) : Prop :=
  outcome.data.length ≤ buffer.adjustBuffer.writableLength.toNat

instance (outcome : FillOutcome) (buffer : RawBuffer) : Decidable (outcome.Fits buffer) :=
  inferInstanceAs (Decidable (_ ≤ _))

/-- What a read has to leave: an intact buffer, with exactly the bytes behind the unread ones
that were copied, and with their number added to what was written. After -1 and 0 these are
none, so that the unread bytes and both totals are what they were. -/
structure ReadRight (outcome : FillOutcome) (before after : RawBuffer) : Prop where
  intact : after.Intact
  readable : after.readable = before.readable ++ outcome.data
  sumRead : after.sumRead = before.sumRead
  sumWrite : after.sumWrite = before.sumWrite + UInt64.ofNat outcome.data.length

end FillOutcome

/-- The system copies its bytes to `WriteBegin`. -/
def RawBuffer.receive (buffer : RawBuffer) : FillOutcome → RawBuffer
  | .failed => buffer
  | .copied data => buffer.copyIn data

/-- `File::Read` of a buffer that is not a null pointer. -/
def File.readBuffer (buffer : RawBuffer) (outcome : FillOutcome) : RawBuffer × Int :=
  let buffer := buffer.adjustBuffer.receive outcome
  (buffer.addWriteIndex (UInt64.ofInt outcome.result), outcome.result)

/-- `ReadDataFromFile`, on its buffer. -/
def FlvManager.readIntoBuffer (buffer : RawBuffer) (outcome : FillOutcome) : RawBuffer × UInt64 :=
  let buffer := buffer.adjustBuffer.receive outcome
  (buffer.addWriteIndex (UInt64.ofInt outcome.result), UInt64.ofInt outcome.result)

/-- `ReadFromSockfd`. -/
def RawBuffer.readFromSockfd (buffer : RawBuffer) (outcome : FillOutcome) : RawBuffer × Int :=
  let buffer := buffer.adjustBuffer.receive outcome
  if outcome.result ≤ 0 then (buffer, outcome.result)
  else (buffer.addWriteIndex (UInt64.ofInt outcome.result), outcome.result)

/-- The functions that fill a buffer. -/
inductive FillPath where
  | fileRead
  | readDataFromFile
  | readFromSockfd
  deriving DecidableEq, Repr

/-- The buffer that is left. -/
def FillPath.fill (buffer : RawBuffer) (outcome : FillOutcome) : FillPath → RawBuffer
  | .fileRead => (File.readBuffer buffer outcome).1
  | .readDataFromFile => (FlvManager.readIntoBuffer buffer outcome).1
  | .readFromSockfd => (buffer.readFromSockfd outcome).1

namespace FillPath

variable {before : RawBuffer}

theorem ofInt_length (data : Bytes) : UInt64.ofInt data.length = UInt64.ofNat data.length := by
  have modulus : ((data.length : Int) % 2 ^ 64).toNat = data.length % 2 ^ 64 := by omega
  rw [UInt64.ofInt, modulus]
  exact UInt64.ofNat_mod_size

/-- **Bytes that are copied** are written, on each of the paths. -/
theorem fill_copied (path : FillPath) (data : Bytes) :
    path.fill before (.copied data) =
      (before.adjustBuffer.copyIn data).addWriteIndex (UInt64.ofNat data.length) := by
  cases path with
  | fileRead =>
      rw [← ofInt_length]
      rfl
  | readDataFromFile =>
      rw [← ofInt_length]
      rfl
  | readFromSockfd =>
      cases data with
      | nil =>
          have kept (buffer : RawBuffer) : buffer.addWriteIndex 0 = buffer := by
            rw [RawBuffer.addWriteIndex, UInt64.add_zero, UInt64.add_zero]
          exact (kept _).symm
      | cons byte data =>
          have positive : ¬ ((byte :: data).length : Int) ≤ 0 := by
            rw [List.length_cons]
            omega
          show (RawBuffer.readFromSockfd before (.copied (byte :: data))).1 = _
          rw [← ofInt_length, RawBuffer.readFromSockfd, FillOutcome.result, if_neg positive]
          rfl

/-- A read that fails takes 1 off the write index, unless it is one of the socket. -/
theorem fill_failed (path : FillPath) (from_file : path ≠ .readFromSockfd) :
    path.fill before .failed = before.adjustBuffer.addWriteIndex (-1) := by
  cases path with
  | fileRead => rfl
  | readDataFromFile => rfl
  | readFromSockfd => exact absurd rfl from_file

/-- **A read of a file that fails** loses an unread byte; without one, the length wraps. -/
theorem readableLength_failed (path : FillPath) (from_file : path ≠ .readFromSockfd) :
    (path.fill before .failed).readableLength = before.readableLength - 1 := by
  rw [fill_failed path from_file]
  show UInt64.ofNat idxBegin + before.readableLength + -1 - UInt64.ofNat idxBegin = _
  rw [UInt64.add_assoc, UInt64.add_comm, UInt64.add_sub_cancel, ← UInt64.sub_eq_add_neg]

/-- **What is copied is read right.** -/
theorem copied_readRight (path : FillPath) (intact : before.Intact) {data : Bytes}
    (fits : data.length ≤ before.adjustBuffer.writableLength.toNat) :
    (FillOutcome.copied data).ReadRight before (path.fill before (.copied data)) := by
  rw [fill_copied]
  refine ⟨intact.adjustBuffer.written fits, ?_, rfl, rfl⟩
  rw [intact.adjustBuffer.written_readable fits, intact.adjustBuffer_readable]
  rfl

/-- **A read is right** exactly if it does not fail, or if the path is that of the socket. -/
theorem fill_readRight_iff (path : FillPath) (intact : before.Intact) {outcome : FillOutcome}
    (fits : outcome.Fits before) :
    outcome.ReadRight before (path.fill before outcome) ↔
      path = .readFromSockfd ∨ outcome ≠ .failed := by
  cases outcome with
  | copied data =>
      exact iff_of_true (path.copied_readRight intact fits) (Or.inr FillOutcome.noConfusion)
  | failed =>
      constructor
      · intro right
        by_contra neither
        have from_file : path ≠ .readFromSockfd := fun socket => neither (Or.inl socket)
        have total := right.sumWrite
        rw [fill_failed path from_file] at total
        exact absurd ((UInt64.add_right_inj _).mp total) (by decide)
      · rintro (rfl | succeeds)
        · refine ⟨intact.adjustBuffer, ?_, rfl, (UInt64.add_zero _).symm⟩
          exact intact.adjustBuffer_readable.trans (List.append_nil _).symm
        · exact absurd rfl succeeds

/-- A read of three bytes from a file. -/
theorem fill_readRight_iff_threeBytes :
    (FillOutcome.copied [1, 2, 3]).ReadRight (.ofSize 16)
        (fileRead.fill (.ofSize 16) (.copied [1, 2, 3])) ↔
      fileRead = .readFromSockfd ∨ FillOutcome.copied [1, 2, 3] ≠ .failed :=
  fileRead.fill_readRight_iff ⟨by decide, by decide, by decide, by decide⟩ (by decide)

/-- **A file that is not open**: the buffer that was to be filled pretends to have unread bytes. -/
theorem unopenedFile_wraps :
    (RawBuffer.ofSize 16).Intact ∧ FillOutcome.failed.Fits (.ofSize 16) ∧
      ¬ FillOutcome.failed.ReadRight (.ofSize 16) (fileRead.fill (.ofSize 16) .failed) ∧
        (fileRead.fill (.ofSize 16) .failed).readableLength.toNat = 2 ^ 64 - 1 := by
  refine ⟨⟨by decide, by decide, by decide, by decide⟩, by decide, ?_, by decide⟩
  intro right
  exact absurd right.intact.read_le (by decide)

/-! ## The buffers of the rest of the model -/

/-- What a socket has ready is read as from the buffers of the connections. -/
theorem readFromSockfd_buffer (intact : before.Intact) (arrived : Bytes) :
    ∃ after : (readFromSockfd.fill before
        (.copied (arrived.take before.adjustBuffer.writableLength.toNat))).Intact,
      after.buffer = (intact.buffer.readFromSockfd arrived).1 := by
  have fits : (arrived.take before.adjustBuffer.writableLength.toNat).length ≤
    before.adjustBuffer.writableLength.toNat := List.length_take_le _ _
  have same := intact.adjustBuffer_buffer
  have length := intact.adjustBuffer.writableLength_toNat
  have room : (arrived.take before.adjustBuffer.writableLength.toNat).length ≤
      intact.adjustBuffer.buffer.writableLength := by
    rw [← length]
    exact fits
  rw [fill_copied]
  refine ⟨intact.adjustBuffer.written fits, ?_⟩
  rw [intact.adjustBuffer.written_buffer fits room]
  revert room
  rw [length, same]
  intro room
  rfl

/-- What a file has left is read as by `FlvManager.readDataFromFile`. -/
theorem readDataFromFile_readable (intact : before.Intact) (manager : FlvManager)
    (same : before.readable = manager.buffer)
    (size : intact.buffer.capacity = flvBufferSize) :
    (readDataFromFile.fill before (.copied
        (manager.file.read before.adjustBuffer.writableLength.toNat).2)).readable =
      manager.readDataFromFile.buffer := by
  have fits : (manager.file.read before.adjustBuffer.writableLength.toNat).2.length ≤
    before.adjustBuffer.writableLength.toNat := List.length_take_le _ _
  have room : before.adjustBuffer.writableLength.toNat =
      flvBufferSize - manager.buffer.length := by
    rw [intact.adjustBuffer.writableLength_toNat, intact.adjustBuffer_buffer,
      Buffer.adjustBuffer_writableLength, size, ← same, intact.readable_eq,
      Buffer.readable_length]
  rw [fill_copied, intact.adjustBuffer.written_readable fits, intact.adjustBuffer_readable,
    same, room]
  rfl

end FillPath

end LiveBroadcast
