import Mathlib.Logic.Function.Basic
import LiveBroadcast.Foundation.LittleEndian
import LiveBroadcast.Foundation.Runs
import LiveBroadcast.Utils.BufferCalls

/-!
# Buffers are queues

Any number of buffers, and calls of their methods in any order (`Buffers.machine`). Beside them
run queues that know nothing of vectors and indices (`Queues.machine`): what is appended enters,
what is read leaves, `AdjustBuffer` is nothing to them, and `SwapBuffer` exchanges two of them
with their histories.

**What goes wrong.** A size that wraps breaks a buffer in the call that asks for it, and nothing
else does: the buffers are the queues, all along a run, exactly if no size wraps in it
(`keepsQueues_iff`).
-/

set_option autoImplicit false

namespace LiveBroadcast

variable {ι : Type}

/-! ## Calls -/

/-- What the overloads of `AppendData` are given: bytes in memory (a pointer and a length, or
those of a string), another buffer (a reference or a pointer), or a number. An object in memory
has less than `2 ^ 63` bytes. -/
inductive Appended (ι : Type) where
  | bytes (data : Bytes) (small : data.length < 2 ^ 63)
  | buffer (other : ι)
  | sizeT (number : UInt64)
  | uint32 (number : UInt32)

/-- The bytes that are appended, where `contents` are the unread bytes of the buffers. -/
def Appended.data (contents : ι → Option Bytes) : Appended ι → Option Bytes
  | .bytes data _ => some data
  | .buffer other => contents other
  | .sizeT number => some (LittleEndian.encode 8 number.toNat)
  | .uint32 number => some (LittleEndian.encode 4 number.toNat)

theorem Appended.uint32_ne_buffer (number : UInt32) (id : ι) :
    Appended.uint32 number ≠ .buffer id := nofun

/-- The calls. What is appended does not alias the buffer. `write` is a copy of bytes to
`WriteBegin` with `AddWriteIndex` behind it. -/
inductive BufferCall (ι : Type) where
  | construct (id : ι) (bufferSize : UInt64)
  | appendData (id : ι) (source : Appended ι) (apart : source ≠ .buffer id)
  | addReadIndex (id : ι) (index : UInt64)
  | dropAllData (id : ι)
  | readAllAsString (id : ι)
  | adjustBuffer (id : ι)
  | reset (id : ι)
  | swapBuffer (id : ι) (other : Option ι)
  | write (id : ι) (data : Bytes)

variable [DecidableEq ι]

/-- The buffers that there are. -/
abbrev Buffers (ι : Type) := ι → Option RawBuffer

namespace Buffers

/-- The unread bytes. -/
def contents (buffers : Buffers ι) (id : ι) : Option Bytes := (buffers id).map RawBuffer.readable

/-- A method is called on a buffer, if it is there. -/
def call (buffers : Buffers ι) (id : ι) (method : RawBuffer → Except Fault RawBuffer) :
    Except Fault (Buffers ι) :=
  match buffers id with
  | none => .ok buffers
  | some buffer => (method buffer).map fun after => Function.update buffers id (some after)

def step (buffers : Buffers ι) : BufferCall ι → Except Fault (Buffers ι)
  | .construct id bufferSize =>
      (RawBuffer.construct bufferSize).map fun buffer => Function.update buffers id (some buffer)
  | .appendData id source _ =>
      match source.data buffers.contents with
      | none => .ok buffers
      | some data => buffers.call id fun buffer => buffer.appendData data
  | .addReadIndex id index => buffers.call id fun buffer => .ok (buffer.addReadIndex index)
  | .dropAllData id => buffers.call id fun buffer => .ok buffer.dropAllData
  | .readAllAsString id => buffers.call id fun buffer => .ok buffer.readAllAsString.2
  | .adjustBuffer id => buffers.call id fun buffer => .ok buffer.adjustBuffer
  | .reset id => buffers.call id fun buffer => .ok buffer.reset
  | .swapBuffer _ none => .ok buffers
  | .swapBuffer id (some other) =>
      match buffers id, buffers other with
      | some buffer, some swapped =>
          let both := buffer.swapBuffer swapped
          .ok (Function.update (Function.update buffers id (some both.1)) other (some both.2))
      | _, _ => .ok buffers
  | .write id data => buffers.call id fun buffer => buffer.write data

/-- The calls, one after the other; a fault ends the run. -/
def machine : Machine (Except Fault (Buffers ι)) (BufferCall ι) := Machine.faulting step

/-- The size that the call asks for does not wrap. -/
def SizeFits (buffers : Buffers ι) : BufferCall ι → Prop
  | .construct _ bufferSize => bufferSize.toNat + idxBegin < 2 ^ 64
  | .appendData id source _ => ∀ buffer data, buffers id = some buffer →
      source.data buffers.contents = some data →
        buffer.readable.length + data.length + 2 * idxBegin < 2 ^ 64
  | _ => True

/-- A direct write is into the room that there is. -/
def WritesInside (buffers : Buffers ι) : BufferCall ι → Prop
  | .write id data => ∀ buffer, buffers id = some buffer →
      data.length ≤ buffer.writableLength.toNat
  | _ => True

end Buffers

/-! ## Queues -/

/-- The queues that there are, each with its history. -/
abbrev Queues (ι : Type) := ι → Option (Ledger UInt8)

namespace Queues

def contents (queues : Queues ι) (id : ι) : Option Bytes := (queues id).map Ledger.queue

def change (queues : Queues ι) (id : ι) (change : Ledger UInt8 → Ledger UInt8) : Queues ι :=
  Function.update queues id ((queues id).map change)

theorem change_same (queues : Queues ι) (id : ι) :
    (queues.change id fun ledger => ledger) = queues := by
  rw [change, Option.map_id']
  exact Function.update_eq_self id queues

/-- What the calls are to the queues. -/
def step (queues : Queues ι) : BufferCall ι → Queues ι
  | .construct id _ => Function.update queues id (some .empty)
  | .appendData id source _ =>
      match source.data queues.contents with
      | none => queues
      | some data => queues.change id fun ledger => ledger.enter data
  | .addReadIndex id index => queues.change id fun ledger => ledger.leave index.toNat
  | .dropAllData id => queues.change id Ledger.leaveAll
  | .readAllAsString id => queues.change id Ledger.leaveAll
  | .adjustBuffer _ => queues
  | .reset id => queues.change id fun _ => .empty
  | .swapBuffer _ none => queues
  | .swapBuffer id (some other) =>
      match queues id, queues other with
      | some ledger, some swapped =>
          Function.update (Function.update queues id (some swapped)) other (some ledger)
      | _, _ => queues
  | .write id data => queues.change id fun ledger => ledger.enter data

def machine : Machine (Queues ι) (BufferCall ι) := ⟨step⟩

end Queues

/-! ## Buffers beside queues -/

namespace Buffers

/-- There is a queue for every buffer, and the buffer tracks it. -/
def Related (queues : Queues ι) (buffers : Buffers ι) : Prop :=
  ∀ id, Option.Rel RawBuffer.Tracks (queues id) (buffers id)

namespace Related

variable {queues : Queues ι} {buffers : Buffers ι}

omit [DecidableEq ι] in
/-- What is at an id. -/
theorem cases (related : Related queues buffers) (id : ι) :
    queues id = none ∧ buffers id = none ∨
      ∃ ledger buffer, queues id = some ledger ∧ buffers id = some buffer ∧
        RawBuffer.Tracks ledger buffer := by
  have here := related id
  cases ledger : queues id with
  | none =>
      cases buffer : buffers id with
      | none => exact Or.inl ⟨rfl, rfl⟩
      | some buffer =>
          rw [ledger, buffer] at here
          cases here
  | some ledger' =>
      cases buffer : buffers id with
      | none =>
          rw [ledger, buffer] at here
          cases here
      | some buffer' =>
          rw [ledger, buffer] at here
          cases here with
          | some tracks => exact Or.inr ⟨ledger', buffer', rfl, rfl, tracks⟩

omit [DecidableEq ι] in
theorem tracks (related : Related queues buffers) {id : ι} {buffer : RawBuffer}
    (there : buffers id = some buffer) : ∃ ledger, RawBuffer.Tracks ledger buffer := by
  rcases related.cases id with ⟨-, nothing⟩ | ⟨ledger, found, -, known, tracks⟩
  · rw [there] at nothing
    cases nothing
  · rw [there] at known
    obtain rfl := Option.some.inj known
    exact ⟨ledger, tracks⟩

omit [DecidableEq ι] in
theorem contents_eq (related : Related queues buffers) : queues.contents = buffers.contents := by
  funext id
  rw [Queues.contents, Buffers.contents]
  rcases related.cases id with ⟨none, nothing⟩ | ⟨ledger, buffer, queue, there, tracks⟩
  · rw [none, nothing]
    rfl
  · rw [queue, there, Option.map_some, Option.map_some, tracks.readable]

omit [DecidableEq ι] in
/-- What is appended is an object in memory, as are the unread bytes of a buffer. -/
theorem data_length_lt (related : Related queues buffers) {source : Appended ι} {data : Bytes}
    (appended : source.data buffers.contents = some data) : data.length < 2 ^ 63 := by
  cases source with
  | bytes given small =>
      obtain rfl := Option.some.inj appended
      exact small
  | buffer other =>
      obtain ⟨buffer, there, rfl⟩ := Option.map_eq_some_iff.mp appended
      obtain ⟨ledger, tracks⟩ := related.tracks there
      have size := tracks.intact.size_lt
      have inside := tracks.intact.readable_le
      omega
  | sizeT number =>
      obtain rfl := Option.some.inj appended
      rw [LittleEndian.length_encode]
      decide
  | uint32 number =>
      obtain rfl := Option.some.inj appended
      rw [LittleEndian.length_encode]
      decide

/-- A buffer and its queue change. -/
theorem update (related : Related queues buffers) (id : ι) {ledger : Ledger UInt8}
    {buffer : RawBuffer} (tracks : RawBuffer.Tracks ledger buffer) :
    Related (Function.update queues id (some ledger))
      (Function.update buffers id (some buffer)) := by
  intro other
  rw [Function.update_apply, Function.update_apply]
  split
  · exact .some tracks
  · exact related other

end Related

/-- The buffers are related to the queues, or a vector has thrown. -/
def Follows (queues : Queues ι) : Except Fault (Buffers ι) → Prop
  | .ok buffers => Related queues buffers
  | .error fault => fault = .lengthError

namespace Related

variable {queues : Queues ι} {buffers : Buffers ι}

/-- **A method that does to a buffer what a change does to its queue.** -/
theorem call (related : Related queues buffers) (id : ι) {change : Ledger UInt8 → Ledger UInt8}
    {method : RawBuffer → Except Fault RawBuffer}
    (follows : ∀ ledger buffer, buffers id = some buffer → RawBuffer.Tracks ledger buffer →
      method buffer = .error .lengthError ∨
        ∃ after, method buffer = .ok after ∧ RawBuffer.Tracks (change ledger) after) :
    Follows (queues.change id change) (buffers.call id method) := by
  rcases related.cases id with ⟨none, nothing⟩ | ⟨ledger, buffer, queue, there, tracks⟩
  · have same : queues.change id change = queues := by
      rw [Queues.change, none]
      exact Function.update_eq_self_iff.mpr none.symm
    rw [Buffers.call, nothing, same]
    exact related
  · rw [Buffers.call, there, Queues.change, queue]
    rcases follows ledger buffer there tracks with throws | ⟨after, returns, tracks⟩
    · show Follows _ ((method buffer).map _)
      rw [throws]
      rfl
    · show Follows _ ((method buffer).map _)
      rw [returns]
      exact related.update id tracks

/-- The same for a method that always returns. -/
theorem calls (related : Related queues buffers) (id : ι) {change : Ledger UInt8 → Ledger UInt8}
    {method : RawBuffer → RawBuffer}
    (follows : ∀ ledger buffer, RawBuffer.Tracks ledger buffer →
      RawBuffer.Tracks (change ledger) (method buffer)) :
    Follows (queues.change id change) (buffers.call id fun buffer => .ok (method buffer)) :=
  related.call id fun ledger buffer _ tracks =>
    Or.inr ⟨method buffer, rfl, follows ledger buffer tracks⟩

/-- Both buffers have been exchanged, and so have their queues. -/
theorem swapBuffer (related : Related queues buffers) (id : ι) (other : Option ι) :
    Follows (queues.step (.swapBuffer id other)) (buffers.step (.swapBuffer id other)) := by
  cases other with
  | none => exact related
  | some other =>
      rw [Queues.step, Buffers.step]
      rcases related.cases id with ⟨none, nothing⟩ | ⟨ledger, buffer, queue, there, tracks⟩
      · rw [none, nothing]
        exact related
      · rw [queue, there]
        rcases related.cases other with
          ⟨none, nothing⟩ | ⟨ledger', buffer', queue', there', tracks'⟩
        · rw [none, nothing]
          exact related
        · rw [queue', there']
          exact (related.update id tracks').update other tracks

/-- **`AppendData`**: the bytes enter the queue if the size that is asked for does not wrap. -/
theorem appendData (related : Related queues buffers) {id : ι} {source : Appended ι}
    {apart : source ≠ .buffer id} (fits : buffers.SizeFits (.appendData id source apart)) :
    Follows (queues.step (.appendData id source apart))
      (buffers.step (.appendData id source apart)) := by
  rw [Queues.step, Buffers.step, related.contents_eq]
  cases appended : source.data buffers.contents with
  | none => exact related
  | some data =>
      refine related.call id fun ledger buffer there tracks => ?_
      exact tracks.appendData (related.data_length_lt appended) (fits buffer data there appended)

/-- **Every call** whose size does not wrap is a step of the queues, or a vector throws. -/
theorem step (related : Related queues buffers) {call : BufferCall ι}
    (inside : buffers.WritesInside call) (fits : buffers.SizeFits call) :
    Follows (queues.step call) (buffers.step call) := by
  cases call with
  | construct id bufferSize =>
      rw [Queues.step, Buffers.step]
      rcases RawBuffer.construct_fits fits with throws | ⟨returns, intact⟩
      · rw [throws]
        rfl
      · rw [returns]
        exact related.update id (.ofSize intact)
  | appendData id source apart => exact related.appendData fits
  | addReadIndex id index =>
      exact related.calls id fun _ _ tracks => tracks.addReadIndex index
  | dropAllData id => exact related.calls id fun _ _ tracks => tracks.dropAllData
  | readAllAsString id => exact related.calls id fun _ _ tracks => tracks.readAllAsString.2
  | adjustBuffer id =>
      have kept := related.calls id fun _ _ tracks => tracks.adjustBuffer
      rw [Queues.change_same] at kept
      exact kept
  | reset id => exact related.calls id fun _ _ tracks => tracks.reset
  | swapBuffer id other => exact related.swapBuffer id other
  | write id data =>
      refine related.call id fun ledger buffer there tracks => Or.inr ?_
      exact tracks.write (inside buffer there)

end Related

/-! ## All calls -/

/-- A buffer is the queue. Its indices are in order, its unread bytes are what has entered and not
left, and the totals count what has entered and left, so that they differ by what is readable. -/
structure IsQueue (ledger : Ledger UInt8) (buffer : RawBuffer) : Prop where
  begin_le : idxBegin ≤ buffer.readIdx.toNat
  read_le : buffer.readIdx.toNat ≤ buffer.writeIdx.toNat
  write_le : buffer.writeIdx.toNat ≤ buffer.memory.length
  readable : buffer.readable = ledger.queue
  sumWrite : buffer.sumWrite = UInt64.ofNat ledger.entered.length
  sumRead : buffer.sumRead = UInt64.ofNat ledger.left
  accounts : buffer.sumWrite - buffer.sumRead = buffer.readableLength

theorem isQueue_of_tracks {ledger : Ledger UInt8} {buffer : RawBuffer}
    (tracks : RawBuffer.Tracks ledger buffer) : IsQueue ledger buffer where
  begin_le := tracks.intact.begin_le
  read_le := tracks.intact.read_le
  write_le := tracks.intact.write_le
  readable := tracks.readable
  sumWrite := tracks.sumWrite
  sumRead := tracks.sumRead
  accounts := tracks.accounts

/-- No call has reached past the end of a vector, and the buffers are the queues. -/
def AreQueues (queues : Queues ι) (outcome : Except Fault (Buffers ι)) : Prop :=
  outcome ≠ .error .outOfBounds ∧
    ∀ buffers, outcome = .ok buffers → ∀ id, Option.Rel IsQueue (queues id) (buffers id)

namespace Related

variable {queues : Queues ι} {buffers : Buffers ι}

/-- A call whose method copies past the end. -/
theorem call_past {id : ι} {buffer : RawBuffer} {method : RawBuffer → Except Fault RawBuffer}
    (there : buffers id = some buffer) (past : method buffer = .error .outOfBounds) :
    buffers.call id method = .error .outOfBounds := by
  rw [Buffers.call, there]
  show (method buffer).map _ = _
  rw [past]
  rfl

/-- A size that wraps in the constructor leaves no queue. -/
theorem construct_needed {id : ι} {bufferSize : UInt64}
    (are : AreQueues (queues.step (.construct id bufferSize))
      (buffers.step (.construct id bufferSize))) :
    buffers.SizeFits (.construct id bufferSize) := by
  show bufferSize.toNat + idxBegin < 2 ^ 64
  by_contra wraps
  obtain ⟨buffer, built, behind⟩ := RawBuffer.construct_wraps (Nat.not_lt.mp wraps)
  have made : buffers.step (.construct id bufferSize) =
      .ok (Function.update buffers id (some buffer)) := by
    rw [Buffers.step, built]
    rfl
  have here := are.2 _ made id
  rw [Queues.step, Function.update_self, Function.update_self] at here
  cases here with
  | some isQueue => exact absurd isQueue.write_le (Nat.not_le.mpr behind)

theorem appendData_needed (related : Related queues buffers) {id : ι} {source : Appended ι}
    {apart : source ≠ .buffer id}
    (are : AreQueues (queues.step (.appendData id source apart))
      (buffers.step (.appendData id source apart))) :
    buffers.SizeFits (.appendData id source apart) := by
  intro buffer data there appended
  by_contra wraps
  obtain ⟨ledger, tracks⟩ := related.tracks there
  have past := tracks.intact.appendData_wraps (related.data_length_lt appended)
    (Nat.not_lt.mp wraps)
  apply are.1
  rw [Buffers.step, appended]
  exact call_past there past

theorem write_needed (related : Related queues buffers) {id : ι} {data : Bytes}
    (are : AreQueues (queues.step (.write id data)) (buffers.step (.write id data))) :
    buffers.WritesInside (.write id data) := by
  intro buffer there
  by_contra more
  obtain ⟨ledger, tracks⟩ := related.tracks there
  exact are.1 (call_past there (tracks.intact.write_past (Nat.not_le.mp more)))

/-- **Nothing else will do**: a call behind which the buffers are queues meets both conditions. -/
theorem needed (related : Related queues buffers) {call : BufferCall ι}
    (are : AreQueues (queues.step call) (buffers.step call)) :
    buffers.WritesInside call ∧ buffers.SizeFits call := by
  cases call with
  | construct id bufferSize => exact ⟨trivial, construct_needed are⟩
  | appendData id source apart => exact ⟨trivial, related.appendData_needed are⟩
  | write id data => exact ⟨related.write_needed are, trivial⟩
  | addReadIndex id index => exact ⟨trivial, trivial⟩
  | dropAllData id => exact ⟨trivial, trivial⟩
  | readAllAsString id => exact ⟨trivial, trivial⟩
  | adjustBuffer id => exact ⟨trivial, trivial⟩
  | reset id => exact ⟨trivial, trivial⟩
  | swapBuffer id other => exact ⟨trivial, trivial⟩

end Related

omit [DecidableEq ι] in
theorem Follows.areQueues {queues : Queues ι} {outcome : Except Fault (Buffers ι)}
    (follows : Follows queues outcome) : AreQueues queues outcome := by
  cases outcome with
  | error fault =>
      obtain rfl : fault = .lengthError := follows
      constructor
      · intro past
        cases past
      · intro buffers same
        cases same
  | ok buffers =>
      have related : Related queues buffers := follows
      constructor
      · intro past
        cases past
      · intro other same id
        obtain rfl := Except.ok.inj same
        rcases related.cases id with ⟨none, nothing⟩ | ⟨ledger, buffer, queue, there, tracks⟩
        · rw [none, nothing]
          exact .none
        · rw [queue, there]
          exact .some (isQueue_of_tracks tracks)

/-- The buffers behind some calls, beside the queues. -/
def KeepsQueues (calls : List (BufferCall ι)) : Prop :=
  AreQueues (Queues.machine.run (fun _ => none) calls)
    (Buffers.machine.run (.ok fun _ => none) calls)

/-- Every call is made where it meets the condition. -/
def Along (Condition : Buffers ι → BufferCall ι → Prop) (calls : List (BufferCall ι)) : Prop :=
  ∀ before call, before ++ [call] <+: calls → ∀ buffers,
    Buffers.machine.run (.ok fun _ => none) before = .ok buffers → Condition buffers call

/-- As a guard of the run, step by step. -/
theorem along_iff_guarded {Condition : Buffers ι → BufferCall ι → Prop}
    {calls : List (BufferCall ι)} :
    Along Condition calls ↔
      Buffers.machine.Guarded
        (fun outcome call => ∀ buffers, outcome = .ok buffers → Condition buffers call)
        (.ok fun _ => none) calls := by
  rw [Machine.guarded_iff, Along]

/-- The buffers and the queues, side by side. -/
def sideBySide : Machine (Except Fault (Buffers ι) × Queues ι) (BufferCall ι) :=
  Buffers.machine.prod Queues.machine

/-- What a call has to meet if there are buffers to make it on. -/
def Meets (Condition : Buffers ι → BufferCall ι → Prop)
    (state : Except Fault (Buffers ι) × Queues ι) (call : BufferCall ι) : Prop :=
  ∀ buffers, state.1 = .ok buffers → Condition buffers call

/-- A direct write is into the room that there is, and no size wraps. -/
def Proper (buffers : Buffers ι) (call : BufferCall ι) : Prop :=
  buffers.WritesInside call ∧ buffers.SizeFits call

theorem sideBySide_preserves : (sideBySide : Machine _ (BufferCall ι)).Preserves (Meets Proper)
    fun state => Follows state.2 state.1 := by
  constructor
  rintro ⟨outcome, queues⟩ call follows meets
  cases outcome with
  | error fault => exact follows
  | ok buffers =>
      obtain ⟨inside, fits⟩ := meets buffers rfl
      exact Related.step follows inside fits

theorem sideBySide_needed (state : Except Fault (Buffers ι) × Queues ι) (call : BufferCall ι)
    (follows : Follows state.2 state.1)
    (are : AreQueues (sideBySide.step state call).2 (sideBySide.step state call).1) :
    Meets Proper state call := by
  intro buffers here
  obtain ⟨outcome, queues⟩ := state
  obtain rfl : outcome = .ok buffers := here
  exact Related.needed follows are

theorem run_sideBySide (calls : List (BufferCall ι)) :
    sideBySide.run (.ok fun _ => none, fun _ => none) calls =
      (Buffers.machine.run (.ok fun _ => none) calls,
        Queues.machine.run (fun _ => none) calls) :=
  Machine.run_prod _ _ _ _ calls

/-- **All along a run**, the buffers are the queues exactly if every direct write is into the room
that there is and no size wraps. -/
theorem always_keepsQueues_iff (calls : List (BufferCall ι)) :
    (∀ before, before <+: calls → KeepsQueues before) ↔ Along Proper calls := by
  let start : Except Fault (Buffers ι) × Queues ι := (.ok fun _ => none, fun _ => none)
  have related : Follows start.2 start.1 := fun _ => .none
  have always := sideBySide_preserves.always_iff (fun state follows => follows.areQueues)
    sideBySide_needed related calls
  rw [Machine.guarded_iff] at always
  simp only [Machine.Always, start, run_sideBySide] at always
  exact always

/-- **Buffers are first-in first-out queues.** Any number of buffers, built with any capacities,
any sequence of calls with every direct write into the room there is: all along the run no call
reaches past the end of a vector, the indices of every buffer are in order, its unread bytes are
what has entered its queue and not left, in order, and its totals differ by their number, if and
only if no size that is computed for a vector wraps. -/
theorem keepsQueues_iff (calls : List (BufferCall ι)) (inside : Along Buffers.WritesInside calls) :
    (∀ before, before <+: calls → KeepsQueues before) ↔ Along Buffers.SizeFits calls := by
  rw [always_keepsQueues_iff]
  constructor
  · intro proper before call le buffers reached
    exact (proper before call le buffers reached).2
  · intro fits before call le buffers reached
    exact ⟨inside before call le buffers reached, fits before call le buffers reached⟩

/-- A buffer with room for four bytes; three are written, more are appended than there is room
for, and more are read than there are. -/
def fourBytes : List (BufferCall Unit) :=
  [.construct () 4, .write () [1, 2, 3],
    .appendData () (.uint32 7) (Appended.uint32_ne_buffer 7 ()), .addReadIndex () 100,
    .swapBuffer () none]

theorem fourBytes_inside : Along Buffers.WritesInside fourBytes := by
  rw [along_iff_guarded]
  refine ⟨fun _ _ => trivial, ?_, fun _ _ => trivial, fun _ _ => trivial, fun _ _ => trivial,
    trivial⟩
  intro buffers same buffer there
  obtain rfl := Except.ok.inj same
  obtain rfl := Option.some.inj there
  decide

theorem keepsQueues_iff_fourBytes :
    Along Buffers.WritesInside fourBytes ∧
      ((∀ before, before <+: fourBytes → KeepsQueues before) ↔ Along Buffers.SizeFits fourBytes) :=
  ⟨fourBytes_inside, keepsQueues_iff fourBytes fourBytes_inside⟩

/-- **A capacity that wraps**: the vector has seven bytes, and the indices are at 8. -/
theorem largestCapacity_broken :
    Buffers.machine.run (.ok fun _ => none) [.construct () 0xFFFFFFFFFFFFFFFF] =
        .ok (fun _ => some ⟨List.replicate 7 0, 8, 8, 0, 0⟩) ∧
      Along Buffers.WritesInside [.construct () 0xFFFFFFFFFFFFFFFF] ∧
        ¬ KeepsQueues [.construct () 0xFFFFFFFFFFFFFFFF] := by
  refine ⟨congrArg Except.ok (funext fun _ => rfl), ?_, fun keeps => ?_⟩
  · rw [along_iff_guarded]
    exact ⟨fun _ _ => trivial, trivial⟩
  · have fits : (0xFFFFFFFFFFFFFFFF : UInt64).toNat + idxBegin < 2 ^ 64 :=
      @Related.construct_needed Unit _ (fun _ => none) (fun _ => none) () 0xFFFFFFFFFFFFFFFF keeps
    exact absurd fits (by decide)

end Buffers

end LiveBroadcast
