import LiveBroadcast.Network.OutputOrder

/-!
# Shutting down behind pending data

`Shutdown` closes the write half at once if nothing is pending, and else leaves it to
`OnWritable`, which calls `Shutdown` again when it has sent everything. Two things go wrong.

`Shutdown` asks `IsWriting` whether something is pending, which says what the last poll
returned. And the second call of `Shutdown` finds the status `DISCONNECTING` that the first one
left, so it does nothing. So a connection is shut down gracefully exactly when `IsWriting` tells
the truth at each call and `OnWritable` never empties the buffer of a connection that is being
shut down (`shutdown_graceful_iff`).

States at rest tell what a call of `Shutdown` found. Nothing is sent behind it, and a handler in
which it closes the write half writes nothing, so what was pending at the call is pending then.
-/

set_option autoImplicit false

namespace LiveBroadcast

namespace TcpConnection

/-- The write half has been shut down. -/
def HalfClosed (connection : TcpConnection) : Prop := .shutdownWrite ∈ connection.effects

/-- Nothing is pending behind a write half that is shut down, and it is shut down once nothing
is pending on a connection that is being shut down. -/
structure Graceful (connection : TcpConnection) : Prop where
  drained : connection.HalfClosed → connection.sendBuffer = []
  followed : connection.connectionStatus = .disconnecting → connection.sendBuffer = [] →
    connection.HalfClosed

/-- The write half of a connected connection is open. -/
def OpenWhole (connection : TcpConnection) : Prop :=
  connection.connectionStatus = .connected → ¬ connection.HalfClosed

/-- An event in which `OnWritable` empties the buffer of a connection that is being shut down. -/
def DrainsClosing (connection : TcpConnection) : LoopEvent → Prop
  | .handleEvent read answer _ =>
      (connection.handleReadable read).connectionStatus = .disconnecting ∧
        ((connection.handleReadable read).writePending answer).2 = true
  | _ => False

end TcpConnection

/-- A call of `Shutdown` finds the last poll result to contain `EPOLLOUT` exactly when bytes are
pending. -/
def CallMade.InStep (made : CallMade) : Prop :=
  match made.call with
  | .send _ _ => True
  | .shutdown => made.found.connectionStatus = .connected →
      (made.found.channel.isWriting = true ↔ made.found.sendBuffer ≠ [])

namespace TcpConnection

variable {connection : TcpConnection}

/-! ## The write half of a connected connection -/

theorem halfClosed_record_send (connection : TcpConnection) (offered : Bytes) (sent : Nat) :
    (connection.record (.send offered sent)).HalfClosed ↔ connection.HalfClosed := by
  simp only [HalfClosed, record, List.mem_append, List.mem_singleton, reduceCtorEq, or_false]

theorem halfClosed_closed (connection : TcpConnection) :
    connection.closed.HalfClosed ↔ connection.HalfClosed := by
  simp only [HalfClosed, closed, record, List.mem_append, List.mem_singleton, reduceCtorEq,
    or_false]

theorem OpenWhole.keepRemain (whole : connection.OpenWhole) (remain : Bytes) :
    (connection.keepRemain remain).OpenWhole := by
  rw [OpenWhole, keepRemain_connectionStatus, HalfClosed, keepRemain_effects]
  exact whole

theorem OpenWhole.record_send (whole : connection.OpenWhole) (offered : Bytes) (sent : Nat) :
    (connection.record (.send offered sent)).OpenWhole :=
  fun connected half => whole connected ((halfClosed_record_send _ _ _).mp half)

theorem shutdown_openWhole (connection : TcpConnection) : connection.shutdown.OpenWhole :=
  fun connected => absurd connected shutdown_not_connected

theorem OpenWhole.sendInLoop (whole : connection.OpenWhole) (data : Bytes)
    (answer : KernelAnswer) : (connection.sendInLoop data answer).1.OpenWhole := by
  unfold TcpConnection.sendInLoop
  dsimp only
  split
  · exact whole
  · split
    · have recorded := whole.record_send data (answer.sent data)
      split
      · exact recorded.keepRemain _
      · split
        · exact shutdown_openWhole _
        · exact recorded.keepRemain _
    · exact whole.keepRemain _

end TcpConnection

open TcpConnection

theorem Script.run_openWhole (script : Script) {connection : TcpConnection}
    (whole : connection.OpenWhole) : (script.run connection).OpenWhole := by
  induction script generalizing connection with
  | done => exact whole
  | shutdown next ihNext => exact ihNext (shutdown_openWhole connection)
  | send data answer onComplete next ihComplete ihNext =>
      refine ihNext ?_
      have sent := whole.sendInLoop data answer
      unfold TcpConnection.send
      dsimp only
      split
      · split
        · exact ihComplete sent
        · exact sent
      · exact whole

namespace TcpConnection

variable {connection : TcpConnection}

/-! ## Scripts -/

/-- A connected connection is not being shut down. -/
theorem OpenWhole.graceful (whole : connection.OpenWhole)
    (connected : connection.connectionStatus = .connected) : connection.Graceful where
  drained half := absurd half (whole connected)
  followed closing := by
    rw [connected] at closing
    cases closing

theorem shutdown_writing (connected : connection.connectionStatus = .connected)
    (writing : connection.channel.isWriting = true) :
    connection.shutdown = { connection with connectionStatus := .disconnecting } := by
  rw [shutdown, if_pos connected]
  exact if_pos writing

theorem shutdown_idle (connected : connection.connectionStatus = .connected)
    (idle : connection.channel.isWriting = false) :
    connection.shutdown =
      { connection with connectionStatus := .disconnecting }.record .shutdownWrite := by
  rw [shutdown, if_pos connected]
  exact if_neg (by simp [idle])

theorem shutdown_idle_halfClosed (connected : connection.connectionStatus = .connected)
    (idle : connection.channel.isWriting = false) : connection.shutdown.HalfClosed := by
  rw [shutdown_idle connected idle]
  exact List.mem_append_right _ (List.mem_singleton_self _)

@[simp] theorem shutdown_sendBuffer (connection : TcpConnection) :
    connection.shutdown.sendBuffer = connection.sendBuffer := by
  unfold shutdown
  dsimp only
  split
  · split <;> rfl
  · rfl

/-- **A call of `Shutdown`** is graceful when `IsWriting` tells whether bytes are pending. -/
theorem shutdown_graceful_iff_inStep (whole : connection.OpenWhole)
    (connected : connection.connectionStatus = .connected) :
    connection.shutdown.Graceful ↔
      (connection.channel.isWriting = true ↔ connection.sendBuffer ≠ []) := by
  cases writing : connection.channel.isWriting with
  | true =>
      have open_ : ¬ connection.shutdown.HalfClosed := by
        rw [shutdown_writing connected writing]
        exact whole connected
      have closing : connection.shutdown.connectionStatus = .disconnecting := by
        rw [shutdown_writing connected writing]
      simp only [true_iff]
      constructor
      · intro graceful empty
        exact open_ (graceful.followed closing ((shutdown_sendBuffer _).trans empty))
      · intro pending
        refine ⟨fun half => absurd half open_, fun _ empty => absurd ?_ pending⟩
        rwa [shutdown_sendBuffer] at empty
  | false =>
      have half := shutdown_idle_halfClosed connected writing
      simp only [Bool.false_eq_true, false_iff, not_not]
      constructor
      · exact fun graceful => (shutdown_sendBuffer _).symm.trans (graceful.drained half)
      · exact fun empty => ⟨fun _ => (shutdown_sendBuffer _).trans empty, fun _ _ => half⟩

/-- A send leaves a connected connection connected, or, when it fails, shuts it down with
nothing pending. -/
theorem sendInLoop_ends (connected : connection.connectionStatus = .connected) (data : Bytes)
    (answer : KernelAnswer) :
    (connection.sendInLoop data answer).1.connectionStatus = .connected ∨
      (connection.sendInLoop data answer).1.sendBuffer = [] ∧
        (connection.sendInLoop data answer).1.HalfClosed := by
  unfold sendInLoop
  dsimp only
  rw [if_neg (by simp [connected])]
  split
  · next direct =>
      split
      · exact .inl ((keepRemain_connectionStatus _ _).trans connected)
      · split
        · have idle : connection.channel.isWriting = false := by simpa using direct.1
          refine .inr ⟨(shutdown_sendBuffer _).trans direct.2, ?_⟩
          exact shutdown_idle_halfClosed connected idle
        · exact .inl ((keepRemain_connectionStatus _ _).trans connected)
  · exact .inl ((keepRemain_connectionStatus _ _).trans connected)

theorem OpenWhole.sendInLoop_graceful (whole : connection.OpenWhole)
    (connected : connection.connectionStatus = .connected) (data : Bytes)
    (answer : KernelAnswer) : (connection.sendInLoop data answer).1.Graceful := by
  rcases sendInLoop_ends connected data answer with still | ⟨empty, half⟩
  · exact (whole.sendInLoop data answer).graceful still
  · exact ⟨fun _ => empty, fun _ _ => half⟩

end TcpConnection

/-- Calls on a connection that is not connected are in step. -/
theorem Script.calls_closed_inStep {script : Script} {connection : TcpConnection}
    (notConnected : connection.connectionStatus ≠ .connected) :
    ∀ made ∈ script.calls connection, made.InStep := by
  intro made inside
  have same := Script.calls_closed notConnected inside
  obtain ⟨found, call⟩ := made
  cases call with
  | send data answer => trivial
  | shutdown => exact fun connected => absurd connected (same ▸ notConnected)

/-- What a script leaves is graceful only if what it starts with is: a connection that is not
is not connected, and the script leaves it alone. -/
theorem Script.graceful_of_run {script : Script} {connection : TcpConnection}
    (whole : connection.OpenWhole) (graceful : (script.run connection).Graceful) :
    connection.Graceful := by
  by_cases connected : connection.connectionStatus = .connected
  · exact whole.graceful connected
  · rwa [script.run_closed connected] at graceful

/-- **A script is graceful exactly when its calls are in step.** -/
theorem Script.run_graceful_iff (script : Script) {connection : TcpConnection}
    (whole : connection.OpenWhole) (graceful : connection.Graceful) :
    (script.run connection).Graceful ↔ ∀ made ∈ script.calls connection, made.InStep := by
  induction script generalizing connection with
  | done => exact iff_of_true graceful (List.forall_mem_nil _)
  | shutdown next ihNext =>
      rw [run, calls, List.forall_mem_cons]
      by_cases connected : connection.connectionStatus = .connected
      · have here : CallMade.InStep ⟨connection, .shutdown⟩ ↔ connection.shutdown.Graceful := by
          rw [shutdown_graceful_iff_inStep whole connected]
          exact ⟨fun inStep => inStep connected, fun inStep _ => inStep⟩
        rw [next.run_closed shutdown_not_connected, here]
        exact (and_iff_left (Script.calls_closed_inStep shutdown_not_connected)).symm
      · have same : connection.shutdown = connection := by
          rw [TcpConnection.shutdown, if_neg connected]
        rw [same, ihNext whole graceful]
        exact (and_iff_right fun impossible => absurd impossible connected).symm
  | send data answer onComplete next ihComplete ihNext =>
      rw [run, calls, List.forall_mem_cons, List.forall_mem_append]
      have sent := whole.sendInLoop data answer
      have whole' : (connection.send data answer fun drained => onComplete.run drained).OpenWhole :=
        (Script.send data answer onComplete .done).run_openWhole whole
      have nested : (connection.send data answer fun drained => onComplete.run drained).Graceful ↔
          ∀ made ∈ (if connection.connectionStatus = .connected ∧
              (connection.sendInLoop data answer).2 = true then
            onComplete.calls (connection.sendInLoop data answer).1 else []), made.InStep := by
        unfold TcpConnection.send
        by_cases connected : connection.connectionStatus = .connected
        · have behind := whole.sendInLoop_graceful connected data answer
          simp only [connected, true_and, if_true]
          split
          · exact ihComplete sent behind
          · exact iff_of_true behind (List.forall_mem_nil _)
        · simp only [connected, false_and, if_false]
          exact iff_of_true graceful (List.forall_mem_nil _)
      rw [← nested]
      constructor
      · intro last
        have between := Script.graceful_of_run whole' last
        exact ⟨trivial, between, (ihNext whole' between).mp last⟩
      · rintro ⟨-, between, later⟩
        exact (ihNext whole' between).mpr later

/-! ## Events of the loop -/

/-- While the last poll result contains `EPOLLOUT`, a script has no effect at once. -/
theorem Script.run_effects_of_writing (script : Script) {connection : TcpConnection}
    (writing : connection.channel.isWriting = true) :
    (script.run connection).effects = connection.effects := by
  induction script generalizing connection with
  | done => rfl
  | shutdown next ihNext =>
      rw [run, ihNext (by rw [shutdown_channel, writing])]
      by_cases connected : connection.connectionStatus = .connected
      · rw [shutdown_writing connected writing]
      · rw [TcpConnection.shutdown, if_neg connected]
  | send data answer onComplete next _ ihNext =>
      have kept : (connection.send data answer fun drained => onComplete.run drained) = connection ∨
          (connection.send data answer fun drained => onComplete.run drained) =
            connection.keepRemain data := by
        have direct : ¬ ((!connection.channel.isWriting) = true ∧ connection.sendBuffer = []) := by
          simp [writing]
        unfold TcpConnection.send TcpConnection.sendInLoop
        dsimp only
        rw [if_neg direct]
        split
        · split
          · exact .inl rfl
          · exact .inr rfl
        · exact .inl rfl
      rcases kept with same | appended
      · rw [run, same, ihNext writing]
      · have still : (connection.keepRemain data).channel.isWriting = true := by
          rw [Channel.isWriting, keepRemain_event]
          exact writing
        rw [run, appended, ihNext still, keepRemain_effects]

namespace TcpConnection

variable {connection : TcpConnection}

theorem Graceful.closed (graceful : connection.Graceful) : connection.closed.Graceful where
  drained half := graceful.drained ((halfClosed_closed connection).mp half)
  followed closing := by cases closing

theorem closed_openWhole (connection : TcpConnection) : connection.closed.OpenWhole :=
  fun connected => absurd connected connection.closed_not_connected

theorem OpenWhole.handleReadable (whole : connection.OpenWhole) (read : ReadResult) :
    (connection.handleReadable read).OpenWhole := by
  rw [TcpConnection.handleReadable]
  split
  · cases read with
    | data onMessage => exact onMessage.run_openWhole whole
    | endOfStream closing =>
        rw [onReadable, onClose_eq]
        exact closed_openWhole connection
    | failed => exact whole
  · exact whole

/-- The read handler is graceful exactly when its calls are in step. -/
theorem Graceful.handleReadable_iff (graceful : connection.Graceful) (whole : connection.OpenWhole)
    (read : ReadResult) :
    (connection.handleReadable read).Graceful ↔
      ∀ made ∈ (if EventMask.readable connection.channel.event then connection.readCalls read
        else []), made.InStep := by
  rw [handleReadable]
  split
  · cases read with
    | data onMessage => exact onMessage.run_graceful_iff whole graceful
    | endOfStream closing =>
        rw [onReadable, onClose_eq]
        exact iff_of_true graceful.closed
          (Script.calls_closed_inStep connection.closed_not_connected)
    | failed => exact iff_of_true graceful (List.forall_mem_nil _)
  · exact iff_of_true graceful (List.forall_mem_nil _)

/-- In front of a write handler, nothing is pending behind a write half that is shut down: the
calls of this event have shut none down. -/
theorem Graceful.handleReadable_drained (graceful : connection.Graceful)
    (whole : connection.OpenWhole) (writing : connection.channel.isWriting = true)
    (read : ReadResult) (half : (connection.handleReadable read).HalfClosed) :
    (connection.handleReadable read).sendBuffer = [] := by
  rw [handleReadable] at half ⊢
  split
  · next readable =>
      rw [if_pos readable] at half
      cases read with
      | data onMessage =>
          rw [onReadable] at half ⊢
          rw [HalfClosed, onMessage.run_effects_of_writing writing] at half
          rw [onMessage.run_closed fun connected => whole connected half]
          exact graceful.drained half
      | endOfStream closing =>
          rw [onReadable, onClose_eq] at half ⊢
          exact graceful.closed.drained half
      | failed => exact graceful.drained half
  · next unreadable =>
      rw [if_neg unreadable] at half
      exact graceful.drained half

/-- What `OnWritable` does to the buffer: it empties one that is not empty, or an empty one stays
empty and another stays another. -/
theorem writePending_cases (connection : TcpConnection) (answer : KernelAnswer) :
    ((connection.writePending answer).1.HalfClosed ↔ connection.HalfClosed) ∧
      ((connection.writePending answer).2 = true ∧ connection.sendBuffer ≠ [] ∧
          (connection.writePending answer).1.sendBuffer = [] ∨
        (connection.writePending answer).2 = false ∧
          ((connection.writePending answer).1.sendBuffer = [] ↔ connection.sendBuffer = [])) := by
  unfold writePending
  dsimp only
  split
  · have recorded := halfClosed_record_send connection connection.sendBuffer
      (answer.sent connection.sendBuffer)
    split
    · next some_sent =>
        have pending : connection.sendBuffer ≠ [] := by
          intro empty
          rw [KernelAnswer.sent, empty, List.length_nil, Nat.min_zero] at some_sent
          exact Nat.lt_irrefl 0 some_sent
        split
        · next empty => exact ⟨recorded, .inl ⟨rfl, pending, empty⟩⟩
        · next rest => exact ⟨recorded, .inr ⟨rfl, iff_of_false rest pending⟩⟩
    · exact ⟨recorded, .inr ⟨rfl, Iff.rfl⟩⟩
  · exact ⟨Iff.rfl, .inr ⟨rfl, Iff.rfl⟩⟩

theorem OpenWhole.writePending (whole : connection.OpenWhole) (answer : KernelAnswer) :
    (connection.writePending answer).1.OpenWhole := by
  rw [OpenWhole, writePending_connectionStatus, (writePending_cases connection answer).1]
  exact whole

/-- **The write handler is graceful** when it does not empty the buffer of a connection that is
being shut down and the calls from the write-complete callback are in step. -/
theorem onWritable_graceful_iff (whole : connection.OpenWhole)
    (drained : connection.HalfClosed → connection.sendBuffer = []) (answer : KernelAnswer)
    (onComplete : Script) :
    (connection.onWritable answer onComplete).Graceful ↔
      connection.Graceful ∧
        (∀ made ∈ connection.writeCalls answer onComplete, made.InStep) ∧
        ¬ (connection.connectionStatus = .disconnecting ∧
          (connection.writePending answer).2 = true) := by
  have status := writePending_connectionStatus connection answer
  have whole' := whole.writePending answer
  obtain ⟨half, ⟨complete, pending, empty⟩ | ⟨incomplete, same⟩⟩ :=
    writePending_cases connection answer
  · have before : connection.Graceful := ⟨drained, fun _ none_ => absurd none_ pending⟩
    have quiet (connection : TcpConnection) : (if connection.connectionStatus = .disconnecting
        then connection.shutdown else connection) = connection := by
      split
      · next closing =>
          exact if_neg (by simp [closing])
      · rfl
    rw [onWritable, writeCalls, complete]
    simp only [if_true, quiet, and_true, before, true_and]
    by_cases closing : connection.connectionStatus = .disconnecting
    · -- the second call of `Shutdown` does nothing
      have notConnected : (connection.writePending answer).1.connectionStatus ≠ .connected := by
        simp [status, closing]
      rw [onComplete.run_closed notConnected]
      refine iff_of_false (fun graceful => ?_) fun both => both.2 closing
      have shut := half.mp (graceful.followed (status.trans closing) empty)
      exact pending (drained shut)
    · have behind : (connection.writePending answer).1.Graceful :=
        ⟨fun _ => empty, fun now => absurd (status.symm.trans now) closing⟩
      rw [onComplete.run_graceful_iff whole' behind]
      exact (and_iff_left closing).symm
  · have kept : (connection.writePending answer).1.Graceful ↔ connection.Graceful := by
      constructor
      · exact fun graceful => ⟨drained, fun closing none_ =>
          half.mp (graceful.followed (status.trans closing) (same.mpr none_))⟩
      · exact fun graceful => ⟨fun shut => same.mpr (drained (half.mp shut)), fun closing none_ =>
          half.mpr (graceful.followed (status.symm.trans closing) (same.mp none_))⟩
    rw [onWritable, writeCalls, incomplete]
    simp only [Bool.false_eq_true, if_false, and_false, not_false_eq_true, and_true, kept]
    exact (and_iff_left (List.forall_mem_nil _)).symm

/-- The condition on an event: its calls of `Shutdown` are in step, and it does not empty the
buffer of a connection that is being shut down. -/
def KeepsGraceful (connection : TcpConnection) (event : LoopEvent) : Prop :=
  (∀ made ∈ connection.calls event, made.InStep) ∧ ¬ connection.DrainsClosing event

/-- **One event of the loop** is graceful exactly under this condition. -/
theorem Graceful.step_iff (graceful : connection.Graceful) (whole : connection.OpenWhole)
    (event : LoopEvent) :
    (machine.step connection event).Graceful ↔ connection.KeepsGraceful event := by
  cases event with
  | setEvent event =>
      exact iff_of_true ⟨graceful.drained, graceful.followed⟩ ⟨List.forall_mem_nil _, id⟩
  | task script =>
      exact (script.run_graceful_iff whole graceful).trans (and_iff_left id).symm
  | connectDestroyed closing =>
      simp only [machine, step, connectDestroyed, KeepsGraceful, calls]
      split
      · rw [onClose_eq]
        exact iff_of_true graceful.closed
          ⟨Script.calls_closed_inStep connection.closed_not_connected, id⟩
      · exact iff_of_true graceful ⟨List.forall_mem_nil _, id⟩
  | handleEvent read answer onComplete =>
      have reading := graceful.handleReadable_iff whole read
      have same : (connection.handleReadable read).channel.isWriting =
          connection.channel.isWriting := by
        rw [Channel.isWriting, handleReadable_event, Channel.isWriting]
      simp only [machine, step, handleEvent, KeepsGraceful, calls, DrainsClosing,
        List.forall_mem_append]
      rw [← reading]
      cases writing : connection.channel.isWriting with
      | true =>
          simp only [same, writing, if_true, and_assoc]
          exact onWritable_graceful_iff (whole.handleReadable read)
            (graceful.handleReadable_drained whole writing read) answer onComplete
      | false =>
          have idle : (connection.handleReadable read).channel.isWriting = false := by
            rw [same, writing]
          have quiet : ((connection.handleReadable read).writePending answer).2 = false := by
            rw [writePending, if_neg (by simp [idle])]
          simp only [idle, quiet, Bool.false_eq_true, if_false, and_false, not_false_eq_true,
            and_true]
          exact (and_iff_left (List.forall_mem_nil _)).symm

/-- The write half of a connected connection is open behind every event. -/
theorem OpenWhole.step (whole : connection.OpenWhole) (event : LoopEvent) :
    (machine.step connection event).OpenWhole := by
  cases event with
  | setEvent event => exact whole
  | task script => exact script.run_openWhole whole
  | connectDestroyed closing =>
      simp only [machine, TcpConnection.step, connectDestroyed]
      split
      · rw [onClose_eq]
        exact closed_openWhole connection
      · exact whole
  | handleEvent read answer onComplete =>
      have afterRead := whole.handleReadable read
      simp only [machine, TcpConnection.step, handleEvent, onWritable]
      split
      · split
        · split
          · exact shutdown_openWhole _
          · exact onComplete.run_openWhole (afterRead.writePending answer)
        · exact afterRead.writePending answer
      · exact afterRead

end TcpConnection

/-- **When shutting down is graceful.** In every state at rest of a run, nothing is pending behind
a write half that is shut down, and it is shut down once nothing is pending on a connection that
is `DISCONNECTING`, if and only if every call of `Shutdown` on the connected connection finds
`EPOLLOUT` in the last poll result exactly when bytes are pending, and `OnWritable` never empties
the buffer of a connection that is `DISCONNECTING`. -/
theorem shutdown_graceful_iff (opening : Script) (events : List LoopEvent) :
    machine.Always Graceful (TcpConnection.new.established opening) events ↔
      (∀ made ∈ runCalls opening events, made.InStep) ∧
        ∀ before event, before ++ [event] <+: events →
          ¬ (machine.run (TcpConnection.new.established opening) before).DrainsClosing event := by
  have fresh : (TcpConnection.new.established .done).OpenWhole := fun _ half => by cases half
  have start : (TcpConnection.new.established .done).Graceful := fresh.graceful rfl
  have whole := opening.run_openWhole fresh
  have opened := opening.run_graceful_iff fresh start
  have run (graceful : (TcpConnection.new.established opening).Graceful) :=
    @Machine.Preserves.always_iff _ _ machine KeepsGraceful
      (fun connection => connection.Graceful ∧ connection.OpenWhole) Graceful
      ⟨fun _ event inv kept => ⟨(inv.1.step_iff inv.2 event).mpr kept, inv.2.step event⟩⟩
      (fun _ inv => inv.1) (fun _ event inv kept => (inv.1.step_iff inv.2 event).mp kept)
      (TcpConnection.new.established opening) ⟨graceful, whole⟩ events
  have split := @Machine.guarded_emitted_iff _ _ machine
    (fun connection event => ¬ connection.DrainsClosing event) _ calls CallMade.InStep
    (TcpConnection.new.established opening) events
  have prefixes := @Machine.guarded_iff _ _ machine
    (fun connection event => ¬ connection.DrainsClosing event)
    (TcpConnection.new.established opening) events
  rw [runCalls, List.forall_mem_append, ← opened, ← prefixes, and_assoc, ← split]
  constructor
  · intro always
    have graceful := always [] List.nil_prefix
    exact ⟨graceful, (run graceful).mp always⟩
  · rintro ⟨graceful, guarded⟩
    exact (run graceful).mpr guarded

/-- The kernel takes one of two bytes. `Shutdown` finds the other byte pending, and no `EPOLLOUT`
in the last poll result. -/
def shutDownEarly : List LoopEvent :=
  [.task (.send [1, 2] ⟨1, .other⟩ .done (.shutdown .done))]

/-- With `EPOLLOUT` in the last poll result, `Shutdown` waits for `OnWritable`. -/
def shutDownLate : List LoopEvent :=
  [.task (.send [1, 2] ⟨1, .other⟩ .done .done), .setEvent epollOut, .task (.shutdown .done),
    .handleEvent .failed ⟨1, .other⟩ .done]

/-- **The write half is shut down in front of a pending byte, or never.** -/
theorem shutdown_not_graceful :
    (.shutdownWrite ∈ (machine.run (TcpConnection.new.established .done) shutDownEarly).effects ∧
        (machine.run (TcpConnection.new.established .done) shutDownEarly).sendBuffer = [2]) ∧
      (machine.run (TcpConnection.new.established .done) shutDownLate).connectionStatus =
          .disconnecting ∧
        (machine.run (TcpConnection.new.established .done) shutDownLate).sendBuffer = [] ∧
        .shutdownWrite ∉
          (machine.run (TcpConnection.new.established .done) shutDownLate).effects := by
  decide

end LiveBroadcast
