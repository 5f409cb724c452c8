import LiveBroadcast.Foundation.Runs
import LiveBroadcast.Network.TcpConnection

/-!
# Pending output and the interest in writing

While bytes are pending on a connected socket, the registered interest should contain
`EPOLLOUT` (`Armed`). `SendInLoop` registers it when it finds `IsWriting` false. `IsWriting`
however reads the last poll result, and that still says `EPOLLOUT` after `OnWritable` has
emptied the buffer and taken the interest back, until the next poll result is stored
(`StaleWriting`). Bytes sent in that window are appended and the interest is not registered
(`sendInLoop_stale`).

A run keeps `Armed` as long as nothing is sent in the window (`pending_output_armed`);
`write_complete_resend_unarmed` is a run that leaves bytes pending without interest, from a
write-complete callback that sends again.
-/

set_option autoImplicit false

namespace LiveBroadcast

namespace TcpConnection

/-- Between two handlers: pending bytes of a connected socket have a registered interest in
writing, and the kernel holds the registered interest. -/
structure Armed (connection : TcpConnection) : Prop where
  pending : connection.connectionStatus = .connected → connection.sendBuffer ≠ [] →
    EventMask.writable connection.channel.epEvent = true
  added : connection.connectionStatus = .connected → connection.channel.channelStatus = .added
  registered : connection.connectionStatus = .connected →
    connection.channel.registered = some connection.channel.epEvent

/-- The last poll result says `EPOLLOUT` and the registered interest does not. -/
def StaleWriting (connection : TcpConnection) : Prop :=
  connection.channel.isWriting = true ∧
    EventMask.writable connection.channel.epEvent = false

/-- The condition on a call of `Send`: data does not meet a stale poll result. -/
def SendsFresh (connection : TcpConnection) (data : Bytes) : Prop :=
  connection.connectionStatus = .connected → data ≠ [] → ¬ connection.StaleWriting

end TcpConnection

/-- Every call of `Send` in a script meets a condition on the connection and the data. -/
def Script.Meets (Condition : TcpConnection → Bytes → Prop) : Script → TcpConnection → Prop
  | .done, _ => True
  | .send data answer onComplete next, connection =>
      Condition connection data ∧
        ((connection.sendInLoop data answer).2 = true →
          onComplete.Meets Condition (connection.sendInLoop data answer).1) ∧
        next.Meets Condition
          (connection.send data answer fun drained => onComplete.run drained)
  | .shutdown next, connection => next.Meets Condition connection.shutdown

namespace TcpConnection

/-- Every call of `Send` while an event is handled meets the condition. -/
def EventMeets (Condition : TcpConnection → Bytes → Prop) (connection : TcpConnection) :
    LoopEvent → Prop
  | .setEvent _ => True
  | .handleEvent read answer onComplete =>
      (EventMask.readable connection.channel.event = true →
        ∀ onMessage, read = .data onMessage → onMessage.Meets Condition connection) ∧
      (((connection.handleReadable read).writePending answer).2 = true →
        onComplete.Meets Condition ((connection.handleReadable read).writePending answer).1)
  | .task script => script.Meets Condition connection
  | .connectDestroyed _ => True

/-- The loop thread as a machine. -/
def machine : Machine TcpConnection LoopEvent := ⟨step⟩

variable {connection : TcpConnection}

/-! ## The operations -/

/-- A connection that is not connected has nothing to arm. -/
theorem armed_of_not_connected (closed : connection.connectionStatus ≠ .connected) :
    connection.Armed :=
  ⟨fun open_ => absurd open_ closed, fun open_ => absurd open_ closed,
    fun open_ => absurd open_ closed⟩

theorem shutdown_not_connected : connection.shutdown.connectionStatus ≠ .connected := by
  unfold shutdown
  split
  · cases writing : connection.channel.isWriting <;> simp [writing, record]
  · assumption

theorem Armed.record (armed : connection.Armed) (effect : NetworkEffect) :
    (connection.record effect).Armed :=
  ⟨armed.pending, armed.added, armed.registered⟩

/-- Registering the interest in writing arms a channel that is in the epoll set. -/
theorem enableWritable_registered {channel : Channel} (added : channel.channelStatus = .added)
    (registered : channel.registered = some channel.epEvent) :
    channel.enableWritable.channelStatus = .added ∧
      channel.enableWritable.registered = some channel.enableWritable.epEvent := by
  simp [Channel.enableWritable, Channel.update, added, registered]

theorem disableWritable_registered {channel : Channel} (added : channel.channelStatus = .added)
    (registered : channel.registered = some channel.epEvent) :
    channel.disableWritable.channelStatus = .added ∧
      channel.disableWritable.registered = some channel.disableWritable.epEvent := by
  simp [Channel.disableWritable, Channel.update, added, registered]

/-- **Keeping bytes arms the connection**, unless the poll result is stale. -/
theorem Armed.keepRemain (armed : connection.Armed) {remain : Bytes}
    (fresh : connection.SendsFresh remain) : (connection.keepRemain remain).Armed := by
  obtain ⟨pending, added, registered⟩ := armed
  unfold TcpConnection.keepRemain
  by_cases empty : remain = []
  · simpa [empty] using ⟨pending, added, registered⟩
  · cases writing : connection.channel.isWriting with
    | true =>
        simp only [empty, if_false, writing, if_true]
        refine ⟨fun open_ _ => ?_, added, registered⟩
        cases armed : EventMask.writable connection.channel.epEvent with
        | true => rfl
        | false => exact absurd ⟨writing, armed⟩ (fresh open_ empty)
    | false =>
        simp only [empty, if_false, writing, Bool.false_eq_true]
        refine ⟨fun _ _ => connection.channel.enableWritable_epEvent, ?_, ?_⟩
        · exact fun open_ => (enableWritable_registered (added open_) (registered open_)).1
        · exact fun open_ => (enableWritable_registered (added open_) (registered open_)).2

/-- **A send keeps a connection armed**, unless the poll result is stale. -/
theorem Armed.sendInLoop (armed : connection.Armed) {data : Bytes} (answer : KernelAnswer)
    (fresh : connection.SendsFresh data) : (connection.sendInLoop data answer).1.Armed := by
  unfold TcpConnection.sendInLoop
  by_cases ended : connection.connectionStatus = .disconnected ∨
      connection.connectionStatus = .disconnecting
  · simpa [ended] using armed
  · rw [if_neg ended]
    by_cases direct : !connection.channel.isWriting ∧ connection.sendBuffer = []
    · rw [if_pos direct]
      have polled : connection.channel.isWriting = false := by simpa using direct.1
      have unstale (remain : Bytes) (effect : NetworkEffect) :
          (connection.record effect).SendsFresh remain := by
        intro _ _ stale
        have writing : connection.channel.isWriting = true := stale.1
        rw [polled] at writing
        cases writing
      dsimp only
      split
      · exact (armed.record _).keepRemain (unstale _ _)
      · split
        · exact armed_of_not_connected shutdown_not_connected
        · exact (armed.record _).keepRemain (unstale _ _)
    · rw [if_neg direct]
      exact armed.keepRemain fresh

/-- **Bytes sent against a stale poll result are left without interest.** -/
theorem sendInLoop_stale (open_ : connection.connectionStatus = .connected) {data : Bytes}
    (nonempty : data ≠ []) (answer : KernelAnswer) (stale : connection.StaleWriting) :
    ¬ (connection.sendInLoop data answer).1.Armed := by
  intro armed
  have kept : connection.sendInLoop data answer =
      ({ connection with sendBuffer := connection.sendBuffer ++ data }, false) := by
    simp [TcpConnection.sendInLoop, open_, stale.1, TcpConnection.keepRemain, nonempty]
  rw [kept] at armed
  have interest := armed.pending open_ (by simp [nonempty])
  have none : EventMask.writable connection.channel.epEvent = false := stale.2
  rw [none] at interest
  cases interest

/-- Emptying the buffer takes the interest back, and then nothing is pending. -/
theorem Armed.writePending (armed : connection.Armed) (answer : KernelAnswer) :
    (connection.writePending answer).1.Armed := by
  obtain ⟨pending, added, registered⟩ := armed
  unfold TcpConnection.writePending
  by_cases writing : connection.channel.isWriting = true
  · rw [if_pos writing]
    dsimp only
    split
    · split
      · refine ⟨fun _ kept => absurd (by assumption) kept, fun open_ => ?_, fun open_ => ?_⟩
        · exact (disableWritable_registered (added open_) (registered open_)).1
        · exact (disableWritable_registered (added open_) (registered open_)).2
      · refine ⟨fun open_ kept => pending open_ ?_, added, registered⟩
        rintro empty
        simp [TcpConnection.record, empty] at kept
    · exact ⟨pending, added, registered⟩
  · rw [if_neg writing]
    exact ⟨pending, added, registered⟩

end TcpConnection

/-! ## Scripts -/

open TcpConnection

/-- A script that is run on a connection that is not connected changes nothing. -/
theorem Script.run_closed (script : Script) {connection : TcpConnection}
    (closed : connection.connectionStatus ≠ .connected) : script.run connection = connection := by
  induction script generalizing connection with
  | done => rfl
  | send data answer onComplete next _ ihNext =>
      have same : connection.send data answer (fun drained => onComplete.run drained) =
          connection := by rw [TcpConnection.send, if_neg closed]
      rw [Script.run, same, ihNext closed]
  | shutdown next ihNext =>
      have same : connection.shutdown = connection := by rw [TcpConnection.shutdown, if_neg closed]
      rw [Script.run, same, ihNext closed]

/-- **User code keeps a connection armed** when none of its sends meets a stale poll
result. -/
theorem Script.run_armed (script : Script) {connection : TcpConnection}
    (armed : connection.Armed) (fresh : script.Meets SendsFresh connection) :
    (script.run connection).Armed := by
  induction script generalizing connection with
  | done => exact armed
  | send data answer onComplete next ihComplete ihNext =>
      obtain ⟨here, inside, later⟩ := fresh
      refine ihNext ?_ later
      have sent := armed.sendInLoop answer here
      unfold TcpConnection.send
      dsimp only
      split
      · split
        · exact ihComplete sent (inside (by assumption))
        · exact sent
      · exact armed
  | shutdown next ihNext =>
      exact ihNext (armed_of_not_connected shutdown_not_connected) fresh

namespace TcpConnection

variable {connection : TcpConnection}

/-! ## Events of the loop -/

theorem onClose_armed (closing : Script) : (connection.onClose closing).Armed := by
  have closed : ({ connection with
      connectionStatus := .disconnected
      channel := connection.channel.disableAll }.record .disconnected).connectionStatus ≠
        .connected := by simp [record]
  rw [onClose, closing.run_closed closed]
  exact armed_of_not_connected closed

theorem Armed.onWritable (armed : connection.Armed) (answer : KernelAnswer)
    {onComplete : Script} (fresh : (connection.writePending answer).2 = true →
      onComplete.Meets SendsFresh (connection.writePending answer).1) :
    (connection.onWritable answer onComplete).Armed := by
  have written := armed.writePending answer
  unfold TcpConnection.onWritable
  dsimp only
  split
  · split
    · exact armed_of_not_connected shutdown_not_connected
    · exact onComplete.run_armed written (fresh (by assumption))
  · exact written

theorem Armed.handleReadable (armed : connection.Armed) {read : ReadResult}
    (fresh : EventMask.readable connection.channel.event = true →
      ∀ onMessage, read = .data onMessage → onMessage.Meets SendsFresh connection) :
    (connection.handleReadable read).Armed := by
  unfold TcpConnection.handleReadable
  split
  · cases read with
    | data onMessage => exact onMessage.run_armed armed (fresh (by assumption) onMessage rfl)
    | endOfStream closing => exact onClose_armed closing
    | failed => exact armed
  · exact armed

/-- **One event of the loop** keeps a connection armed. -/
theorem step_preserves : machine.Preserves (EventMeets SendsFresh) Armed where
  step connection event armed fresh := by
    cases event with
    | setEvent event => exact ⟨armed.pending, armed.added, armed.registered⟩
    | task script => exact script.run_armed armed fresh
    | connectDestroyed closing =>
        simp only [machine, step, connectDestroyed]
        split
        · exact onClose_armed closing
        · exact armed
    | handleEvent read answer onComplete =>
        obtain ⟨reading, writing⟩ := fresh
        have afterRead := armed.handleReadable reading
        simp only [machine, step, handleEvent]
        split
        · exact afterRead.onWritable answer writing
        · exact afterRead

theorem established_armed {opening : Script}
    (fresh : opening.Meets SendsFresh (TcpConnection.new.established .done)) :
    (TcpConnection.new.established opening).Armed := by
  refine opening.run_armed ⟨?_, fun _ => rfl, fun _ => rfl⟩ fresh
  exact fun _ pending => absurd rfl pending

/-- **Pending output is armed in every run that never sends against a stale poll result.**
Whatever the connection callback, the kernel and the write-complete callback do, in every
state at rest pending bytes of a connected socket have `EPOLLOUT` in the registered
interest, and the kernel holds that interest. -/
theorem pending_output_armed (opening : Script) (events : List LoopEvent)
    (opens : opening.Meets SendsFresh (TcpConnection.new.established .done))
    (fresh : machine.Guarded (EventMeets SendsFresh) (TcpConnection.new.established opening)
      events) (before : List LoopEvent) (reached : before <+: events)
    (open_ : (machine.run (TcpConnection.new.established opening) before).connectionStatus =
      .connected)
    (pending : (machine.run (TcpConnection.new.established opening) before).sendBuffer ≠ []) :
    let connection := machine.run (TcpConnection.new.established opening) before
    EventMask.writable connection.channel.epEvent = true ∧
      connection.channel.registered = some connection.channel.epEvent := by
  have armed := step_preserves.always (established_armed opens) fresh before reached
  exact ⟨armed.pending open_ pending, armed.registered open_⟩

/-- The kernel takes four of six bytes, then reports that it can take more. -/
def backPressure : List LoopEvent :=
  [.task (.send [1, 2, 3, 4, 5, 6] ⟨4, .other⟩ .done .done), .setEvent epollOut]

/-- Before the buffer is emptied, the two pending bytes are armed. -/
theorem pending_output_armed_backPressure :
    let connection := machine.run (TcpConnection.new.established .done) backPressure
    EventMask.writable connection.channel.epEvent = true ∧
      connection.channel.registered = some connection.channel.epEvent := by
  refine pending_output_armed .done backPressure trivial ⟨⟨?_, ?_, trivial⟩, trivial, trivial⟩
    backPressure List.prefix_rfl (by decide) (by decide)
  · rintro - - ⟨writing, -⟩
    exact absurd writing (by decide)
  · intro drained
    exact absurd drained (by decide)

/-- **A write-complete callback that sends again leaves its bytes without interest.** The
buffer is emptied, and the two bytes the callback sends are appended behind the poll result
that is still `EPOLLOUT`. -/
theorem write_complete_resend_unarmed :
    let connection := machine.run (TcpConnection.new.established .done)
      (backPressure ++ [.handleEvent .failed ⟨2, .other⟩ (.send [7, 8] ⟨2, .other⟩ .done .done)])
    connection.connectionStatus = .connected ∧ connection.sendBuffer = [7, 8] ∧
      EventMask.writable connection.channel.epEvent = false := by
  decide

end TcpConnection

end LiveBroadcast
