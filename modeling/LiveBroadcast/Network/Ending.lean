import LiveBroadcast.Network.Calls
import LiveBroadcast.Network.SentBytes

/-!
# The end of a connection

A connection ends when its handler reads the end of the stream, or when the server that owns it
calls `ConnectDestroyed`. Then its user is notified, and the channel leaves the epoll set.

`PolledConnection` adds to a connection what the loop keeps of it: a poll result is stored only
for a registered channel, and only then is the channel handled, once. Other code of the loop
thread may run in between.

A run ends its connection once and for all exactly when it keeps out of three situations
(`ends_once_iff`). `ConnectDestroyed` does nothing for a connection that `Shutdown` has made
`DISCONNECTING`. A handler that runs behind `ConnectDestroyed` may read the end of the stream
and notify once more. And `OnWritable` does not look at the status: behind the end it still
offers what is pending, and if all of it is taken, `DisableWritable` registers the channel again.
-/

set_option autoImplicit false

namespace LiveBroadcast

/-- The bytes that a step offers to the socket. -/
def NetworkEffect.offered : NetworkEffect → Bytes
  | .send offered _ => offered
  | .shutdownWrite => []
  | .disconnected => []

/-- The bytes that are offered to the socket behind the first disconnect notification. -/
def offeredBehindEnd : List NetworkEffect → Bytes
  | [] => []
  | effect :: later =>
      if effect = .disconnected then later.flatMap NetworkEffect.offered
      else offeredBehindEnd later

theorem offeredBehindEnd_append (effects more : List NetworkEffect) :
    offeredBehindEnd (effects ++ more) =
      if .disconnected ∈ effects then offeredBehindEnd effects ++ more.flatMap NetworkEffect.offered
      else offeredBehindEnd more := by
  induction effects with
  | nil => rw [List.nil_append, if_neg List.not_mem_nil]
  | cons effect effects ih =>
      by_cases ended : effect = .disconnected
      · rw [List.cons_append, offeredBehindEnd, if_pos ended,
          if_pos (ended ▸ List.mem_cons_self ..), offeredBehindEnd, if_pos ended,
          List.flatMap_append]
      · have first : .disconnected ∈ effect :: effects ↔ .disconnected ∈ effects := by
          rw [List.mem_cons]
          exact or_iff_right fun same => ended same.symm
        rw [List.cons_append, offeredBehindEnd, if_neg ended, ih, offeredBehindEnd, if_neg ended]
        simp only [first]

theorem offeredBehindEnd_of_notMem {effects : List NetworkEffect}
    (open_ : .disconnected ∉ effects) : offeredBehindEnd effects = [] := by
  induction effects with
  | nil => rfl
  | cons effect effects ih =>
      rw [List.mem_cons, not_or] at open_
      rw [offeredBehindEnd, if_neg fun same => open_.1 same.symm]
      exact ih open_.2

/-! ## The loop -/

/-- A connection in its loop: whether its channel waits in `active_channels_`, and whether the
connection has been closed or destroyed. -/
structure PolledConnection where
  connection : TcpConnection
  active : Bool
  ended : Bool
  deriving DecidableEq, Repr

namespace TcpConnection

/-- The handler finds the end of the stream. -/
def readsEnd (connection : TcpConnection) : ReadResult → Bool
  | .endOfStream _ => EventMask.readable connection.channel.event
  | .data _ => false
  | .failed => false

end TcpConnection

namespace PolledConnection

/-- `Established`. -/
def established (opening : Script) : PolledConnection :=
  ⟨TcpConnection.new.established opening, false, false⟩

/-- One event of the loop. A channel that is not registered is not polled, and one that is not in
`active_channels_` is not handled. -/
def step (polled : PolledConnection) : LoopEvent → PolledConnection
  | .setEvent event =>
      if polled.active = false ∧ polled.connection.channel.registered ≠ none then
        { polled with connection := polled.connection.step (.setEvent event), active := true }
      else polled
  | .handleEvent read answer onComplete =>
      if polled.active then
        { connection := polled.connection.step (.handleEvent read answer onComplete)
          active := false
          ended := polled.ended || polled.connection.readsEnd read }
      else polled
  | .task script => { polled with connection := polled.connection.step (.task script) }
  | .connectDestroyed closing =>
      { polled with
        connection := polled.connection.step (.connectDestroyed closing), ended := true }

def machine : Machine PolledConnection LoopEvent := ⟨step⟩

/-- One notification is delivered when the connection is closed or destroyed, and none before.
Behind it the channel is not registered, and no bytes are offered to the socket. -/
structure EndsOnce (polled : PolledConnection) : Prop where
  notified : polled.connection.effects.count .disconnected = if polled.ended then 1 else 0
  unregistered : polled.ended = true → polled.connection.channel.registered = none
  quiet : offeredBehindEnd polled.connection.effects = []

/-- The condition on an event: a connection that is destroyed is not `DISCONNECTING`, a handler
of an ended connection does not read the end of the stream, and a handler of an ended connection
or one that reads the end does not find `EPOLLOUT` with bytes pending. -/
def EndsCleanly (polled : PolledConnection) : LoopEvent → Prop
  | .connectDestroyed _ => polled.connection.connectionStatus ≠ .disconnecting
  | .handleEvent read _ _ => polled.active = true →
      ¬ (polled.ended = true ∧ polled.connection.readsEnd read = true) ∧
        ¬ ((polled.ended || polled.connection.readsEnd read) = true ∧
          polled.connection.channel.isWriting = true ∧ polled.connection.sendBuffer ≠ [])
  | _ => True

end PolledConnection

namespace TcpConnection

variable {connection : TcpConnection}

/-! ## Connections that have not ended -/

/-- A connection before its end. -/
structure Alive (connection : TcpConnection) : Prop where
  status : connection.connectionStatus = .connected ∨
    connection.connectionStatus = .disconnecting
  unnotified : .disconnected ∉ connection.effects

theorem Alive.keepRemain (alive : connection.Alive) (remain : Bytes) :
    (connection.keepRemain remain).Alive := by
  refine ⟨?_, keepRemain_effects connection remain ▸ alive.unnotified⟩
  rw [keepRemain_connectionStatus]
  exact alive.status

theorem Alive.record (alive : connection.Alive) {effect : NetworkEffect}
    (other : effect ≠ .disconnected) : (connection.record effect).Alive := by
  refine ⟨alive.status, fun inside => ?_⟩
  rcases List.mem_append.mp inside with before | last
  · exact alive.unnotified before
  · exact other (List.mem_singleton.mp last).symm

theorem Alive.shutdown (alive : connection.Alive) : connection.shutdown.Alive := by
  unfold TcpConnection.shutdown
  dsimp only
  split
  · have closing : Alive { connection with connectionStatus := .disconnecting } :=
      ⟨.inr rfl, alive.unnotified⟩
    split
    · exact closing
    · exact closing.record (by simp)
  · exact alive

theorem Alive.sendInLoop (alive : connection.Alive) (data : Bytes) (answer : KernelAnswer) :
    (connection.sendInLoop data answer).1.Alive := by
  unfold TcpConnection.sendInLoop
  dsimp only
  split
  · exact alive
  · split
    · have recorded : (connection.record (.send data (answer.sent data))).Alive :=
        alive.record (by simp)
      split
      · exact recorded.keepRemain _
      · split
        · exact recorded.shutdown
        · exact recorded.keepRemain _
    · exact alive.keepRemain _

end TcpConnection

open TcpConnection

theorem Script.run_alive (script : Script) {connection : TcpConnection}
    (alive : connection.Alive) : (script.run connection).Alive := by
  induction script generalizing connection with
  | done => exact alive
  | shutdown next ihNext => exact ihNext alive.shutdown
  | send data answer onComplete next ihComplete ihNext =>
      refine ihNext ?_
      have sent := alive.sendInLoop data answer
      unfold TcpConnection.send
      dsimp only
      split
      · split
        · exact ihComplete sent
        · exact sent
      · exact alive

namespace TcpConnection

variable {connection : TcpConnection}

theorem Alive.writePending (alive : connection.Alive) (answer : KernelAnswer) :
    (connection.writePending answer).1.Alive := by
  have recorded : (connection.record (.send connection.sendBuffer
      (answer.sent connection.sendBuffer))).Alive := alive.record (by simp)
  unfold TcpConnection.writePending
  dsimp only
  split
  · split
    · split
      · exact ⟨recorded.status, recorded.unnotified⟩
      · exact ⟨recorded.status, recorded.unnotified⟩
    · exact recorded
  · exact alive

theorem Alive.onWritable (alive : connection.Alive) (answer : KernelAnswer) (onComplete : Script) :
    (connection.onWritable answer onComplete).Alive := by
  have written := alive.writePending answer
  unfold TcpConnection.onWritable
  dsimp only
  split
  · split
    · exact (onComplete.run_alive written).shutdown
    · exact onComplete.run_alive written
  · exact written

/-! ## Connections that have ended -/

/-- **`OnWritable` behind the end** offers what is pending all the same. -/
theorem onWritable_disconnected (ended : connection.connectionStatus = .disconnected)
    (writing : connection.channel.isWriting = true) (answer : KernelAnswer) (onComplete : Script) :
    (connection.onWritable answer onComplete).connectionStatus = .disconnected ∧
      (connection.onWritable answer onComplete).effects =
        connection.effects ++ [.send connection.sendBuffer (answer.sent connection.sendBuffer)] ∧
      (connection.sendBuffer = [] →
        (connection.onWritable answer onComplete).channel = connection.channel) := by
  have status : (connection.writePending answer).1.connectionStatus = .disconnected :=
    (writePending_connectionStatus connection answer).trans ended
  have same : connection.onWritable answer onComplete = (connection.writePending answer).1 := by
    have notConnected : (connection.writePending answer).1.connectionStatus ≠ .connected := by
      simp [status]
    rw [onWritable]
    dsimp only
    rw [onComplete.run_closed notConnected, status]
    split
    · rfl
    · rfl
  rw [same]
  refine ⟨status, ?_, fun empty => ?_⟩
  · unfold writePending
    dsimp only
    rw [if_pos writing]
    split
    · split <;> rfl
    · rfl
  · have none_sent : ¬ 0 < answer.sent connection.sendBuffer := by
      rw [KernelAnswer.sent, empty, List.length_nil, Nat.min_zero]
      exact Nat.lt_irrefl 0
    unfold writePending
    dsimp only
    rw [if_pos writing, if_neg none_sent]
    rfl

/-- A connection behind its end. -/
structure Ended (connection : TcpConnection) : Prop where
  status : connection.connectionStatus = .disconnected
  notified : connection.effects.count .disconnected = 1
  unregistered : connection.channel.registered = none
  quiet : offeredBehindEnd connection.effects = []

theorem Ended.not_connected (ended : connection.Ended) :
    connection.connectionStatus ≠ .connected := by
  simp [ended.status]

/-- **`OnClose` ends a connection.** -/
theorem Alive.closed (alive : connection.Alive) : connection.closed.Ended where
  status := rfl
  notified := by
    have none_ := List.count_eq_zero.mpr alive.unnotified
    rw [TcpConnection.closed, TcpConnection.record, List.count_append, none_]
    rfl
  unregistered := rfl
  quiet := by
    rw [TcpConnection.closed, TcpConnection.record, offeredBehindEnd_append,
      if_neg alive.unnotified]
    rfl

/-- A second `OnClose` notifies once more. -/
theorem Ended.closed_count (ended : connection.Ended) :
    connection.closed.effects.count .disconnected = 2 := by
  rw [TcpConnection.closed, TcpConnection.record, List.count_append, ended.notified]
  rfl

/-- `HandleEvent` behind its read handler. -/
def handleWritable (connection : TcpConnection) (answer : KernelAnswer) (onComplete : Script) :
    TcpConnection :=
  if connection.channel.isWriting then connection.onWritable answer onComplete else connection

/-- The write handler leaves an ended connection as it is, or offers bytes. -/
theorem Ended.handleWritable (ended : connection.Ended) (answer : KernelAnswer)
    (onComplete : Script) :
    ¬ (connection.channel.isWriting = true ∧ connection.sendBuffer ≠ []) ∧
        (connection.handleWritable answer onComplete).Ended ∨
      (connection.channel.isWriting = true ∧ connection.sendBuffer ≠ []) ∧
        offeredBehindEnd (connection.handleWritable answer onComplete).effects ≠ [] := by
  rw [TcpConnection.handleWritable]
  cases writing : connection.channel.isWriting with
  | false => exact .inl ⟨fun both => Bool.false_ne_true both.1, ended⟩
  | true =>
      have notified : .disconnected ∈ connection.effects :=
        List.count_pos_iff.mp (by rw [ended.notified]; exact Nat.one_pos)
      obtain ⟨status, effects, channel⟩ :=
        onWritable_disconnected ended.status writing answer onComplete
      have offered : offeredBehindEnd (connection.onWritable answer onComplete).effects =
          connection.sendBuffer := by
        rw [effects, offeredBehindEnd_append, if_pos notified, ended.quiet]
        exact List.append_nil _
      rw [if_pos rfl]
      by_cases empty : connection.sendBuffer = []
      · refine .inl ⟨fun both => both.2 empty, status, ?_, ?_, offered.trans empty⟩
        · rw [effects, List.count_append, ended.notified]
          rfl
        · rw [channel empty]
          exact ended.unregistered
      · exact .inr ⟨⟨rfl, empty⟩, offered ▸ empty⟩

theorem handleReadable_of_readsEnd {read : ReadResult} (reads : connection.readsEnd read = true) :
    connection.handleReadable read = connection.closed := by
  cases read with
  | data onMessage => cases reads
  | endOfStream closing =>
      have readable : EventMask.readable connection.channel.event = true := reads
      rw [handleReadable, if_pos readable, onReadable, onClose_eq]
  | failed => cases reads

theorem Alive.handleReadable (alive : connection.Alive) {read : ReadResult}
    (stays : connection.readsEnd read = false) : (connection.handleReadable read).Alive := by
  rw [TcpConnection.handleReadable]
  split
  · next readable =>
      cases read with
      | data onMessage => exact onMessage.run_alive alive
      | endOfStream closing => exact absurd (stays.symm.trans readable) Bool.false_ne_true
      | failed => exact alive
  · exact alive

theorem Ended.handleReadable (ended : connection.Ended) {read : ReadResult}
    (stays : connection.readsEnd read = false) : connection.handleReadable read = connection := by
  rw [TcpConnection.handleReadable]
  split
  · next readable =>
      cases read with
      | data onMessage => exact onMessage.run_closed ended.not_connected
      | endOfStream closing => exact absurd (stays.symm.trans readable) Bool.false_ne_true
      | failed => rfl
  · rfl

end TcpConnection

namespace PolledConnection

variable {polled : PolledConnection}

/-- A connection that goes on, or one that has ended once and for all. -/
def Sound (polled : PolledConnection) : Prop :=
  polled.ended = false ∧ polled.connection.Alive ∨ polled.ended = true ∧ polled.connection.Ended

theorem Sound.endsOnce (sound : polled.Sound) : polled.EndsOnce := by
  rcases sound with ⟨goes_on, alive⟩ | ⟨past, ended⟩
  · refine ⟨?_, fun past => ?_, offeredBehindEnd_of_notMem alive.unnotified⟩
    · rw [goes_on]
      exact List.count_eq_zero.mpr alive.unnotified
    · rw [goes_on] at past
      cases past
  · exact ⟨by rw [past, if_pos rfl, ended.notified], fun _ => ended.unregistered, ended.quiet⟩

/-- **The handler of an active channel.** -/
theorem Sound.handleEvent (sound : polled.Sound) (active : polled.active = true)
    (read : ReadResult) (answer : KernelAnswer) (onComplete : Script) :
    polled.EndsCleanly (.handleEvent read answer onComplete) ∧
        (polled.step (.handleEvent read answer onComplete)).Sound ∨
      ¬ polled.EndsCleanly (.handleEvent read answer onComplete) ∧
        ¬ (polled.step (.handleEvent read answer onComplete)).EndsOnce := by
  have stepped : polled.step (.handleEvent read answer onComplete) =
      ⟨(polled.connection.handleReadable read).handleWritable answer onComplete, false,
        polled.ended || polled.connection.readsEnd read⟩ := by
    rw [step, if_pos active]
    rfl
  have same : (polled.connection.handleReadable read).channel.isWriting =
      polled.connection.channel.isWriting := by
    rw [Channel.isWriting, handleReadable_event, Channel.isWriting]
  rw [stepped, EndsCleanly]
  simp only [active, forall_const]
  rcases sound with ⟨goes_on, alive⟩ | ⟨past, ended⟩
  · cases reads : polled.connection.readsEnd read with
    | false =>
        refine .inl ⟨by simp [goes_on], .inl ⟨by rw [goes_on]; rfl, ?_⟩⟩
        have afterRead := alive.handleReadable reads
        dsimp only
        rw [handleWritable]
        split
        · exact afterRead.onWritable answer onComplete
        · exact afterRead
    | true =>
        rw [handleReadable_of_readsEnd reads]
        rcases alive.closed.handleWritable answer onComplete with ⟨idle, ended⟩ | ⟨pending, offers⟩
        · exact .inl ⟨⟨by simp [goes_on], fun found => idle found.2⟩, .inr ⟨Bool.or_true _, ended⟩⟩
        · exact .inr ⟨fun cleanly => cleanly.2 ⟨Bool.or_true _, pending⟩,
            fun once => offers once.quiet⟩
  · cases reads : polled.connection.readsEnd read with
    | false =>
        rw [ended.handleReadable reads]
        rcases ended.handleWritable answer onComplete with ⟨idle, after⟩ | ⟨pending, offers⟩
        · refine .inl ⟨⟨fun both => Bool.false_ne_true both.2, fun found => idle found.2⟩,
            .inr ⟨?_, after⟩⟩
          dsimp only
          rw [past]
          rfl
        · refine .inr ⟨fun cleanly => cleanly.2 ⟨?_, pending⟩, fun once => offers once.quiet⟩
          rw [past]
          rfl
    | true =>
        refine .inr ⟨fun cleanly => cleanly.1 ⟨past, rfl⟩, fun once => ?_⟩
        have notified := once.notified
        have twice : ((polled.connection.closed).handleWritable answer onComplete).effects.count
            .disconnected = 2 := by
          rw [handleWritable]
          split
          · next writing =>
              rw [(onWritable_disconnected rfl writing answer onComplete).2.1, List.count_append,
                ended.closed_count]
              rfl
          · exact ended.closed_count
        rw [handleReadable_of_readsEnd reads] at notified
        simp only [twice, past, Bool.true_or, if_true] at notified
        omega

/-- **One event**: it keeps the connection sound, or it breaks the end. -/
theorem Sound.step (sound : polled.Sound) (event : LoopEvent) :
    polled.EndsCleanly event ∧ (polled.step event).Sound ∨
      ¬ polled.EndsCleanly event ∧ ¬ (polled.step event).EndsOnce := by
  cases event with
  | setEvent event =>
      refine .inl ⟨trivial, ?_⟩
      rw [PolledConnection.step]
      split
      · next polls =>
          rcases sound with ⟨goes_on, alive⟩ | ⟨past, ended⟩
          · exact .inl ⟨goes_on, alive.status, alive.unnotified⟩
          · exact absurd ended.unregistered polls.2
      · exact sound
  | task script =>
      refine .inl ⟨trivial, ?_⟩
      rcases sound with ⟨goes_on, alive⟩ | ⟨past, ended⟩
      · exact .inl ⟨goes_on, script.run_alive alive⟩
      · refine .inr ⟨past, ?_⟩
        show (script.run polled.connection).Ended
        rw [script.run_closed ended.not_connected]
        exact ended
  | connectDestroyed closing =>
      rcases sound with ⟨goes_on, alive⟩ | ⟨past, ended⟩
      · rcases alive.status with connected | closing_
        · refine .inl ⟨by simp [EndsCleanly, connected], .inr ⟨rfl, ?_⟩⟩
          show (polled.connection.connectDestroyed closing).Ended
          rw [connectDestroyed, if_pos connected, onClose_eq]
          exact alive.closed
        · refine .inr ⟨fun cleanly => cleanly closing_, fun once => ?_⟩
          have ignored : polled.connection.connectDestroyed closing = polled.connection := by
            rw [connectDestroyed, if_neg (by simp [closing_])]
          have notified := once.notified
          simp only [PolledConnection.step, TcpConnection.step, ignored, if_true] at notified
          exact alive.unnotified (List.count_pos_iff.mp (by omega))
      · refine .inl ⟨by simp [EndsCleanly, ended.status], .inr ⟨rfl, ?_⟩⟩
        show (polled.connection.connectDestroyed closing).Ended
        rw [connectDestroyed, if_neg ended.not_connected]
        exact ended
  | handleEvent read answer onComplete =>
      cases active : polled.active with
      | true => exact sound.handleEvent active read answer onComplete
      | false =>
          refine .inl
            ⟨fun impossible => absurd (active.symm.trans impossible) Bool.false_ne_true, ?_⟩
          rw [PolledConnection.step, if_neg (by simp [active])]
          exact sound

end PolledConnection

open PolledConnection

/-- **When a connection ends once and for all.** In every state of a run of an established
connection in its loop: one disconnect notification has been delivered if it has been closed or
destroyed, and none otherwise, and behind it the channel is not registered with epoll and no
bytes have been offered to the socket; if and only if every event of the run ends cleanly. -/
theorem ends_once_iff (opening : Script) (events : List LoopEvent) :
    PolledConnection.machine.Always EndsOnce (.established opening) events ↔
      ∀ before event, before ++ [event] <+: events →
        (PolledConnection.machine.run (.established opening) before).EndsCleanly event := by
  have start : (PolledConnection.established opening).Sound :=
    .inl ⟨rfl, opening.run_alive ⟨.inl rfl, List.not_mem_nil⟩⟩
  rw [← Machine.guarded_iff]
  refine @Machine.Preserves.always_iff _ _ PolledConnection.machine EndsCleanly Sound EndsOnce
    ⟨fun polled event sound cleanly => ?_⟩ (fun _ sound => sound.endsOnce)
    (fun polled event sound once => ?_) _ start events
  · exact ((sound.step event).resolve_right fun breaks => breaks.1 cleanly).2
  · exact ((sound.step event).resolve_right fun breaks => breaks.2 once).1

/-- A poll reports `EPOLLIN` and `EPOLLOUT` while a byte is pending, and the peer has closed. -/
def closedWhilePending : List LoopEvent :=
  [.task (.send [1, 2] ⟨1, .other⟩ .done .done), .setEvent (epollIn ||| epollOut),
    .handleEvent (.endOfStream .done) ⟨1, .other⟩ .done]

/-- A connection is shut down, and then destroyed. -/
def destroyedWhileClosing : List LoopEvent := [.task (.shutdown .done), .connectDestroyed .done]

/-- **Behind its end a connection offers a byte and registers its channel again, and a connection
that is being shut down ends without a notification.** -/
theorem end_not_clean :
    ((PolledConnection.machine.run (.established .done) closedWhilePending).connection.effects =
          [.send [1, 2] 1, .disconnected, .send [2] 1] ∧
        (PolledConnection.machine.run (.established .done)
          closedWhilePending).connection.channel.registered = some 0#32) ∧
      (PolledConnection.machine.run (.established .done) destroyedWhileClosing).ended = true ∧
        (PolledConnection.machine.run (.established .done)
          destroyedWhileClosing).connection.effects = [.shutdownWrite] := by
  decide

end LiveBroadcast
