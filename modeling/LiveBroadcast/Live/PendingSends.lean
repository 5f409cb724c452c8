import LiveBroadcast.Foundation.TaskQueue
import LiveBroadcast.Live.ClosedViewers

/-!
# Sends that wait for the loop of a viewer

A publisher's thread hands a tag to `Send` of a viewer's connection, and as that is not the thread
of the viewer's loop, `SendInLoop` becomes a pending function of the loop. It is bound to the raw
`this` of the connection. The connection is kept alive by shared pointers: the map of its server
has one until it is closed, and each `HttpPullConnection` that was made for it has one, as long as
a publisher that is there has it in its map.

When the connection closes, the server's map and the publisher that its callback names give theirs
up. So a function that is still pending then is called on a connection that is destroyed, unless a
request of the viewer had found another publisher. In other words, the leak of
`closed_viewers_forgotten_iff` is what saves a viewer that closes while a tag is underway
(`pending_sends_use_live_connections_iff`).

A handler is one step here: the whole read of a publisher, with `Send` of every viewer up to its
`RunInLoop`, so `Send`'s own look at the connection status and the append to the pending functions
are not apart; a request; a close. Between handlers the threads are in any order.
-/

set_option autoImplicit false

namespace LiveBroadcast

/-! ## Who holds a viewer's connection -/

namespace PullServer

/-- The map of the publisher has an `HttpPullConnection` of the viewer. -/
def hasPullConnection (state : PullServer) (id : Nat) (connectionName : Bytes) : Bool :=
  (state.live.publishers id).any fun publisher =>
    (publisher.pushConnection.clientConnectionMap.lookup connectionName).isSome

/-- A shared pointer to the `TcpConnection` of the viewer is left: in `connection_map_` until it
is closed, or in an `HttpPullConnection` of a publisher that is there. -/
def isHeld (state : PullServer) (connectionName : Bytes) : Bool :=
  decide ((state.viewers connectionName).connectionStatus ≠ .disconnected) ||
    (state.viewers connectionName).attachments.any fun id =>
      state.live.owned id && state.hasPullConnection id connectionName

/-- A request of the viewer found another publisher than its last one, and that is there. -/
def FoundAnother (state : PullServer) (connectionName : Bytes) : Prop :=
  ∃ id ∈ (state.viewers connectionName).attachments,
    (state.viewers connectionName).attachments.getLast? ≠ some id ∧ state.live.owned id = true

/-- Where a closed viewer is left: with the publishers that its requests found, except the
last. -/
def LeftBehind (connectionName : Bytes) (state : PullServer) : Prop :=
  (state.viewers connectionName).connectionStatus = .disconnected →
    ∀ id, state.live.HasClient id connectionName ↔
      id ∈ (state.viewers connectionName).attachments ∧
        (state.viewers connectionName).attachments.getLast? ≠ some id

variable {build : Build} {state next : PullServer} {connectionName : Bytes}

theorem hasPullConnection_iff {id : Nat} :
    state.hasPullConnection id connectionName = true ↔ state.live.HasClient id connectionName := by
  rw [hasPullConnection, Option.any_eq_true, LiveServer.HasClient]
  refine exists_congr fun publisher => and_congr_right fun _ => ?_
  rw [Option.isSome_iff_ne_none]

theorem leftBehind_empty : LeftBehind connectionName empty := by
  intro closed
  cases closed

/-- An event that changes neither the viewer's status, nor its requests, nor the maps as far as
they have it. -/
theorem LeftBehind.of_same (left : state.LeftBehind connectionName)
    (status : (next.viewers connectionName).connectionStatus = .disconnected →
      (state.viewers connectionName).connectionStatus = .disconnected)
    (attachments : (next.viewers connectionName).attachments =
      (state.viewers connectionName).attachments)
    (clients : ∀ id, next.live.HasClient id connectionName ↔
      state.live.HasClient id connectionName) : next.LeftBehind connectionName := by
  intro closed id
  rw [clients, attachments]
  exact left (status closed) id

theorem LeftBehind.shutdown (left : state.LeftBehind connectionName) (changed : Bytes) :
    (state.setViewer changed (state.viewers changed).shutdown).LeftBehind connectionName := by
  have viewer := state.setViewer_viewers changed connectionName (state.viewers changed).shutdown
  refine left.of_same (fun closed => ?_) ?_ fun id => Iff.rfl
  · rw [viewer] at closed
    split at closed
    · next same =>
        rw [same]
        exact (Viewer.shutdown_disconnected_iff _).mp closed
    · exact closed
  · rw [viewer]
    split
    · next same => rw [same, Viewer.shutdown_attachments]
    · rfl

/-- Every event keeps closed viewers where they were left. -/
theorem LeftBehind.step (left : state.LeftBehind connectionName)
    (attached : state.Attached connectionName) {event : PullEvent}
    (made : state.step build event = .ok next) : next.LeftBehind connectionName := by
  cases step_becomes made with
  | ignores => exact left
  | refuses found => exact left.shutdown _
  | shutsDown changed => exact left.shutdown changed
  | attaches joined data unset id publisher connection header opened found added =>
      have viewer := state.attach_viewers joined connectionName id publisher connection header
      by_cases same : connectionName = joined
      · subst same
        intro closed
        rw [viewer, if_pos rfl, Viewer.send_connectionStatus] at closed
        exact absurd closed opened
      · rw [if_neg same] at viewer
        refine left.of_same (fun closed => viewer ▸ closed) (by rw [viewer]) fun other => ?_
        rw [hasClient_attach (LiveServer.getPushConn_publisher found) added]
        exact or_iff_left fun both => same both.2
  | closes closed opened reached =>
      have clients := @LiveServer.hasClient_onClientClose state.live closed
      by_cases same : connectionName = closed
      · subst same
        intro _ id
        have viewer : (state.onClose connectionName).viewers connectionName =
            (state.viewers connectionName).onClose := Function.update_self _ _ _
        rw [viewer, Viewer.onClose_attachments, ← attached.callback]
        refine (clients id connectionName).trans (and_congr ?_ ?_)
        · exact ⟨attached.granted id, attached.stays opened id⟩
        · exact not_congr (and_iff_right rfl)
      · have viewer : (state.onClose closed).viewers connectionName =
            state.viewers connectionName := Function.update_of_ne same _ _
        refine left.of_same (fun closed => viewer ▸ closed) (by rw [viewer]) fun id => ?_
        exact (clients id connectionName).trans (and_iff_left fun both => same both.1)
  | passesOn kind used stepped =>
      refine left.of_same (fun closed => ?_) (Viewer.send_attachments _ _)
        (LiveServer.hasClient_of_fromPublisher kind stepped · connectionName)
      rwa [deliver, Viewer.send_connectionStatus] at closed

/-- **Who holds the connection of a closed viewer**: a publisher that a request of it found before
its last. -/
theorem isHeld_iff (left : state.LeftBehind connectionName) :
    state.isHeld connectionName = true ↔
      ((state.viewers connectionName).connectionStatus = .disconnected →
        state.FoundAnother connectionName) := by
  rw [isHeld, Bool.or_eq_true, decide_eq_true_eq, List.any_eq_true]
  by_cases closed : (state.viewers connectionName).connectionStatus = .disconnected
  · refine (or_iff_right (not_not_intro closed)).trans ?_
    rw [forall_prop_of_true closed]
    refine exists_congr fun id => and_congr_right fun inside => ?_
    rw [Bool.and_eq_true, hasPullConnection_iff, left closed id, and_comm, and_iff_right inside]
  · exact iff_of_true (.inl closed) fun gone => absurd gone closed

end PullServer

/-! ## The loops of the viewers -/

/-- A pending function: `SendInLoop`, bound to the connection and a copy of the data. -/
structure PendingSend where
  connectionName : Bytes
  data : Bytes
  deriving DecidableEq, Repr

/-- The servers, and the pending functions of the viewers' loops. -/
structure PullLoops where
  server : PullServer
  loops : Nat → TaskQueue PendingSend

/-- What the threads do: an event of the servers, or a loop in `HandlePendingFunc`, which takes
what is pending, or calls the next function. -/
inductive PullLoopEvent where
  | event (event : PullEvent)
  | swapPendingFunc (loop : Nat)
  | callPendingFunc (loop : Nat)

/-- Why the process ends: as the servers do, or a function is called on a connection that is
destroyed. -/
inductive PullLoopFault where
  | server (fault : PullFault)
  | destroyedConnection
  deriving DecidableEq, Repr

namespace PullLoops

/-- Both servers after their start. -/
def empty : PullLoops := ⟨.empty, fun _ => .empty⟩

section

variable (build : Build) (loopOf : Bytes → Nat)

/-- The loop of the viewer is in `HandlePendingFunc`, so it does not handle the event now. -/
def isBusy (state : PullLoops) : PullEvent → Bool
  | .loop (.clientMessage connectionName _ _) | .loop (.clientClose connectionName) =>
      !(state.loops (loopOf connectionName)).inHand.isEmpty
  | _ => false

/-- What `Send` of connected viewers hands to `RunInLoop`. The header goes to `SendInLoop` at
once, as the request is handled in the viewer's loop. -/
def handedOver (state next : PullServer) : PullEvent → List PendingSend
  | .loop (.clientMessage _ _ _) => []
  | _ => ((next.live.sent.drop state.live.sent.length).filter fun send =>
      decide ((state.viewers send.1).connectionStatus = .connected)).map fun send =>
        ⟨send.1, send.2⟩

/-- `EventLoop::RunInLoop`. -/
def runInLoop (loops : Nat → TaskQueue PendingSend) (send : PendingSend) :
    Nat → TaskQueue PendingSend :=
  Function.update loops (loopOf send.connectionName)
    ((loops (loopOf send.connectionName)).push send)

def setLoop (state : PullLoops) (loop : Nat) (queue : TaskQueue PendingSend) : PullLoops :=
  { state with loops := Function.update state.loops loop queue }

def step (state : PullLoops) : PullLoopEvent → Except PullLoopFault PullLoops
  | .event event =>
      if state.isBusy loopOf event then .ok state
      else
        match state.server.step build event with
        | .error fault => .error (.server fault)
        | .ok server =>
            .ok ⟨server,
              (handedOver state.server server event).foldl (runInLoop loopOf) state.loops⟩
  | .swapPendingFunc loop => .ok (state.setLoop loop (state.loops loop).swap)
  | .callPendingFunc loop =>
      match (state.loops loop).next with
      | none => .ok state
      | some (send, later) =>
          if state.server.isHeld send.connectionName then .ok (state.setLoop loop later)
          else .error .destroyedConnection

/-- The servers and the viewers' loops as a machine. -/
def machine : Machine (Except PullLoopFault PullLoops) PullLoopEvent :=
  .faulting (step build loopOf)

end

/-- A function is pending for the viewer. -/
def Awaited (state : PullLoops) (connectionName : Bytes) : Prop :=
  ∃ loop, ∃ send ∈ (state.loops loop).toCome, send.connectionName = connectionName

/-- Every pending function is bound to a connection that is there. -/
def NoneDangling (state : PullLoops) : Prop :=
  ∀ connectionName, state.Awaited connectionName → state.server.isHeld connectionName = true

/-- The event leaves no closed viewer for which a function was pending, unless a request of the
viewer found another publisher than its last one, and that is there. -/
def KeepsConnections (build : Build) (loopOf : Bytes → Nat) (state : PullLoops) :
    PullLoopEvent → Prop
  | .event event => state.isBusy loopOf event = false →
      ∀ next, state.server.step build event = .ok next →
        ∀ connectionName, state.Awaited connectionName →
          (next.viewers connectionName).connectionStatus = .disconnected →
            next.FoundAnother connectionName
  | _ => True

/-- The rest of a loop's `HandlePendingFunc`, and the next one. -/
def pendingRound (state : PullLoops) (loop : Nat) : List PullLoopEvent :=
  List.replicate (state.loops loop).inHand.length (.callPendingFunc loop) ++
    .swapPendingFunc loop ::
      List.replicate (state.loops loop).waiting.length (.callPendingFunc loop)

variable {build : Build} {loopOf : Bytes → Nat} {state next : PullLoops}

theorem setLoop_loops (state : PullLoops) (loop other : Nat) (queue : TaskQueue PendingSend) :
    (state.setLoop loop queue).loops other = if other = loop then queue else state.loops other := by
  simp only [setLoop, Function.update_apply]

theorem setLoop_setLoop (state : PullLoops) (loop : Nat) (queue later : TaskQueue PendingSend) :
    (state.setLoop loop queue).setLoop loop later = state.setLoop loop later := by
  simp only [setLoop, Function.update_idem]

/-! ### What is pending -/

/-- Handing sends over adds them to what is to come. -/
theorem mem_foldl_runInLoop {loops : Nat → TaskQueue PendingSend} {sends : List PendingSend}
    {loop : Nat} {send : PendingSend} :
    send ∈ ((sends.foldl (runInLoop loopOf) loops) loop).toCome ↔
      send ∈ (loops loop).toCome ∨ send ∈ sends ∧ loopOf send.connectionName = loop := by
  induction sends generalizing loops with
  | nil => simp
  | cons first sends ih =>
      rw [List.foldl_cons, ih, runInLoop]
      by_cases here : loop = loopOf first.connectionName
      · subst here
        rw [Function.update_self, TaskQueue.push_toCome, List.mem_append, List.mem_singleton,
          List.mem_cons]
        constructor
        · rintro ((there | rfl) | ⟨inside, same⟩)
          · exact .inl there
          · exact .inr ⟨.inl rfl, rfl⟩
          · exact .inr ⟨.inr inside, same⟩
        · rintro (there | ⟨rfl | inside, same⟩)
          · exact .inl (.inl there)
          · exact .inl (.inr rfl)
          · exact .inr ⟨inside, same⟩
      · rw [Function.update_of_ne here, List.mem_cons]
        refine or_congr_right (and_congr_left fun same => ?_)
        refine (or_iff_right ?_).symm
        rintro rfl
        exact here same.symm

/-- Only connected viewers are handed something, and an event that does that closes no viewer. -/
theorem handedOver_opened {server after : PullServer} {event : PullEvent}
    (made : server.step build event = .ok after) {send : PendingSend}
    (inside : send ∈ handedOver server after event) :
    (after.viewers send.connectionName).connectionStatus ≠ .disconnected := by
  have silent (same : after.live.sent = server.live.sent)
      (other : handedOver server after event = ((after.live.sent.drop
        server.live.sent.length).filter fun send =>
          decide ((server.viewers send.1).connectionStatus = .connected)).map fun send =>
            ⟨send.1, send.2⟩) : False := by
    rw [other, same, List.drop_length] at inside
    cases inside
  cases PullServer.step_becomes made with
  | ignores =>
      cases event with
      | sendFails other => exact (silent rfl rfl).elim
      | loop event =>
          cases event with
          | clientMessage other data unset => cases inside
          | _ => exact (silent rfl rfl).elim
  | refuses found => cases inside
  | shutsDown other => exact (silent rfl rfl).elim
  | attaches joined data unset id publisher connection header opened found added => cases inside
  | closes closed opened reached =>
      refine (silent ?_ rfl).elim
      rw [PullServer.onClose, LiveServer.onClientClose]
      split
      · rfl
      · split <;> rfl
  | @passesOn event live kind used stepped =>
      have connected : (server.viewers send.connectionName).connectionStatus = .connected := by
        cases event with
        | clientMessage other data unset => exact kind.elim
        | _ =>
            obtain ⟨sent, there, rfl⟩ := List.mem_map.mp inside
            exact of_decide_eq_true (List.mem_filter.mp there).2
      rw [PullServer.deliver, Viewer.send_connectionStatus, connected]
      simp

/-- What is pending behind an event of the servers. -/
theorem awaited_event {server : PullServer} {event : PullEvent} {connectionName : Bytes} :
    (⟨server, (handedOver state.server server event).foldl (runInLoop loopOf)
        state.loops⟩ : PullLoops).Awaited connectionName ↔
      state.Awaited connectionName ∨
        ∃ send ∈ handedOver state.server server event, send.connectionName = connectionName := by
  constructor
  · rintro ⟨loop, send, there, named⟩
    rcases mem_foldl_runInLoop.mp there with before | ⟨inside, -⟩
    · exact .inl ⟨loop, send, before, named⟩
    · exact .inr ⟨send, inside, named⟩
  · rintro (⟨loop, send, there, named⟩ | ⟨send, inside, named⟩)
    · exact ⟨loop, send, mem_foldl_runInLoop.mpr (.inl there), named⟩
    · exact ⟨_, send, mem_foldl_runInLoop.mpr (.inr ⟨inside, rfl⟩), named⟩

/-- The servers are where their own events have brought them. -/
structure Sound (state : PullLoops) : Prop where
  attached : ∀ connectionName, state.server.Attached connectionName
  left : ∀ connectionName, state.server.LeftBehind connectionName

theorem sound_empty : Sound empty :=
  ⟨fun _ => PullServer.attached_empty, fun _ => PullServer.leftBehind_empty⟩

/-- An event of the servers that comes to pass. -/
theorem step_event {event : PullEvent} (made : state.step build loopOf (.event event) = .ok next) :
    next = state ∨ state.isBusy loopOf event = false ∧
      ∃ server, state.server.step build event = .ok server ∧
        next = ⟨server, (handedOver state.server server event).foldl (runInLoop loopOf)
          state.loops⟩ := by
  rw [step] at made
  split at made
  · exact .inl (Except.ok.inj made).symm
  · next idle =>
      cases stepped : state.server.step build event with
      | error fault =>
          rw [stepped] at made
          cases made
      | ok server =>
          rw [stepped] at made
          exact .inr ⟨Bool.not_eq_true _ ▸ idle, server, rfl, (Except.ok.inj made).symm⟩

/-- The loops leave the servers, and bring nothing new. -/
theorem step_loops {input : PullLoopEvent} (made : state.step build loopOf input = .ok next)
    (loops : ∀ event, input ≠ .event event) :
    next.server = state.server ∧ ∀ loop send, send ∈ (next.loops loop).toCome →
      send ∈ (state.loops loop).toCome := by
  cases input with
  | event event => exact absurd rfl (loops event)
  | swapPendingFunc loop =>
      obtain rfl := Except.ok.inj made
      refine ⟨rfl, fun other send there => ?_⟩
      rw [setLoop_loops] at there
      split at there
      · next same =>
          rw [TaskQueue.swap_toCome] at there
          exact same ▸ there
      · exact there
  | callPendingFunc loop =>
      rw [step] at made
      cases called : (state.loops loop).next with
      | none =>
          rw [called] at made
          obtain rfl := Except.ok.inj made
          exact ⟨rfl, fun _ _ there => there⟩
      | some pair =>
          obtain ⟨first, later⟩ := pair
          simp only [called] at made
          split at made
          · obtain rfl := Except.ok.inj made
            refine ⟨rfl, fun other send there => ?_⟩
            rw [setLoop_loops] at there
            split at there
            · next same =>
                rw [same, (TaskQueue.next_toCome called).1]
                exact List.mem_cons_of_mem _ there
            · exact there
          · cases made

theorem Sound.step (sound : state.Sound) {input : PullLoopEvent}
    (made : state.step build loopOf input = .ok next) : next.Sound := by
  cases input with
  | event event =>
      rcases step_event made with rfl | ⟨-, server, stepped, rfl⟩
      · exact sound
      · exact ⟨fun name => (sound.attached name).step stepped,
          fun name => (sound.left name).step (sound.attached name) stepped⟩
  | _ =>
      have same := (step_loops made (by simp)).1
      exact ⟨fun name => same ▸ sound.attached name, fun name => same ▸ sound.left name⟩

/-- **The steps that leave nothing dangling.** -/
theorem NoneDangling.step_iff (none : state.NoneDangling) (sound : state.Sound)
    (input : PullLoopEvent) :
    (∀ next, state.step build loopOf input = .ok next → next.NoneDangling) ↔
      state.KeepsConnections build loopOf input := by
  cases input with
  | event event =>
      constructor
      · intro keeps idle server stepped connectionName awaited closed
        have made : state.step build loopOf (.event event) = .ok
            ⟨server, (handedOver state.server server event).foldl (runInLoop loopOf)
              state.loops⟩ := by
          rw [PullLoops.step, idle, stepped]
          rfl
        have held := keeps _ made connectionName (awaited_event.mpr (.inl awaited))
        have left := (sound.left connectionName).step (sound.attached connectionName) stepped
        exact (PullServer.isHeld_iff left).mp held closed
      · intro kept next made
        rcases step_event made with rfl | ⟨idle, server, stepped, rfl⟩
        · exact none
        · intro connectionName awaited
          have left := (sound.left connectionName).step (sound.attached connectionName) stepped
          refine (PullServer.isHeld_iff left).mpr fun closed => ?_
          rcases awaited_event.mp awaited with before | ⟨send, inside, rfl⟩
          · exact kept idle server stepped connectionName before closed
          · exact absurd closed (handedOver_opened stepped inside)
  | _ =>
      refine iff_of_true (fun next made connectionName awaited => ?_) trivial
      obtain ⟨same, fewer⟩ := step_loops made (by simp)
      obtain ⟨loop, send, there, named⟩ := awaited
      rw [same]
      exact none connectionName ⟨loop, send, fewer loop send there, named⟩

/-! ### Calling what is pending -/

/-- The functions in hand are called one after the other. -/
theorem run_calls (state : PullLoops) (loop : Nat) {queue : TaskQueue PendingSend}
    (there : state.loops loop = queue) :
    (machine build loopOf).run (.ok state)
        (List.replicate queue.inHand.length (.callPendingFunc loop)) =
      if queue.inHand.all fun send => state.server.isHeld send.connectionName then
        .ok (state.setLoop loop ⟨queue.ran ++ queue.inHand, [], queue.waiting⟩)
      else .error .destroyedConnection := by
  obtain ⟨ran, inHand, waiting⟩ := queue
  dsimp only
  induction inHand generalizing state ran with
  | nil =>
      have same : state.setLoop loop ⟨ran, [], waiting⟩ = state := by
        rw [setLoop, ← there, Function.update_eq_self]
      rw [List.append_nil, same]
      rfl
  | cons send inHand ih =>
      have called : (state.loops loop).next =
          some (send, ⟨ran ++ [send], inHand, waiting⟩) := by rw [there]; rfl
      have stepped : (machine build loopOf).step (.ok state) (.callPendingFunc loop) =
          if state.server.isHeld send.connectionName then
            .ok (state.setLoop loop ⟨ran ++ [send], inHand, waiting⟩)
          else .error .destroyedConnection := by
        change step build loopOf state (.callPendingFunc loop) = _
        rw [step, called]
      rw [List.length_cons, List.replicate_succ, Machine.run_cons, stepped, List.all_cons]
      by_cases held : state.server.isHeld send.connectionName = true
      · have later := ih (state.setLoop loop ⟨ran ++ [send], inHand, waiting⟩) (ran ++ [send])
          (by rw [setLoop_loops, if_pos rfl])
        rw [if_pos held, later, held, Bool.true_and, setLoop_setLoop, List.append_assoc]
        rfl
      · rw [if_neg held, Bool.eq_false_of_not_eq_true held, Bool.false_and]
        exact Machine.faulting_run_error _ _

/-- **A loop can call what is pending** exactly if the connections are there. -/
theorem run_pendingRound (state : PullLoops) (loop : Nat) :
    (∃ after, (machine build loopOf).run (.ok state) (state.pendingRound loop) = .ok after) ↔
      ∀ send ∈ (state.loops loop).toCome, state.server.isHeld send.connectionName = true := by
  obtain ⟨queue, there⟩ : ∃ queue, queue = state.loops loop := ⟨_, rfl⟩
  rw [pendingRound, Machine.run_append, run_calls state loop rfl, Machine.run_cons,
    TaskQueue.toCome, List.forall_mem_append, ← there]
  by_cases held : (queue.inHand.all fun send => state.server.isHeld send.connectionName) = true
  · have swapped : (machine build loopOf).step
        (.ok (state.setLoop loop ⟨queue.ran ++ queue.inHand, [], queue.waiting⟩))
        (.swapPendingFunc loop) =
          .ok (state.setLoop loop ⟨queue.ran ++ queue.inHand, queue.waiting, []⟩) := by
      change Except.ok _ = _
      rw [setLoop_loops, if_pos rfl, setLoop_setLoop]
      rfl
    have called := @run_calls build loopOf
      (state.setLoop loop ⟨queue.ran ++ queue.inHand, queue.waiting, []⟩) loop
      ⟨queue.ran ++ queue.inHand, queue.waiting, []⟩ (by rw [setLoop_loops, if_pos rfl])
    rw [if_pos held, swapped, called, and_iff_right (List.all_eq_true.mp held)]
    by_cases waiting : (queue.waiting.all fun send =>
        state.server.isHeld send.connectionName) = true
    · exact iff_of_true ⟨_, if_pos waiting⟩ (List.all_eq_true.mp waiting)
    · refine iff_of_false ?_ fun all => waiting (List.all_eq_true.mpr all)
      rintro ⟨after, reached⟩
      exact absurd ((if_neg waiting).symm.trans reached) (by simp)
  · refine iff_of_false ?_ fun all => held (List.all_eq_true.mpr all.1)
    rintro ⟨after, reached⟩
    rw [if_neg held] at reached
    have fault := @Machine.faulting_run_error _ _ _ (step build loopOf)
      PullLoopFault.destroyedConnection
      (.swapPendingFunc loop :: List.replicate queue.waiting.length (.callPendingFunc loop))
    exact absurd (fault.symm.trans reached) (by simp)

theorem noneDangling_iff :
    state.NoneDangling ↔ ∀ loop, ∃ after,
      (machine build loopOf).run (.ok state) (state.pendingRound loop) = .ok after := by
  refine Iff.trans ?_ (forall_congr' fun loop => (run_pendingRound state loop).symm)
  constructor
  · intro none loop send there
    exact none _ ⟨loop, send, there, rfl⟩
  · rintro held connectionName ⟨loop, send, there, rfl⟩
    exact held loop send there

end PullLoops

/-- **When pending sends use connections that are there.** In every run of the servers and the
loops of their viewers, with any requests, traffic of publishers, closes and order of the threads,
each handler (a publisher's whole read, a request, a close) as a single step: in every state each
loop can call what is pending, if and only if no event leaves a closed viewer for which a function
was pending, except one whose requests had found another publisher than the last, and that is
there. -/
theorem pending_sends_use_live_connections_iff (build : Build) (loopOf : Bytes → Nat)
    (events : List PullLoopEvent) :
    (∀ before, before <+: events → ∀ state : PullLoops,
        (PullLoops.machine build loopOf).run (.ok .empty) before = .ok state →
          ∀ loop, ∃ after, (PullLoops.machine build loopOf).run (.ok state)
            (state.pendingRound loop) = .ok after) ↔
      ∀ before event, before ++ [event] <+: events → ∀ state : PullLoops,
        (PullLoops.machine build loopOf).run (.ok .empty) before = .ok state →
          state.KeepsConnections build loopOf event := by
  have sound (state : PullLoops) (event : PullLoopEvent) (next : PullLoops) (sound : state.Sound)
      (made : state.step build loopOf event = .ok next) : next.Sound := sound.step made
  have exact (state : PullLoops) (event : PullLoopEvent) (sound : state.Sound)
      (none : state.NoneDangling) :
      (∀ next, state.step build loopOf event = .ok next → next.NoneDangling) ↔
        state.KeepsConnections build loopOf event := none.step_iff sound event
  have nothing : PullLoops.NoneDangling .empty := by
    rintro connectionName ⟨loop, send, there, -⟩
    cases there
  have runs := Machine.faulting_always_iff sound exact PullLoops.sound_empty nothing events
  simp only [@PullLoops.noneDangling_iff build loopOf] at runs
  exact runs

/-- A viewer joins a publisher, a frame comes, and the viewer closes before its loop has called
what is pending. -/
def closesWithFrame : List PullLoopEvent :=
  (acknowledgedStream ++
    [LiveEvent.readable 0 (encodeMessages 4096 4 oneFrame) ⟨none, fun _ => 0, 0⟩,
      .clientClose [118]]).map (.event ∘ .loop) ++ [.swapPendingFunc 0]

-- The frame's function is called on the connection that the close has destroyed.
example :
    ((PullLoops.machine .standard fun _ => 0).run (.ok .empty) closesWithFrame).toOption.any
      (fun state => decide ((state.loops 0).inHand.length = 1)) = true ∧
    ((PullLoops.machine .standard fun _ => 0).run (.ok .empty)
      (closesWithFrame ++ [.callPendingFunc 0])).toOption.isNone = true := by
  decide +kernel

end LiveBroadcast
