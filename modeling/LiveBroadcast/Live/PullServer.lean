import LiveBroadcast.Live.Broadcast
import LiveBroadcast.Live.MediaTypes
import LiveBroadcast.Live.Ownership

/-!
# The viewers' side

`HttpPullServer` handles whatever a read of a viewer brings as one request. A request that
finds a publisher makes an `HttpPullConnection`, which is added to the publisher and takes
over the connection callback of the viewer's TCP connection; one that finds none shuts the
TCP connection down. Neither looks at what earlier reads did, and `ReadAllAsString` leaves
nothing of them in the buffer (`Buffer.readAllAsString_readFromSockfd`).

Here the servers stand together with the TCP connections of their viewers. What is handed to
a viewer's `Send` counts while its connection is connected, and a closed connection is not
polled any more. An event that would use a publisher that nobody owns ends the process, as a
fault does.

`Attached` says what the maps of the publishers and the callbacks have to do with the requests
that were granted: the map of a publisher has an entry for a viewer exactly when a request of
the viewer found it, and the callback of the viewer is that of the last one. Every event keeps
it (`Attached.step`).
-/

set_option autoImplicit false

namespace LiveBroadcast

/-! ## A viewer's connection -/

/-- What happens on a viewer's connection, in order. -/
inductive ViewerEffect where
  /-- An `HttpPullConnection` is made, and added to the publisher of this number. -/
  | attached (publisher : Nat)
  /-- Bytes are handed to `Send` while it is connected. -/
  | send (data : Bytes)
  | shutdown
  /-- Its connection callback is invoked when it is closed. -/
  | closed
  deriving DecidableEq, Repr

/-- The `TcpConnection` of a viewer. -/
structure Viewer where
  connectionStatus : ConnectionStatus
  effects : List ViewerEffect
  deriving DecidableEq, Repr

namespace Viewer

/-- A connection that is just established. -/
def new : Viewer := ⟨.connected, []⟩

def record (viewer : Viewer) (effects : List ViewerEffect) : Viewer :=
  { viewer with effects := viewer.effects ++ effects }

/-- `TcpConnection::Send` for one piece of data after the other. -/
def send (viewer : Viewer) (pieces : List Bytes) : Viewer :=
  if viewer.connectionStatus = .connected then viewer.record (pieces.map .send) else viewer

/-- `TcpConnection::Shutdown`. -/
def shutdown (viewer : Viewer) : Viewer :=
  if viewer.connectionStatus = .connected then
    { viewer.record [.shutdown] with connectionStatus := .disconnecting }
  else viewer

/-- `TcpConnection::OnClose`. -/
def onClose (viewer : Viewer) : Viewer :=
  { viewer.record [.closed] with connectionStatus := .disconnected }

/-- The publishers to which an `HttpPullConnection` of the viewer was added. -/
def attachments (viewer : Viewer) : List Nat :=
  viewer.effects.filterMap fun
    | .attached publisher => some publisher
    | _ => none

/-- What was sent on the connection. -/
def sent (viewer : Viewer) : List Bytes :=
  viewer.effects.filterMap fun
    | .send data => some data
    | _ => none

variable (viewer : Viewer)

@[simp] theorem record_connectionStatus (effects : List ViewerEffect) :
    (viewer.record effects).connectionStatus = viewer.connectionStatus := rfl

theorem record_attachments (effects : List ViewerEffect) :
    (viewer.record effects).attachments =
      viewer.attachments ++ (⟨viewer.connectionStatus, effects⟩ : Viewer).attachments :=
  List.filterMap_append

theorem record_sent (effects : List ViewerEffect) :
    (viewer.record effects).sent =
      viewer.sent ++ (⟨viewer.connectionStatus, effects⟩ : Viewer).sent :=
  List.filterMap_append

@[simp] theorem send_connectionStatus (pieces : List Bytes) :
    (viewer.send pieces).connectionStatus = viewer.connectionStatus := by
  rw [send]
  split <;> rfl

@[simp] theorem send_nil : viewer.send [] = viewer := by
  rw [send, List.map_nil, record, List.append_nil, ite_self]

@[simp] theorem send_attachments (pieces : List Bytes) :
    (viewer.send pieces).attachments = viewer.attachments := by
  rw [send]
  split
  · rw [record_attachments]
    induction pieces with
    | nil => exact List.append_nil _
    | cons piece pieces ih => exact ih
  · rfl

theorem send_sent (pieces : List Bytes) :
    (viewer.send pieces).sent =
      viewer.sent ++ if viewer.connectionStatus = .connected then pieces else [] := by
  rw [send]
  split
  · rw [record_sent, List.append_cancel_left_eq]
    induction pieces with
    | nil => rfl
    | cons piece pieces ih => exact congrArg (piece :: ·) ih
  · exact (List.append_nil _).symm

@[simp] theorem shutdown_attachments : viewer.shutdown.attachments = viewer.attachments := by
  rw [shutdown]
  split
  · exact (viewer.record_attachments [.shutdown]).trans (List.append_nil _)
  · rfl

@[simp] theorem shutdown_sent : viewer.shutdown.sent = viewer.sent := by
  rw [shutdown]
  split
  · exact (viewer.record_sent [.shutdown]).trans (List.append_nil _)
  · rfl

theorem shutdown_disconnected_iff :
    viewer.shutdown.connectionStatus = .disconnected ↔
      viewer.connectionStatus = .disconnected := by
  rw [shutdown]
  split
  · next connected => simp [connected]
  · rfl

theorem shutdown_not_connected : viewer.shutdown.connectionStatus ≠ .connected := by
  rw [shutdown]
  split
  · simp
  · assumption

@[simp] theorem onClose_attachments : viewer.onClose.attachments = viewer.attachments :=
  (viewer.record_attachments [.closed]).trans (List.append_nil _)

@[simp] theorem onClose_sent : viewer.onClose.sent = viewer.sent :=
  (viewer.record_sent [.closed]).trans (List.append_nil _)

/-- A granted request: an attachment, and the header behind it. -/
theorem attach_attachments (publisher : Nat) (header : Bytes) :
    ((viewer.record [.attached publisher]).send [header]).attachments =
      viewer.attachments ++ [publisher] := by
  rw [send_attachments, record_attachments]
  rfl

theorem attach_sent (publisher : Nat) (header : Bytes) :
    ((viewer.record [.attached publisher]).send [header]).sent =
      viewer.sent ++ if viewer.connectionStatus = .connected then [header] else [] := by
  rw [send_sent, record_connectionStatus, record_sent]
  exact congrArg (· ++ _) (List.append_nil _)

end Viewer

/-! ## Owners -/

namespace LiveServer

/-- A shared pointer to the publisher is left: in the closure that handles its handshake, or
in the map under a path of its success. -/
def owned (server : LiveServer) (id : Nat) : Bool :=
  (server.publishers id).any fun publisher =>
    decide (publisher.newMessageCallback = .onConnectionShakeHand) ||
      publisher.effects.any fun
        | .shakeHandSuccess path => decide (server.registry.getPushConnByUrl path = some id)
        | _ => false

theorem owned_iff {server : LiveServer} {id : Nat} :
    server.owned id = true ↔ ∃ publisher, server.publishers id = some publisher ∧
      (publisher.newMessageCallback = .onConnectionShakeHand ∨
        ∃ path, .shakeHandSuccess path ∈ publisher.effects ∧
          server.registry.getPushConnByUrl path = some id) := by
  simp only [owned, Option.any_eq_true, Bool.or_eq_true, decide_eq_true_eq, List.any_eq_true]
  refine exists_congr fun publisher => and_congr_right fun _ => or_congr_right ⟨?_, ?_⟩
  · rintro ⟨effect, inside, listed⟩
    cases effect with
    | shakeHandSuccess path => exact ⟨path, inside, of_decide_eq_true listed⟩
    | _ => cases listed
  · rintro ⟨path, inside, listed⟩
    exact ⟨_, inside, decide_eq_true listed⟩

/-- **Owners are what the registry says**: in every state of the servers a publisher in its
media phase is owned exactly when it is registered under some path. -/
theorem owned_iff_registered {build : Build} {events : List LiveEvent} {server : LiveServer}
    (reached : (LiveServer.machine build).run (.ok .empty) events = .ok server) {id : Nat}
    {publisher : Publisher} (known : server.publishers id = some publisher)
    (media : publisher.newMessageCallback = .onBodyData) :
    server.owned id = true ↔ ∃ path, server.registry.getPushConnByUrl path = some id := by
  rw [owned_iff]
  constructor
  · rintro ⟨other, there, owner⟩
    obtain rfl := Option.some.inj (known.symm.trans there)
    rcases owner with shaking | ⟨path, -, listed⟩
    · exact absurd (media.symm.trans shaking) (by simp)
    · exact ⟨path, listed⟩
  · rintro ⟨path, listed⟩
    obtain ⟨steps, simulates⟩ := Ownership.simulates_run reached
    exact ⟨publisher, known, .inr ⟨path,
      simulates.entry_path (Ownership.entered_run steps) known media listed, listed⟩⟩

end LiveServer

/-! ## The machine -/

/-- The servers and the viewers' connections by name. A name is used once, and its connection
is there when its first event comes. -/
structure PullServer where
  live : LiveServer
  viewers : Bytes → Viewer

/-- A call from a loop, or a send to a viewer that meets `EPIPE` or `ECONNRESET`. -/
inductive PullEvent where
  | loop (event : LiveEvent)
  | sendFails (connectionName : Bytes)

/-- Why the process ends: a fault, or a publisher that nobody owns is used, or an
`HttpPullConnection` in the map of such a publisher. -/
inductive PullFault where
  | fault (fault : Fault)
  | destroyed
  deriving DecidableEq, Repr

namespace PullServer

/-- Both servers after their start. -/
def empty : PullServer := ⟨.empty, fun _ => .new⟩

def setViewer (state : PullServer) (connectionName : Bytes) (viewer : Viewer) : PullServer :=
  { state with viewers := Function.update state.viewers connectionName viewer }

/-- What was sent to one viewer. -/
def sentTo (connectionName : Bytes) (sends : List (Bytes × Bytes)) : List Bytes :=
  (sends.filter fun send => send.1 = connectionName).map Prod.snd

/-- The servers go on, and what they hand to `Send` reaches the viewers' connections. -/
def deliver (state : PullServer) (live : LiveServer) : PullServer :=
  ⟨live, fun connectionName => (state.viewers connectionName).send
    (sentTo connectionName (live.sent.drop state.live.sent.length))⟩

/-- The connection of the viewer is closed, so the event does not come to pass. -/
def isClosed (state : PullServer) : PullEvent → Bool
  | .loop (.clientMessage connectionName _ _) | .loop (.clientClose connectionName)
  | .sendFails connectionName =>
      decide ((state.viewers connectionName).connectionStatus = .disconnected)
  | .loop _ => false

/-- The event uses an object that is destroyed: an open publisher that nobody owns reads, or
the callback of a viewer is that of an `HttpPullConnection` of such a publisher. -/
def usesDestroyed (state : PullServer) : PullEvent → Bool
  | .loop (.readable id _ _) =>
      (state.live.publishers id).any fun publisher =>
        decide (publisher.connectionStatus ≠ .disconnected) && !state.live.owned id
  | .loop (.clientClose connectionName) =>
      (state.live.closeConnectionCallback connectionName).any fun id => !state.live.owned id
  | _ => false

/-- `HttpPullServer::OnClientMessage`, without its log statement, which `loggedOnClientMessage`
adds. -/
def onClientMessage (build : Build) (state : PullServer) (connectionName data : Bytes)
    (unset : HeaderUnset) : Except Fault PullServer := do
  let found ← state.live.getPushConn data
  let live ← state.live.onClientMessage build connectionName data unset
  let viewer :=
    match found with
    | none => (state.viewers connectionName).shutdown
    | some (id, _) => (state.viewers connectionName).record [.attached id]
  return (state.setViewer connectionName viewer).deliver live

/-- `OnClose`, whose connection callback is `HttpPullConnection::OnConnection` if there is
one. -/
def onClose (state : PullServer) (connectionName : Bytes) : PullServer :=
  { state.setViewer connectionName (state.viewers connectionName).onClose with
    live := state.live.onClientClose connectionName }

def step (build : Build) (state : PullServer) (event : PullEvent) :
    Except PullFault PullServer :=
  if state.isClosed event then .ok state
  else if state.usesDestroyed event then .error .destroyed
  else
    match event with
    | .loop (.clientMessage connectionName data unset) =>
        (state.onClientMessage build connectionName data unset).mapError .fault
    | .loop (.clientClose connectionName) => .ok (state.onClose connectionName)
    | .loop event => ((state.live.step build event).map state.deliver).mapError .fault
    | .sendFails connectionName =>
        .ok (state.setViewer connectionName (state.viewers connectionName).shutdown)

/-- The servers with their viewers as a machine. -/
def machine (build : Build) : Machine (Except PullFault PullServer) PullEvent :=
  .faulting (step build)

/-! ### What an event does -/

/-- The event is one of a publisher. -/
def FromPublisher : LiveEvent → Prop
  | .clientMessage _ _ _ => False
  | .clientClose _ => False
  | _ => True

/-- What the servers are behind a request that finds a publisher. -/
def attach (state : PullServer) (connectionName : Bytes) (id : Nat) (publisher : Publisher)
    (connection : RtmpPushConnection) (header : Bytes) : PullServer where
  live := {
    registry := state.live.registry
    publishers := Function.update state.live.publishers id
      (some { publisher with pushConnection := connection })
    closeConnectionCallback :=
      Function.update state.live.closeConnectionCallback connectionName (some id)
    sent := state.live.sent ++ [(connectionName, header)] }
  viewers := Function.update state.viewers connectionName
    (((state.viewers connectionName).record [.attached id]).send [header])

/-- What an event can make of the servers and their viewers. -/
inductive Becomes (build : Build) (state : PullServer) : PullEvent → PullServer → Prop where
  /-- A closed connection has no events. -/
  | ignores (event : PullEvent) : Becomes build state event state
  /-- A request finds no publisher. -/
  | refuses {connectionName data : Bytes} {unset : HeaderUnset}
      (found : state.live.getPushConn data = .ok none) :
      Becomes build state (.loop (.clientMessage connectionName data unset))
        (state.setViewer connectionName (state.viewers connectionName).shutdown)
  /-- A request finds a publisher. -/
  | attaches (connectionName data : Bytes) (unset : HeaderUnset) (id : Nat)
      (publisher : Publisher) (connection : RtmpPushConnection) (header : Bytes)
      (opened : (state.viewers connectionName).connectionStatus ≠ .disconnected)
      (found : state.live.getPushConn data = .ok (some (id, publisher)))
      (added : publisher.pushConnection.addClientConnection build unset (.new connectionName) =
        .ok (connection, header)) :
      Becomes build state (.loop (.clientMessage connectionName data unset))
        (state.attach connectionName id publisher connection header)
  | closes (connectionName : Bytes)
      (opened : (state.viewers connectionName).connectionStatus ≠ .disconnected)
      (reached : ∀ id, state.live.closeConnectionCallback connectionName = some id →
        state.live.owned id = true) :
      Becomes build state (.loop (.clientClose connectionName)) (state.onClose connectionName)
  | passesOn {event : LiveEvent} {live : LiveServer} (kind : FromPublisher event)
      (used : state.usesDestroyed (.loop event) = false)
      (made : state.live.step build event = .ok live) :
      Becomes build state (.loop event) (state.deliver live)
  | shutsDown (connectionName : Bytes) :
      Becomes build state (.sendFails connectionName)
        (state.setViewer connectionName (state.viewers connectionName).shutdown)

variable {build : Build} {state next : PullServer}

@[simp] theorem setViewer_live (state : PullServer) (changed : Bytes) (viewer : Viewer) :
    (state.setViewer changed viewer).live = state.live := rfl

theorem setViewer_viewers (state : PullServer) (changed other : Bytes) (viewer : Viewer) :
    (state.setViewer changed viewer).viewers other =
      if other = changed then viewer else state.viewers other := by
  simp only [setViewer, Function.update_apply]

theorem sentTo_nil (connectionName : Bytes) : sentTo connectionName [] = [] := rfl

/-- Delivering nothing. -/
theorem deliver_same (state : PullServer) : state.deliver state.live = state := by
  rw [deliver, List.drop_length]
  simp only [sentTo_nil, Viewer.send_nil]

/-- **A request that is granted attaches the viewer.** -/
theorem onClientMessage_attaches {connectionName data : Bytes} {unset : HeaderUnset} {id : Nat}
    {publisher : Publisher} (found : state.live.getPushConn data = .ok (some (id, publisher))) :
    state.onClientMessage build connectionName data unset =
      (publisher.pushConnection.addClientConnection build unset (.new connectionName)).map
        fun added => state.attach connectionName id publisher added.1 added.2 := by
  rw [onClientMessage, LiveServer.onClientMessage]
  cases added : publisher.pushConnection.addClientConnection build unset (.new connectionName) with
  | error fault => simp only [found, added, bind, Except.bind, Except.map]
  | ok both =>
      have viewers (other : Bytes) : ((Function.update state.viewers connectionName
          ((state.viewers connectionName).record [.attached id])) other).send
            (sentTo other [(connectionName, both.2)]) =
          Function.update state.viewers connectionName
            (((state.viewers connectionName).record [.attached id]).send [both.2]) other := by
        by_cases same : other = connectionName
        · subst same
          simp [sentTo]
        · have away : sentTo other [(connectionName, both.2)] = [] := by
            simp [sentTo, Ne.symm same]
          rw [away, Viewer.send_nil, Function.update_of_ne same, Function.update_of_ne same]
      simp only [found, added, bind, Except.bind, Except.map, deliver, setViewer, attach,
        LiveServer.setPublisher, List.drop_left, viewers, pure, Except.pure]

/-- A request that finds no publisher shuts the viewer down. -/
theorem onClientMessage_refuses {connectionName data : Bytes} {unset : HeaderUnset}
    (found : state.live.getPushConn data = .ok none) :
    state.onClientMessage build connectionName data unset =
      .ok (state.setViewer connectionName (state.viewers connectionName).shutdown) := by
  have same := deliver_same
    (state.setViewer connectionName (state.viewers connectionName).shutdown)
  rw [setViewer_live] at same
  simp only [onClientMessage, LiveServer.onClientMessage, found, bind, Except.bind, pure,
    Except.pure, same]

/-- **What an event does** is one of these. -/
theorem step_becomes {event : PullEvent} (made : state.step build event = .ok next) :
    Becomes build state event next := by
  unfold step at made
  split at made
  · obtain rfl := Except.ok.inj made
    exact .ignores event
  · next opened =>
    split at made
    · cases made
    · next usable =>
      rw [Bool.not_eq_true] at usable
      cases event with
      | sendFails connectionName =>
          obtain rfl := Except.ok.inj made
          exact .shutsDown connectionName
      | loop event =>
          cases event with
          | clientMessage connectionName data unset =>
              have live : (state.viewers connectionName).connectionStatus ≠ .disconnected := by
                simpa [isClosed] using opened
              dsimp only at made
              cases found : state.live.getPushConn data with
              | error fault =>
                  simp only [onClientMessage, found, bind, Except.bind, Except.mapError] at made
                  cases made
              | ok answer =>
                  cases answer with
                  | none =>
                      rw [onClientMessage_refuses found] at made
                      obtain rfl := Except.ok.inj made
                      exact .refuses found
                  | some entry =>
                      obtain ⟨id, publisher⟩ := entry
                      rw [onClientMessage_attaches found] at made
                      cases added : publisher.pushConnection.addClientConnection build unset
                          (.new connectionName) with
                      | error fault =>
                          rw [added] at made
                          cases made
                      | ok both =>
                          rw [added] at made
                          obtain rfl := Except.ok.inj made
                          exact .attaches _ _ _ _ _ _ _ live found added
          | clientClose connectionName =>
              have live : (state.viewers connectionName).connectionStatus ≠ .disconnected := by
                simpa [isClosed] using opened
              obtain rfl := Except.ok.inj made
              refine .closes connectionName live fun id named => ?_
              simpa [usesDestroyed, named] using usable
          | _ =>
              dsimp only at made
              cases stepped : state.live.step build _ with
              | error fault =>
                  rw [stepped] at made
                  cases made
              | ok live =>
                  rw [stepped] at made
                  obtain rfl := Except.ok.inj made
                  exact .passesOn trivial usable stepped

/-- A request is granted when a publisher with a header is found. -/
theorem step_attaches {connectionName data : Bytes} {unset : HeaderUnset} {id : Nat}
    {publisher : Publisher} {served : RtmpPushConnection}
    (opened : (state.viewers connectionName).connectionStatus ≠ .disconnected)
    (found : state.live.getPushConn data = .ok (some (id, publisher)))
    (header : publisher.pushConnection.getHeaderDataBuffer build unset = .ok served) :
    ∃ connection sent, state.step build (.loop (.clientMessage connectionName data unset)) =
      .ok (state.attach connectionName id publisher connection sent) := by
  have granted := @onClientMessage_attaches build state connectionName data unset id publisher found
  rw [RtmpPushConnection.addClientConnection_eq, header] at granted
  have open_ : state.isClosed (.loop (.clientMessage connectionName data unset)) = false := by
    simp [isClosed, opened]
  unfold step
  simp only [open_, usesDestroyed, granted, Bool.false_eq_true, if_false]
  exact ⟨_, _, rfl⟩

/-- **The servers go on as they do without viewers' connections**: what an event makes of them
is what an event of the servers makes of them, or nothing. -/
theorem live_step {event : PullEvent} (made : state.step build event = .ok next) :
    next.live = state.live ∨ ∃ call, state.live.step build call = .ok next.live := by
  cases step_becomes made with
  | ignores => exact .inl rfl
  | refuses found => exact .inl rfl
  | shutsDown connectionName => exact .inl rfl
  | attaches connectionName data unset id publisher connection header opened found added =>
      refine .inr ⟨.clientMessage connectionName data unset, ?_⟩
      rw [LiveServer.step, LiveServer.onClientMessage, found]
      simp only [bind, Except.bind, added]
      rfl
  | closes connectionName opened reached => exact .inr ⟨.clientClose _, rfl⟩
  | passesOn kind used stepped => exact .inr ⟨_, stepped⟩

/-- Whatever the servers reach with their viewers they reach without them. -/
theorem live_run {events : List PullEvent}
    (reached : (machine build).run (.ok .empty) events = .ok state) :
    ∃ calls, (LiveServer.machine build).run (.ok .empty) calls = .ok state.live := by
  have preserved (before : PullServer) (event : PullEvent) (after : PullServer)
      (simulated : ∃ calls,
        (LiveServer.machine build).run (.ok .empty) calls = .ok before.live)
      (made : before.step build event = .ok after) :
      ∃ calls, (LiveServer.machine build).run (.ok .empty) calls = .ok after.live := by
    obtain ⟨calls, simulated⟩ := simulated
    rcases live_step made with same | ⟨call, stepped⟩
    · exact ⟨calls, same ▸ simulated⟩
    · refine ⟨calls ++ [call], ?_⟩
      rw [LiveServer.machine] at simulated ⊢
      rw [Machine.faulting_run_concat, simulated]
      exact stepped
  exact Machine.faulting_invariant preserved ⟨[], rfl⟩ reached

/-- **What is destroyed**, in every state that is reached: a read uses a destroyed publisher
when it is open and in its media phase and registered nowhere. -/
theorem usesDestroyed_iff {events : List PullEvent}
    (reached : (machine build).run (.ok .empty) events = .ok state) {id : Nat}
    {publisher : Publisher} (known : state.live.publishers id = some publisher)
    (opened : publisher.connectionStatus ≠ .disconnected)
    (media : publisher.newMessageCallback = .onBodyData) (data : Bytes)
    (environment : ReadEnvironment) :
    state.usesDestroyed (.loop (.readable id data environment)) = true ↔
      ∀ path, state.live.registry.getPushConnByUrl path ≠ some id := by
  obtain ⟨calls, simulated⟩ := live_run reached
  have registered := LiveServer.owned_iff_registered simulated known media
  simp only [usesDestroyed, known, Option.any_some, opened, ne_eq, not_false_eq_true, decide_true,
    Bool.true_and, Bool.not_eq_true', ← Bool.not_eq_true, registered, not_exists]

end PullServer

/-! ## Publishers and their viewers -/

theorem PullConnectionMap.lookup_of_mem {map : PullConnectionMap} {connectionName : Bytes}
    {client : HttpPullConnection} (inside : (connectionName, client) ∈ map) :
    map.lookup connectionName ≠ none := by
  intro absent
  have other := List.lookup_eq_none_iff.mp absent _ inside
  simp at other

namespace Publisher

/-- **A read keeps the viewers** of a publisher. -/
theorem onReadable_viewers {build : Build} {environment : ReadEnvironment} {publisher : Publisher}
    {data : Bytes} {outcome : ReadOutcome}
    (read : publisher.onReadable build environment data = .ok outcome) (connectionName : Bytes) :
    outcome.publisher.pushConnection.clientConnectionMap.lookup connectionName = none ↔
      publisher.pushConnection.clientConnectionMap.lookup connectionName = none := by
  rcases onReadable_cases read with ⟨-, rfl⟩ | ⟨-, -, shaking⟩ | ⟨-, -, rfl⟩
  · exact Iff.rfl
  · rw [onConnectionShakeHand_pushConnection shaking]
  · cases passed : publisher.pushConnection.newFlvTag build environment.unset
        (publisher.recvBuffer ++ data) with
    | none =>
        rw [onBodyData, (RtmpPushConnection.parseData_none passed connectionName).1]
    | some tag =>
        rw [onBodyData, (RtmpPushConnection.parseData_some passed connectionName).1,
          Option.map_eq_none_iff]

/-- What a read sends to viewers: tags, to viewers in the map. -/
theorem mem_sends_of_onReadable {build : Build} {environment : ReadEnvironment}
    {publisher : Publisher} {data : Bytes} {outcome : ReadOutcome}
    (read : publisher.onReadable build environment data = .ok outcome) {send : Bytes × Bytes}
    (inside : send ∈ outcome.sends) :
    publisher.pushConnection.clientConnectionMap.lookup send.1 ≠ none ∧
      ∃ (client : HttpPullConnection) (tag : FlvTag), send.2 = (client.addFlvTag tag).2 := by
  rw [onReadable_sends read] at inside
  split at inside
  · cases inside
  · next tag _ =>
      obtain ⟨⟨connectionName, client⟩, there, rfl⟩ := List.mem_map.mp inside
      exact ⟨PullConnectionMap.lookup_of_mem there, client, tag, rfl⟩

end Publisher

namespace LiveServer

/-- The map of the publisher has an entry for the viewer. -/
def HasClient (server : LiveServer) (id : Nat) (connectionName : Bytes) : Prop :=
  ∃ publisher, server.publishers id = some publisher ∧
    publisher.pushConnection.clientConnectionMap.lookup connectionName ≠ none

variable {build : Build} {server next : LiveServer}

/-- Setting one publisher changes its own viewers only. -/
theorem hasClient_update {id : Nat} {publisher : Publisher}
    (updated : next.publishers = Function.update server.publishers id (some publisher))
    (other : Nat) (connectionName : Bytes) :
    next.HasClient other connectionName ↔
      if other = id then
        publisher.pushConnection.clientConnectionMap.lookup connectionName ≠ none
      else server.HasClient other connectionName := by
  rw [HasClient, updated]
  by_cases same : other = id
  · subst same
    simp only [Function.update_self, if_true, Option.some.injEq, exists_eq_left']
  · simp only [Function.update_of_ne same, if_neg same, HasClient]

theorem hasClient_of_known {id : Nat} {publisher : Publisher}
    (known : server.publishers id = some publisher) (connectionName : Bytes) :
    server.HasClient id connectionName ↔
      publisher.pushConnection.clientConnectionMap.lookup connectionName ≠ none := by
  simp only [HasClient, known, Option.some.injEq, exists_eq_left']

/-- A publisher that is replaced by one with the same viewers. -/
theorem hasClient_same {id : Nat} {earlier later : Publisher}
    (known : server.publishers id = some earlier)
    (updated : next.publishers = Function.update server.publishers id (some later))
    (same : ∀ connectionName,
      later.pushConnection.clientConnectionMap.lookup connectionName = none ↔
        earlier.pushConnection.clientConnectionMap.lookup connectionName = none)
    (other : Nat) (connectionName : Bytes) :
    next.HasClient other connectionName ↔ server.HasClient other connectionName := by
  rw [hasClient_update updated]
  split
  · next here =>
      rw [here, hasClient_of_known known]
      exact not_congr (same connectionName)
  · exact Iff.rfl

/-- **A publisher's event leaves all viewers where they are.** -/
theorem hasClient_of_fromPublisher {event : LiveEvent} (kind : PullServer.FromPublisher event)
    (made : server.step build event = .ok next) (id : Nat) (connectionName : Bytes) :
    next.HasClient id connectionName ↔ server.HasClient id connectionName := by
  cases event with
  | connect newId name unset connectPack releasePack =>
      obtain rfl := Except.ok.inj made
      rw [onConnect]
      cases taken : server.publishers newId with
      | some other => exact Iff.rfl
      | none =>
          rw [hasClient_update rfl]
          split
          · next here =>
              subst here
              refine iff_of_false (fun inside => inside rfl) ?_
              rintro ⟨publisher, known, -⟩
              exact Option.some_ne_none _ (known.symm.trans taken)
          · exact Iff.rfl
  | readable reader data environment =>
      rcases onReadable_publishers made with ⟨rfl, -⟩ | ⟨earlier, outcome, known, read, updated, -⟩
      · exact Iff.rfl
      · exact hasClient_same known updated (Publisher.onReadable_viewers read) id connectionName
  | close closed =>
      obtain rfl := Except.ok.inj made
      rw [onClose]
      cases known : server.publishers closed with
      | none => exact Iff.rfl
      | some earlier =>
          exact @hasClient_same server _ closed earlier
            { earlier with connectionStatus := .disconnected } known rfl (fun _ => Iff.rfl) id
            connectionName
  | clientMessage name data unset => exact kind.elim
  | clientClose name => exact kind.elim

/-- A publisher's event leaves the callbacks of viewers, and sends tags to viewers in maps. -/
theorem sent_of_fromPublisher {event : LiveEvent} (kind : PullServer.FromPublisher event)
    (made : server.step build event = .ok next) :
    next.closeConnectionCallback = server.closeConnectionCallback ∧
      ∃ sends, next.sent = server.sent ++ sends ∧ ∀ send ∈ sends,
        (∃ id, server.HasClient id send.1) ∧
          ∃ (client : HttpPullConnection) (tag : FlvTag), send.2 = (client.addFlvTag tag).2 := by
  have silent {after : LiveServer} (same : after.sent = server.sent) :
      ∃ sends, after.sent = server.sent ++ sends ∧ ∀ send ∈ sends,
        (∃ id, server.HasClient id send.1) ∧
          ∃ (client : HttpPullConnection) (tag : FlvTag), send.2 = (client.addFlvTag tag).2 :=
    ⟨[], by rw [same, List.append_nil], List.forall_mem_nil _⟩
  cases event with
  | connect newId name unset connectPack releasePack =>
      obtain rfl := Except.ok.inj made
      rw [onConnect]
      split <;> exact ⟨rfl, silent rfl⟩
  | readable reader data environment =>
      have read : server.onReadable build reader data environment = .ok next := made
      rw [onReadable] at read
      cases known : server.publishers reader with
      | none =>
          rw [known] at read
          obtain rfl := Except.ok.inj read
          exact ⟨rfl, silent rfl⟩
      | some publisher =>
          rw [known] at read
          cases outcome : publisher.onReadable build environment data with
          | error fault =>
              simp only [outcome] at read
              cases read
          | ok left =>
              simp only [outcome] at read
              obtain rfl := Except.ok.inj read
              refine ⟨rfl, left.sends, rfl, fun send inside => ?_⟩
              obtain ⟨there, tagged⟩ := Publisher.mem_sends_of_onReadable outcome inside
              exact ⟨⟨reader, publisher, known, there⟩, tagged⟩
  | close closed =>
      obtain rfl := Except.ok.inj made
      rw [onClose]
      split <;> exact ⟨rfl, silent rfl⟩
  | clientMessage name data unset => exact kind.elim
  | clientClose name => exact kind.elim

/-- A closed viewer is taken from the map of the publisher that its callback names. -/
theorem hasClient_onClientClose (closed : Bytes) (id : Nat) (connectionName : Bytes) :
    (server.onClientClose closed).HasClient id connectionName ↔
      server.HasClient id connectionName ∧
        ¬ (connectionName = closed ∧ server.closeConnectionCallback closed = some id) := by
  rw [onClientClose]
  cases named : server.closeConnectionCallback closed with
  | none => simp
  | some found =>
      cases known : server.publishers found with
      | none =>
          simp only [Option.some.injEq, known]
          refine ⟨fun there => ⟨there, ?_⟩, And.left⟩
          rintro ⟨-, rfl⟩
          obtain ⟨publisher, here, -⟩ := there
          exact Option.some_ne_none _ (here.symm.trans known)
      | some publisher =>
          simp only [Option.some.injEq, known]
          rw [hasClient_update rfl]
          by_cases here : id = found
          · rw [if_pos here, here, hasClient_of_known known, RtmpPushConnection.onConnectionClose,
              PullConnectionMap.lookup_erase]
            by_cases same : connectionName = closed <;> simp [same]
          · rw [if_neg here]
            refine ⟨fun there => ⟨there, fun both => here both.2.symm⟩, And.left⟩

/-! ### Owners along a step -/

/-- A change that keeps the callback and the history of a publisher leaves its owners to the
registry. -/
theorem owned_update {changed : Nat} {earlier later : Publisher}
    (there : server.publishers changed = some earlier)
    (updated : next.publishers = Function.update server.publishers changed (some later))
    (callback : later.newMessageCallback = earlier.newMessageCallback)
    (effects : later.effects = earlier.effects) (id : Nat) :
    next.owned id = true ↔ ∃ publisher, server.publishers id = some publisher ∧
      (publisher.newMessageCallback = .onConnectionShakeHand ∨
        ∃ path, .shakeHandSuccess path ∈ publisher.effects ∧
          next.registry.getPushConnByUrl path = some id) := by
  rw [owned_iff, updated]
  by_cases here : id = changed
  · subst here
    simp only [Function.update_self, there, Option.some.injEq, exists_eq_left', callback, effects]
  · rw [Function.update_of_ne here]

/-- With the registry the owners stay. -/
theorem owned_same {changed : Nat} {earlier later : Publisher}
    (there : server.publishers changed = some earlier)
    (updated : next.publishers = Function.update server.publishers changed (some later))
    (callback : later.newMessageCallback = earlier.newMessageCallback)
    (effects : later.effects = earlier.effects) (registry : next.registry = server.registry)
    (id : Nat) : next.owned id = server.owned id := by
  rw [Bool.eq_iff_iff, owned_update there updated callback effects, owned_iff, registry]

/-- Fewer entries make fewer owners. -/
theorem owned_of_fewer {id : Nat} {publisher : Publisher}
    (fewer : ∀ path, next.registry.getPushConnByUrl path = some id →
      server.registry.getPushConnByUrl path = some id)
    (known : server.publishers id = some publisher)
    (owner : publisher.newMessageCallback = .onConnectionShakeHand ∨
      ∃ path, .shakeHandSuccess path ∈ publisher.effects ∧
        next.registry.getPushConnByUrl path = some id) : server.owned id = true := by
  refine owned_iff.mpr ⟨publisher, known, owner.imp_right ?_⟩
  rintro ⟨path, inside, listed⟩
  exact ⟨path, inside, fewer path listed⟩

/-- **Nobody becomes the owner of a publisher that is destroyed.** A publisher that is owned
behind an event of a publisher was owned before, or is new. -/
theorem owned_of_fromPublisher {event : LiveEvent} (kind : PullServer.FromPublisher event)
    (usable : ∀ reader data environment, event = .readable reader data environment →
      ∀ publisher, server.publishers reader = some publisher →
        publisher.connectionStatus ≠ .disconnected → server.owned reader = true)
    (made : server.step build event = .ok next) {id : Nat} {publisher : Publisher}
    (known : server.publishers id = some publisher) (owned : next.owned id = true) :
    server.owned id = true := by
  cases event with
  | connect newId name unset connectPack releasePack =>
      obtain rfl := Except.ok.inj made
      rw [onConnect] at owned
      cases taken : server.publishers newId with
      | some other =>
          rw [taken] at owned
          exact owned
      | none =>
          rw [taken] at owned
          have other : id ≠ newId := by
            rintro rfl
            exact Option.some_ne_none _ (known.symm.trans taken)
          obtain ⟨found, there, owner⟩ := owned_iff.mp owned
          exact owned_iff.mpr ⟨found, (Function.update_of_ne other _ _).symm.trans there, owner⟩
  | readable reader data environment =>
      rcases onReadable_publishers made with
        ⟨rfl, -⟩ | ⟨earlier, outcome, there, read, updated, registry⟩
      · exact owned
      · by_cases here : id = reader
        · subst here
          rcases Publisher.onReadable_cases read with ⟨-, rfl⟩ | ⟨opened, -⟩ | ⟨opened, -⟩
          · rwa [owned_same there updated rfl rfl registry] at owned
          · exact usable id data environment rfl earlier there opened
          · exact usable id data environment rfl earlier there opened
        · obtain ⟨found, same, owner⟩ := owned_iff.mp owned
          rw [updated, Function.update_of_ne here] at same
          refine owned_of_fewer (fun path listed => ?_) same owner
          rw [registry] at listed
          cases registered : outcome.registered with
          | none =>
              rw [registered] at listed
              exact listed
          | some entered =>
              simp only [registered, StreamRegistry.getPushConnByUrl_onShakeHandSuccess] at listed
              split at listed
              · exact absurd (Option.some.inj listed).symm here
              · exact listed
  | close closed =>
      obtain rfl := Except.ok.inj made
      rw [onClose] at owned
      cases there : server.publishers closed with
      | none =>
          rw [there] at owned
          exact owned
      | some earlier =>
          simp only [there] at owned
          obtain ⟨found, same, owner⟩ := (@owned_update server _ closed earlier
            { earlier with connectionStatus := .disconnected } there rfl rfl rfl id).mp owned
          refine owned_of_fewer (fun path listed => ?_) same owner
          rw [StreamRegistry.getPushConnByUrl_removeRtmpPushConnection] at listed
          split at listed
          · cases listed
          · exact listed
  | clientMessage name data unset => exact kind.elim
  | clientClose name => exact kind.elim

/-- Closing a viewer leaves all owners. -/
theorem owned_onClientClose (closed : Bytes) (id : Nat) :
    (server.onClientClose closed).owned id = server.owned id := by
  rw [onClientClose]
  split
  · rfl
  · next found _ =>
      split
      · rfl
      · next publisher known =>
          exact @owned_same server (server.setPublisher found { publisher with
              pushConnection := publisher.pushConnection.onConnectionClose closed })
            found publisher _ known rfl rfl rfl rfl id

end LiveServer

/-! ## Attached viewers -/

namespace PullServer

/-- What the maps and the callback of a viewer have to do with its requests: a publisher has
an entry for the viewer exactly if a request was granted with it, as long as the viewer is
there, and the callback is that of the last one. -/
structure Attached (connectionName : Bytes) (state : PullServer) : Prop where
  granted : ∀ id, state.live.HasClient id connectionName →
    id ∈ (state.viewers connectionName).attachments
  stays : (state.viewers connectionName).connectionStatus ≠ .disconnected →
    ∀ id ∈ (state.viewers connectionName).attachments, state.live.HasClient id connectionName
  callback : state.live.closeConnectionCallback connectionName =
    (state.viewers connectionName).attachments.getLast?

variable {build : Build} {state next : PullServer} {connectionName : Bytes}

theorem attached_empty : Attached connectionName empty where
  granted id there := by
    obtain ⟨publisher, known, -⟩ := there
    cases known
  stays _ := List.forall_mem_nil _
  callback := rfl

theorem hasClient_attach {attached : Bytes} {id : Nat} {publisher : Publisher}
    {unset : HeaderUnset} {connection : RtmpPushConnection} {header : Bytes}
    (known : state.live.publishers id = some publisher)
    (added : publisher.pushConnection.addClientConnection build unset (.new attached) =
      .ok (connection, header)) (other : Nat) (connectionName : Bytes) :
    (state.attach attached id publisher connection header).live.HasClient other connectionName ↔
      state.live.HasClient other connectionName ∨ other = id ∧ connectionName = attached := by
  obtain ⟨served, -, rfl, -⟩ := RtmpPushConnection.addClientConnection_served added
  rw [LiveServer.hasClient_update rfl]
  by_cases here : other = id
  · rw [if_pos here, here, LiveServer.hasClient_of_known known, PullConnectionMap.lookup_insert,
      HttpPullConnection.new]
    by_cases same : connectionName = attached <;> simp [same]
  · simp [here]

/-- Attaching a viewer leaves all owners. -/
theorem owned_attach (state : PullServer) (attached : Bytes) {id : Nat} {publisher : Publisher}
    (known : state.live.publishers id = some publisher) (connection : RtmpPushConnection)
    (header : Bytes) (other : Nat) :
    (state.attach attached id publisher connection header).live.owned other =
      state.live.owned other :=
  @LiveServer.owned_same state.live (state.attach attached id publisher connection header).live id
    publisher { publisher with pushConnection := connection } known rfl rfl rfl rfl other

theorem attach_viewers (state : PullServer) (attached other : Bytes) (id : Nat)
    (publisher : Publisher) (connection : RtmpPushConnection) (header : Bytes) :
    (state.attach attached id publisher connection header).viewers other =
      if other = attached then
        ((state.viewers attached).record [.attached id]).send [header]
      else state.viewers other := by
  simp only [attach, Function.update_apply]

/-- Shutting a viewer down leaves it where it is. -/
theorem Attached.shutdown (attached : state.Attached connectionName) (changed : Bytes) :
    (state.setViewer changed (state.viewers changed).shutdown).Attached connectionName := by
  obtain ⟨granted, stays, callback⟩ := attached
  by_cases same : connectionName = changed
  · subst same
    refine ⟨?_, ?_, ?_⟩
    · simpa only [setViewer_viewers, setViewer_live, if_true, Viewer.shutdown_attachments]
        using granted
    · simpa only [setViewer_viewers, setViewer_live, if_true, Viewer.shutdown_attachments, ne_eq,
        Viewer.shutdown_disconnected_iff] using stays
    · simpa only [setViewer_viewers, setViewer_live, if_true, Viewer.shutdown_attachments]
        using callback
  · have other : (state.setViewer changed (state.viewers changed).shutdown).viewers
        connectionName = state.viewers connectionName := by rw [setViewer_viewers, if_neg same]
    exact ⟨by rwa [other], by rwa [other], by rwa [other]⟩

/-- **Every event keeps the viewers attached** where their requests were granted. -/
theorem Attached.step (attached : state.Attached connectionName) {event : PullEvent}
    (made : state.step build event = .ok next) : next.Attached connectionName := by
  cases step_becomes made with
  | ignores => exact attached
  | refuses found => exact attached.shutdown _
  | shutsDown changed => exact attached.shutdown changed
  | attaches joined data unset id publisher connection header opened found added =>
      have clients := hasClient_attach (LiveServer.getPushConn_publisher found) added
      by_cases same : connectionName = joined
      · subst same
        refine ⟨fun other there => ?_, fun _ other inside => ?_, ?_⟩
        · rw [attach_viewers, if_pos rfl, Viewer.attach_attachments, List.mem_append,
            List.mem_singleton]
          exact ((clients other connectionName).mp there).imp (attached.granted other) And.left
        · rw [attach_viewers, if_pos rfl, Viewer.attach_attachments, List.mem_append,
            List.mem_singleton] at inside
          exact (clients other connectionName).mpr
            (inside.imp (attached.stays opened other) fun here => ⟨here, rfl⟩)
        · rw [attach_viewers, if_pos rfl, Viewer.attach_attachments, List.getLast?_concat]
          exact Function.update_self _ _ _
      · refine ⟨fun other there => ?_, fun live other inside => ?_, ?_⟩
        · rw [attach_viewers, if_neg same]
          exact attached.granted other
            (((clients other connectionName).mp there).resolve_right fun both => same both.2)
        · rw [attach_viewers, if_neg same] at live inside
          exact (clients other connectionName).mpr (.inl (attached.stays live other inside))
        · rw [attach_viewers, if_neg same, ← attached.callback]
          exact Function.update_of_ne same _ _
  | closes closed opened reached =>
      have clients := @LiveServer.hasClient_onClientClose state.live closed
      have kept : (state.live.onClientClose closed).closeConnectionCallback =
          state.live.closeConnectionCallback := by
        rw [LiveServer.onClientClose]
        split
        · rfl
        · split <;> rfl
      by_cases same : connectionName = closed
      · subst same
        have after : (state.onClose connectionName).viewers connectionName =
            (state.viewers connectionName).onClose := Function.update_self _ _ _
        refine ⟨fun other there => ?_, fun live => absurd (by rw [after]; rfl) live, ?_⟩
        · rw [after, Viewer.onClose_attachments]
          exact attached.granted other ((clients other connectionName).mp there).1
        · rw [after, Viewer.onClose_attachments, ← attached.callback]
          exact congrFun kept connectionName
      · have after : (state.onClose closed).viewers connectionName =
            state.viewers connectionName := Function.update_of_ne same _ _
        refine ⟨fun other there => ?_, fun live other inside => ?_, ?_⟩
        · rw [after]
          exact attached.granted other ((clients other connectionName).mp there).1
        · rw [after] at live inside
          exact (clients other connectionName).mpr
            ⟨attached.stays live other inside, fun both => same both.1⟩
        · rw [after, ← attached.callback]
          exact congrFun kept connectionName
  | passesOn kind used stepped =>
      have clients := LiveServer.hasClient_of_fromPublisher kind stepped
      have callbacks := (LiveServer.sent_of_fromPublisher kind stepped).1
      refine ⟨fun other there => ?_, fun live other inside => ?_, ?_⟩
      · simp only [deliver, Viewer.send_attachments]
        exact attached.granted other ((clients other connectionName).mp there)
      · simp only [deliver, Viewer.send_attachments, Viewer.send_connectionStatus] at live inside
        exact (clients other connectionName).mpr (attached.stays live other inside)
      · simp only [deliver, Viewer.send_attachments, callbacks]
        exact attached.callback

end PullServer

end LiveBroadcast
