import LiveBroadcast.Codec.Chunking
import LiveBroadcast.Live.RtmpPushConnection
import LiveBroadcast.Live.StreamRegistry
import LiveBroadcast.Network.TcpConnection

/-!
# The two servers

`RtmpPushServer` accepts publishers and `HttpPullServer` accepts viewers. A publisher's
connection hands what it has read to `OnConnectionShakeHand`, until that replaces itself by
`OnBodyData`; a viewer's request is looked up in the registry of the other server.

Here both servers are one machine. An event is one call from a loop: a connection is made,
bytes are read, a connection closes. What user code and memory contribute to a call comes
with the event: the authentication callback, the bytes behind a buffer, and the values of
variables that are not set. A fault ends the process, and with it the run.

Connections are numbered, and a number is used once. The bytes that would leave by a
publisher's connection, and the calls of its callbacks, are recorded in its `effects`; what
viewers are sent is recorded with the name of the viewer's connection.

Log statements are left out here. Two of them stream what a client has sent, the path of
`OnShakeHandSuccess` and the target of `OnClientMessage`, and a long one does not fit in its
record: `loggedOnReadable` and `logRequest` carry these out.
-/

set_option autoImplicit false

namespace LiveBroadcast

/-! ## A publisher's connection -/

/-- What `newmessage_callback_` of a publisher's connection calls. -/
inductive NewMessageCallback where
  | onConnectionShakeHand
  | onBodyData
  deriving DecidableEq, Repr

/-- What happens on a publisher's connection, in order. -/
inductive PublisherEffect where
  /-- Bytes are handed to `Send` while it is connected. -/
  | send (data : Bytes)
  /-- `authentication_callback_` answers. -/
  | authenticated (username password : Bytes) (answer : Bool)
  /-- `shake_hand_success_callback_` is invoked, with this path. -/
  | shakeHandSuccess (path : Bytes)
  | shutdown
  deriving DecidableEq, Repr

/-- A publisher: its `RtmpPushConnection` and what its `TcpConnection` adds. -/
structure Publisher where
  pushConnection : RtmpPushConnection
  connectionStatus : ConnectionStatus
  recvBuffer : Bytes
  newMessageCallback : NewMessageCallback
  effects : List PublisherEffect
  deriving DecidableEq, Repr

/-- What a call finds around it: the authentication callback, if there is one, the memory
behind the body of the releaseStream pack, and the highest timestamp byte in `Transform`. -/
structure ReadEnvironment where
  authenticationCallback : Option (Bytes → Bytes → Bool)
  behind : Nat → UInt8
  unset : UInt8

/-- What a read leaves: the path under which the handshake success callback was invoked, if
it was, and what viewers were sent. -/
structure ReadOutcome where
  publisher : Publisher
  registered : Option Bytes
  sends : List (Bytes × Bytes)
  deriving DecidableEq, Repr

namespace Publisher

/-- A connection that is just established, in its handshake. -/
def new (connectionName : Bytes) (rtmpManager : RtmpManager) : Publisher :=
  ⟨.new connectionName rtmpManager, .connected, [], .onConnectionShakeHand, []⟩

def record (publisher : Publisher) (effects : List PublisherEffect) : Publisher :=
  { publisher with effects := publisher.effects ++ effects }

/-- `TcpConnection::Send`, which sends nothing once the connection is shut down. -/
def send (publisher : Publisher) (replies : List Bytes) : Publisher :=
  if publisher.connectionStatus = .connected then publisher.record (replies.map .send)
  else publisher

/-- `TcpConnection::Shutdown`. -/
def shutdown (publisher : Publisher) : Publisher :=
  if publisher.connectionStatus = .connected then
    { publisher.record [.shutdown] with connectionStatus := .disconnecting }
  else publisher

/-- `RtmpPushConnection::Authenticate`. -/
def authenticate (environment : ReadEnvironment) (publisher : Publisher) :
    Except Fault (Publisher × Bool) := do
  let username ← publisher.pushConnection.getRtmpPath
  let password ←
    publisher.pushConnection.rtmpManager.getPasswordFromReleasePack environment.behind
  match environment.authenticationCallback with
  | none => return (publisher, true)
  | some callback =>
      let answer := callback username password
      return (publisher.record [.authenticated username password answer], answer)

/-- `ShakeHand`, with its replies. -/
def shakeHand (build : Build) (publisher : Publisher) (buffer : Bytes) :
    Publisher × ShakeHandResult :=
  let outcome := publisher.pushConnection.rtmpManager.shakeHand build buffer
  ({ publisher with
      pushConnection := { publisher.pushConnection with rtmpManager := outcome.manager }
      recvBuffer := outcome.buffer }.send outcome.replies, outcome.result)

/-- `OnConnectionShakeHand`, and `OnShakeHandSuccess` without its log statement, which
`loggedOnReadable` adds. -/
def onConnectionShakeHand (build : Build) (environment : ReadEnvironment) (publisher : Publisher)
    (buffer : Bytes) : Except Fault ReadOutcome :=
  let (publisher, result) := publisher.shakeHand build buffer
  match result with
  | .shakeAuthenticate => do
      let (publisher, answer) ← publisher.authenticate environment
      return ⟨if answer then publisher else publisher.shutdown, none, []⟩
  | .shakeSuccess => do
      let path ← publisher.pushConnection.getRtmpPath
      return ⟨{ publisher.record [.shakeHandSuccess path] with newMessageCallback := .onBodyData },
        some path, []⟩
  | .shakeFailed => return ⟨publisher.shutdown, none, []⟩
  | .shakeDataNotEnough => return ⟨publisher, none, []⟩

/-- `OnBodyData`. -/
def onBodyData (build : Build) (environment : ReadEnvironment) (publisher : Publisher)
    (buffer : Bytes) : ReadOutcome :=
  let (connection, buffer, sends) :=
    publisher.pushConnection.parseData build environment.unset buffer
  ⟨{ publisher with pushConnection := connection, recvBuffer := buffer }, none, sends⟩

/-- `TcpConnection::OnReadable`, when bytes are read. A disconnected channel is not polled. -/
def onReadable (build : Build) (environment : ReadEnvironment) (publisher : Publisher)
    (data : Bytes) : Except Fault ReadOutcome :=
  if publisher.connectionStatus = .disconnected then .ok ⟨publisher, none, []⟩
  else
    match publisher.newMessageCallback with
    | .onConnectionShakeHand =>
        publisher.onConnectionShakeHand build environment (publisher.recvBuffer ++ data)
    | .onBodyData =>
        .ok (publisher.onBodyData build environment (publisher.recvBuffer ++ data))

/-! ### What a read does -/

@[simp] theorem record_effects (publisher : Publisher) (effects : List PublisherEffect) :
    (publisher.record effects).effects = publisher.effects ++ effects := rfl

/-- Two states of a connection with the same codec, callback and history up to effects that
are no handshake success. -/
structure Continues (publisher after : Publisher) : Prop where
  pushConnection : after.pushConnection = publisher.pushConnection
  newMessageCallback : after.newMessageCallback = publisher.newMessageCallback
  effects : ∃ made, after.effects = publisher.effects ++ made ∧
    ∀ path, .shakeHandSuccess path ∉ made

theorem Continues.refl (publisher : Publisher) : Continues publisher publisher :=
  ⟨rfl, rfl, [], (List.append_nil _).symm, fun _ => List.not_mem_nil⟩

theorem Continues.trans {publisher between after : Publisher} (first : Continues publisher between)
    (second : Continues between after) : Continues publisher after := by
  obtain ⟨made, shape, none_first⟩ := first.effects
  obtain ⟨more, longer, none_second⟩ := second.effects
  refine ⟨second.pushConnection.trans first.pushConnection,
    second.newMessageCallback.trans first.newMessageCallback, made ++ more, ?_, fun path => ?_⟩
  · rw [longer, shape, List.append_assoc]
  · rw [List.mem_append, not_or]
    exact ⟨none_first path, none_second path⟩

theorem continues_record {publisher : Publisher} {effects : List PublisherEffect}
    (quiet : ∀ path, .shakeHandSuccess path ∉ effects) :
    Continues publisher (publisher.record effects) := ⟨rfl, rfl, effects, rfl, quiet⟩

theorem continues_send (publisher : Publisher) (replies : List Bytes) :
    Continues publisher (publisher.send replies) := by
  rw [send]
  split
  · exact continues_record (by simp)
  · exact .refl publisher

theorem continues_shutdown (publisher : Publisher) : Continues publisher publisher.shutdown := by
  rw [shutdown]
  split
  · exact ⟨rfl, rfl, [.shutdown], rfl, by simp⟩
  · exact .refl publisher

/-- The path is known, and the callback is asked or there is none and the answer is yes. -/
theorem authenticate_cases {environment : ReadEnvironment} {publisher after : Publisher}
    {answer : Bool} (made : publisher.authenticate environment = .ok (after, answer)) :
    ∃ username, publisher.pushConnection.getRtmpPath = .ok username ∧
      (after = publisher ∧ answer = true ∨
        ∃ callback password, environment.authenticationCallback = some callback ∧
          answer = callback username password ∧
          after = publisher.record [.authenticated username password answer]) := by
  rw [authenticate] at made
  cases name : publisher.pushConnection.getRtmpPath with
  | error fault =>
      rw [name] at made
      cases made
  | ok username =>
      refine ⟨username, rfl, ?_⟩
      cases word : publisher.pushConnection.rtmpManager.getPasswordFromReleasePack
          environment.behind with
      | error fault =>
          simp only [name, word, bind, Except.bind] at made
          cases made
      | ok password =>
          cases callback : environment.authenticationCallback with
          | none =>
              simp only [name, word, callback, bind, Except.bind, pure, Except.pure,
                Except.ok.injEq, Prod.mk.injEq] at made
              exact Or.inl ⟨made.1.symm, made.2.symm⟩
          | some ask =>
              simp only [name, word, callback, bind, Except.bind, pure, Except.pure,
                Except.ok.injEq, Prod.mk.injEq] at made
              obtain ⟨rfl, rfl⟩ := made
              exact Or.inr ⟨ask, password, rfl, rfl, rfl⟩

/-- What `ShakeHand` leaves: the manager and the buffer of its loop, and replies. -/
theorem shakeHand_continues (build : Build) (publisher : Publisher) (buffer : Bytes) :
    Continues { publisher with
      pushConnection := { publisher.pushConnection with
        rtmpManager := (publisher.pushConnection.rtmpManager.shakeHand build buffer).manager }
      recvBuffer := (publisher.pushConnection.rtmpManager.shakeHand build buffer).buffer }
      (publisher.shakeHand build buffer).1 := continues_send _ _

/-- **What `OnConnectionShakeHand` leaves**, by the result of `ShakeHand`: the publisher is
authenticated, or it goes to its media phase under a path, or it is shut down or waits. -/
theorem onConnectionShakeHand_cases {build : Build} {environment : ReadEnvironment}
    {publisher : Publisher} {buffer : Bytes} {outcome : ReadOutcome}
    (made : publisher.onConnectionShakeHand build environment buffer = .ok outcome) :
    ((publisher.shakeHand build buffer).2 = .shakeAuthenticate ∧ outcome.registered = none ∧
        ∃ asked answer,
          (publisher.shakeHand build buffer).1.authenticate environment = .ok (asked, answer) ∧
          outcome.publisher = if answer then asked else asked.shutdown) ∨
      ((publisher.shakeHand build buffer).2 = .shakeSuccess ∧
        ∃ path, outcome.registered = some path ∧
          outcome.publisher =
            { (publisher.shakeHand build buffer).1.record [.shakeHandSuccess path] with
              newMessageCallback := .onBodyData }) ∨
      ((publisher.shakeHand build buffer).2 ≠ .shakeSuccess ∧ outcome.registered = none ∧
        (outcome.publisher = (publisher.shakeHand build buffer).1 ∨
          (publisher.shakeHand build buffer).2 = .shakeFailed ∧
            outcome.publisher = (publisher.shakeHand build buffer).1.shutdown)) := by
  rw [onConnectionShakeHand] at made
  cases result : (publisher.shakeHand build buffer).2 with
  | shakeAuthenticate =>
      simp only [result] at made
      cases asked : (publisher.shakeHand build buffer).1.authenticate environment with
      | error fault =>
          rw [asked] at made
          cases made
      | ok pair =>
          rw [asked] at made
          obtain rfl := Except.ok.inj made
          exact Or.inl ⟨rfl, rfl, pair.1, pair.2, rfl, rfl⟩
  | shakeSuccess =>
      simp only [result] at made
      cases name : (publisher.shakeHand build buffer).1.pushConnection.getRtmpPath with
      | error fault =>
          rw [name] at made
          cases made
      | ok path =>
          rw [name] at made
          obtain rfl := Except.ok.inj made
          exact Or.inr (Or.inl ⟨rfl, path, rfl, rfl⟩)
  | shakeFailed =>
      simp only [result] at made
      obtain rfl := Except.ok.inj made
      exact Or.inr (Or.inr ⟨nofun, rfl, Or.inr ⟨rfl, rfl⟩⟩)
  | shakeDataNotEnough =>
      simp only [result] at made
      obtain rfl := Except.ok.inj made
      exact Or.inr (Or.inr ⟨nofun, rfl, Or.inl rfl⟩)

/-- A success takes the publisher to its media phase. -/
theorem onConnectionShakeHand_success {build : Build} {environment : ReadEnvironment}
    {publisher : Publisher} {buffer : Bytes} {outcome : ReadOutcome}
    (made : publisher.onConnectionShakeHand build environment buffer = .ok outcome)
    (success : (publisher.shakeHand build buffer).2 = .shakeSuccess) :
    ∃ path, outcome.registered = some path ∧
      outcome.publisher =
        { (publisher.shakeHand build buffer).1.record [.shakeHandSuccess path] with
          newMessageCallback := .onBodyData } := by
  rcases onConnectionShakeHand_cases made with ⟨other, -⟩ | ⟨-, after⟩ | ⟨other, -⟩
  · rw [success] at other
    cases other
  · exact after
  · exact absurd success other

/-- Without a success the publisher goes on with its handshake. -/
theorem onConnectionShakeHand_continues {build : Build} {environment : ReadEnvironment}
    {publisher : Publisher} {buffer : Bytes} {outcome : ReadOutcome}
    (made : publisher.onConnectionShakeHand build environment buffer = .ok outcome)
    (other : (publisher.shakeHand build buffer).2 ≠ .shakeSuccess) :
    outcome.registered = none ∧
      Continues (publisher.shakeHand build buffer).1 outcome.publisher := by
  rcases onConnectionShakeHand_cases made with ⟨-, none, asked, answer, authenticated, after⟩ |
    ⟨success, -⟩ | ⟨-, none, same | ⟨-, down⟩⟩
  · have recorded : Continues (publisher.shakeHand build buffer).1 asked := by
      obtain ⟨username, -, ⟨rfl, -⟩ | ⟨-, password, -, -, rfl⟩⟩ := authenticate_cases authenticated
      · exact .refl _
      · exact continues_record (by simp)
    refine ⟨none, ?_⟩
    rw [after]
    cases answer with
    | true => exact recorded
    | false => exact recorded.trans (continues_shutdown asked)
  · exact absurd success other
  · exact ⟨none, same ▸ .refl _⟩
  · exact ⟨none, down ▸ continues_shutdown _⟩

/-- A read of the handshake leaves the publisher as it is, except for the manager, which is
left to the loop of `ShakeHand`. -/
theorem onConnectionShakeHand_pushConnection {build : Build} {environment : ReadEnvironment}
    {publisher : Publisher} {buffer : Bytes} {outcome : ReadOutcome}
    (made : publisher.onConnectionShakeHand build environment buffer = .ok outcome) :
    outcome.publisher.pushConnection = { publisher.pushConnection with
      rtmpManager := (publisher.pushConnection.rtmpManager.shakeHand build buffer).manager } := by
  have shaken := (shakeHand_continues build publisher buffer).pushConnection
  by_cases success : (publisher.shakeHand build buffer).2 = .shakeSuccess
  · obtain ⟨path, -, after⟩ := onConnectionShakeHand_success made success
    rw [after]
    exact shaken
  · exact (onConnectionShakeHand_continues made success).2.pushConnection.trans shaken

/-- **What a read is**: nothing on a closed connection, otherwise a read of the handshake or of
body data. -/
theorem onReadable_cases {build : Build} {environment : ReadEnvironment} {publisher : Publisher}
    {data : Bytes} {outcome : ReadOutcome}
    (read : publisher.onReadable build environment data = .ok outcome) :
    publisher.connectionStatus = .disconnected ∧ outcome = ⟨publisher, none, []⟩ ∨
      publisher.connectionStatus ≠ .disconnected ∧
        publisher.newMessageCallback = .onConnectionShakeHand ∧
        publisher.onConnectionShakeHand build environment (publisher.recvBuffer ++ data) =
          .ok outcome ∨
      publisher.connectionStatus ≠ .disconnected ∧ publisher.newMessageCallback = .onBodyData ∧
        outcome = publisher.onBodyData build environment (publisher.recvBuffer ++ data) := by
  rw [onReadable] at read
  by_cases closed : publisher.connectionStatus = .disconnected
  · rw [if_pos closed] at read
    exact .inl ⟨closed, (Except.ok.inj read).symm⟩
  · rw [if_neg closed] at read
    cases callback : publisher.newMessageCallback with
    | onConnectionShakeHand =>
        simp only [callback] at read
        exact .inr (.inl ⟨closed, rfl, read⟩)
    | onBodyData =>
        simp only [callback] at read
        exact .inr (.inr ⟨closed, rfl, (Except.ok.inj read).symm⟩)

end Publisher

/-! ## The servers -/

/-- Both servers: the registry, the publishers by number, the publisher whose
`OnConnectionClose` a viewer's connection calls when it closes, and what viewers were sent. -/
structure LiveServer where
  registry : StreamRegistry Nat
  publishers : Nat → Option Publisher
  closeConnectionCallback : Bytes → Option Nat
  sent : List (Bytes × Bytes)

/-- One call from a loop. -/
inductive LiveEvent where
  /-- A publisher connects; the manager is as its constructor leaves it. -/
  | connect (id : Nat) (connectionName : Bytes) (unset : UnsetMembers)
      (connectPack releasePack : RtmpPack)
  | readable (id : Nat) (data : Bytes) (environment : ReadEnvironment)
  | close (id : Nat)
  /-- A viewer sends a request. -/
  | clientMessage (connectionName : Bytes) (data : Bytes) (unset : HeaderUnset)
  | clientClose (connectionName : Bytes)

namespace LiveServer

/-- Both servers after their start. -/
def empty : LiveServer := ⟨.empty, fun _ => none, fun _ => none, []⟩

/-- The publisher with a number becomes another one. -/
def setPublisher (server : LiveServer) (id : Nat) (publisher : Publisher) : LiveServer :=
  { server with publishers := Function.update server.publishers id (some publisher) }

/-- `RtmpPushServer::OnConnection` for a new connection. -/
def onConnect (build : Build) (server : LiveServer) (id : Nat) (connectionName : Bytes)
    (unset : UnsetMembers) (connectPack releasePack : RtmpPack) : LiveServer :=
  match server.publishers id with
  | some _ => server
  | none =>
      server.setPublisher id
        (.new connectionName (.construct build unset connectPack releasePack))

/-- `OnReadable`; a success of the handshake reaches `OnShakeHandSuccess`. -/
def onReadable (build : Build) (server : LiveServer) (id : Nat) (data : Bytes)
    (environment : ReadEnvironment) : Except Fault LiveServer :=
  match server.publishers id with
  | none => .ok server
  | some publisher => do
      let outcome ← publisher.onReadable build environment data
      let server := server.setPublisher id outcome.publisher
      return { server with
        registry :=
          match outcome.registered with
          | none => server.registry
          | some path => server.registry.onShakeHandSuccess path id
        sent := server.sent ++ outcome.sends }

/-- `OnClose`, which reaches `RtmpPushServer::OnConnection`. -/
def onClose (server : LiveServer) (id : Nat) : LiveServer :=
  match server.publishers id with
  | none => server
  | some publisher =>
      { server.setPublisher id { publisher with connectionStatus := .disconnected } with
        registry :=
          server.registry.removeRtmpPushConnection publisher.pushConnection.connectionName }

/-- The publisher that `OnClientMessage` finds: the URL of the request without its first
character, looked up in the registry. -/
def getPushConn (server : LiveServer) (data : Bytes) : Except Fault (Option (Nat × Publisher)) := do
  let url ← Format.getUrl data
  let url ← substr url 1 npos
  return (server.registry.getPushConnByUrl url).bind fun id =>
    (server.publishers id).map (id, ·)

/-- `HttpPullServer::OnClientMessage`, without its log statement (`logRequest`). Without a
publisher the viewer's connection is shut down. -/
def onClientMessage (build : Build) (server : LiveServer) (connectionName data : Bytes)
    (unset : HeaderUnset) : Except Fault LiveServer := do
  match ← server.getPushConn data with
  | none => return server
  | some (id, publisher) =>
      let (connection, sent) ←
        publisher.pushConnection.addClientConnection build unset (.new connectionName)
      let server := server.setPublisher id { publisher with pushConnection := connection }
      return { server with
        closeConnectionCallback :=
          Function.update server.closeConnectionCallback connectionName (some id)
        sent := server.sent ++ [(connectionName, sent)] }

/-- The closed connection of a viewer, which is taken from its publisher. -/
def onClientClose (server : LiveServer) (connectionName : Bytes) : LiveServer :=
  match server.closeConnectionCallback connectionName with
  | none => server
  | some id =>
      match server.publishers id with
      | none => server
      | some publisher =>
          server.setPublisher id { publisher with
            pushConnection := publisher.pushConnection.onConnectionClose connectionName }

def step (build : Build) (server : LiveServer) : LiveEvent → Except Fault LiveServer
  | .connect id connectionName unset connectPack releasePack =>
      .ok (server.onConnect build id connectionName unset connectPack releasePack)
  | .readable id data environment => server.onReadable build id data environment
  | .close id => .ok (server.onClose id)
  | .clientMessage connectionName data unset =>
      server.onClientMessage build connectionName data unset
  | .clientClose connectionName => .ok (server.onClientClose connectionName)

/-- The servers as a machine. -/
def machine (build : Build) : Machine (Except Fault LiveServer) LiveEvent :=
  .faulting (step build)

/-! ## What an event does to a publisher -/

/-- The publisher that an event attaches a viewer to. -/
def attached (server : LiveServer) : LiveEvent → Option (Publisher × HeaderUnset)
  | .clientMessage _ data unset =>
      match server.getPushConn data with
      | .ok (some (_, publisher)) => some (publisher, unset)
      | _ => none
  | _ => none

/-- What an event can make of a publisher that is there. -/
inductive Changes (build : Build) (server : LiveServer) (id : Nat) (publisher : Publisher) :
    LiveEvent → Publisher → Prop where
  | stays (event : LiveEvent) : Changes build server id publisher event publisher
  | reads {data : Bytes} {environment : ReadEnvironment} {outcome : ReadOutcome}
      (read : publisher.onReadable build environment data = .ok outcome) :
      Changes build server id publisher (.readable id data environment) outcome.publisher
  | closes : Changes build server id publisher (.close id)
      { publisher with connectionStatus := .disconnected }
  | attaches {connectionName data : Bytes} {unset : HeaderUnset} {connection : RtmpPushConnection}
      {sent : Bytes}
      (found : server.attached (.clientMessage connectionName data unset) = some (publisher, unset))
      (added : publisher.pushConnection.addClientConnection build unset (.new connectionName) =
        .ok (connection, sent)) :
      Changes build server id publisher (.clientMessage connectionName data unset)
        { publisher with pushConnection := connection }
  | detaches (connectionName : Bytes) :
      Changes build server id publisher (.clientClose connectionName)
        { publisher with
          pushConnection := publisher.pushConnection.onConnectionClose connectionName }

variable {build : Build} {server next : LiveServer}

/-- Setting one publisher leaves the others. -/
theorem update_publisher {publishers : Nat → Option Publisher} {id other : Nat}
    {publisher found : Publisher}
    (there : Function.update publishers id (some publisher) other = some found) :
    other = id ∧ found = publisher ∨ publishers other = some found := by
  by_cases same : other = id
  · subst same
    rw [Function.update_self] at there
    exact Or.inl ⟨rfl, (Option.some.inj there).symm⟩
  · rw [Function.update_of_ne same] at there
    exact Or.inr there

/-- A read changes the publisher that reads. -/
theorem onReadable_publishers {id : Nat} {data : Bytes} {environment : ReadEnvironment}
    (made : server.onReadable build id data environment = .ok next) :
    next = server ∧ server.publishers id = none ∨
      ∃ publisher outcome, server.publishers id = some publisher ∧
        publisher.onReadable build environment data = .ok outcome ∧
        next.publishers = Function.update server.publishers id (some outcome.publisher) ∧
        next.registry =
          (match outcome.registered with
          | none => server.registry
          | some path => server.registry.onShakeHandSuccess path id) := by
  rw [onReadable] at made
  cases there : server.publishers id with
  | none =>
      rw [there] at made
      exact Or.inl ⟨(Except.ok.inj made).symm, rfl⟩
  | some publisher =>
      rw [there] at made
      cases read : publisher.onReadable build environment data with
      | error fault =>
          simp only [read] at made
          cases made
      | ok outcome =>
          simp only [read] at made
          obtain rfl := Except.ok.inj made
          exact Or.inr ⟨publisher, outcome, rfl, read, rfl, rfl⟩

/-- A read that does not fault is an event that does not. -/
theorem step_reads {id : Nat} {publisher : Publisher} {data : Bytes}
    {environment : ReadEnvironment} {outcome : ReadOutcome}
    (known : server.publishers id = some publisher)
    (read : publisher.onReadable build environment data = .ok outcome) :
    ∃ next, server.step build (.readable id data environment) = .ok next ∧
      next.publishers id = some outcome.publisher := by
  simp only [step, onReadable, known, read]
  exact ⟨_, rfl, Function.update_self _ _ _⟩

theorem getPushConn_publisher {data : Bytes} {id : Nat} {publisher : Publisher}
    (found : server.getPushConn data = .ok (some (id, publisher))) :
    server.publishers id = some publisher := by
  rw [getPushConn] at found
  cases line : Format.getUrl data with
  | error fault =>
      rw [line] at found
      cases found
  | ok target =>
      cases url : substr target 1 npos with
      | error fault =>
          simp only [line, url, bind, Except.bind] at found
          cases found
      | ok url' =>
          simp only [line, url, bind, Except.bind, pure, Except.pure, Except.ok.injEq,
            Option.bind_eq_some_iff, Option.map_eq_some_iff, Prod.mk.injEq] at found
          obtain ⟨other, -, same, there, rfl, rfl⟩ := found
          exact there

theorem attached_publisher {event : LiveEvent} {publisher : Publisher} {unset : HeaderUnset}
    (found : server.attached event = some (publisher, unset)) :
    ∃ id, server.publishers id = some publisher := by
  cases event with
  | clientMessage connectionName data given =>
      rw [attached] at found
      split at found
      · next id other request =>
          obtain rfl := (Prod.mk.inj (Option.some.inj found)).1
          exact ⟨id, getPushConn_publisher request⟩
      · cases found
  | _ => cases found

/-- A request changes the publisher that it finds. -/
theorem onClientMessage_publishers {connectionName data : Bytes} {unset : HeaderUnset}
    (made : server.onClientMessage build connectionName data unset = .ok next) :
    next.registry = server.registry ∧ (next.publishers = server.publishers ∨
      ∃ id publisher connection sent, server.publishers id = some publisher ∧
        server.attached (.clientMessage connectionName data unset) = some (publisher, unset) ∧
        publisher.pushConnection.addClientConnection build unset (.new connectionName) =
          .ok (connection, sent) ∧
        next.publishers = Function.update server.publishers id
          (some { publisher with pushConnection := connection })) := by
  rw [onClientMessage] at made
  cases found : server.getPushConn data with
  | error fault =>
      rw [found] at made
      cases made
  | ok answer =>
      rw [found] at made
      cases answer with
      | none =>
          obtain rfl := Except.ok.inj made
          exact ⟨rfl, Or.inl rfl⟩
      | some entry =>
          obtain ⟨id, publisher⟩ := entry
          have there : server.publishers id = some publisher := getPushConn_publisher found
          have attaches : server.attached (.clientMessage connectionName data unset) =
              some (publisher, unset) := by rw [attached, found]
          cases added : publisher.pushConnection.addClientConnection build unset
              (.new connectionName) with
          | error fault =>
              simp only [bind, Except.bind, added] at made
              cases made
          | ok both =>
              simp only [bind, Except.bind, added] at made
              obtain rfl := Except.ok.inj made
              exact ⟨rfl, Or.inr ⟨id, publisher, both.1, both.2, there, attaches, added, rfl⟩⟩

/-- **What an event does to a publisher.** A publisher that is there after an event is new,
or it was there and the event changed it. -/
theorem step_publisher {event : LiveEvent} (made : server.step build event = .ok next) {id : Nat}
    {publisher : Publisher} (there : next.publishers id = some publisher) :
    (server.publishers id = none ∧ ∃ connectionName unset connectPack releasePack,
        event = .connect id connectionName unset connectPack releasePack ∧ publisher =
          .new connectionName (.construct build unset connectPack releasePack)) ∨
      ∃ earlier, server.publishers id = some earlier ∧
        Changes build server id earlier event publisher := by
  cases event with
  | connect newId connectionName unset connectPack releasePack =>
      obtain rfl := Except.ok.inj made
      rw [onConnect] at there
      cases taken : server.publishers newId with
      | some other =>
          rw [taken] at there
          exact Or.inr ⟨publisher, there, .stays _⟩
      | none =>
          rw [taken] at there
          rcases update_publisher there with ⟨rfl, rfl⟩ | kept
          · exact Or.inl ⟨taken, connectionName, unset, connectPack, releasePack, rfl, rfl⟩
          · exact Or.inr ⟨publisher, kept, .stays _⟩
  | readable reader data environment =>
      rcases onReadable_publishers made with ⟨rfl, -⟩ | ⟨earlier, outcome, known, read, updated, -⟩
      · exact Or.inr ⟨publisher, there, .stays _⟩
      · rw [updated] at there
        rcases update_publisher there with ⟨rfl, rfl⟩ | kept
        · exact Or.inr ⟨earlier, known, .reads read⟩
        · exact Or.inr ⟨publisher, kept, .stays _⟩
  | close closed =>
      obtain rfl := Except.ok.inj made
      rw [onClose] at there
      cases known : server.publishers closed with
      | none =>
          rw [known] at there
          exact Or.inr ⟨publisher, there, .stays _⟩
      | some earlier =>
          rw [known] at there
          rcases update_publisher there with ⟨rfl, rfl⟩ | kept
          · exact Or.inr ⟨earlier, known, .closes⟩
          · exact Or.inr ⟨publisher, kept, .stays _⟩
  | clientMessage connectionName data unset =>
      rcases onClientMessage_publishers made with ⟨-, same | ⟨found, earlier, connection, sent,
        known, attaches, added, updated⟩⟩
      · rw [same] at there
        exact Or.inr ⟨publisher, there, .stays _⟩
      · rw [updated] at there
        rcases update_publisher there with ⟨rfl, rfl⟩ | kept
        · exact Or.inr ⟨earlier, known, .attaches attaches added⟩
        · exact Or.inr ⟨publisher, kept, .stays _⟩
  | clientClose connectionName =>
      obtain rfl := Except.ok.inj made
      rw [onClientClose] at there
      cases owner : server.closeConnectionCallback connectionName with
      | none =>
          rw [owner] at there
          exact Or.inr ⟨publisher, there, .stays _⟩
      | some found =>
          rw [owner] at there
          cases known : server.publishers found with
          | none =>
              simp only [known] at there
              exact Or.inr ⟨publisher, there, .stays _⟩
          | some earlier =>
              simp only [known] at there
              rcases update_publisher there with ⟨rfl, rfl⟩ | kept
              · exact Or.inr ⟨earlier, known, .detaches connectionName⟩
              · exact Or.inr ⟨publisher, kept, .stays _⟩

theorem update_known {publishers : Nat → Option Publisher} {id other : Nat}
    {publisher found : Publisher} (known : publishers other = some found) :
    ∃ later, Function.update publishers id (some publisher) other = some later := by
  by_cases same : other = id
  · subst same
    exact ⟨publisher, Function.update_self _ _ _⟩
  · exact ⟨found, by rw [Function.update_of_ne same, known]⟩

/-- A publisher that is there stays there. -/
theorem step_known {event : LiveEvent} (made : server.step build event = .ok next) {id : Nat}
    {publisher : Publisher} (known : server.publishers id = some publisher) :
    ∃ later, next.publishers id = some later := by
  cases event with
  | connect newId connectionName unset connectPack releasePack =>
      obtain rfl := Except.ok.inj made
      rw [onConnect]
      split
      · exact ⟨publisher, known⟩
      · exact update_known known
  | readable reader data environment =>
      rcases onReadable_publishers made with ⟨rfl, -⟩ | ⟨earlier, outcome, -, -, updated, -⟩
      · exact ⟨publisher, known⟩
      · rw [updated]
        exact update_known known
  | close closed =>
      obtain rfl := Except.ok.inj made
      rw [onClose]
      split
      · exact ⟨publisher, known⟩
      · exact update_known known
  | clientMessage connectionName data unset =>
      rcases onClientMessage_publishers made with
        ⟨-, same | ⟨found, earlier, connection, sent, -, -, -, updated⟩⟩
      · exact ⟨publisher, by rw [same, known]⟩
      · rw [updated]
        exact update_known known
  | clientClose connectionName =>
      obtain rfl := Except.ok.inj made
      rw [onClientClose]
      split
      · exact ⟨publisher, known⟩
      · split
        · exact ⟨publisher, known⟩
        · exact update_known known

/-- What an event does to a publisher that is there. -/
theorem step_changes {event : LiveEvent} (made : server.step build event = .ok next) {id : Nat}
    {publisher : Publisher} (known : server.publishers id = some publisher) :
    ∃ later, next.publishers id = some later ∧
      Changes build server id publisher event later := by
  obtain ⟨later, there⟩ := step_known made known
  refine ⟨later, there, ?_⟩
  rcases step_publisher made there with ⟨absent, -⟩ | ⟨earlier, same, changes⟩
  · rw [known] at absent
    cases absent
  · rw [known] at same
    obtain rfl := Option.some.inj same
    exact changes

/-- **What enters the registry**: the connection whose handshake a read completes. -/
theorem step_registry {event : LiveEvent} (made : server.step build event = .ok next) {id : Nat}
    {path : Bytes} (listed : next.registry.getPushConnByUrl path = some id) :
    server.registry.getPushConnByUrl path = some id ∨
      ∃ data environment publisher outcome, event = .readable id data environment ∧
        server.publishers id = some publisher ∧ next.publishers id = some outcome.publisher ∧
        publisher.onReadable build environment data = .ok outcome ∧
        outcome.registered = some path := by
  cases event with
  | connect newId connectionName unset connectPack releasePack =>
      obtain rfl := Except.ok.inj made
      left
      rw [onConnect] at listed
      split at listed <;> exact listed
  | readable reader data environment =>
      rcases onReadable_publishers made with
        ⟨rfl, -⟩ | ⟨publisher, outcome, known, read, updated, map⟩
      · exact Or.inl listed
      · rw [map] at listed
        cases registered : outcome.registered with
        | none =>
            rw [registered] at listed
            exact Or.inl listed
        | some entered =>
            rw [registered] at listed
            simp only [StreamRegistry.getPushConnByUrl, StreamRegistry.onShakeHandSuccess] at listed
            by_cases same : path = entered
            · subst same
              rw [Function.update_self] at listed
              obtain rfl := Option.some.inj listed
              refine Or.inr
                ⟨data, environment, publisher, outcome, rfl, known, ?_, read, registered⟩
              rw [updated, Function.update_self]
            · rw [Function.update_of_ne same] at listed
              exact Or.inl listed
  | close closed =>
      obtain rfl := Except.ok.inj made
      left
      rw [onClose] at listed
      split at listed
      · exact listed
      · next publisher _ =>
          simp only [StreamRegistry.getPushConnByUrl, StreamRegistry.removeRtmpPushConnection]
            at listed ⊢
          by_cases same : path = publisher.pushConnection.connectionName
          · subst same
            rw [Function.update_self] at listed
            cases listed
          · rwa [Function.update_of_ne same] at listed
  | clientMessage connectionName data unset =>
      rw [(onClientMessage_publishers made).1] at listed
      exact Or.inl listed
  | clientClose connectionName =>
      obtain rfl := Except.ok.inj made
      left
      rw [onClientClose] at listed
      split at listed
      · exact listed
      · split at listed <;> exact listed

end LiveServer

/-! ## A short handshake -/

/-- The setChunkSize message of a short handshake. -/
def plainSetChunkSize : SentMessage := plainMessage 1 [0, 0, 16, 0] (by decide)

/-- A connect message that holds `rtmp://h/p`. -/
def plainConnect : SentMessage :=
  plainMessage 20 [114, 116, 109, 112, 58, 47, 47, 104, 47, 112] (by decide)

/-- A releaseStream message with an empty password. -/
def plainReleaseStream : SentMessage :=
  plainMessage 20 (List.replicate 29 0) (by rw [List.length_replicate]; decide)

/-- A command of which nothing is read. -/
def plainCommand (byte : UInt8) : SentMessage :=
  plainMessage 20 [byte] (by rw [List.length_singleton]; decide)

/-- C0, C1 and C2, and the messages up to releaseStream: the URL is `rtmp://h/p` and the
password is empty. -/
def handshakeUpToRelease : Bytes :=
  List.replicate 3073 0 ++
    encodeMessages 4096 3 [plainSetChunkSize, plainConnect, plainReleaseStream]

/-- FCPublish, createStream and publish. -/
def handshakeFromFcPublish : Bytes :=
  encodeMessages 4096 3 [plainCommand 1, plainCommand 2, plainCommand 3]

end LiveBroadcast
