import Mathlib.Data.List.Nodup
import LiveBroadcast.Foundation.Refinement
import LiveBroadcast.Live.AttachedOnce

/-!
# One publisher among the others

Both servers run with any number of publishers and viewers. To one publisher in its media phase
most of what happens is nothing at all: what it sees are the bytes of its own reads, the requests
that find it, and the closes of viewers whose callback names it (`seenBy`). So the servers refine
the broadcast of a publisher: its connection and its unread bytes are those that the broadcast
reaches over what the publisher sees, whatever else goes on between.

What the viewers are sent goes through `Send` of their own connections, and any publisher can
send to any viewer in its map. A viewer that was attached once, to this publisher, is in no other
map, and in this map once. What has been handed to its `Send` is what the broadcast has sent it,
as long as it is connected, and the beginning of that when it is not (`servers_refine_broadcast`).
-/

set_option autoImplicit false

namespace LiveBroadcast

/-! ## Maps with one entry for a name -/

namespace PullConnectionMap

/-- No viewer has two entries. -/
def Keyed (map : PullConnectionMap) : Prop := (map.map Prod.fst).Nodup

variable {map : PullConnectionMap}

theorem Keyed.erase (keyed : map.Keyed) (connectionName : Bytes) :
    Keyed (map.erase connectionName) :=
  List.Nodup.sublist (List.filter_sublist.map Prod.fst) keyed

theorem Keyed.insert (keyed : map.Keyed) (connectionName : Bytes)
    (connection : HttpPullConnection) : Keyed (map.insert connectionName connection) := by
  rw [Keyed, PullConnectionMap.insert, List.map_append, List.map_singleton]
  refine List.Nodup.append (keyed.erase connectionName) (List.nodup_singleton _) ?_
  rw [List.disjoint_singleton]
  intro inside
  obtain ⟨entry, there, same⟩ := List.mem_map.mp inside
  exact of_decide_eq_true (List.mem_filter.mp there).2 same

/-- Changing the connections keeps the names. -/
theorem Keyed.map_snd (keyed : map.Keyed)
    (change : HttpPullConnection → HttpPullConnection) :
    Keyed (map.map fun entry => (entry.1, change entry.2)) := by
  rw [Keyed, List.map_map]
  exact keyed

/-- **Of a piece for every entry, a viewer gets the one of its own entry**, once. -/
theorem Keyed.sentTo (keyed : map.Keyed) (piece : HttpPullConnection → Bytes)
    (connectionName : Bytes) :
    PullServer.sentTo connectionName (map.map fun entry => (entry.1, piece entry.2)) =
      ((map.lookup connectionName).map piece).toList := by
  induction map with
  | nil => rfl
  | cons entry map ih =>
      obtain ⟨fresh, keyed⟩ := List.nodup_cons.mp keyed
      have later := ih keyed
      rw [PullServer.sentTo] at later ⊢
      rw [List.map_cons, List.lookup_cons]
      by_cases same : connectionName = entry.1
      · subst same
        have absent : map.lookup entry.1 = none := by
          rw [List.lookup_eq_none_iff]
          intro other inside
          rw [bne_iff_ne]
          intro same
          exact fresh (same ▸ List.mem_map_of_mem inside)
        rw [absent] at later
        rw [List.filter_cons_of_pos (by simp), List.map_cons, later, beq_self_eq_true]
        rfl
      · have other : (connectionName == entry.1) = false := by simp [same]
        rw [List.filter_cons_of_neg (by simp [Ne.symm same]), later, other]

end PullConnectionMap

namespace LiveServer

/-- In no map a viewer has two entries. -/
def MapsKeyed (server : LiveServer) : Prop :=
  ∀ id publisher, server.publishers id = some publisher →
    publisher.pushConnection.clientConnectionMap.Keyed

variable {build : Build} {server next : LiveServer}

theorem onReadable_keyed {publisher : Publisher} {environment : ReadEnvironment} {data : Bytes}
    {outcome : ReadOutcome} (read : publisher.onReadable build environment data = .ok outcome)
    (keyed : publisher.pushConnection.clientConnectionMap.Keyed) :
    outcome.publisher.pushConnection.clientConnectionMap.Keyed := by
  rcases Publisher.onReadable_cases read with ⟨-, rfl⟩ | ⟨-, -, shaking⟩ | ⟨-, -, rfl⟩
  · exact keyed
  · rw [Publisher.onConnectionShakeHand_pushConnection shaking]
    exact keyed
  · simp only [Publisher.onBodyData, RtmpPushConnection.parseData]
    split
    · exact keyed
    · exact keyed.map_snd fun client => (client.addFlvTag _).1

/-- Every event keeps the names in the maps apart. -/
theorem MapsKeyed.step (maps : server.MapsKeyed) {event : LiveEvent}
    (made : server.step build event = .ok next) : next.MapsKeyed := by
  intro id publisher there
  rcases step_publisher made there with ⟨-, name, unset, connect, release, -, rfl⟩ |
    ⟨earlier, known, changes⟩
  · exact List.nodup_nil
  · have keyed := maps id earlier known
    cases changes with
    | stays => exact keyed
    | reads read => exact onReadable_keyed read keyed
    | closes => exact keyed
    | attaches found added =>
        obtain ⟨served, -, rfl, -⟩ := RtmpPushConnection.addClientConnection_served added
        exact keyed.insert _ _
    | detaches connectionName => exact keyed.erase connectionName

end LiveServer

/-- What a read sends to a viewer is looked up under its name. -/
theorem RtmpPushConnection.sentTo_parseData {connection : RtmpPushConnection}
    (keyed : connection.clientConnectionMap.Keyed) (build : Build) (unset : UInt8) (buffer : Bytes)
    (connectionName : Bytes) :
    PullServer.sentTo connectionName (connection.parseData build unset buffer).2.2 =
      ((connection.parseData build unset buffer).2.2.lookup connectionName).toList := by
  cases passed : connection.newFlvTag build unset buffer with
  | none =>
      have silent : (connection.parseData build unset buffer).2.2 = [] := by
        rw [newFlvTag, Option.map_eq_none_iff] at passed
        rw [parseData, passed]
      rw [silent]
      rfl
  | some tag =>
      rw [(parseData_some passed connectionName).2]
      obtain ⟨pack, given, rfl⟩ := Option.map_eq_some_iff.mp passed
      simp only [parseData, given, onNewRtmpPack, onNewFlvTag]
      exact keyed.sentTo (fun client => (client.addFlvTag _).2) connectionName

/-- A read extends the stream of a viewer by what it sends the viewer. -/
theorem Broadcast.streams_onBodyData {build : Build} {broadcast next : Broadcast} {unset : UInt8}
    {data connectionName : Bytes} {stream : ViewerStream}
    (made : broadcast.step build (.onBodyData unset data) = .ok next)
    (known : broadcast.streams connectionName = some stream) :
    ∃ after, next.streams connectionName = some after ∧
      after.sent = stream.sent ++ ((broadcast.connection.parseData build unset
        (broadcast.recvBuffer ++ data)).2.2.lookup connectionName).toList.flatten := by
  obtain rfl := Except.ok.inj made
  dsimp only
  cases passed : broadcast.connection.newFlvTag build unset (broadcast.recvBuffer ++ data) with
  | none =>
      rw [(RtmpPushConnection.parseData_none passed connectionName).2]
      exact ⟨stream, known, (List.append_nil _).symm⟩
  | some tag =>
      cases (broadcast.connection.parseData build unset
          (broadcast.recvBuffer ++ data)).2.2.lookup connectionName with
      | none => exact ⟨stream, known, (List.append_nil _).symm⟩
      | some sent =>
          dsimp only
          rw [known]
          refine ⟨stream.receive sent tag, rfl, ?_⟩
          rw [ViewerStream.receive, Option.toList_some, List.flatten_singleton]

/-! ## What a publisher sees -/

namespace PullServer

/-- What an event is to the publisher with a number. -/
def seenBy (id : Nat) (state : PullServer) (event : PullEvent) : List BroadcastEvent :=
  if state.isClosed event then []
  else
    match event with
    | .loop (.readable reader data environment) =>
        if reader = id ∧ (state.live.publishers id).any (fun publisher =>
            decide (publisher.connectionStatus ≠ .disconnected)) then
          [.onBodyData environment.unset data]
        else []
    | .loop (.clientMessage connectionName data unset) =>
        match state.live.getPushConn data with
        | .ok (some (found, _)) =>
            if found = id then [.addClientConnection unset connectionName] else []
        | _ => []
    | .loop (.clientClose connectionName) =>
        if state.live.closeConnectionCallback connectionName = some id then
          [.onConnectionClose connectionName]
        else []
    | _ => []

end PullServer

/-- The bytes handed to `Send` of a viewer are the stream of the broadcast as long as it is
connected, and its beginning then. -/
def Viewer.Receives (viewer : Viewer) (connectionName : Bytes) (broadcast : Broadcast) : Prop :=
  ∃ stream, broadcast.streams connectionName = some stream ∧
    viewer.sent.flatten <+: stream.sent ∧
    (viewer.connectionStatus = .connected → viewer.sent.flatten = stream.sent)

namespace Viewer

variable {viewer after : Viewer} {connectionName : Bytes} {broadcast next : Broadcast}

/-- Nothing is sent. -/
theorem Receives.quiet (receives : viewer.Receives connectionName broadcast)
    (sent : after.sent = viewer.sent)
    (status : after.connectionStatus = .connected → viewer.connectionStatus = .connected)
    (streams : next.streams connectionName = broadcast.streams connectionName) :
    after.Receives connectionName next := by
  obtain ⟨stream, known, begins, all⟩ := receives
  refine ⟨stream, streams.trans known, ?_, fun connected => ?_⟩
  · rwa [sent]
  · rw [sent]
    exact all (status connected)

/-- The broadcast sends what is handed to `Send`. -/
theorem Receives.send (receives : viewer.Receives connectionName broadcast) {pieces : List Bytes}
    (streams : ∀ stream, broadcast.streams connectionName = some stream →
      ∃ after, next.streams connectionName = some after ∧
        after.sent = stream.sent ++ pieces.flatten) :
    (viewer.send pieces).Receives connectionName next := by
  obtain ⟨stream, known, begins, all⟩ := receives
  obtain ⟨after, later, sent⟩ := streams stream known
  refine ⟨after, later, ?_, fun connected => ?_⟩
  · rw [send_sent, sent, List.flatten_append]
    split
    · next connected =>
      rw [all connected]
    · rw [List.flatten_nil, List.append_nil]
      exact begins.trans (List.prefix_append _ _)
  · rw [send_connectionStatus] at connected
    rw [send_sent, if_pos connected, sent, List.flatten_append, all connected]

end Viewer

namespace PullServer

/-- The publisher of the servers is that of the broadcast. -/
def IsPublisher (id : Nat) (state : PullServer) (broadcast : Broadcast) : Prop :=
  ∃ publisher, state.live.publishers id = some publisher ∧
    publisher.newMessageCallback = .onBodyData ∧
    publisher.pushConnection = broadcast.connection ∧
    publisher.recvBuffer = broadcast.recvBuffer

/-- What the servers and the broadcast of a publisher have to do with each other, for one
viewer. -/
structure Mirrors (id : Nat) (connectionName : Bytes) (state : PullServer)
    (broadcast : Broadcast) : Prop where
  serving : state.Serving connectionName
  keyed : state.live.MapsKeyed
  publisher : state.IsPublisher id broadcast
  receives : (state.viewers connectionName).attachments = [id] →
    (state.viewers connectionName).Receives connectionName broadcast

variable {build : Build} {id : Nat} {connectionName : Bytes} {state next : PullServer}
  {broadcast : Broadcast}

theorem mapsKeyed_empty : empty.live.MapsKeyed := by
  intro id publisher absent
  cases absent

/-- Every event keeps the names in the maps apart. -/
theorem mapsKeyed_step (keyed : state.live.MapsKeyed) {event : PullEvent}
    (made : state.step build event = .ok next) : next.live.MapsKeyed := by
  rcases live_step made with same | ⟨call, stepped⟩
  · rwa [same]
  · exact keyed.step stepped

/-- A viewer that was attached to one publisher at most is in the map of no other. -/
theorem Serving.alone (serving : state.Serving connectionName)
    (one : (state.viewers connectionName).attachments = [id]) {other : Nat} (differs : other ≠ id) :
    ¬ state.live.HasClient other connectionName := by
  intro there
  have inside := serving.attached.granted other there
  rw [one, List.mem_singleton] at inside
  exact differs inside

/-- A read of a publisher that does not have the viewer sends it nothing. -/
theorem sentTo_other {publisher : Publisher} {environment : ReadEnvironment} {data : Bytes}
    {outcome : ReadOutcome} (read : publisher.onReadable build environment data = .ok outcome)
    (absent : publisher.pushConnection.clientConnectionMap.lookup connectionName = none) :
    sentTo connectionName outcome.sends = [] := by
  rw [sentTo, List.map_eq_nil_iff, List.filter_eq_nil_iff]
  intro send inside
  rw [decide_eq_true_eq]
  rintro rfl
  exact (Publisher.mem_sends_of_onReadable read inside).1 absent

/-- What is known of the broadcast behind a step that it does not see. -/
structure Unseen (id : Nat) (connectionName : Bytes) (state next : PullServer) : Prop where
  publisher : ∃ before after, state.live.publishers id = some before ∧
    next.live.publishers id = some after ∧
    after.newMessageCallback = before.newMessageCallback ∧
    after.pushConnection = before.pushConnection ∧ after.recvBuffer = before.recvBuffer
  attachments : (next.viewers connectionName).attachments = [id] →
    (state.viewers connectionName).attachments = [id]
  sent : (next.viewers connectionName).attachments = [id] →
    (next.viewers connectionName).sent = (state.viewers connectionName).sent
  status : (next.viewers connectionName).connectionStatus = .connected →
    (state.viewers connectionName).connectionStatus = .connected

/-- Such a step is matched by nothing. -/
theorem Mirrors.unseen (mirrors : state.Mirrors id connectionName broadcast)
    {event : PullEvent} (made : state.step build event = .ok next)
    (unseen : Unseen id connectionName state next) :
    next.Mirrors id connectionName broadcast := by
  refine ⟨mirrors.serving.step made, mapsKeyed_step mirrors.keyed made, ?_, fun one => ?_⟩
  · obtain ⟨before, after, known, later, media, connection, buffer⟩ := unseen.publisher
    obtain ⟨publisher, there, phase, same, unread⟩ := mirrors.publisher
    obtain rfl := Option.some.inj (known.symm.trans there)
    exact ⟨after, later, media.trans phase, connection.trans same, buffer.trans unread⟩
  · exact (mirrors.receives (unseen.attachments one)).quiet (unseen.sent one) unseen.status rfl

/-- The servers stay, and one viewer keeps its attachments and what it was sent. -/
theorem Unseen.viewer (mirrors : state.Mirrors id connectionName broadcast)
    (live : next.live.publishers = state.live.publishers)
    (attachments : (next.viewers connectionName).attachments =
      (state.viewers connectionName).attachments)
    (sent : (next.viewers connectionName).sent = (state.viewers connectionName).sent)
    (status : (next.viewers connectionName).connectionStatus = .connected →
      (state.viewers connectionName).connectionStatus = .connected) :
    Unseen id connectionName state next := by
  obtain ⟨publisher, there, -⟩ := mirrors.publisher
  exact ⟨⟨publisher, publisher, there, by rw [live]; exact there, rfl, rfl, rfl⟩,
    fun one => attachments ▸ one, fun _ => sent, status⟩

end PullServer

namespace LiveServer

variable {build : Build} {server next : LiveServer}

/-- What a read of a publisher leaves in the servers. -/
theorem onReadable_outcome {id : Nat} {data : Bytes} {environment : ReadEnvironment}
    {publisher : Publisher} (known : server.publishers id = some publisher)
    (made : server.step build (.readable id data environment) = .ok next) :
    ∃ outcome, publisher.onReadable build environment data = .ok outcome ∧
      next.publishers = Function.update server.publishers id (some outcome.publisher) ∧
      next.sent = server.sent ++ outcome.sends := by
  have read : server.onReadable build id data environment = .ok next := made
  rw [onReadable, known] at read
  cases outcome : publisher.onReadable build environment data with
  | error fault =>
      simp only [outcome] at read
      cases read
  | ok left =>
      simp only [outcome] at read
      obtain rfl := Except.ok.inj read
      exact ⟨left, rfl, rfl, rfl⟩

end LiveServer

namespace PullServer

variable {build : Build} {id : Nat} {connectionName : Bytes} {state next : PullServer}
  {broadcast : Broadcast}

theorem step_fromPublisher {event : LiveEvent} (kind : FromPublisher event)
    (made : state.step build (.loop event) = .ok next) :
    ∃ live, state.live.step build event = .ok live ∧ next = state.deliver live := by
  have opened : state.isClosed (.loop event) = false := by
    cases event with
    | clientMessage _ _ _ => exact kind.elim
    | clientClose _ => exact kind.elim
    | _ => rfl
  unfold step at made
  rw [opened, if_neg (by simp)] at made
  split at made
  · cases made
  · cases stepped : state.live.step build event with
    | error fault =>
        cases event with
        | clientMessage _ _ _ => exact kind.elim
        | clientClose _ => exact kind.elim
        | _ =>
            dsimp only at made
            rw [stepped] at made
            cases made
    | ok live =>
        refine ⟨live, rfl, ?_⟩
        cases event with
        | clientMessage _ _ _ => exact kind.elim
        | clientClose _ => exact kind.elim
        | _ =>
            dsimp only at made
            rw [stepped] at made
            exact (Except.ok.inj made).symm

theorem deliver_viewers {live : LiveServer} {sends : List (Bytes × Bytes)}
    (sent : live.sent = state.live.sent ++ sends) (connectionName : Bytes) :
    (state.deliver live).viewers connectionName =
      (state.viewers connectionName).send (sentTo connectionName sends) := by
  rw [deliver, sent, List.drop_left]

/-- **A read of the publisher** is one of the broadcast. -/
theorem Mirrors.reads (mirrors : state.Mirrors id connectionName broadcast) {data : Bytes}
    {environment : ReadEnvironment} {publisher : Publisher}
    (known : state.live.publishers id = some publisher)
    (opened : publisher.connectionStatus ≠ .disconnected)
    (made : state.step build (.loop (.readable id data environment)) = .ok next) :
    ∃ after, broadcast.step build (.onBodyData environment.unset data) = .ok after ∧
      next.Mirrors id connectionName after := by
  have serving := mirrors.serving.step made
  have keyed := mapsKeyed_step mirrors.keyed made
  obtain ⟨same, there, phase, connection, unread⟩ := mirrors.publisher
  obtain rfl := Option.some.inj (known.symm.trans there)
  obtain ⟨live, stepped, rfl⟩ :=
    @step_fromPublisher build state next (.readable id data environment) trivial made
  obtain ⟨outcome, read, publishers, sent⟩ := LiveServer.onReadable_outcome known stepped
  have body : outcome = publisher.onBodyData build environment (publisher.recvBuffer ++ data) := by
    rcases Publisher.onReadable_cases read with ⟨gone, -⟩ | ⟨-, shaking, -⟩ | ⟨-, -, body⟩
    · exact absurd gone opened
    · exact nomatch phase.symm.trans shaking
    · exact body
  rw [Publisher.onBodyData, connection, unread] at body
  have viewers := deliver_viewers sent
  rw [body] at viewers
  refine ⟨_, rfl, serving, keyed, ⟨outcome.publisher, ?_, ?_, ?_, ?_⟩, fun one => ?_⟩
  · rw [deliver, publishers, Function.update_self]
  · rw [body]
    exact phase
  · rw [body]
  · rw [body]
  · rw [viewers, Viewer.send_attachments] at one
    rw [viewers]
    refine (mirrors.receives one).send fun stream open_ => ?_
    obtain ⟨after, later, extended⟩ :=
      @Broadcast.streams_onBodyData build broadcast _ environment.unset data connectionName stream
        rfl open_
    refine ⟨after, later, ?_⟩
    rw [extended, RtmpPushConnection.sentTo_parseData (connection ▸ mirrors.keyed id _ known)]

/-- What is delivered is not seen when the publisher stays and the viewer is sent nothing. -/
theorem Unseen.deliver {live : LiveServer} {sends : List (Bytes × Bytes)}
    {before after : Publisher} (known : state.live.publishers id = some before)
    (later : live.publishers id = some after)
    (same : after.newMessageCallback = before.newMessageCallback ∧
      after.pushConnection = before.pushConnection ∧ after.recvBuffer = before.recvBuffer)
    (sent : live.sent = state.live.sent ++ sends)
    (silent : (state.viewers connectionName).attachments = [id] →
      sentTo connectionName sends = []) :
    Unseen id connectionName state (state.deliver live) := by
  have viewers := deliver_viewers sent connectionName
  refine ⟨⟨before, after, known, later, same⟩, ?_, ?_, ?_⟩
  · rw [viewers, Viewer.send_attachments]
    exact fun one => one
  · rw [viewers, Viewer.send_attachments]
    intro one
    rw [silent one, Viewer.send_nil]
  · rw [viewers, Viewer.send_connectionStatus]
    exact fun connected => connected

/-- What other publishers do is not seen. -/
theorem Mirrors.passesOn (mirrors : state.Mirrors id connectionName broadcast) {event : LiveEvent}
    (kind : FromPublisher event)
    (unread : ∀ data environment, event = .readable id data environment →
      ∀ publisher, state.live.publishers id = some publisher →
        publisher.connectionStatus = .disconnected)
    (made : state.step build (.loop event) = .ok next) :
    Unseen id connectionName state next := by
  obtain ⟨publisher, there, phase, connection, buffer⟩ := mirrors.publisher
  obtain ⟨live, stepped, rfl⟩ := step_fromPublisher kind made
  cases event with
  | connect newId name unset connectPack releasePack =>
      obtain rfl := Except.ok.inj stepped
      cases taken : state.live.publishers newId with
      | some other =>
          rw [LiveServer.onConnect, taken]
          exact .deliver there there ⟨rfl, rfl, rfl⟩ (List.append_nil _).symm fun _ => rfl
      | none =>
          have other : id ≠ newId := by
            rintro rfl
            exact Option.some_ne_none _ (there.symm.trans taken)
          rw [LiveServer.onConnect, taken]
          exact .deliver there ((Function.update_of_ne other _ _).trans there) ⟨rfl, rfl, rfl⟩
            (List.append_nil _).symm fun _ => rfl
  | readable reader data environment =>
      by_cases own : reader = id
      · subst own
        obtain ⟨outcome, read, publishers, sent⟩ := LiveServer.onReadable_outcome there stepped
        have gone := unread data environment rfl publisher there
        have quiet : outcome = ⟨publisher, none, []⟩ := by
          rcases Publisher.onReadable_cases read with ⟨-, quiet⟩ | ⟨opened, -⟩ | ⟨opened, -⟩
          · exact quiet
          · exact absurd gone opened
          · exact absurd gone opened
        rw [quiet] at publishers sent
        refine .deliver there ?_ ⟨rfl, rfl, rfl⟩ sent fun _ => rfl
        rw [publishers, Function.update_self]
      · cases known : state.live.publishers reader with
        | none =>
            have same : live = state.live := by
              have read : state.live.onReadable build reader data environment = .ok live := stepped
              rw [LiveServer.onReadable, known] at read
              exact (Except.ok.inj read).symm
            rw [same]
            exact .deliver there there ⟨rfl, rfl, rfl⟩ (List.append_nil _).symm fun _ => rfl
        | some other =>
            obtain ⟨outcome, read, publishers, sent⟩ := LiveServer.onReadable_outcome known stepped
            refine .deliver there ?_ ⟨rfl, rfl, rfl⟩ sent fun one => sentTo_other read ?_
            · rw [publishers, Function.update_of_ne (Ne.symm own)]
              exact there
            · by_contra inside
              exact mirrors.serving.alone one own ⟨other, known, inside⟩
  | close closed =>
      obtain rfl := Except.ok.inj stepped
      rw [LiveServer.onClose]
      cases known : state.live.publishers closed with
      | none => exact .deliver there there ⟨rfl, rfl, rfl⟩ (List.append_nil _).symm fun _ => rfl
      | some other =>
          by_cases own : id = closed
          · subst own
            obtain rfl := Option.some.inj (known.symm.trans there)
            exact .deliver there (Function.update_self _ _ _) ⟨rfl, rfl, rfl⟩
              (List.append_nil _).symm fun _ => rfl
          · exact .deliver there ((Function.update_of_ne own _ _).trans there) ⟨rfl, rfl, rfl⟩
              (List.append_nil _).symm fun _ => rfl
  | clientMessage name data unset => exact kind.elim
  | clientClose name => exact kind.elim

/-! ### Requests and closes of viewers -/

theorem step_clientMessage {reader data : Bytes} {unset : HeaderUnset}
    (opened : state.isClosed (.loop (.clientMessage reader data unset)) = false) :
    state.step build (.loop (.clientMessage reader data unset)) =
      (state.onClientMessage build reader data unset).mapError .fault := by
  have used : state.usesDestroyed (.loop (.clientMessage reader data unset)) = false := rfl
  unfold step
  rw [opened, used, if_neg (by simp), if_neg (by simp)]

/-- The broadcast attaches a viewer when the publisher does. -/
theorem broadcast_attaches {unset : HeaderUnset} {joined header : Bytes}
    {connection : RtmpPushConnection}
    (added : broadcast.connection.addClientConnection build unset (.new joined) =
      .ok (connection, header)) :
    ∃ headerTags, broadcast.step build (.addClientConnection unset joined) =
      .ok { broadcast with
        connection := connection
        headerTags := headerTags
        streams := Function.update broadcast.streams joined (some ⟨header, headerTags⟩) } := by
  obtain ⟨served, made, -⟩ := RtmpPushConnection.addClientConnection_served added
  rw [Broadcast.step, added]
  rcases RtmpPushConnection.getHeaderDataBuffer_cases made with
    ⟨-, kept⟩ | ⟨transformed, built, -⟩
  · rw [if_neg kept]
    exact ⟨_, rfl⟩
  · split
    · rw [built]
      exact ⟨_, rfl⟩
    · exact ⟨_, rfl⟩

theorem last_of_concat {attachments : List Nat} {other : Nat}
    (one : attachments ++ [other] = [id]) : attachments = [] ∧ other = id := by
  cases attachments with
  | nil => exact ⟨rfl, (List.cons.inj one).1⟩
  | cons first more =>
      have lengths := congrArg List.length one
      rw [List.length_append] at lengths
      simp at lengths

/-- **A request that finds the publisher** attaches the viewer in the broadcast. -/
theorem Mirrors.attaches (mirrors : state.Mirrors id connectionName broadcast)
    {reader data : Bytes} {unset : HeaderUnset} {publisher : Publisher}
    (found : state.live.getPushConn data = .ok (some (id, publisher)))
    (opened : state.isClosed (.loop (.clientMessage reader data unset)) = false)
    (made : state.step build (.loop (.clientMessage reader data unset)) = .ok next) :
    ∃ after, broadcast.step build (.addClientConnection unset reader) = .ok after ∧
      next.Mirrors id connectionName after := by
  have serving := mirrors.serving.step made
  have keyed := mapsKeyed_step mirrors.keyed made
  obtain ⟨same, there, phase, connection, unread⟩ := mirrors.publisher
  obtain rfl := Option.some.inj ((LiveServer.getPushConn_publisher found).symm.trans there)
  rw [step_clientMessage opened, onClientMessage_attaches found, connection] at made
  cases added : broadcast.connection.addClientConnection build unset (.new reader) with
  | error fault =>
      rw [added] at made
      cases made
  | ok both =>
      rw [added] at made
      obtain rfl := Except.ok.inj made
      obtain ⟨headerTags, attached⟩ := broadcast_attaches added
      refine ⟨_, attached, serving, keyed, ⟨_, Function.update_self _ _ _, phase, rfl, unread⟩,
        fun one => ?_⟩
      rw [attach_viewers] at one ⊢
      by_cases own : connectionName = reader
      · subst own
        rw [if_pos rfl, Viewer.attach_attachments] at one
        have first := (last_of_concat one).1
        rw [if_pos rfl]
        refine ⟨_, Function.update_self _ _ _, ?_, fun connected => ?_⟩
        · rw [Viewer.attach_sent, mirrors.serving.silent first, List.nil_append]
          split
          · rw [List.flatten_singleton]
          · exact List.nil_prefix
        · rw [Viewer.send_connectionStatus, Viewer.record_connectionStatus] at connected
          rw [Viewer.attach_sent, mirrors.serving.silent first, List.nil_append, if_pos connected,
            List.flatten_singleton]
      · rw [if_neg own] at one ⊢
        exact (mirrors.receives one).quiet rfl (fun connected => connected)
          (Function.update_of_ne own _ _)

/-- Shutting a viewer down is not seen. -/
theorem Unseen.shutdown (mirrors : state.Mirrors id connectionName broadcast) (changed : Bytes) :
    Unseen id connectionName state
      (state.setViewer changed (state.viewers changed).shutdown) := by
  by_cases own : connectionName = changed
  · subst own
    have viewer : (state.setViewer connectionName
        (state.viewers connectionName).shutdown).viewers connectionName =
          (state.viewers connectionName).shutdown := by rw [setViewer_viewers, if_pos rfl]
    refine .viewer mirrors rfl ?_ ?_ fun connected => ?_
    · rw [viewer, Viewer.shutdown_attachments]
    · rw [viewer, Viewer.shutdown_sent]
    · rw [viewer] at connected
      exact absurd connected (Viewer.shutdown_not_connected _)
  · have viewer : (state.setViewer changed (state.viewers changed).shutdown).viewers
        connectionName = state.viewers connectionName := by
      rw [setViewer_viewers, if_neg own]
    refine .viewer mirrors rfl (by rw [viewer]) (by rw [viewer]) fun connected => ?_
    rwa [viewer] at connected

/-- A request that does not find the publisher is not seen. -/
theorem Mirrors.requests (mirrors : state.Mirrors id connectionName broadcast)
    {reader data : Bytes} {unset : HeaderUnset}
    (elsewhere : ∀ publisher, state.live.getPushConn data ≠ .ok (some (id, publisher)))
    (made : state.step build (.loop (.clientMessage reader data unset)) = .ok next) :
    Unseen id connectionName state next := by
  cases step_becomes made with
  | ignores => exact .viewer mirrors rfl rfl rfl fun connected => connected
  | refuses found => exact .shutdown mirrors reader
  | attaches _ _ _ other publisher connection header opened found added =>
      have differs : other ≠ id := by
        rintro rfl
        exact elsewhere publisher found
      obtain ⟨own, there, -⟩ := mirrors.publisher
      refine ⟨⟨own, own, there, (Function.update_of_ne (Ne.symm differs) _ _).trans there, rfl,
        rfl, rfl⟩, fun one => ?_, fun one => ?_, fun connected => ?_⟩
      · rw [attach_viewers] at one
        split at one
        · next own =>
          subst own
          rw [Viewer.attach_attachments] at one
          exact absurd (last_of_concat one).2 differs
        · exact one
      · rw [attach_viewers] at one ⊢
        split at one
        · next own =>
          subst own
          rw [Viewer.attach_attachments] at one
          exact absurd (last_of_concat one).2 differs
        · next own => rw [if_neg own]
      · rw [attach_viewers] at connected
        split at connected
        · next own =>
          subst own
          rwa [Viewer.send_connectionStatus, Viewer.record_connectionStatus] at connected
        · exact connected
  | passesOn kind used stepped => exact kind.elim

theorem step_clientClose {closed : Bytes}
    (opened : state.isClosed (.loop (.clientClose closed)) = false)
    (made : state.step build (.loop (.clientClose closed)) = .ok next) :
    next = state.onClose closed := by
  unfold step at made
  rw [opened, if_neg (by simp)] at made
  split at made
  · cases made
  · exact (Except.ok.inj made).symm

/-- Closing a viewer leaves what viewers were attached to and sent. -/
theorem onClose_viewers (state : PullServer) (closed connectionName : Bytes) :
    ((state.onClose closed).viewers connectionName).attachments =
        (state.viewers connectionName).attachments ∧
      ((state.onClose closed).viewers connectionName).sent =
        (state.viewers connectionName).sent ∧
      (((state.onClose closed).viewers connectionName).connectionStatus = .connected →
        (state.viewers connectionName).connectionStatus = .connected) := by
  by_cases own : connectionName = closed
  · subst own
    have viewer : (state.onClose connectionName).viewers connectionName =
        (state.viewers connectionName).onClose := Function.update_self _ _ _
    rw [viewer]
    exact ⟨Viewer.onClose_attachments _, Viewer.onClose_sent _, nofun⟩
  · have viewer : (state.onClose closed).viewers connectionName =
        state.viewers connectionName := Function.update_of_ne own _ _
    rw [viewer]
    exact ⟨rfl, rfl, fun connected => connected⟩

/-- **The close of a viewer whose callback names the publisher** is one of the broadcast. -/
theorem Mirrors.detaches (mirrors : state.Mirrors id connectionName broadcast) {closed : Bytes}
    (named : state.live.closeConnectionCallback closed = some id)
    (opened : state.isClosed (.loop (.clientClose closed)) = false)
    (made : state.step build (.loop (.clientClose closed)) = .ok next) :
    next.Mirrors id connectionName
      { broadcast with connection := broadcast.connection.onConnectionClose closed } := by
  have serving := mirrors.serving.step made
  have keyed := mapsKeyed_step mirrors.keyed made
  obtain ⟨publisher, there, phase, connection, unread⟩ := mirrors.publisher
  have same := step_clientClose opened made
  subst same
  refine ⟨serving, keyed, ⟨{ publisher with
    pushConnection := publisher.pushConnection.onConnectionClose closed }, ?_, phase, ?_, unread⟩,
    fun one => ?_⟩
  · rw [onClose, LiveServer.onClientClose]
    dsimp only
    rw [named]
    dsimp only
    rw [there]
    exact Function.update_self _ _ _
  · rw [← connection]
  · have viewer := onClose_viewers state closed connectionName
    refine (mirrors.receives (viewer.1 ▸ one)).quiet viewer.2.1 viewer.2.2 rfl

/-- Other closes of viewers are not seen. -/
theorem Mirrors.closes (mirrors : state.Mirrors id connectionName broadcast) {closed : Bytes}
    (elsewhere : state.live.closeConnectionCallback closed ≠ some id)
    (made : state.step build (.loop (.clientClose closed)) = .ok next) :
    Unseen id connectionName state next := by
  cases step_becomes made with
  | ignores => exact .viewer mirrors rfl rfl rfl fun connected => connected
  | closes _ opened reached =>
      have viewer := onClose_viewers state closed connectionName
      obtain ⟨publisher, there, -⟩ := mirrors.publisher
      refine ⟨⟨publisher, publisher, there, ?_, rfl, rfl, rfl⟩, fun one => viewer.1 ▸ one,
        fun _ => viewer.2.1, viewer.2.2⟩
      rw [onClose, LiveServer.onClientClose]
      dsimp only
      cases named : state.live.closeConnectionCallback closed with
      | none => exact there
      | some found =>
          have other : id ≠ found := by
            rintro rfl
            exact elsewhere named
          dsimp only
          cases known : state.live.publishers found with
          | none => exact there
          | some earlier => exact (Function.update_of_ne other _ _).trans there
  | passesOn kind used stepped => exact kind.elim

end PullServer

/-! ## The refinement -/

namespace PullServer

variable {build : Build} {id : Nat} {connectionName : Bytes} {state next : PullServer}
  {broadcast : Broadcast}

/-- A send that fails is not seen. -/
theorem Mirrors.fails (mirrors : state.Mirrors id connectionName broadcast) {changed : Bytes}
    (made : state.step build (.sendFails changed) = .ok next) :
    Unseen id connectionName state next := by
  cases step_becomes made with
  | ignores => exact .viewer mirrors rfl rfl rfl fun connected => connected
  | shutsDown => exact .shutdown mirrors changed

/-- What a read is to the publisher. -/
theorem Mirrors.readable (mirrors : state.Mirrors id connectionName broadcast) {reader : Nat}
    {data : Bytes} {environment : ReadEnvironment}
    (made : state.step build (.loop (.readable reader data environment)) = .ok next) :
    ∃ after, (Machine.faulting (Broadcast.step build)).run (.ok broadcast)
        (if reader = id ∧ (state.live.publishers id).any (fun publisher =>
            decide (publisher.connectionStatus ≠ .disconnected)) then
          [.onBodyData environment.unset data]
        else []) = .ok after ∧
      next.Mirrors id connectionName after := by
  obtain ⟨publisher, there, -⟩ := mirrors.publisher
  rw [there, Option.any_some]
  by_cases read : reader = id ∧ publisher.connectionStatus ≠ .disconnected
  · obtain ⟨rfl, opened⟩ := read
    rw [if_pos ⟨rfl, decide_eq_true opened⟩]
    obtain ⟨after, stepped, mirrored⟩ := mirrors.reads there opened made
    exact Machine.matched_singleton stepped mirrored
  · rw [if_neg fun both => read ⟨both.1, of_decide_eq_true both.2⟩]
    refine Machine.matched_nil (mirrors.unseen made (mirrors.passesOn (by exact trivial) ?_ made))
    intro other found same known here
    obtain rfl := Option.some.inj (there.symm.trans here)
    by_contra opened
    cases same
    exact read ⟨rfl, opened⟩

/-- What a request is to the publisher. -/
theorem Mirrors.clientMessage (mirrors : state.Mirrors id connectionName broadcast)
    {reader data : Bytes} {unset : HeaderUnset}
    (opened : state.isClosed (.loop (.clientMessage reader data unset)) = false)
    (made : state.step build (.loop (.clientMessage reader data unset)) = .ok next) :
    ∃ after, (Machine.faulting (Broadcast.step build)).run (.ok broadcast)
        (match state.live.getPushConn data with
        | .ok (some (found, _)) =>
            if found = id then [.addClientConnection unset reader] else []
        | _ => []) = .ok after ∧
      next.Mirrors id connectionName after := by
  have unseen (elsewhere : ∀ publisher,
      state.live.getPushConn data ≠ .ok (some (id, publisher))) :
      ∃ after, (Machine.faulting (Broadcast.step build)).run (.ok broadcast) [] = .ok after ∧
        next.Mirrors id connectionName after :=
    Machine.matched_nil (mirrors.unseen made (mirrors.requests elsewhere made))
  cases found : state.live.getPushConn data with
  | error fault =>
      refine unseen fun publisher same => ?_
      rw [found] at same
      cases same
  | ok answer =>
      cases answer with
      | none =>
          refine unseen fun publisher same => ?_
          rw [found] at same
          cases same
      | some entry =>
          obtain ⟨other, publisher⟩ := entry
          dsimp only
          by_cases own : other = id
          · subst own
            rw [if_pos rfl]
            obtain ⟨after, stepped, mirrored⟩ := mirrors.attaches found opened made
            exact Machine.matched_singleton stepped mirrored
          · rw [if_neg own]
            refine unseen fun here same => own ?_
            rw [found] at same
            exact (Prod.mk.inj (Option.some.inj (Except.ok.inj same))).1

/-- **Every event is matched** by what the publisher sees of it. -/
theorem refines_broadcast (build : Build) (id : Nat) (connectionName : Bytes) :
    Machine.Refines (PullServer.step build) (Broadcast.step build) (seenBy id)
      (Mirrors id connectionName) where
  matched {state event next broadcast} mirrors made := by
    unfold seenBy
    by_cases closed : state.isClosed event = true
    · rw [if_pos closed]
      have same : state.step build event = .ok state := by
        unfold PullServer.step
        rw [if_pos closed]
      obtain rfl := Except.ok.inj (same.symm.trans made)
      exact Machine.matched_nil mirrors
    · rw [if_neg closed]
      rw [Bool.not_eq_true] at closed
      cases event with
      | sendFails changed => exact Machine.matched_nil (mirrors.unseen made (mirrors.fails made))
      | loop event =>
          cases event with
          | connect newId name unset connectPack releasePack =>
              refine Machine.matched_nil (mirrors.unseen made (mirrors.passesOn ?_ ?_ made))
              · exact trivial
              · intro _ _ impossible
                cases impossible
          | readable reader data environment => exact mirrors.readable made
          | close closing =>
              refine Machine.matched_nil (mirrors.unseen made (mirrors.passesOn ?_ ?_ made))
              · exact trivial
              · intro _ _ impossible
                cases impossible
          | clientMessage reader data unset => exact mirrors.clientMessage closed made
          | clientClose reader =>
              dsimp only
              split
              · next named =>
                exact Machine.matched_singleton rfl (mirrors.detaches named closed made)
              · next elsewhere =>
                exact Machine.matched_nil (mirrors.unseen made (mirrors.closes elsewhere made))

end PullServer

open PullServer

/-- **The servers refine the broadcast of a publisher.** In a state that is reached, a publisher
is in its media phase and a viewer has not been attached anywhere. Whatever happens from then on,
with any publishers and viewers: the connection and the unread bytes of the publisher are those
of the broadcast over what the publisher sees of it. And when the viewer has been attached once,
to this publisher, what was handed to its `Send` is what the broadcast has sent it as long as it
is connected, and the beginning of that when it is not. -/
theorem servers_refine_broadcast (build : Build) {id : Nat} {connectionName : Bytes}
    {before events : List PullEvent} {start state : PullServer} {publisher : Publisher}
    {broadcast : Broadcast}
    (reached : (PullServer.machine build).run (.ok .empty) before = .ok start)
    (known : start.live.publishers id = some publisher)
    (media : publisher.newMessageCallback = .onBodyData)
    (same : broadcast.connection = publisher.pushConnection ∧
      broadcast.recvBuffer = publisher.recvBuffer)
    (fresh : (start.viewers connectionName).attachments = [])
    (ran : (PullServer.machine build).run (.ok start) events = .ok state) :
    ∃ after later,
      (Broadcast.machine build).run (.ok broadcast)
          ((PullServer.machine build).emitted (Machine.ofOk (seenBy id)) (.ok start) events) =
        .ok after ∧
      state.live.publishers id = some later ∧
      later.pushConnection = after.connection ∧ later.recvBuffer = after.recvBuffer ∧
      ((state.viewers connectionName).attachments = [id] →
        (state.viewers connectionName).Receives connectionName after) := by
  have serving : start.Serving connectionName :=
    Machine.faulting_invariant (fun _ _ _ serving made => Serving.step serving made)
      serving_empty reached
  have keyed : start.live.MapsKeyed :=
    Machine.faulting_invariant (fun _ _ _ keyed made => mapsKeyed_step keyed made)
      mapsKeyed_empty reached
  have mirrors : start.Mirrors id connectionName broadcast := by
    refine ⟨serving, keyed, ⟨publisher, known, media, same.1.symm, same.2.symm⟩, fun one => ?_⟩
    rw [fresh] at one
    cases one
  obtain ⟨after, made, mirrored⟩ :=
    (refines_broadcast build id connectionName).run mirrors ran
  obtain ⟨later, there, -, connection, unread⟩ := mirrored.publisher
  exact ⟨after, later, made, there, connection, unread, mirrored.receives⟩

/-- A publisher completes its handshake. -/
def untilMedia : List PullEvent := (acknowledgedStream.take 3).map .loop

/-- Its sequence headers come, a viewer joins, another publisher connects, and a frame comes. -/
def behindMedia : List PullEvent :=
  (acknowledgedStream.drop 3 ++
    [LiveEvent.connect 1 [100] ⟨0, false, .zero, .zero⟩ .zero .zero,
      .readable 0 (encodeMessages 4096 4 oneFrame) ⟨none, fun _ => 0, 0⟩]).map .loop

theorem servers_refine_broadcast_oneFrame :
    ∃ start state after,
      (PullServer.machine .standard).run (.ok .empty) untilMedia = .ok start ∧
      (PullServer.machine .standard).run (.ok start) behindMedia = .ok state ∧
      (state.viewers [118]).sent.length = 2 ∧ (state.viewers [118]).Receives [118] after := by
  have checked : ((PullServer.machine .standard).run (.ok .empty) untilMedia).toOption.any
      (fun start =>
        (start.live.publishers 0).any (fun publisher =>
          decide (publisher.newMessageCallback = .onBodyData)) &&
        decide ((start.viewers [118]).attachments = []) &&
        ((PullServer.machine .standard).run (.ok start) behindMedia).toOption.any (fun state =>
          decide ((state.viewers [118]).attachments = [0]) &&
          decide ((state.viewers [118]).sent.length = 2))) = true := by
    decide +kernel
  obtain ⟨start, reached, checked⟩ := Machine.exists_of_any checked
  rw [Bool.and_eq_true, Bool.and_eq_true, decide_eq_true_eq] at checked
  obtain ⟨⟨phase, fresh⟩, checked⟩ := checked
  obtain ⟨state, ran, checked⟩ := Machine.exists_of_any checked
  rw [Bool.and_eq_true, decide_eq_true_eq, decide_eq_true_eq] at checked
  cases known : start.live.publishers 0 with
  | none =>
      rw [known] at phase
      cases phase
  | some publisher =>
      rw [known] at phase
      obtain ⟨after, later, -, -, -, -, receives⟩ :=
        @servers_refine_broadcast .standard 0 [118] untilMedia behindMedia start state publisher
          ⟨publisher.pushConnection, publisher.recvBuffer, [], fun _ => none⟩ reached known
          (of_decide_eq_true phase) ⟨rfl, rfl⟩ fresh ran
      exact ⟨start, state, after, reached, ran, checked.2, receives checked.1⟩

end LiveBroadcast
