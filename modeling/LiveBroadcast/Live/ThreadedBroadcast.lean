import LiveBroadcast.Live.Relay
import LiveBroadcast.Live.TagOrder

/-!
# The threads and the broadcast

`Broadcast` takes one event after the other and keeps what each viewer is sent. In
`StreamThreads` the publisher's thread and the loops of the viewers take their steps in any
order, payloads wait in pending functions and in send buffers, and sockets take what they like.

**Main.** The threads refine the broadcast (`threads_refine_broadcast`). When the accesses to
`client_connection_map_` are those of a run of the broadcast, then for a viewer that has joined
once and is still connected, what its socket has taken, what its send buffer holds and what is
underway are together the bytes that the broadcast has sent it, in this order.
-/

set_option autoImplicit false

namespace LiveBroadcast

open HttpPullConnection

namespace Broadcast

/-- The accesses to the map that an event makes. -/
def access (build : Build) (state : Broadcast) : BroadcastEvent → List MapAccess
  | .onBodyData unset data =>
      (state.connection.newFlvTag build unset (state.recvBuffer ++ data)).toList.map .publish
  | .addClientConnection unset connectionName =>
      match state.connection.getHeaderDataBuffer build unset with
      | .ok served => [.insert connectionName served.headerBuffer]
      | .error _ => []
  | .onConnectionClose _ => []

/-- The accesses that a run makes. -/
def accesses (build : Build) (start : Broadcast) (events : List BroadcastEvent) :
    List MapAccess :=
  (machine build).emitted (fun outcome event => match outcome with
    | .ok state => state.access build event
    | .error _ => []) (.ok start) events

variable {build : Build} {start state next : Broadcast} {name : Bytes}

theorem accesses_concat {events : List BroadcastEvent}
    (reached : (machine build).run (.ok start) events = .ok state) (event : BroadcastEvent) :
    accesses build start (events ++ [event]) =
      accesses build start events ++ state.access build event := by
  rw [accesses, Machine.emitted_concat, reached]
  rfl

/-- What the broadcast keeps for a viewer that never leaves: nothing before its join; and when it
has joined once, the header and a chunk for each tag since. -/
structure Sends (name : Bytes) (accesses : List MapAccess) (state : Broadcast) : Prop where
  waits : NotInserted name accesses → state.connection.clientConnectionMap.lookup name = none
  sends : ∀ headerBuffer tags, InsertedOnce name headerBuffer tags accesses →
    state.connection.clientConnectionMap.lookup name =
        some ((HttpPullConnection.new name).addFlvTags tags).1 ∧
      ∃ stream, state.streams name = some stream ∧
        stream.sent = (HttpPullConnection.new name).sendHeaderOnConnection headerBuffer ++
          ((HttpPullConnection.new name).addFlvTags tags).2.flatten

theorem notInserted_concat {accesses : List MapAccess} {access : MapAccess}
    (absent : NotInserted name (accesses ++ [access])) :
    NotInserted name accesses ∧ ∀ headerBuffer, access ≠ .insert name headerBuffer := by
  refine ⟨fun headerBuffer inside => absent headerBuffer (List.mem_append_left _ inside), ?_⟩
  rintro headerBuffer rfl
  exact absent headerBuffer (List.mem_append_right _ List.mem_cons_self)

theorem sends_new (connectionName : Bytes) (manager : RtmpManager) :
    Sends name [] (new connectionName manager) where
  waits _ := rfl
  sends headerBuffer tags once := by
    obtain ⟨before, after, split, -⟩ := once
    exact absurd split.symm (List.append_ne_nil_of_right_ne_nil before (List.cons_ne_nil _ _))

/-- A read adds a chunk for the tag it passes on, if any. -/
theorem Sends.onBodyData {accesses : List MapAccess} (kept : Sends name accesses state)
    {unset : UInt8} {data : Bytes} (made : state.step build (.onBodyData unset data) = .ok next) :
    Sends name (accesses ++ state.access build (.onBodyData unset data)) next := by
  obtain ⟨waits, sends⟩ := kept
  obtain rfl := Except.ok.inj made
  rw [access]
  cases passed : state.connection.newFlvTag build unset (state.recvBuffer ++ data) with
  | none =>
      have clients := (RtmpPushConnection.parseData_none passed name).1
      rw [Option.toList_none, List.map_nil, List.append_nil]
      refine ⟨fun absent => clients.trans (waits absent), fun headerBuffer tags once => ?_⟩
      obtain ⟨here, stream, found, sent⟩ := sends headerBuffer tags once
      exact ⟨clients.trans here, stream, found, sent⟩
  | some tag =>
      obtain ⟨clients, chunks⟩ := RtmpPushConnection.parseData_some passed name
      rw [Option.toList_some, List.map_singleton]
      refine ⟨fun absent => ?_, fun headerBuffer tags once => ?_⟩
      · rw [clients, waits (notInserted_concat absent).1, Option.map_none]
      · rcases once.concat with ⟨impossible, -⟩ | ⟨earlier, before, -, rfl⟩
        · cases impossible
        · obtain ⟨here, stream, found, sent⟩ := sends headerBuffer earlier before
          have behind : publishedTags [.publish tag] = [tag] := rfl
          rw [here, Option.map_some] at clients chunks
          rw [behind, addFlvTags_concat]
          refine ⟨clients,
            stream.receive
              (((HttpPullConnection.new name).addFlvTags earlier).1.addFlvTag tag).2 tag,
            by simp only [chunks, found, Option.map_some], ?_⟩
          rw [ViewerStream.receive, sent, List.flatten_append, List.flatten_singleton,
            List.append_assoc]

/-- What a join leaves. -/
theorem step_joins {unset : HeaderUnset} {joined : Bytes}
    (made : state.step build (.addClientConnection unset joined) = .ok next) :
    ∃ served headerTags, state.connection.getHeaderDataBuffer build unset = .ok served ∧
      next.connection.clientConnectionMap =
        state.connection.clientConnectionMap.insert joined (.new joined) ∧
      next.streams = Function.update state.streams joined
        (some ⟨(HttpPullConnection.new joined).sendHeaderOnConnection served.headerBuffer,
          headerTags⟩) := by
  rw [Broadcast.step] at made
  by_cases empty : state.connection.headerBuffer = []
  · rw [if_pos empty, RtmpPushConnection.addClientConnection_empty empty] at made
    rw [RtmpPushConnection.getHeaderDataBuffer_empty empty]
    cases transformed : state.connection.transformHeaderPacks build unset with
    | error fault =>
        rw [transformed] at made
        cases made
    | ok tags =>
        rw [transformed] at made
        obtain rfl := Except.ok.inj made
        exact ⟨_, _, rfl, rfl, rfl⟩
  · rw [if_neg empty, RtmpPushConnection.addClientConnection_kept empty] at made
    obtain rfl := Except.ok.inj made
    exact ⟨_, _, RtmpPushConnection.getHeaderDataBuffer_kept empty, rfl, rfl⟩

/-- A join sends the header to the viewer that joins. -/
theorem Sends.addClientConnection {accesses : List MapAccess} (kept : Sends name accesses state)
    {unset : HeaderUnset} {joined : Bytes}
    (made : state.step build (.addClientConnection unset joined) = .ok next) :
    Sends name (accesses ++ state.access build (.addClientConnection unset joined)) next := by
  obtain ⟨waits, sends⟩ := kept
  obtain ⟨served, headerTags, header, clients, streams⟩ := step_joins made
  rw [access, header]
  dsimp only
  refine ⟨fun absent => ?_, fun headerBuffer tags once => ?_⟩
  · obtain ⟨before, apart⟩ := notInserted_concat absent
    have other : name ≠ joined := by
      rintro rfl
      exact apart _ rfl
    rw [clients, PullConnectionMap.lookup_insert, if_neg other, waits before]
  · rcases once.concat with ⟨mine, rfl, -⟩ | ⟨earlier, before, apart, rfl⟩
    · obtain ⟨rfl, rfl⟩ := MapAccess.insert.inj mine
      have none_yet : (HttpPullConnection.new joined).addFlvTags [] =
        (HttpPullConnection.new joined, []) := rfl
      rw [none_yet, List.flatten_nil, List.append_nil, clients, PullConnectionMap.lookup_insert,
        if_pos rfl, streams, Function.update_self]
      exact ⟨rfl, _, rfl, rfl⟩
    · have other : name ≠ joined := by
        rintro rfl
        exact apart _ rfl
      have nothing : publishedTags [.insert joined served.headerBuffer] = [] := rfl
      obtain ⟨here, stream, found, sent⟩ := sends headerBuffer earlier before
      rw [nothing, List.append_nil, clients, PullConnectionMap.lookup_insert, if_neg other, streams,
        Function.update_of_ne other]
      exact ⟨here, stream, found, sent⟩

/-- **Every event** that is no leave of the viewer. -/
theorem Sends.step {accesses : List MapAccess} (kept : Sends name accesses state)
    {event : BroadcastEvent} (stays : event ≠ .onConnectionClose name)
    (made : state.step build event = .ok next) :
    Sends name (accesses ++ state.access build event) next := by
  cases event with
  | onBodyData unset data => exact kept.onBodyData made
  | addClientConnection unset joined => exact kept.addClientConnection made
  | onConnectionClose closed =>
      obtain ⟨waits, sends⟩ := kept
      obtain rfl := Except.ok.inj made
      have other : name ≠ closed := by
        rintro rfl
        exact stays rfl
      have clients : (state.connection.clientConnectionMap.erase closed).lookup name =
          state.connection.clientConnectionMap.lookup name :=
        (PullConnectionMap.lookup_erase _ _ _).trans (if_neg other)
      rw [access, List.append_nil]
      exact ⟨fun absent => clients.trans (waits absent), fun headerBuffer tags once =>
        ⟨clients.trans (sends headerBuffer tags once).1, (sends headerBuffer tags once).2⟩⟩

/-- **A run** sends what its accesses say. -/
theorem run_sends {connectionName : Bytes} {manager : RtmpManager} {events : List BroadcastEvent}
    (stays : .onConnectionClose name ∉ events)
    (reached : (machine build).run (.ok (.new connectionName manager)) events = .ok state) :
    Sends name (accesses build (.new connectionName manager) events) state := by
  induction events using List.reverseRecOn generalizing state with
  | nil =>
      obtain rfl := Except.ok.inj reached
      exact sends_new connectionName manager
  | append_singleton events event ih =>
      rw [machine, Machine.faulting_run_concat] at reached
      cases earlier : (Machine.faulting (Broadcast.step build)).run
          (.ok (.new connectionName manager)) events with
      | error fault =>
          rw [earlier] at reached
          cases reached
      | ok between =>
          rw [earlier] at reached
          rw [accesses_concat earlier]
          refine (ih (fun inside => stays (List.mem_append_left _ inside)) earlier).step ?_ reached
          rintro rfl
          exact stays (List.mem_append_right _ List.mem_cons_self)

end Broadcast

open Broadcast StreamThreads

/-- **The threads refine the broadcast.** In every interleaving of the publisher's thread and the
loops of the viewers whose accesses to the map are those of a run of the broadcast: of a viewer
that joined once, never left and is still connected, the bytes that its socket has taken, those
in its send buffer and those of the payloads underway make up, in this order, what the broadcast
has sent it. -/
theorem threads_refine_broadcast (build : Build) (connectionName : Bytes) (manager : RtmpManager)
    {events : List BroadcastEvent} {broadcast : Broadcast}
    (reached : (Broadcast.machine build).run (.ok (.new connectionName manager)) events =
      .ok broadcast)
    {name headerBuffer : Bytes} {tags : List FlvTag} (stays : .onConnectionClose name ∉ events)
    (inserted : InsertedOnce name headerBuffer tags
      (accesses build (.new connectionName manager) events))
    (loopOf : Bytes → Nat) (connections : Bytes → TcpConnection)
    (fresh : (connections name).bytes = []) (steps : List ThreadEvent)
    (same : ((StreamThreads.machine loopOf).run (.atStart connections) steps).accesses =
      accesses build (.new connectionName manager) events)
    (connected : (((StreamThreads.machine loopOf).run (.atStart connections) steps).connections
      name).connectionStatus = .connected) :
    let threads := (StreamThreads.machine loopOf).run (.atStart connections) steps
    ∃ stream, broadcast.streams name = some stream ∧
      (threads.connections name).taken ++ (threads.connections name).sendBuffer ++
        (threads.underway name loopOf).flatten = stream.sent := by
  intro threads
  obtain ⟨-, stream, found, sent⟩ := (run_sends stays reached).sends headerBuffer tags inserted
  refine ⟨stream, found, ?_⟩
  obtain ⟨-, served⟩ := @run_served loopOf connections steps name
  have line := (served.serves headerBuffer tags (same ▸ inserted) connected).2.2
  rw [StreamThreads.line] at line
  have whole := congrArg List.flatten line
  rw [List.flatten_append, List.flatten_cons, ← sent] at whole
  have bytes := run_bytesReached loopOf connections steps name connected
  rw [fresh, List.nil_append] at bytes
  rw [← whole, ← bytes, TcpConnection.bytes]

/-- The sequence headers and a frame are read, a viewer joins, and another frame is read. -/
def joinsBetween : List BroadcastEvent :=
  readHeaders ++ .addClientConnection ⟨0, 0, 0⟩ [118] :: readNextFrame

/-- Steps of the threads that make these accesses; the sockets take nothing. -/
def stepsFor : List MapAccess → List ThreadEvent
  | [] => []
  | .insert connectionName headerBuffer :: later =>
      .addClientConnection connectionName headerBuffer :: .sendHeader 0 blocked :: stepsFor later
  | .publish tag :: later => .onNewFlvTag tag :: .addFlvTag blocked :: stepsFor later

def joinAccesses : List MapAccess :=
  accesses .standard (.new [112] (.atStart .standard)) joinsBetween

/-- The header buffer that the second access sends. -/
def joinHeaderBuffer : Bytes :=
  match joinAccesses with
  | _ :: .insert _ headerBuffer :: _ => headerBuffer
  | _ => []

def MapAccess.isPublish : MapAccess → Bool
  | .insert _ _ => false
  | .publish _ => true

def joinThreads : StreamThreads :=
  (StreamThreads.machine fun _ => 0).run (.atStart fun _ => establishedConnection)
    (stepsFor joinAccesses)

theorem threads_refine_broadcast_joinsBetween :
    ∃ broadcast stream,
      (Broadcast.machine .standard).run (.ok (.new [112] (.atStart .standard))) joinsBetween =
        .ok broadcast ∧ broadcast.streams [118] = some stream ∧
      (joinThreads.connections [118]).taken ++ (joinThreads.connections [118]).sendBuffer ++
        (joinThreads.underway [118] fun _ => 0).flatten = stream.sent := by
  have ran : ((Broadcast.machine .standard).run (.ok (.new [112] (.atStart .standard)))
      joinsBetween).toOption.any (fun _ => true) = true := by decide +kernel
  obtain ⟨broadcast, reached, -⟩ := Machine.exists_of_any ran
  have shape : joinAccesses =
      joinAccesses.take 1 ++ .insert [118] joinHeaderBuffer :: joinAccesses.drop 2 ∧
        (joinAccesses.take 1 ++ joinAccesses.drop 2).all MapAccess.isPublish = true ∧
        joinThreads.accesses = joinAccesses ∧
        (joinThreads.connections [118]).connectionStatus = .connected := by decide +kernel
  unfold joinThreads at shape ⊢
  obtain ⟨split, published, same, connected⟩ := shape
  have once : InsertedOnce [118] joinHeaderBuffer (publishedTags (joinAccesses.drop 2))
      joinAccesses := by
    refine ⟨_, _, split, fun other inside => ?_, rfl⟩
    exact Bool.false_ne_true (List.all_eq_true.mp published _ inside)
  obtain ⟨stream, found, whole⟩ := threads_refine_broadcast .standard [112] (.atStart .standard)
    reached (by decide +kernel) once (fun _ => 0) (fun _ => establishedConnection) rfl
    (stepsFor joinAccesses) same connected
  exact ⟨broadcast, stream, reached, found, whole⟩

end LiveBroadcast
