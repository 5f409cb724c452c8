import LiveBroadcast.Codec.Delivery
import LiveBroadcast.Live.ViewerStream

/-!
# The sizes between the tags

A publisher in its media phase is fed bytes, and viewers are attached to it and leave. A run
keeps, for each viewer, what it has been sent since it was last attached and which tags that
was (`ViewerStream`); the code reads neither. What a viewer is sent is right if its chunks
hold the FLV stream of its tags, in which every tag stands behind the size of the tag before
it (`SizesRight`).

The sizes in the header buffer are right, and so are those between two live tags. But the
first live tag is sent behind a size of 0, though it follows the last tag of the header. So
the stream of a viewer is right exactly as long as no tag is passed to it
(`previous_tag_sizes_iff`).
-/

set_option autoImplicit false

namespace LiveBroadcast

open ChunkedTransfer HttpPullConnection

/-! ## The stream of a viewer -/

/-- What a viewer has been sent since it was attached, and the tags it was sent. -/
structure ViewerStream where
  sent : Bytes
  tags : List FlvTag
  deriving DecidableEq, Repr

namespace ViewerStream

/-- The data of the chunks behind the response header is the FLV stream of the tags: 0 in
front of the first, and in front of each later one the 11 bytes and the data size of the tag
before it. -/
def SizesRight (stream : ViewerStream) : Prop :=
  (Reader.readToEnd decodeChunk (stream.sent.drop responseHeader.length)).map List.flatten =
    some (flvStream stream.tags)

instance (stream : ViewerStream) : Decidable stream.SizesRight :=
  inferInstanceAs (Decidable (_ = _))

/-- The stream behind another tag. -/
def receive (stream : ViewerStream) (sent : Bytes) (tag : FlvTag) : ViewerStream :=
  ⟨stream.sent ++ sent, stream.tags ++ [tag]⟩

/-- The stream is two chains: the header buffer for some tags, and live tags behind it. -/
structure Carries (stream : ViewerStream) (header live : List FlvTag) : Prop where
  nonempty : header ≠ []
  tags : stream.tags = header ++ live
  sent : stream.sent =
    responseHeader ++ (viewerPieces (flvStream header) 0 live).flatMap encodeChunk

variable {stream : ViewerStream} {header live : List FlvTag}

theorem flvStream_ne_nil (tags : List FlvTag) : flvStream tags ≠ [] :=
  List.append_ne_nil_of_left_ne_nil (List.cons_ne_nil _ _) _

theorem Carries.start (client : HttpPullConnection) (nonempty : header ≠ []) :
    Carries ⟨client.sendHeaderOnConnection (flvStream header), header⟩ header [] where
  nonempty := nonempty
  tags := (List.append_nil _).symm
  sent := by
    rw [sendHeaderOnConnection_eq, viewerPieces, FlvItem.chain, List.map_nil,
      List.flatMap_singleton]

/-- A viewer whose last size is that of its last live tag goes on with its chain. -/
theorem Carries.receive (carries : stream.Carries header live) {client : HttpPullConnection}
    (last : client.lastTagSize = FlvItem.lastSize 0 live) (tag : FlvTag) :
    (stream.receive (client.addFlvTag tag).2 tag).Carries header (live ++ [tag]) where
  nonempty := carries.nonempty
  tags := by rw [ViewerStream.receive, carries.tags, List.append_assoc]
  sent := by
    rw [ViewerStream.receive, carries.sent, addFlvTag_eq, last, viewerPieces, viewerPieces,
      FlvItem.chain_append, List.map_append, ← List.cons_append, List.flatMap_append,
      List.append_assoc]
    simp only [FlvItem.chain, List.map_cons, List.map_nil, List.flatMap_singleton]

/-- **The seam.** With the header and without live tags the sizes are right; the first live
tag breaks the chain, since the tag before it has a size of at least 11. -/
theorem Carries.sizesRight_iff (carries : stream.Carries header live) :
    stream.SizesRight ↔ live = [] := by
  have nonempty := viewerPieces_nonempty (flvStream_ne_nil header) 0 live
  rw [SizesRight, carries.sent, List.drop_left, readToEnd_chunks nonempty, Option.map_some,
    flatten_viewerPieces, carries.tags, Option.some_inj, flvStream, flvStream,
    FlvItem.chain_append, List.flatMap_append, ← List.append_assoc, List.append_cancel_left_eq]
  constructor
  · intro same
    cases live with
    | nil => rfl
    | cons tag live =>
        exfalso
        obtain ⟨before, last, rfl⟩ :=
          (List.eq_nil_or_concat' header).resolve_left carries.nonempty
        rw [FlvItem.lastSize_concat] at same
        simp only [FlvItem.chain, List.flatMap_cons, FlvItem.bytes, List.append_assoc] at same
        have quads := (List.append_inj same (by rw [ByteQuad.length_bytes,
          ByteQuad.length_bytes])).1
        have size := ByteQuad.htonl_bytes_injective (by decide) last.getCurrentTagSize_lt quads
        rw [FlvTag.getCurrentTagSize, FlvTag.headerLength] at size
        omega
  · rintro rfl
    rfl

end ViewerStream

/-! ## Passing on a pack -/

namespace RtmpPushConnection

/-- The tag that `ParseData` passes to the viewers, if it passes one. -/
def newFlvTag (build : Build) (unset : UInt8) (connection : RtmpPushConnection)
    (buffer : Bytes) : Option FlvTag :=
  (connection.rtmpManager.parseData build buffer).newRtmpPack.map fun pack =>
    (connection.rtmpToFlvCodec.transform build unset pack .new).2

variable {build : Build} {unset : UInt8} {connection : RtmpPushConnection} {buffer : Bytes}

/-- Without a tag nothing is sent. -/
theorem parseData_none (quiet : connection.newFlvTag build unset buffer = none) (name : Bytes) :
    (connection.parseData build unset buffer).1.clientConnectionMap.lookup name =
        connection.clientConnectionMap.lookup name ∧
      (connection.parseData build unset buffer).2.2.lookup name = none := by
  rw [newFlvTag, Option.map_eq_none_iff] at quiet
  rw [parseData, quiet]
  exact ⟨rfl, rfl⟩

/-- **A tag is added to every viewer.** -/
theorem parseData_some {tag : FlvTag} (passed : connection.newFlvTag build unset buffer = some tag)
    (name : Bytes) :
    (connection.parseData build unset buffer).1.clientConnectionMap.lookup name =
        (connection.clientConnectionMap.lookup name).map (fun client => (client.addFlvTag tag).1) ∧
      (connection.parseData build unset buffer).2.2.lookup name =
        (connection.clientConnectionMap.lookup name).map
          fun client => (client.addFlvTag tag).2 := by
  obtain ⟨pack, given, rfl⟩ := Option.map_eq_some_iff.mp passed
  simp only [parseData, given, onNewRtmpPack, onNewFlvTag]
  exact ⟨lookup_map_snd (fun client : HttpPullConnection => (client.addFlvTag _).1) name _,
    lookup_map_snd (fun client : HttpPullConnection => (client.addFlvTag _).2) name _⟩

end RtmpPushConnection

/-! ## Runs of a publisher -/

/-- A publisher in its media phase with its unread bytes. The tags of the header buffer and
the streams are kept beside what the code has. -/
structure Broadcast where
  connection : RtmpPushConnection
  recvBuffer : Bytes
  headerTags : List FlvTag
  streams : Bytes → Option ViewerStream

/-- What can happen: bytes arrive, a viewer is attached, a viewer's connection closes. -/
inductive BroadcastEvent where
  | onBodyData (unset : UInt8) (data : Bytes)
  | addClientConnection (unset : HeaderUnset) (connectionName : Bytes)
  | onConnectionClose (connectionName : Bytes)
  deriving DecidableEq, Repr

namespace Broadcast

/-- A publisher without viewers. -/
def new (connectionName : Bytes) (manager : RtmpManager) : Broadcast :=
  ⟨.new connectionName manager, [], [], fun _ => none⟩

/-- One event. A fault ends the process. -/
def step (build : Build) (state : Broadcast) : BroadcastEvent → Except Fault Broadcast
  | .onBodyData unset data =>
      let buffer := state.recvBuffer ++ data
      let passed := state.connection.parseData build unset buffer
      .ok { state with
        connection := passed.1
        recvBuffer := passed.2.1
        streams := fun name =>
          match state.connection.newFlvTag build unset buffer, passed.2.2.lookup name with
          | some tag, some sent => (state.streams name).map (·.receive sent tag)
          | _, _ => state.streams name }
  | .addClientConnection unset connectionName => do
      let headerTags ←
        if state.connection.headerBuffer = [] then
          (state.connection.transformHeaderPacks build unset).map (·.2.list)
        else .ok state.headerTags
      let (connection, sent) ←
        state.connection.addClientConnection build unset (.new connectionName)
      return { state with
        connection := connection
        headerTags := headerTags
        streams := Function.update state.streams connectionName (some ⟨sent, headerTags⟩) }
  | .onConnectionClose connectionName =>
      .ok { state with connection := state.connection.onConnectionClose connectionName }

/-- The machine of a publisher. -/
def machine (build : Build) : Machine (Except Fault Broadcast) BroadcastEvent :=
  .faulting (step build)

/-- The event passes a tag to the viewer. -/
def PassesTo (build : Build) (name : Bytes) (state : Broadcast) : BroadcastEvent → Prop
  | .onBodyData unset data =>
      state.connection.newFlvTag build unset (state.recvBuffer ++ data) ≠ none ∧
        state.connection.clientConnectionMap.lookup name ≠ none
  | .addClientConnection _ _ => False
  | .onConnectionClose _ => False

/-- What a run keeps: the header buffer is the stream of its tags, the stream of a viewer is
two chains, and an attached viewer has the last size of its live chain. -/
structure Consistent (name : Bytes) (state : Broadcast) : Prop where
  header : state.connection.headerBuffer ≠ [] →
    state.headerTags ≠ [] ∧ state.connection.headerBuffer = flvStream state.headerTags
  streams : ∀ stream, state.streams name = some stream → ∃ header live, stream.Carries header live
  attached : ∀ client, state.connection.clientConnectionMap.lookup name = some client →
    ∃ stream header live, state.streams name = some stream ∧ stream.Carries header live ∧
      client.lastTagSize = FlvItem.lastSize 0 live

variable {build : Build} {name : Bytes} {state : Broadcast}

theorem consistent_new (connectionName : Bytes) (manager : RtmpManager) :
    Consistent name (new connectionName manager) where
  header filled := absurd rfl filled
  streams _ kept := nomatch kept
  attached _ here := nomatch here

/-! ### One event -/

/-- A viewer to which no tag is passed sees nothing of the bytes. -/
theorem step_silent {unset : UInt8} {data : Bytes}
    (silent : ¬ PassesTo build name state (.onBodyData unset data)) :
    ∃ next, state.step build (.onBodyData unset data) = .ok next ∧
      next.headerTags = state.headerTags ∧
      next.connection.headerBuffer = state.connection.headerBuffer ∧
      next.streams name = state.streams name ∧
      next.connection.clientConnectionMap.lookup name =
        state.connection.clientConnectionMap.lookup name := by
  refine ⟨_, rfl, rfl, RtmpPushConnection.parseData_headerBuffer _ _ _ _, ?_⟩
  dsimp only
  cases passed : state.connection.newFlvTag build unset (state.recvBuffer ++ data) with
  | none => exact ⟨rfl, (RtmpPushConnection.parseData_none passed name).1⟩
  | some tag =>
      have away : state.connection.clientConnectionMap.lookup name = none := by
        by_contra attached
        exact silent ⟨by simp [passed], attached⟩
      obtain ⟨clients, sent⟩ := RtmpPushConnection.parseData_some passed name
      rw [away, Option.map_none] at clients sent
      rw [sent, clients, away]
      exact ⟨rfl, rfl⟩

/-- A viewer to which a tag is passed is sent its chunk. -/
theorem step_passes {unset : UInt8} {data : Bytes}
    (passes : PassesTo build name state (.onBodyData unset data)) :
    ∃ next tag client, state.step build (.onBodyData unset data) = .ok next ∧
      next.headerTags = state.headerTags ∧
      next.connection.headerBuffer = state.connection.headerBuffer ∧
      state.connection.clientConnectionMap.lookup name = some client ∧
      next.connection.clientConnectionMap.lookup name = some (client.addFlvTag tag).1 ∧
      next.streams name = (state.streams name).map (·.receive (client.addFlvTag tag).2 tag) := by
  obtain ⟨tagged, attached⟩ := passes
  obtain ⟨tag, passed⟩ := Option.ne_none_iff_exists'.mp tagged
  obtain ⟨client, here⟩ := Option.ne_none_iff_exists'.mp attached
  obtain ⟨clients, sent⟩ := RtmpPushConnection.parseData_some passed name
  rw [here, Option.map_some] at clients sent
  refine ⟨_, tag, client, rfl, rfl, RtmpPushConnection.parseData_headerBuffer _ _ _ _, here,
    clients, ?_⟩
  dsimp only
  rw [passed, sent]

/-- A viewer that is attached is sent the header buffer, which is built if need be. -/
theorem step_attaches {unset : HeaderUnset} {joined : Bytes} {next : Broadcast}
    (consistent : state.Consistent name)
    (made : state.step build (.addClientConnection unset joined) = .ok next) :
    next.headerTags ≠ [] ∧ next.connection.headerBuffer = flvStream next.headerTags ∧
      next.connection.clientConnectionMap =
        state.connection.clientConnectionMap.insert joined (.new joined) ∧
      next.streams = Function.update state.streams joined
        (some ⟨(HttpPullConnection.new joined).sendHeaderOnConnection (flvStream next.headerTags),
          next.headerTags⟩) := by
  rw [step] at made
  by_cases empty : state.connection.headerBuffer = []
  · rw [if_pos empty, RtmpPushConnection.addClientConnection_empty empty] at made
    cases transformed : state.connection.transformHeaderPacks build unset with
    | error fault =>
        rw [transformed] at made
        cases made
    | ok tags =>
        rw [transformed] at made
        obtain rfl := Except.ok.inj made
        have filled := tags.2.bytes_eq
        exact ⟨tags.2.list_ne_nil, filled, rfl, by rw [← filled]⟩
  · obtain ⟨nonempty, filled⟩ := consistent.header empty
    rw [if_neg empty, RtmpPushConnection.addClientConnection_kept empty] at made
    obtain rfl := Except.ok.inj made
    exact ⟨nonempty, filled, rfl, by rw [← filled]⟩

/-- **Every event keeps the state consistent.** -/
theorem Consistent.step (consistent : state.Consistent name) {event : BroadcastEvent}
    {next : Broadcast} (made : state.step build event = .ok next) : next.Consistent name := by
  obtain ⟨header, streams, attached⟩ := consistent
  cases event with
  | onBodyData unset data =>
      by_cases passes : PassesTo build name state (.onBodyData unset data)
      · obtain ⟨after, tag, client, step, tags, buffer, here, clients, received⟩ :=
          step_passes passes
        obtain rfl := Except.ok.inj (step.symm.trans made)
        obtain ⟨stream, first, live, kept, carries, last⟩ := attached client here
        have longer := carries.receive last tag
        rw [kept, Option.map_some] at received
        refine ⟨by rw [tags, buffer]; exact header, ?_, ?_⟩
        · intro other found
          rw [received] at found
          obtain rfl := Option.some.inj found
          exact ⟨first, live ++ [tag], longer⟩
        · intro other found
          rw [clients] at found
          obtain rfl := Option.some.inj found
          exact ⟨_, first, live ++ [tag], received, longer,
            (FlvItem.lastSize_concat 0 live tag).symm⟩
      · obtain ⟨after, step, tags, buffer, same, clients⟩ := step_silent passes
        obtain rfl := Except.ok.inj (step.symm.trans made)
        refine ⟨by rw [tags, buffer]; exact header, ?_, ?_⟩
        · rw [same]
          exact streams
        · rw [same, clients]
          exact attached
  | addClientConnection unset joined =>
      obtain ⟨nonempty, filled, clients, updated⟩ := step_attaches ⟨header, streams, attached⟩ made
      refine ⟨fun _ => ⟨nonempty, filled⟩, ?_, ?_⟩
      · intro stream found
        rw [updated] at found
        by_cases mine : name = joined
        · rw [mine, Function.update_self] at found
          obtain rfl := Option.some.inj found
          exact ⟨_, [], ViewerStream.Carries.start _ nonempty⟩
        · rw [Function.update_of_ne mine] at found
          exact streams stream found
      · intro client found
        rw [clients, PullConnectionMap.lookup_insert] at found
        by_cases mine : name = joined
        · rw [if_pos mine] at found
          obtain rfl := Option.some.inj found
          refine ⟨_, _, [], ?_, ViewerStream.Carries.start (.new joined) nonempty, rfl⟩
          rw [updated, mine, Function.update_self]
        · rw [if_neg mine] at found
          rw [updated, Function.update_of_ne mine]
          exact attached client found
  | onConnectionClose closed =>
      obtain rfl := Except.ok.inj made
      refine ⟨header, streams, fun client found => attached client ?_⟩
      simp only [RtmpPushConnection.onConnectionClose, PullConnectionMap.lookup_erase] at found
      split at found
      · cases found
      · exact found

/-! ### When the sizes are right -/

/-- Passing a tag is no fault. -/
theorem not_passesTo_of_error {event : BroadcastEvent} {fault : Fault}
    (failed : state.step build event = .error fault) : ¬ PassesTo build name state event := by
  cases event with
  | onBodyData unset data => cases failed
  | addClientConnection unset joined => exact id
  | onConnectionClose closed => exact id

/-- The stream of the viewer is right, if it has one. -/
def SizesRight (name : Bytes) (state : Broadcast) : Prop :=
  ∀ stream, state.streams name = some stream → stream.SizesRight

/-- **The event that breaks a stream is the one that passes a tag to its viewer.** -/
theorem Consistent.sizesRight_step (consistent : state.Consistent name)
    (right : state.SizesRight name) {event : BroadcastEvent} {next : Broadcast}
    (made : state.step build event = .ok next) :
    next.SizesRight name ↔ ¬ PassesTo build name state event := by
  cases event with
  | onBodyData unset data =>
      by_cases passes : PassesTo build name state (.onBodyData unset data)
      · refine iff_of_false (fun still => ?_) (not_not_intro passes)
        obtain ⟨after, tag, client, step, -, -, here, -, received⟩ := step_passes passes
        obtain rfl := Except.ok.inj (step.symm.trans made)
        obtain ⟨stream, first, live, kept, carries, last⟩ := consistent.attached client here
        rw [kept, Option.map_some] at received
        have none_live := (carries.receive last tag).sizesRight_iff.mp (still _ received)
        exact List.append_ne_nil_of_right_ne_nil live (List.cons_ne_nil tag []) none_live
      · refine iff_of_true ?_ passes
        obtain ⟨after, step, -, -, same, -⟩ := step_silent passes
        obtain rfl := Except.ok.inj (step.symm.trans made)
        rw [SizesRight, same]
        exact right
  | addClientConnection unset joined =>
      refine iff_of_true (fun stream found => ?_) id
      obtain ⟨nonempty, -, -, updated⟩ := step_attaches consistent made
      rw [updated] at found
      by_cases mine : name = joined
      · rw [mine, Function.update_self] at found
        obtain rfl := Option.some.inj found
        exact (ViewerStream.Carries.start _ nonempty).sizesRight_iff.mpr rfl
      · rw [Function.update_of_ne mine] at found
        exact right stream found
  | onConnectionClose closed =>
      refine iff_of_true ?_ id
      obtain rfl := Except.ok.inj made
      exact right

end Broadcast

open Broadcast

/-- **The sizes in a viewer's stream are right exactly as long as it is passed no tag.** In
every run of a publisher, whatever bytes arrive and whoever is attached and leaves, the
stream of a viewer is right in every state if and only if no bytes make the publisher pass a
pack on while the viewer is attached. -/
theorem previous_tag_sizes_iff (build : Build) (connectionName : Bytes) (manager : RtmpManager)
    (events : List BroadcastEvent) (name : Bytes) :
    (∀ before, before <+: events → ∀ state,
        (Broadcast.machine build).run (.ok (.new connectionName manager)) before = .ok state →
          state.SizesRight name) ↔
      ∀ before event, before ++ [event] <+: events → ∀ state,
        (Broadcast.machine build).run (.ok (.new connectionName manager)) before = .ok state →
          ¬ PassesTo build name state event := by
  have start : Consistent name (.new connectionName manager) :=
    consistent_new connectionName manager
  refine Machine.faulting_always_iff (fun _ _ _ consistent made => consistent.step made) ?_
    start (fun _ found => nomatch found) events
  intro state event consistent right
  cases made : state.step build event with
  | error fault => exact iff_of_true (fun _ same => nomatch same) (not_passesTo_of_error made)
  | ok next =>
      simp only [Except.ok.injEq, forall_eq']
      exact consistent.sizesRight_step right made

/-- A viewer is attached behind the sequence headers, and a frame follows. -/
def oneViewer : List BroadcastEvent :=
  [.onBodyData 0 (encodeMessages 4096 4 longHeaders), .addClientConnection ⟨0, 0, 0⟩ [118],
    .onBodyData 0 (encodeMessages 4096 4 oneFrame)]

/-- **The first live tag stands behind a size of 0**, though a tag is before it. -/
theorem first_live_tag_behind_zero :
    ∃ state stream,
      (Broadcast.machine .standard).run (.ok (.new [112] (.atStart .standard))) oneViewer =
        .ok state ∧
      state.streams [118] = some stream ∧ ¬ stream.SizesRight := by
  have broken : ((Broadcast.machine .standard).run (.ok (.new [112] (.atStart .standard)))
      oneViewer).toOption.any (fun state =>
        (state.streams [118]).any fun stream => !decide stream.SizesRight) = true := by
    decide +kernel
  obtain ⟨state, reached, has⟩ := Machine.exists_of_any broken
  obtain ⟨stream, kept, wrong⟩ := (Option.any_eq_true _ _).mp has
  exact ⟨state, stream, reached, kept, by simpa using wrong⟩

end LiveBroadcast
