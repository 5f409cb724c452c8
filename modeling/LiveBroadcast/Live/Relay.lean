import LiveBroadcast.Codec.FirstHeaders
import LiveBroadcast.Codec.Timestamps
import LiveBroadcast.Live.Broadcast

/-!
# From the publisher's wire to the viewer's stream

A publisher sends messages as chunks, the reads cut the chunks anywhere, the decoder puts the
messages together, the converter makes tags of them, and a viewer is sent the tags in HTTP
chunks. What a message is to a viewer is a `MediaFrame`: its type, its body and its timestamp.

**Main.** A viewer that joins and stays receives a stream which reads back, through both
framings, as tags for the sequence headers and then one tag for each message that is delivered
behind the join: each once, in order, with type and body unchanged, and with times that go on
from one another by the timestamps of the messages (`viewer_receives_messages`). This holds for
every way of cutting the bytes and whatever other viewers do, as long as the reads are ones that
deliver (`CallDelivers`).
-/

set_option autoImplicit false

namespace LiveBroadcast

open ChunkDecoder ChunkedTransfer HeaderPhase

/-! ## What a viewer is to see of a message -/

/-- The part of a message that a viewer is to see. -/
structure MediaFrame where
  tagType : UInt8
  dataSize : ByteTriple
  timestamp : Nat
  body : Bytes
  deriving DecidableEq, Repr

def RtmpPack.frame (pack : RtmpPack) : MediaFrame :=
  ⟨pack.packType.toByte, pack.dataSize, pack.timestamp.toNat, pack.buffer⟩

def SentMessage.frame (sent : SentMessage) : MediaFrame :=
  ⟨(RtmpPack.typeOfByte sent.message.type).toByte, sent.message.size,
    sent.message.timestamp.toNat, sent.message.body⟩

theorem Reassembled.frame_eq {csid : UInt8} {pack : RtmpPack} {sent : SentMessage}
    (same : Reassembled csid pack sent) : pack.frame = sent.frame := by
  obtain ⟨⟨timestamp, dataSize, packType, -⟩, body, -⟩ := same
  rw [RtmpPack.frame, SentMessage.frame, timestamp, dataSize, packType, body]

theorem map_frame_eq {csid : UInt8} {packs : List RtmpPack} {sent : List SentMessage}
    (same : List.Forall₂ (Reassembled csid) packs sent) :
    packs.map RtmpPack.frame = sent.map SentMessage.frame := by
  induction same with
  | nil => rfl
  | cons here _ ih => rw [List.map_cons, List.map_cons, here.frame_eq, ih]

namespace MediaFrame

/-- The body has the length that goes into the header of the tag. -/
def Declared (frame : MediaFrame) : Prop := frame.body.length = frame.dataSize.toNat

theorem declared_sent (sent : SentMessage) : sent.frame.Declared :=
  (Message.size_toNat sent.message).symm

/-- The time of a frame, from the time of the frame before it. -/
def timeAfter (build : Build) (time : Nat) (frame : MediaFrame) : Nat :=
  (if build.monitorMode then 0 else time) + frame.timestamp

/-- The tag shows the frame at some time. -/
structure ShownBy (frame : MediaFrame) (time : Nat) (tag : FlvTag) : Prop where
  tagType : tag.tagType = frame.tagType
  dataSize : tag.dataSize = frame.dataSize
  timestamp : tag.timestamp.toNat = time % 2 ^ 24
  body : tag.body = frame.body

theorem ShownBy.declared {frame : MediaFrame} {time : Nat} {tag : FlvTag}
    (shown : frame.ShownBy time tag) (declared : frame.Declared) : tag.Declared := by
  rw [FlvTag.Declared, shown.body, FlvTag.getDataSize, shown.dataSize]
  exact declared

end MediaFrame

open MediaFrame

/-- The tags show the frames, one each and in order, and their times go on from `time`. -/
def Shows (build : Build) : Nat → List FlvTag → List MediaFrame → Prop
  | _, [], [] => True
  | time, tag :: tags, frame :: frames =>
      frame.ShownBy (timeAfter build time frame) tag ∧
        Shows build (timeAfter build time frame) tags frames
  | _, _, _ => False

section Shows

variable {build : Build} {time : Nat} {tags : List FlvTag} {frames : List MediaFrame}

/-- One more tag, at the time behind the others. -/
theorem Shows.concat (shows : Shows build time tags frames) {tag : FlvTag} {frame : MediaFrame}
    (shown : frame.ShownBy (timeAfter build (frames.foldl (timeAfter build) time) frame) tag) :
    Shows build time (tags ++ [tag]) (frames ++ [frame]) := by
  induction tags generalizing time frames with
  | nil =>
      cases frames with
      | nil => exact ⟨shown, trivial⟩
      | cons first frames => exact shows.elim
  | cons first tags ih =>
      cases frames with
      | nil => exact shows.elim
      | cons front frames => exact ⟨shows.1, ih shows.2 shown⟩

theorem Shows.declared (shows : Shows build time tags frames)
    (declared : ∀ frame ∈ frames, frame.Declared) : ∀ tag ∈ tags, tag.Declared := by
  induction tags generalizing time frames with
  | nil => exact List.forall_mem_nil _
  | cons tag tags ih =>
      cases frames with
      | nil => exact shows.elim
      | cons frame frames =>
          obtain ⟨here, later⟩ := List.forall_mem_cons.mp declared
          exact List.forall_mem_cons.mpr ⟨shows.1.declared here, ih shows.2 later⟩

end Shows

/-- **The converter shows a pack at the time behind its base.** -/
theorem Rtmp2FlvCodec.transform_shown {build : Build} {codec : Rtmp2FlvCodec} {time : Nat}
    (agree : codec.baseTimestamp % 2 ^ 24 = time % 2 ^ 24) (unset : UInt8) (pack : RtmpPack) :
    (codec.transform build unset pack .new).1.baseTimestamp % 2 ^ 24 =
        timeAfter build time pack.frame % 2 ^ 24 ∧
      pack.frame.ShownBy (timeAfter build time pack.frame)
        (codec.transform build unset pack .new).2 := by
  have base : (codec.transform build unset pack .new).1.baseTimestamp % 2 ^ 24 =
      timeAfter build time pack.frame % 2 ^ 24 := by
    rw [transform_baseTimestamp, timeAfter, RtmpPack.frame]
    cases build.monitorMode with
    | true => rfl
    | false =>
        simp only [Bool.false_eq_true, if_false]
        omega
  exact ⟨base, rfl, rfl, (transform_timestamp unset .new).trans base, transform_new_body ..⟩

/-! ## The tags of the header -/

/-- The tag has type and body of one of the messages, which is of this kind. -/
def ShowsKind (sent : List SentMessage) (tag : FlvTag) (kind : RtmpPackType) : Prop :=
  ∃ one ∈ sent, RtmpPack.typeOfByte one.message.type = kind ∧ tag.tagType = kind.toByte ∧
    tag.dataSize = one.message.size ∧ tag.body = one.message.body

/-- The tags show a script, a video and perhaps an audio message, in this order. -/
def ShowsHeaders (sent : List SentMessage) (tags : List FlvTag) : Prop :=
  ∃ kinds ∈ [[.rtmpScript, .rtmpVideo], [.rtmpScript, .rtmpVideo, .rtmpAudio]],
    List.Forall₂ (ShowsKind sent) tags kinds

theorem ShowsKind.declared {sent : List SentMessage} {tag : FlvTag} {kind : RtmpPackType}
    (shows : ShowsKind sent tag kind) : tag.Declared := by
  obtain ⟨one, -, -, -, dataSize, body⟩ := shows
  rw [FlvTag.Declared, body, FlvTag.getDataSize, dataSize, Message.size_toNat]

theorem ShowsHeaders.declared {sent : List SentMessage} {tags : List FlvTag}
    (shows : ShowsHeaders sent tags) : ∀ tag ∈ tags, tag.Declared := by
  obtain ⟨kinds, -, all⟩ := shows
  induction all with
  | nil => exact List.forall_mem_nil _
  | cons here _ ih => exact List.forall_mem_cons.mpr ⟨here.declared, ih⟩

theorem ShowsHeaders.ne_nil {sent : List SentMessage} {tags : List FlvTag}
    (shows : ShowsHeaders sent tags) : tags ≠ [] := by
  obtain ⟨kinds, choice, all⟩ := shows
  rintro rfl
  rw [List.forall₂_nil_left_iff.mp all] at choice
  simp at choice

/-- A stored header pack is a message of its type. -/
def StoredMessage (sent : List SentMessage) (phase : HeaderPhase) : Prop :=
  ∀ kind ∈ headerTypes, ∀ pack, phase.firstPack kind = some pack →
    ∃ csid, ∃ one ∈ sent, Reassembled csid pack one ∧ RtmpPack.typeOfByte one.message.type = kind

theorem StoredMessage.shows {sent : List SentMessage} {phase : HeaderPhase} {build : Build}
    (stored : StoredMessage sent phase) {kind : RtmpPackType} (header : kind ∈ headerTypes)
    {pack : RtmpPack} (kept : phase.firstPack kind = some pack) (unset : UInt8)
    (codec : Rtmp2FlvCodec) :
    ShowsKind sent (codec.transform build unset pack .new).2 kind := by
  obtain ⟨csid, one, member, ⟨⟨-, dataSize, packType, -⟩, body, -⟩, type⟩ :=
    stored kind header pack kept
  refine ⟨one, member, type, ?_, dataSize, ?_⟩
  · rw [← type, ← packType]
    rfl
  · rw [Rtmp2FlvCodec.transform_new_body, body]

/-- **The tags made of the header packs show their messages.** -/
theorem StoredMessage.transformHeaderPacks {sent : List SentMessage} {build : Build}
    {unset : HeaderUnset} {connection : RtmpPushConnection}
    (stored : StoredMessage sent connection.rtmpManager.rtmpCodec.toHeaderPhase)
    {transformed : Rtmp2FlvCodec × RtmpPushConnection.HeaderTags}
    (made : connection.transformHeaderPacks build unset = .ok transformed) :
    ShowsHeaders sent transformed.2.list := by
  have script : RtmpPackType.rtmpScript ∈ headerTypes := by decide
  have video : RtmpPackType.rtmpVideo ∈ headerTypes := by decide
  have audio : RtmpPackType.rtmpAudio ∈ headerTypes := by decide
  rw [RtmpPushConnection.transformHeaderPacks] at made
  cases hasScript : connection.rtmpManager.rtmpCodec.firstScriptPack with
  | none =>
      rw [hasScript] at made
      cases made
  | some scriptPack =>
      cases hasVideo : connection.rtmpManager.rtmpCodec.firstVideoPack with
      | none =>
          rw [hasScript, hasVideo] at made
          cases made
      | some videoPack =>
          cases hasAudio : connection.rtmpManager.rtmpCodec.firstAudioPack with
          | none =>
              rw [hasScript, hasVideo, hasAudio] at made
              obtain rfl := Except.ok.inj made
              exact ⟨_, List.mem_cons_self, .cons (stored.shows script hasScript _ _)
                (.cons (stored.shows video hasVideo _ _) .nil)⟩
          | some audioPack =>
              rw [hasScript, hasVideo, hasAudio] at made
              obtain rfl := Except.ok.inj made
              exact ⟨_, List.mem_cons_of_mem _ List.mem_cons_self,
                .cons (stored.shows script hasScript _ _)
                  (.cons (stored.shows video hasVideo _ _)
                    (.cons (stored.shows audio hasAudio _ _) .nil))⟩

/-! ## What the decoder stores -/

theorem mem_of_lastOf {kind : RtmpPackType} {packs : List RtmpPack} {pack : RtmpPack}
    (last : lastOf kind packs = some pack) : pack ∈ packs ∧ pack.packType = kind := by
  refine ⟨List.mem_reverse.mp (List.mem_of_find?_eq_some last), ?_⟩
  simpa using List.find?_some last

theorem mem_of_arriving {build : Build} {phase : HeaderPhase} {packs : List RtmpPack}
    {pack : RtmpPack} (inside : pack ∈ phase.arriving build packs) : pack ∈ packs := by
  induction packs generalizing phase with
  | nil => exact inside
  | cons first packs ih =>
      rw [arriving] at inside
      cases status : phase.decodeDataStatus with
      | parseDataPack =>
          rw [status] at inside
          cases inside
      | parseFirstHeader =>
          rw [status] at inside
          rcases List.mem_cons.mp inside with rfl | later
          · exact List.mem_cons_self
          · exact List.mem_cons_of_mem _ (ih later)

theorem exists_reassembled {csid : UInt8} {packs : List RtmpPack} {sent : List SentMessage}
    (same : List.Forall₂ (Reassembled csid) packs sent) {pack : RtmpPack} (inside : pack ∈ packs) :
    ∃ one ∈ sent, Reassembled csid pack one := by
  induction same with
  | nil => cases inside
  | @cons first one packs sent here _ ih =>
      rcases List.mem_cons.mp inside with rfl | later
      · exact ⟨one, List.mem_cons_self, here⟩
      · obtain ⟨other, member, same⟩ := ih later
        exact ⟨other, List.mem_cons_of_mem _ member, same⟩

/-- **The header packs are messages that were sent**, whatever has been read so far. -/
theorem Tracks.storedMessage {build : Build} {start : RtmpCodec} {chunkSize : Nat}
    {received : Bytes} {state : RtmpManager × Bytes} {packs : List RtmpPack} {csid : UInt8}
    {sent : List SentMessage} (tracks : Tracks build start received state packs)
    (ready : start.toChunkDecoder.Ready chunkSize none)
    (phase : start.toHeaderPhase = ⟨.parseFirstHeader, none, none, none⟩)
    (compressed : WellCompressed none sent) (small : csid < 64)
    (le : received <+: encodeMessages chunkSize csid sent) :
    StoredMessage sent state.1.rtmpCodec.toHeaderPhase := by
  have all := ready.drain_prefix compressed small le
  have whole := tracks.passes.drains []
  rw [List.append_nil] at whole
  rw [whole] at all
  intro kind header pack kept
  rw [tracks.phase, firstPack_foldl header, phase] at kept
  have nothing : HeaderPhase.firstPack ⟨.parseFirstHeader, none, none, none⟩ kind = none := by
    cases kind <;> rfl
  rw [nothing, Option.or_none] at kept
  obtain ⟨arrived, type⟩ := mem_of_lastOf kept
  obtain ⟨one, member, same⟩ :=
    exists_reassembled all (List.mem_append_left _ (mem_of_arriving arrived))
  refine ⟨csid, one, (messagesWithin_initial _ _ _ _).subset member, same, ?_⟩
  rw [← same.carries.packType, type]

/-- What comes in is the beginning of a stream of messages on one chunk stream, the first of
which complete the sequence headers, and the decoder is at its start. -/
structure ReceivesMessages (build : Build) (manager : RtmpManager) (chunkSize : Nat) (csid : UInt8)
    (headers media : List SentMessage) (received : Bytes) : Prop where
  ready : manager.rtmpCodec.toChunkDecoder.Ready chunkSize none
  phase : manager.rtmpCodec.toHeaderPhase = ⟨.parseFirstHeader, none, none, none⟩
  oneByte : 2 ≤ csid ∧ csid ≤ 63
  compressed : WellCompressed none (headers ++ media)
  completes : CompletesHeaders build headers
  part : received <+: encodeMessages chunkSize csid (headers ++ media)

namespace ReceivesMessages

variable {build : Build} {manager : RtmpManager} {chunkSize : Nat} {csid : UInt8}
  {headers media : List SentMessage} {received : Bytes} {segments : List Bytes}

theorem shorter (receives : ReceivesMessages build manager chunkSize csid headers media received)
    {before : Bytes} (le : before <+: received) :
    ReceivesMessages build manager chunkSize csid headers media before :=
  { receives with part := le.trans receives.part }

theorem small (receives : ReceivesMessages build manager chunkSize csid headers media received) :
    csid < 64 := Nat.lt_succ_of_le receives.oneByte.2

/-- The run of the decoder over some reads. -/
theorem tracks (receives : ReceivesMessages build manager chunkSize csid headers media received)
    (segments : List Bytes) :
    manager.rtmpCodec.headerMissing build = true ∧ ∃ packs, Tracks build manager.rtmpCodec
      segments.flatten ((RtmpManager.delivery build).feedAll (manager, []) segments).1 packs := by
  have first : manager.rtmpCodec.decodeDataStatus = .parseFirstHeader := by rw [receives.phase]
  have missing : manager.rtmpCodec.headerMissing build = true := by
    rw [receives.phase]
    cases build.monitorMode <;> simp [headerMissing]
  exact ⟨missing, tracks_feedAll receives.ready.sane first missing segments⟩

theorem storedMessage
    (receives : ReceivesMessages build manager chunkSize csid headers media segments.flatten) :
    StoredMessage (headers ++ media) ((RtmpManager.delivery build).feedAll (manager, [])
      segments).1.1.rtmpCodec.toHeaderPhase := by
  obtain ⟨-, packs, tracks⟩ := receives.tracks segments
  exact tracks.storedMessage receives.ready receives.phase receives.compressed receives.small
    receives.part

/-- **Reads that deliver** have passed on the expected messages. -/
theorem delivers
    (receives : ReceivesMessages build manager chunkSize csid headers media segments.flatten)
    (calls : ∀ before data, before ++ [data] <+: segments →
      CallDelivers chunkSize csid (headers ++ media) headers.length
        ((RtmpManager.delivery build).feedAll (manager, []) before).1 before.flatten.length data) :
    List.Forall₂ (Reassembled csid)
      ((RtmpManager.delivery build).feedAll (manager, []) segments).2
      (Expected chunkSize csid (headers ++ media) headers.length
        ((RtmpManager.delivery build).feedAll (manager, [])
          segments).1.1.rtmpCodec.decodeDataStatus segments.flatten.length) := by
  induction segments using List.reverseRecOn with
  | nil =>
      have first : manager.rtmpCodec.decodeDataStatus = .parseFirstHeader := by rw [receives.phase]
      simp only [Consumer.feedAll, first, Expected]
      exact .nil
  | append_singleton segments data ih =>
      obtain ⟨missing, packs, tracks⟩ := receives.tracks segments
      obtain ⟨more, advances⟩ := tracks.advances missing data
      rw [List.flatten_append, List.flatten_singleton] at receives
      have so_far := ih (receives.shorter (List.prefix_append _ _)) fun before last le =>
        calls before last (le.trans (List.prefix_append _ _))
      rw [Consumer.feedAll_concat, List.flatten_append, List.flatten_singleton]
      exact (advances.delivers_iff tracks receives.ready receives.phase receives.compressed
        receives.small receives.completes receives.part so_far).mpr
          (calls segments data List.prefix_rfl)

end ReceivesMessages

/-! ## Runs of a broadcast -/

/-- The event is no join and no leave of this viewer. -/
def BroadcastEvent.LeavesAlone (name : Bytes) : BroadcastEvent → Prop
  | .onBodyData _ _ => True
  | .addClientConnection _ connectionName => connectionName ≠ name
  | .onConnectionClose connectionName => connectionName ≠ name

namespace Broadcast

/-- The reads of a run. -/
def reads (events : List BroadcastEvent) : List Bytes :=
  events.filterMap fun
    | .onBodyData _ data => some data
    | _ => none

theorem reads_append (events later : List BroadcastEvent) :
    reads (events ++ later) = reads events ++ reads later :=
  List.filterMap_append

/-- The packs that have been passed on. -/
def delivered (build : Build) (manager : RtmpManager) (events : List BroadcastEvent) :
    List RtmpPack :=
  ((RtmpManager.delivery build).feedAll (manager, []) (reads events)).2

/-- The messages that should have been passed on. -/
def expected (build : Build) (manager : RtmpManager) (chunkSize : Nat) (csid : UInt8)
    (headers media : List SentMessage) (events : List BroadcastEvent) : List SentMessage :=
  Expected chunkSize csid (headers ++ media) headers.length
    ((RtmpManager.delivery build).feedAll (manager, [])
      (reads events)).1.1.rtmpCodec.decodeDataStatus (reads events).flatten.length

/-- What every run keeps: the decoder is where the reads have led it, its header packs are
messages, and so are the tags of the header buffer. -/
structure HasRead (build : Build) (manager : RtmpManager) (sent : List SentMessage)
    (events : List BroadcastEvent) (state : Broadcast) : Prop where
  fed : (state.connection.rtmpManager, state.recvBuffer) =
    ((RtmpManager.delivery build).feedAll (manager, []) (reads events)).1
  header : state.connection.headerBuffer ≠ [] →
    state.connection.headerBuffer = flvStream state.headerTags ∧
      ShowsHeaders sent state.headerTags

/-- What a viewer has been sent since it joined: the header, and tags for these frames. The
base of the converter is the time of the last one. -/
structure Watches (build : Build) (name : Bytes) (frames : List MediaFrame) (state : Broadcast) :
    Prop where
  filled : state.connection.headerBuffer ≠ []
  sent : ∃ client stream live time,
    state.connection.clientConnectionMap.lookup name = some client ∧
      state.streams name = some stream ∧ stream.Carries state.headerTags live ∧
      client.lastTagSize = FlvItem.lastSize 0 live ∧ Shows build time live frames ∧
      state.connection.rtmpToFlvCodec.baseTimestamp % 2 ^ 24 =
        frames.foldl (timeAfter build) time % 2 ^ 24

variable {build : Build} {manager : RtmpManager} {name : Bytes} {state next : Broadcast}

/-- The packs that a read passes on. -/
def passedOn (build : Build) (state : Broadcast) (data : Bytes) : List RtmpPack :=
  (state.connection.rtmpManager.parseData build
    (state.recvBuffer ++ data)).newRtmpPack.toList

/-- The publisher behind a read that passes no pack on. -/
theorem parseData_quiet {connection : RtmpPushConnection} {buffer : Bytes}
    (quiet : (connection.rtmpManager.parseData build buffer).newRtmpPack = none) (unset : UInt8) :
    (connection.parseData build unset buffer).1.rtmpToFlvCodec = connection.rtmpToFlvCodec := by
  rw [RtmpPushConnection.parseData, quiet]

/-- The publisher behind a read that passes a pack on. -/
theorem parseData_passes {connection : RtmpPushConnection} {buffer : Bytes} {pack : RtmpPack}
    (given : (connection.rtmpManager.parseData build buffer).newRtmpPack = some pack)
    (unset : UInt8) :
    (connection.parseData build unset buffer).1.rtmpToFlvCodec =
      (connection.rtmpToFlvCodec.transform build unset pack .new).1 := by
  rw [RtmpPushConnection.parseData, given]
  rfl

/-- **A read** gives every viewer that has joined the frame it passes on, if any. -/
theorem Watches.onBodyData {frames : List MediaFrame} (watches : Watches build name frames state)
    {unset : UInt8} {data : Bytes} (made : state.step build (.onBodyData unset data) = .ok next) :
    Watches build name (frames ++ (passedOn build state data).map RtmpPack.frame) next := by
  obtain ⟨filled, client, stream, live, time, here, kept, carries, last, shows, agree⟩ := watches
  obtain rfl := Except.ok.inj made
  have buffer := RtmpPushConnection.parseData_headerBuffer build unset state.connection
    (state.recvBuffer ++ data)
  refine ⟨by rw [buffer]; exact filled, ?_⟩
  rw [passedOn]
  cases given : (state.connection.rtmpManager.parseData build
      (state.recvBuffer ++ data)).newRtmpPack with
  | none =>
      have quiet : state.connection.newFlvTag build unset (state.recvBuffer ++ data) = none := by
        rw [RtmpPushConnection.newFlvTag, given, Option.map_none]
      have clients := (RtmpPushConnection.parseData_none quiet name).1
      refine ⟨client, stream, live, time, clients.trans here, ?_, carries, last, ?_, ?_⟩
      · simp only [quiet]
        exact kept
      · rw [Option.toList_none, List.map_nil, List.append_nil]
        exact shows
      · rw [Option.toList_none, List.map_nil, List.append_nil, parseData_quiet given]
        exact agree
  | some pack =>
      have passed : state.connection.newFlvTag build unset (state.recvBuffer ++ data) =
          some (state.connection.rtmpToFlvCodec.transform build unset pack .new).2 := by
        rw [RtmpPushConnection.newFlvTag, given, Option.map_some]
      obtain ⟨clients, sent⟩ := RtmpPushConnection.parseData_some passed name
      rw [here, Option.map_some] at clients sent
      obtain ⟨base, shown⟩ := Rtmp2FlvCodec.transform_shown agree unset pack
      refine ⟨_, _, _, time, clients, ?_, carries.receive last _,
        (FlvItem.lastSize_concat 0 live _).symm, ?_, ?_⟩
      · simp only [passed, sent, kept, Option.map_some]
      · exact shows.concat shown
      · rw [parseData_passes given, Option.toList_some, List.map_cons, List.map_nil,
          List.foldl_concat]
        exact base

/-- **What others do** changes nothing for a viewer that has joined. -/
theorem Watches.others {frames : List MediaFrame} (watches : Watches build name frames state)
    {event : BroadcastEvent} (quiet : reads [event] = []) (alone : event.LeavesAlone name)
    (made : state.step build event = .ok next) : Watches build name frames next := by
  obtain ⟨filled, client, stream, live, time, here, kept, carries, last, shows, agree⟩ := watches
  cases event with
  | onBodyData unset data => cases quiet
  | addClientConnection unset joined =>
      have other : name ≠ joined := fun same => alone same.symm
      rw [step, if_neg filled, RtmpPushConnection.addClientConnection_kept filled] at made
      obtain rfl := Except.ok.inj made
      refine ⟨filled, client, stream, live, time, ?_, ?_, carries, last, shows, agree⟩
      · exact (PullConnectionMap.lookup_insert _ _ _ _).trans ((if_neg other).trans here)
      · exact (Function.update_of_ne other _ _).trans kept
  | onConnectionClose closed =>
      have other : name ≠ closed := fun same => alone same.symm
      obtain rfl := Except.ok.inj made
      refine ⟨filled, client, stream, live, time, ?_, kept, carries, last, shows, agree⟩
      exact (PullConnectionMap.lookup_erase _ _ _).trans ((if_neg other).trans here)

/-- **A viewer that joins** has been sent the header and no frame yet. -/
theorem HasRead.joins {sent : List SentMessage} {events : List BroadcastEvent}
    (hasRead : HasRead build manager sent events state)
    (stored : StoredMessage sent state.connection.rtmpManager.rtmpCodec.toHeaderPhase)
    {unset : HeaderUnset} {joined : Bytes}
    (made : state.step build (.addClientConnection unset joined) = .ok next) :
    HasRead build manager sent (events ++ [.addClientConnection unset joined]) next ∧
      Watches build joined [] next := by
  obtain ⟨fed, header⟩ := hasRead
  have silent : reads [.addClientConnection unset joined] = [] := rfl
  by_cases empty : state.connection.headerBuffer = []
  · rw [step, if_pos empty, RtmpPushConnection.addClientConnection_empty empty] at made
    cases transformed : state.connection.transformHeaderPacks build unset with
    | error fault =>
        rw [transformed] at made
        cases made
    | ok tags =>
        rw [transformed] at made
        obtain rfl := Except.ok.inj made
        have shown := stored.transformHeaderPacks transformed
        refine ⟨⟨?_, fun _ => ⟨tags.2.bytes_eq, shown⟩⟩, tags.2.bytes_ne_nil, .new joined, _, [],
          tags.1.baseTimestamp, ?_, Function.update_self .., ?_, rfl, trivial, rfl⟩
        · rw [reads_append, silent, List.append_nil]
          exact fed
        · exact (PullConnectionMap.lookup_insert _ _ _ _).trans (if_pos rfl)
        · rw [tags.2.bytes_eq]
          exact ViewerStream.Carries.start (.new joined) tags.2.list_ne_nil
  · obtain ⟨filled, shown⟩ := header empty
    rw [step, if_neg empty, RtmpPushConnection.addClientConnection_kept empty] at made
    obtain rfl := Except.ok.inj made
    refine ⟨⟨?_, header⟩, empty, .new joined, _, [],
      state.connection.rtmpToFlvCodec.baseTimestamp, ?_, Function.update_self .., ?_, rfl, trivial,
      rfl⟩
    · rw [reads_append, silent, List.append_nil]
      exact fed
    · exact (PullConnectionMap.lookup_insert _ _ _ _).trans (if_pos rfl)
    · rw [filled]
      exact ViewerStream.Carries.start (.new joined) shown.ne_nil

/-- **Every event** goes on following the reads. -/
theorem HasRead.step {sent : List SentMessage} {events : List BroadcastEvent}
    (hasRead : HasRead build manager sent events state)
    (stored : StoredMessage sent state.connection.rtmpManager.rtmpCodec.toHeaderPhase)
    {event : BroadcastEvent} (made : state.step build event = .ok next) :
    HasRead build manager sent (events ++ [event]) next := by
  cases event with
  | onBodyData unset data =>
      obtain ⟨fed, header⟩ := hasRead
      obtain rfl := Except.ok.inj made
      have one : reads [.onBodyData unset data] = [data] := rfl
      refine ⟨?_, ?_⟩
      · rw [reads_append, one, Consumer.feedAll_concat, ← fed]
        refine Prod.ext (RtmpPushConnection.parseData_rtmpManager ..) ?_
        dsimp only [RtmpManager.delivery]
        rw [RtmpPushConnection.parseData]
        cases (state.connection.rtmpManager.parseData build
          (state.recvBuffer ++ data)).newRtmpPack <;> rfl
      · rw [RtmpPushConnection.parseData_headerBuffer]
        exact header
  | addClientConnection unset joined => exact (hasRead.joins stored made).1
  | onConnectionClose closed =>
      obtain ⟨fed, header⟩ := hasRead
      obtain rfl := Except.ok.inj made
      refine ⟨?_, header⟩
      rw [reads_append]
      exact fed.trans
        (by rw [show reads [.onConnectionClose closed] = [] from rfl, List.append_nil])

/-- What a read passes on is what it delivers. -/
theorem HasRead.delivered_concat {sent : List SentMessage} {events : List BroadcastEvent}
    (hasRead : HasRead build manager sent events state) (unset : UInt8) (data : Bytes) :
    delivered build manager (events ++ [.onBodyData unset data]) =
      delivered build manager events ++ passedOn build state data := by
  have one : reads [.onBodyData unset data] = [data] := rfl
  rw [delivered, reads_append, one, Consumer.feedAll_concat, ← hasRead.fed]
  rfl

theorem delivered_quiet {event : BroadcastEvent} (quiet : reads [event] = [])
    (events : List BroadcastEvent) :
    delivered build manager (events ++ [event]) = delivered build manager events := by
  rw [delivered, reads_append, quiet, List.append_nil, delivered]

section Runs

variable {connectionName : Bytes} {chunkSize : Nat} {csid : UInt8}
  {headers media : List SentMessage}

theorem reads_mono {before events : List BroadcastEvent} (le : before <+: events) :
    (reads before).flatten <+: (reads events).flatten := by
  obtain ⟨later, rfl⟩ := le
  rw [reads_append, List.flatten_append]
  exact List.prefix_append _ _

/-- The header packs of a run that follows its reads are messages. -/
theorem HasRead.stored {events : List BroadcastEvent}
    (hasRead : HasRead build manager (headers ++ media) events state)
    (receives : ReceivesMessages build manager chunkSize csid headers media
      (reads events).flatten) :
    StoredMessage (headers ++ media) state.connection.rtmpManager.rtmpCodec.toHeaderPhase := by
  have moved := congrArg Prod.fst hasRead.fed
  dsimp only at moved
  rw [moved]
  exact receives.storedMessage

/-- **A run** follows its reads. -/
theorem run_hasRead {events : List BroadcastEvent}
    (receives : ReceivesMessages build manager chunkSize csid headers media
      (reads events).flatten)
    (reached : (machine build).run (.ok (.new connectionName manager)) events = .ok state) :
    HasRead build manager (headers ++ media) events state := by
  induction events using List.reverseRecOn generalizing state with
  | nil =>
      obtain rfl := Except.ok.inj reached
      exact ⟨rfl, fun filled => absurd rfl filled⟩
  | append_singleton events event ih =>
      rw [machine, Machine.faulting_run_concat] at reached
      cases earlier : (Machine.faulting (Broadcast.step build)).run
          (.ok (.new connectionName manager)) events with
      | error fault =>
          rw [earlier] at reached
          cases reached
      | ok between =>
          rw [earlier] at reached
          have part := receives.shorter (reads_mono (List.prefix_append events [event]))
          have hasRead := ih part earlier
          exact hasRead.step (hasRead.stored part) reached

/-- **A viewer that stays** has been sent a frame for every pack delivered since it joined. -/
theorem run_watches {before after : List BroadcastEvent} {unset : HeaderUnset} {name : Bytes}
    (stays : ∀ event ∈ after, event.LeavesAlone name)
    (receives : ReceivesMessages build manager chunkSize csid headers media
      (reads (before ++ .addClientConnection unset name :: after)).flatten)
    (reached : (machine build).run (.ok (.new connectionName manager))
      (before ++ .addClientConnection unset name :: after) = .ok state) :
    ∃ packs, delivered build manager (before ++ .addClientConnection unset name :: after) =
        delivered build manager before ++ packs ∧
      Watches build name (packs.map RtmpPack.frame) state := by
  induction after using List.reverseRecOn generalizing state with
  | nil =>
      rw [machine, Machine.faulting_run_concat] at reached
      cases earlier : (Machine.faulting (Broadcast.step build)).run
          (.ok (.new connectionName manager)) before with
      | error fault =>
          rw [earlier] at reached
          cases reached
      | ok between =>
          rw [earlier] at reached
          have part := receives.shorter (reads_mono (List.prefix_append _ _))
          have hasRead := run_hasRead part earlier
          refine ⟨[], ?_, (hasRead.joins (hasRead.stored part) reached).2⟩
          rw [delivered_quiet rfl, List.append_nil]
  | append_singleton after event ih =>
      rw [← List.cons_append, ← List.append_assoc] at receives reached ⊢
      rw [machine, Machine.faulting_run_concat] at reached
      cases earlier : (Machine.faulting (Broadcast.step build)).run
          (.ok (.new connectionName manager))
          (before ++ .addClientConnection unset name :: after) with
      | error fault =>
          rw [earlier] at reached
          cases reached
      | ok between =>
          rw [earlier] at reached
          have part := receives.shorter (reads_mono (List.prefix_append _ [event]))
          obtain ⟨packs, same, watches⟩ := ih
            (fun other inside => stays other (List.mem_append_left _ inside)) part earlier
          have alone := stays event (List.mem_append_right _ List.mem_cons_self)
          cases event with
          | onBodyData unset data =>
              have hasRead := run_hasRead part earlier
              refine ⟨packs ++ passedOn build between data, ?_, ?_⟩
              · rw [hasRead.delivered_concat, same, List.append_assoc]
              · rw [List.map_append]
                exact watches.onBodyData reached
          | addClientConnection unset joined =>
              exact ⟨packs, (delivered_quiet rfl _).trans same, watches.others rfl alone reached⟩
          | onConnectionClose closed =>
              exact ⟨packs, (delivered_quiet rfl _).trans same, watches.others rfl alone reached⟩

end Runs

end Broadcast

open Broadcast

/-- **A viewer receives the messages of the publisher.** Messages on one chunk stream are read in
any pieces that deliver, and a viewer joins at some moment and stays, whatever other viewers do.
What it is sent is the response header and HTTP chunks; the chunks read back, and their data
splits as FLV into tags: a script, a video and perhaps an audio message first, and then one tag
for each message delivered behind the join, in order, with its type, its size and its body, and
with the time of the tag before it plus the timestamp of the message. -/
theorem viewer_receives_messages (build : Build) (connectionName : Bytes) (manager : RtmpManager)
    {chunkSize : Nat} {csid : UInt8} {headers media : List SentMessage}
    {before after : List BroadcastEvent} {unset : HeaderUnset} {name : Bytes}
    (stays : ∀ event ∈ after, event.LeavesAlone name)
    (receives : ReceivesMessages build manager chunkSize csid headers media
      (reads (before ++ .addClientConnection unset name :: after)).flatten)
    (calls : ∀ part data,
      part ++ [data] <+: reads (before ++ .addClientConnection unset name :: after) →
        CallDelivers chunkSize csid (headers ++ media) headers.length
          ((RtmpManager.delivery build).feedAll (manager, []) part).1 part.flatten.length data)
    {state : Broadcast}
    (reached : (Broadcast.machine build).run (.ok (.new connectionName manager))
      (before ++ .addClientConnection unset name :: after) = .ok state) :
    ∃ stream pieces items headerTags liveTags time,
      state.streams name = some stream ∧
      stream.sent = HttpPullConnection.responseHeader ++ pieces.flatMap encodeChunk ∧
      Reader.readToEnd decodeChunk (pieces.flatMap encodeChunk) = some pieces ∧
      splitFlv pieces.flatten = some (FlvHeader.defaultHeader, items) ∧
      items.map FlvItem.tag = headerTags ++ liveTags ∧
      ShowsHeaders (headers ++ media) headerTags ∧
      Shows build time liveTags
        (((expected build manager chunkSize csid headers media
          (before ++ .addClientConnection unset name :: after)).drop
            (expected build manager chunkSize csid headers media before).length).map
          SentMessage.frame) := by
  obtain ⟨packs, same, filled, client, stream, live, time, -, kept, carries, -, shows, -⟩ :=
    run_watches stays receives reached
  obtain ⟨-, shown⟩ := (run_hasRead receives reached).header filled
  have early := reads_mono (List.prefix_append before (.addClientConnection unset name :: after))
  have all := receives.delivers calls
  have first := (receives.shorter early).delivers fun part data le => by
    refine calls part data (le.trans ?_)
    rw [reads_append]
    exact List.prefix_append _ _
  -- what was delivered behind the join is what was expected behind it
  have behind := List.forall₂_drop
    (expected build manager chunkSize csid headers media before).length all
  have count : (delivered build manager before).length =
      (expected build manager chunkSize csid headers media before).length := first.length_eq
  have whole : ((RtmpManager.delivery build).feedAll (manager, [])
      (reads (before ++ .addClientConnection unset name :: after))).2 =
      delivered build manager before ++ packs := same
  rw [whole, ← count, List.drop_left] at behind
  have frames := map_frame_eq behind
  rw [count] at frames
  have nonempty := viewerPieces_nonempty (ViewerStream.flvStream_ne_nil state.headerTags) 0 live
  rw [frames] at shows
  refine ⟨stream, viewerPieces (flvStream state.headerTags) 0 live,
    FlvItem.chain 0 state.headerTags ++ FlvItem.chain 0 live, state.headerTags, live, time, kept,
    carries.sent, readToEnd_chunks nonempty, ?_, ?_, shown, shows⟩
  · rw [flatten_viewerPieces, flvStream, List.append_assoc, ← List.flatMap_append]
    refine splitFlv_stream fun item inside => ?_
    have tag_of {tags : List FlvTag} (inside : item ∈ FlvItem.chain 0 tags) : item.tag ∈ tags := by
      rw [← FlvItem.map_tag_chain 0 tags]
      exact List.mem_map_of_mem inside
    rcases List.mem_append.mp inside with first | later
    · exact shown.declared _ (tag_of first)
    · refine shows.declared (fun frame inside => ?_) _ (tag_of later)
      obtain ⟨one, -, rfl⟩ := List.mem_map.mp inside
      exact declared_sent one
  · rw [List.map_append, FlvItem.map_tag_chain, FlvItem.map_tag_chain]

/-- A frame behind the one frame. -/
def nextFrame : List SentMessage := [plainMessage 9 [4] (by decide)]

/-- The sequence headers and a frame are read before a viewer joins, and a frame behind. -/
def readHeaders : List BroadcastEvent :=
  [.onBodyData 0 (encodeMessages 4096 4 (longHeaders ++ oneFrame))]

def readNextFrame : List BroadcastEvent := [.onBodyData 0 (encodeMessages 4096 4 nextFrame)]

/-- The viewer gets the second frame. -/
theorem viewer_receives_messages_nextFrame :
    ∃ (stream : ViewerStream) (pieces : List Bytes) (items : List FlvItem)
      (headerTags liveTags : List FlvTag) (time : Nat),
      stream.sent = HttpPullConnection.responseHeader ++ pieces.flatMap encodeChunk ∧
      splitFlv pieces.flatten = some (FlvHeader.defaultHeader, items) ∧
      items.map FlvItem.tag = headerTags ++ liveTags ∧
      Shows .standard time liveTags (nextFrame.map SentMessage.frame) := by
  have ran : ((Broadcast.machine .standard).run (.ok (.new [112] (.atStart .standard)))
      (readHeaders ++ .addClientConnection ⟨0, 0, 0⟩ [118] :: readNextFrame)).toOption.any
        (fun _ => true) = true := by decide +kernel
  obtain ⟨state, reached, -⟩ := Machine.exists_of_any ran
  have two : reads (readHeaders ++ .addClientConnection ⟨0, 0, 0⟩ [118] :: readNextFrame) =
      [encodeMessages 4096 4 (longHeaders ++ oneFrame), encodeMessages 4096 4 nextFrame] := rfl
  have whole : (reads (readHeaders ++ .addClientConnection ⟨0, 0, 0⟩ [118] ::
      readNextFrame)).flatten = encodeMessages 4096 4 (longHeaders ++ (oneFrame ++ nextFrame)) := by
    rw [two, List.flatten_cons, List.flatten_singleton, encodeMessages, encodeMessages,
      encodeMessages, ← List.flatMap_append, List.append_assoc]
  have receives : ReceivesMessages .standard (.atStart .standard) 4096 4 longHeaders
      (oneFrame ++ nextFrame) (reads (readHeaders ++ .addClientConnection ⟨0, 0, 0⟩ [118] ::
        readNextFrame)).flatten :=
    ⟨⟨⟨by decide, by decide⟩, rfl, rfl, rfl, rfl, fun _ there => by cases there⟩, rfl, by decide,
      ⟨rfl, trivial, trivial, trivial, trivial, trivial⟩, completesHeaders_longHeaders,
      whole ▸ List.prefix_rfl⟩
  have calls : ∀ part data, part ++ [data] <+:
      reads (readHeaders ++ .addClientConnection ⟨0, 0, 0⟩ [118] :: readNextFrame) →
        CallDelivers 4096 4 (longHeaders ++ (oneFrame ++ nextFrame)) longHeaders.length
          ((RtmpManager.delivery .standard).feedAll (RtmpManager.atStart .standard, []) part).1
          part.flatten.length data := by
    intro part data le
    rw [two] at le
    cases part with
    | nil =>
        have same := (List.cons_prefix_cons.mp le).1
        rw [same]
        exact fun _ _ => by decide +kernel
    | cons first part =>
        obtain ⟨one, later⟩ := List.cons_prefix_cons.mp le
        obtain ⟨last, same⟩ := concat_prefix_singleton.mp later
        have status : ((RtmpManager.delivery .standard).feedAll (RtmpManager.atStart .standard, [])
            [encodeMessages 4096 4 (longHeaders ++ oneFrame)]).1.1.rtmpCodec.decodeDataStatus =
              .parseDataPack := by decide +kernel
        rw [one, last, same, CallDelivers, status]
        decide +kernel
  have behind : (expected .standard (.atStart .standard) 4096 4 longHeaders
      (oneFrame ++ nextFrame) (readHeaders ++ .addClientConnection ⟨0, 0, 0⟩ [118] ::
        readNextFrame)).drop (expected .standard (.atStart .standard) 4096 4 longHeaders
          (oneFrame ++ nextFrame) readHeaders).length = nextFrame := by
    have status : ((RtmpManager.delivery .standard).feedAll (RtmpManager.atStart .standard, [])
        (reads (readHeaders ++ .addClientConnection ⟨0, 0, 0⟩ [118] ::
          readNextFrame))).1.1.rtmpCodec.decodeDataStatus = .parseDataPack := by decide +kernel
    have one : (expected .standard (.atStart .standard) 4096 4 longHeaders
        (oneFrame ++ nextFrame) readHeaders).length = 1 := by decide +kernel
    rw [one, expected, status, Expected, whole, messagesWithin_encodeMessages]
    rfl
  obtain ⟨stream, pieces, items, headerTags, liveTags, time, -, sent, -, split, tags, -, shows⟩ :=
    viewer_receives_messages .standard [112] (.atStart .standard) (fun _ inside => by
      obtain rfl := List.mem_singleton.mp inside
      trivial) receives calls reached
  rw [behind] at shows
  exact ⟨stream, pieces, items, headerTags, liveTags, time, sent, split, tags, shows⟩

end LiveBroadcast
