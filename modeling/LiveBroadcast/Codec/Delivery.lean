import LiveBroadcast.Codec.DataDecoding
import LiveBroadcast.Codec.PartialChunking
import LiveBroadcast.Codec.RtmpManager
import LiveBroadcast.Foundation.Runs

/-!
# What reaches the callback

After each call of `ParseData` the callback should have been given the messages that were
completed behind the one that completed the sequence headers (`Expected`). A call however
passes at most one pack: it has one flag for "a pack was finished" and one slot for the last
pack, and the flag is also set by the end of the first phase.

So a call in the data phase delivers what it should exactly when at most one message ends in
it, and the call that completes the headers exactly when one further message ends in it
(`CallDelivers`). The data phase begins with the first call that finds enough bytes in the buffer
and the headers among what has come (`HeadersRead`). `delivery_iff` says this of all parts of a
stream and all its segmentations.
-/

set_option autoImplicit false

namespace LiveBroadcast

open ChunkDecoder HeaderPhase

/-! ## The messages that complete the headers -/

/-- A message of the type is among those sent. -/
def HasType (type : RtmpPackType) (sent : List SentMessage) : Prop :=
  ∃ one ∈ sent, RtmpPack.typeOfByte one.message.type = type

/-- Every sequence header the build waits for is among the messages. -/
structure HasHeaders (build : Build) (sent : List SentMessage) : Prop where
  script : HasType .rtmpScript sent
  video : HasType .rtmpVideo sent
  audio : build.monitorMode = false → HasType .rtmpAudio sent

/-- The messages complete the sequence headers, and no fewer of them do. -/
structure CompletesHeaders (build : Build) (headers : List SentMessage) : Prop where
  complete : HasHeaders build headers
  needed : ∀ before, before <+: headers → before ≠ headers → ¬ HasHeaders build before

theorem hasType_concat (type : RtmpPackType) (sent : List SentMessage) (one : SentMessage) :
    HasType type (sent ++ [one]) ↔
      HasType type sent ∨ RtmpPack.typeOfByte one.message.type = type := by
  simp only [HasType, List.mem_append, List.mem_singleton]
  constructor
  · rintro ⟨other, before | rfl, same⟩
    · exact .inl ⟨other, before, same⟩
    · exact .inr same
  · rintro (⟨other, before, same⟩ | same)
    · exact ⟨other, .inl before, same⟩
    · exact ⟨one, .inr rfl, same⟩

theorem HasType.mono {type : RtmpPackType} {before sent : List SentMessage}
    (has : HasType type before) (le : before <+: sent) : HasType type sent := by
  obtain ⟨one, seen, same⟩ := has
  exact ⟨one, le.subset seen, same⟩

theorem HasHeaders.mono {build : Build} {before sent : List SentMessage}
    (has : HasHeaders build before) (le : before <+: sent) : HasHeaders build sent :=
  ⟨has.script.mono le, has.video.mono le, fun audio => (has.audio audio).mono le⟩

/-- The parts of a stream that hold all headers are those that reach behind the messages
that complete them. -/
theorem CompletesHeaders.hasHeaders_iff {build : Build} {headers media part : List SentMessage}
    (completes : CompletesHeaders build headers) (le : part <+: headers ++ media) :
    HasHeaders build part ↔ headers.length ≤ part.length := by
  constructor
  · intro has
    rcases prefix_append_cases le with ⟨inside, shorter⟩ | ⟨rest, rfl, -⟩
    · exact absurd has (completes.needed part inside fun same => by simp [same] at shorter)
    · rw [List.length_append]
      exact Nat.le_add_right _ _
  · intro covers
    exact completes.complete.mono
      (List.prefix_of_prefix_length_le (List.prefix_append _ _) le covers)

/-! ## The phase and the messages -/

/-- The phase of a codec that has collected these messages and still waits for others. -/
structure Seen (build : Build) (phase : HeaderPhase) (sent : List SentMessage) : Prop where
  first : phase.decodeDataStatus = .parseFirstHeader
  script : phase.firstScriptPack.isSome = true ↔ HasType .rtmpScript sent
  video : phase.firstVideoPack.isSome = true ↔ HasType .rtmpVideo sent
  audio : phase.firstAudioPack.isSome = true ↔ HasType .rtmpAudio sent

variable {build : Build} {csid : UInt8}

theorem Seen.keepFirstPack {phase : HeaderPhase} {sent : List SentMessage} {pack : RtmpPack}
    {one : SentMessage} (seen : Seen build phase sent) (same : Reassembled csid pack one) :
    Seen build (phase.keepFirstPack pack) (sent ++ [one]) := by
  obtain ⟨first, script, video, audio⟩ := seen
  have type := same.carries.packType
  refine ⟨(keepFirstPack_status _ _).trans first, ?_, ?_, ?_⟩ <;>
    rw [hasType_concat, ← type] <;>
    cases kind : pack.packType <;> simp [HeaderPhase.keepFirstPack, kind, script, video, audio]

theorem Seen.headerMissing {phase : HeaderPhase} {sent : List SentMessage}
    (seen : Seen build phase sent) :
    phase.headerMissing build = false ↔ HasHeaders build sent := by
  rw [headerMissing_eq_false, seen.script, seen.video, seen.audio]
  exact ⟨fun ⟨script, video, audio⟩ => ⟨script, video, audio⟩,
    fun has => ⟨has.script, has.video, has.audio⟩⟩

/-- **The phase is over once the messages hold all headers.** -/
theorem Seen.collect_status {phase : HeaderPhase} {before : List SentMessage}
    (seen : Seen build phase before) (missing : ¬ HasHeaders build before)
    {packs : List RtmpPack} {sent : List SentMessage}
    (same : List.Forall₂ (Reassembled csid) packs sent) :
    (packs.foldl (collect build) phase).decodeDataStatus = .parseDataPack ↔
      HasHeaders build (before ++ sent) := by
  induction same generalizing phase before with
  | nil => simp [seen.first, missing]
  | @cons pack one packs sent here _ ih =>
      have kept := seen.keepFirstPack here
      rw [List.foldl_cons, List.append_cons]
      by_cases has : HasHeaders build (before ++ [one])
      · rw [collect_complete seen.first (kept.headerMissing.mpr has), foldl_collect_data rfl]
        exact iff_of_true rfl (has.mono (List.prefix_append _ _))
      · have more : (phase.keepFirstPack pack).headerMissing build = true := by
          rw [← Bool.not_eq_false, kept.headerMissing]
          exact has
        rw [collect_missing seen.first more]
        exact ih kept has

/-- A phase that is not over is short of a header. -/
theorem foldl_collect_missing {phase : HeaderPhase} {packs : List RtmpPack}
    (missing : phase.headerMissing build = true)
    (first : (packs.foldl (collect build) phase).decodeDataStatus = .parseFirstHeader) :
    (packs.foldl (collect build) phase).headerMissing build = true := by
  induction packs generalizing phase with
  | nil => exact missing
  | cons pack packs ih =>
      rw [List.foldl_cons] at first ⊢
      cases status : phase.decodeDataStatus with
      | parseDataPack =>
          have same : phase.collect build pack = phase := by rw [collect, status]
          rw [same] at first ⊢
          exact ih missing first
      | parseFirstHeader =>
          cases more : (phase.keepFirstPack pack).headerMissing build with
          | true =>
              rw [collect_missing status more] at first ⊢
              exact ih more first
          | false =>
              rw [collect_complete status more, foldl_collect_data rfl] at first
              cases first

/-! ## One call of ParseData -/

/-- The packs that a call with these bytes finishes: none while sequence headers are waited
for and fewer than 1000 bytes are there. -/
def RtmpCodec.finishes (codec : RtmpCodec) (buffer : Bytes) : List RtmpPack :=
  if codec.decodeDataStatus = .parseFirstHeader ∧ buffer.length < startParseLength then []
  else (drain codec.toChunkDecoder buffer).2

theorem RtmpCodec.finishes_data {codec : RtmpCodec}
    (data : codec.decodeDataStatus = .parseDataPack) (buffer : Bytes) :
    codec.finishes buffer = (drain codec.toChunkDecoder buffer).2 := by
  simp [finishes, data]

theorem RtmpCodec.finishes_waits {codec : RtmpCodec}
    (first : codec.decodeDataStatus = .parseFirstHeader) {buffer : Bytes}
    (few : buffer.length < startParseLength) : codec.finishes buffer = [] :=
  if_pos ⟨first, few⟩

theorem RtmpCodec.finishes_enough (codec : RtmpCodec) {buffer : Bytes}
    (enough : startParseLength ≤ buffer.length) :
    codec.finishes buffer = (drain codec.toChunkDecoder buffer).2 :=
  if_neg fun waits => Nat.not_lt.mpr enough waits.2

/-- **What a call finishes and what it passes on.** The phase is the fold over the packs that
the call finishes, and in the data phase the last of them is passed on. -/
theorem RtmpManager.parseData_finishes {manager : RtmpManager}
    (sane : manager.rtmpCodec.toChunkDecoder.Sane)
    (missing : manager.rtmpCodec.decodeDataStatus = .parseFirstHeader →
      manager.rtmpCodec.headerMissing build = true) (buffer : Bytes) :
    (manager.parseData build buffer).manager.rtmpCodec.toHeaderPhase =
        (manager.rtmpCodec.finishes buffer).foldl (collect build) manager.rtmpCodec.toHeaderPhase ∧
      (manager.parseData build buffer).newRtmpPack =
        if ((manager.rtmpCodec.finishes buffer).foldl (collect build)
            manager.rtmpCodec.toHeaderPhase).decodeDataStatus = .parseDataPack then
          (manager.rtmpCodec.finishes buffer).getLast?
        else none := by
  have last := drain_lastRtmpPack manager.rtmpCodec.toChunkDecoder buffer
  cases status : manager.rtmpCodec.decodeDataStatus with
  | parseDataPack =>
      obtain ⟨codec, -, finish⟩ := @RtmpCodec.decodeData_data build manager.rtmpCodec status buffer
      rw [RtmpCodec.finishes_data status, foldl_collect_data status, if_pos status]
      simp only [RtmpManager.parseData, codec, finish, last, true_and]
      cases (drain manager.rtmpCodec.toChunkDecoder buffer).2 with
      | nil => rfl
      | cons pack more => simp [List.getLast?_cons]
  | parseFirstHeader =>
      rcases Nat.lt_or_ge buffer.length RtmpCodec.startParseLength with few | enough
      · obtain ⟨codec, -, finish⟩ :=
          @RtmpCodec.decodeData_waits build manager.rtmpCodec status _ few
        rw [RtmpCodec.finishes_waits status few, List.foldl_nil,
          if_neg (by rw [status]; exact nofun), RtmpManager.parseData, codec, finish]
        exact ⟨rfl, rfl⟩
      · obtain ⟨codec, -, finish⟩ :=
          manager.rtmpCodec.decodeData_headers sane status (missing status) enough
        rw [RtmpCodec.finishes_enough _ enough]
        simp only [RtmpManager.parseData, codec, true_and]
        cases flag : (manager.rtmpCodec.decodeData build buffer).packFinish with
        | true =>
            rw [if_pos rfl, if_pos (finish.mp flag), last]
            cases shape : (drain manager.rtmpCodec.toChunkDecoder buffer).2 with
            | nil =>
                rw [shape, List.foldl_nil, status] at finish
                exact absurd (finish.mp flag) nofun
            | cons pack more => simp [List.getLast?_cons]
        | false =>
            rw [if_neg Bool.false_ne_true, if_neg (by rw [← finish, flag]; exact nofun)]

/-! ## A run of ParseData -/

/-- The reads of the media phase: append what arrived to the buffer and call `ParseData`.
What it produces is what the callback is given. -/
def RtmpManager.delivery (build : Build) : Consumer (RtmpManager × Bytes) UInt8 RtmpPack where
  feed state data :=
    let step := state.1.parseData build (state.2 ++ data)
    ((step.manager, step.buffer), step.newRtmpPack.toList)

/-- Where a run is, after some bytes: which packs were finished on the way, what the phase
makes of them, and that in the data phase nothing can be decoded from the unread bytes. -/
structure Tracks (build : Build) (start : RtmpCodec) (received : Bytes)
    (state : RtmpManager × Bytes) (packs : List RtmpPack) : Prop where
  passes : Passes start.toChunkDecoder received packs state.1.rtmpCodec.toChunkDecoder state.2
  phase : state.1.rtmpCodec.toHeaderPhase = packs.foldl (collect build) start.toHeaderPhase
  drained : state.1.rtmpCodec.decodeDataStatus = .parseDataPack →
    Drained (state.1.rtmpCodec.toChunkDecoder, state.2)

/-- What a call of `ParseData` adds: the packs it finishes, and of these the last one to the
callback when the data phase is reached. -/
structure Advances (build : Build) (start : RtmpCodec) (received data : Bytes)
    (state : RtmpManager × Bytes) (packs more : List RtmpPack)
    (next : (RtmpManager × Bytes) × List RtmpPack) : Prop where
  tracks : Tracks build start (received ++ data) next.1 (packs ++ more)
  delivered : next.2 =
    if next.1.1.rtmpCodec.decodeDataStatus = .parseDataPack then more.getLast?.toList else []
  works : state.1.rtmpCodec.decodeDataStatus = .parseDataPack ∨
      RtmpCodec.startParseLength ≤ (state.2 ++ data).length →
    Drained (next.1.1.rtmpCodec.toChunkDecoder, next.1.2)
  waits : state.1.rtmpCodec.decodeDataStatus = .parseFirstHeader →
    (state.2 ++ data).length < RtmpCodec.startParseLength → more = []

/-- **One call of `ParseData`.** -/
theorem Tracks.advances {start : RtmpCodec} {received : Bytes} {state : RtmpManager × Bytes}
    {packs : List RtmpPack} (tracks : Tracks build start received state packs)
    (missing : start.headerMissing build = true) (data : Bytes) :
    ∃ more, Advances build start received data state packs more
      ((RtmpManager.delivery build).feed state data) := by
  obtain ⟨manager, unread⟩ := state
  obtain ⟨passes, phase, -⟩ := tracks
  have sane := passes.sane
  have appended := passes.append data
  have drains := appended.trans (sane.passes_drain (unread ++ data))
  have drained := sane.drain_drained (unread ++ data)
  have still (first : manager.rtmpCodec.decodeDataStatus = .parseFirstHeader) :
      manager.rtmpCodec.headerMissing build = true := by
    rw [phase] at first ⊢
    exact foldl_collect_missing missing first
  obtain ⟨folded, passed⟩ := manager.parseData_finishes sane still (unread ++ data)
  have later : (manager.parseData build (unread ++ data)).manager.rtmpCodec.toHeaderPhase =
      (packs ++ manager.rtmpCodec.finishes (unread ++ data)).foldl (collect build)
        start.toHeaderPhase := by
    rw [folded, List.foldl_append, ← phase]
  have given : (manager.parseData build (unread ++ data)).newRtmpPack.toList =
      if (manager.parseData build (unread ++ data)).manager.rtmpCodec.decodeDataStatus =
          .parseDataPack then
        (manager.rtmpCodec.finishes (unread ++ data)).getLast?.toList
      else [] := by
    rw [passed, ← folded]
    split <;> rfl
  cases status : manager.rtmpCodec.decodeDataStatus with
  | parseDataPack =>
      obtain ⟨codec, buffer, -⟩ :=
        @RtmpCodec.decodeData_data build manager.rtmpCodec status (unread ++ data)
      refine ⟨_, ⟨?_, later, fun _ => ?_⟩, given, fun _ => ?_, fun first => ?_⟩
      · simp only [RtmpManager.delivery, RtmpManager.parseData, codec, buffer,
          RtmpCodec.finishes_data status]
        exact drains
      · simp only [RtmpManager.delivery, RtmpManager.parseData, codec, buffer]
        exact drained
      · simp only [RtmpManager.delivery, RtmpManager.parseData, codec, buffer]
        exact drained
      · rw [status] at first
        cases first
  | parseFirstHeader =>
      rcases Nat.lt_or_ge (unread ++ data).length RtmpCodec.startParseLength with few | enough
      · obtain ⟨codec, buffer, -⟩ :=
          @RtmpCodec.decodeData_waits build manager.rtmpCodec status _ few
        have waiting : manager.rtmpCodec.decodeDataStatus ≠ .parseDataPack := by
          rw [status]
          exact nofun
        refine ⟨_, ⟨?_, later, fun data => ?_⟩, given, ?_, fun _ _ => ?_⟩
        · simp only [RtmpManager.delivery, RtmpManager.parseData, codec, buffer,
            RtmpCodec.finishes_waits status few, List.append_nil]
          exact appended
        · simp only [RtmpManager.delivery, RtmpManager.parseData, codec] at data
          exact absurd data waiting
        · rintro (isOver | enough)
          · exact absurd isOver waiting
          · exact absurd enough (Nat.not_le.mpr few)
        · exact RtmpCodec.finishes_waits status few
      · obtain ⟨codec, buffer, -⟩ :=
          manager.rtmpCodec.decodeData_headers sane status (still status) enough
        refine ⟨_, ⟨?_, later, fun _ => ?_⟩, given, fun _ => ?_, fun _ few => ?_⟩
        · simp only [RtmpManager.delivery, RtmpManager.parseData, codec, buffer,
            RtmpCodec.finishes_enough _ enough]
          exact drains
        · simp only [RtmpManager.delivery, RtmpManager.parseData, codec, buffer]
          exact drained
        · simp only [RtmpManager.delivery, RtmpManager.parseData, codec, buffer]
          exact drained
        · exact absurd few (Nat.not_lt.mpr enough)

/-! ## The law and the calls that keep it -/

/-- What the callback should have been given after the calls so far: in the data phase, the
messages completed behind those that complete the headers. -/
def Expected (chunkSize : Nat) (csid : UInt8) (sent : List SentMessage) (headers : Nat)
    (status : DecodeDataStatus) (received : Nat) : List SentMessage :=
  match status with
  | .parseFirstHeader => []
  | .parseDataPack => (messagesWithin chunkSize csid sent received).drop headers

/-- The condition on a call with some bytes: in the data phase at most one message ends in
it, and when it completes the headers then exactly one further message ends in it. -/
def CallDelivers (chunkSize : Nat) (csid : UInt8) (sent : List SentMessage) (headers : Nat)
    (state : RtmpManager × Bytes) (received : Nat) (data : Bytes) : Prop :=
  match state.1.rtmpCodec.decodeDataStatus with
  | .parseDataPack => (messagesWithin chunkSize csid sent (received + data.length)).length ≤
      (messagesWithin chunkSize csid sent received).length + 1
  | .parseFirstHeader => RtmpCodec.startParseLength ≤ (state.2 ++ data).length →
      headers ≤ (messagesWithin chunkSize csid sent (received + data.length)).length →
        (messagesWithin chunkSize csid sent (received + data.length)).length = headers + 1

/-- The packs of a drained run are the messages completed so far. -/
theorem Tracks.reassembled {start : RtmpCodec} {chunkSize : Nat} {received : Bytes}
    {state : RtmpManager × Bytes} {packs : List RtmpPack} {sent : List SentMessage}
    (tracks : Tracks build start received state packs)
    (drained : Drained (state.1.rtmpCodec.toChunkDecoder, state.2))
    (ready : start.toChunkDecoder.Ready chunkSize none) (compressed : WellCompressed none sent)
    (small : csid < 64) (le : received <+: encodeMessages chunkSize csid sent) :
    List.Forall₂ (Reassembled csid) packs (messagesWithin chunkSize csid sent received.length) := by
  have all := ready.drain_prefix compressed small le
  have whole := tracks.passes.drains []
  rw [List.append_nil, List.append_nil, drained.2] at whole
  rw [whole] at all
  simpa using all

/-- Passing only the last of some further packs is passing all of them exactly when there is
at most one. -/
theorem forall₂_append_getLast {R : RtmpPack → SentMessage → Prop} {delivered more : List RtmpPack}
    {expected further : List SentMessage} (so_far : List.Forall₂ R delivered expected)
    (all : List.Forall₂ R more further) :
    List.Forall₂ R (delivered ++ more.getLast?.toList) (expected ++ further) ↔
      further.length ≤ 1 := by
  constructor
  · intro related
    have total := related.length_eq
    have before := so_far.length_eq
    have few : more.getLast?.toList.length ≤ 1 := by cases more.getLast? <;> simp
    rw [List.length_append, List.length_append] at total
    omega
  · intro few
    cases all with
    | nil => simpa using so_far
    | @cons pack one more further here later =>
        obtain rfl : further = [] := List.length_eq_zero_iff.mp (by simpa using few)
        cases later
        exact List.rel_append so_far (.cons here .nil)

/-- The run after any calls has finished some packs. -/
theorem tracks_feedAll {manager : RtmpManager}
    (sane : manager.rtmpCodec.toChunkDecoder.Sane)
    (first : manager.rtmpCodec.decodeDataStatus = .parseFirstHeader)
    (missing : manager.rtmpCodec.headerMissing build = true) (segments : List Bytes) :
    ∃ packs, Tracks build manager.rtmpCodec segments.flatten
      ((RtmpManager.delivery build).feedAll (manager, []) segments).1 packs := by
  induction segments using List.reverseRecOn with
  | nil =>
      refine ⟨[], sane.passes_refl [], rfl, fun data => ?_⟩
      simp only [Consumer.feedAll] at data
      rw [first] at data
      cases data
  | append_singleton segments data ih =>
      obtain ⟨packs, tracks⟩ := ih
      obtain ⟨more, advances⟩ := tracks.advances missing data
      refine ⟨packs ++ more, ?_⟩
      rw [Consumer.feedAll_concat, List.flatten_append, List.flatten_singleton]
      exact advances.tracks

section Calls

variable {start : RtmpCodec} {chunkSize : Nat} {received data : Bytes}
  {state : RtmpManager × Bytes} {packs more delivered : List RtmpPack}
  {next : (RtmpManager × Bytes) × List RtmpPack} {headers media : List SentMessage}

/-- The phase is over exactly when the completed messages reach behind the headers. -/
theorem Tracks.status_iff (tracks : Tracks build start received state packs)
    (drained : Drained (state.1.rtmpCodec.toChunkDecoder, state.2))
    (ready : start.toChunkDecoder.Ready chunkSize none)
    (phase : start.toHeaderPhase = ⟨.parseFirstHeader, none, none, none⟩)
    (compressed : WellCompressed none (headers ++ media)) (small : csid < 64)
    (completes : CompletesHeaders build headers)
    (le : received <+: encodeMessages chunkSize csid (headers ++ media)) :
    state.1.rtmpCodec.decodeDataStatus = .parseDataPack ↔ headers.length ≤
      (messagesWithin chunkSize csid (headers ++ media) received.length).length := by
  have seen : Seen build start.toHeaderPhase [] := by
    rw [phase]
    refine ⟨rfl, ?_, ?_, ?_⟩ <;> simp [HasType]
  have nothing : ¬ HasHeaders build [] := by
    rintro ⟨⟨one, member, -⟩, -, -⟩
    exact absurd member List.not_mem_nil
  have all := tracks.reassembled drained ready compressed small le
  rw [← completes.hasHeaders_iff (messagesWithin_initial _ _ _ _), tracks.phase,
    seen.collect_status nothing all, List.nil_append]

/-- In the data phase the phase stays. -/
theorem Advances.status_data (tracks : Tracks build start received state packs)
    (advances : Advances build start received data state packs more next)
    (status : state.1.rtmpCodec.decodeDataStatus = .parseDataPack) :
    next.1.1.rtmpCodec.decodeDataStatus = .parseDataPack := by
  have after := advances.tracks.phase
  rw [List.foldl_append, ← tracks.phase, foldl_collect_data status] at after
  rw [after, status]

/-- **A call in the data phase.** -/
theorem Advances.delivers_data (tracks : Tracks build start received state packs)
    (advances : Advances build start received data state packs more next)
    (ready : start.toChunkDecoder.Ready chunkSize none)
    (phase : start.toHeaderPhase = ⟨.parseFirstHeader, none, none, none⟩)
    (compressed : WellCompressed none (headers ++ media)) (small : csid < 64)
    (completes : CompletesHeaders build headers)
    (le : received ++ data <+: encodeMessages chunkSize csid (headers ++ media))
    (status : state.1.rtmpCodec.decodeDataStatus = .parseDataPack)
    (so_far : List.Forall₂ (Reassembled csid) delivered
      ((messagesWithin chunkSize csid (headers ++ media) received.length).drop headers.length)) :
    List.Forall₂ (Reassembled csid) (delivered ++ next.2)
        ((messagesWithin chunkSize csid (headers ++ media) (received ++ data).length).drop
          headers.length) ↔
      (messagesWithin chunkSize csid (headers ++ media) (received ++ data).length).length ≤
        (messagesWithin chunkSize csid (headers ++ media) received.length).length + 1 := by
  have earlier : received <+: encodeMessages chunkSize csid (headers ++ media) :=
    (List.prefix_append _ _).trans le
  have drained := tracks.drained status
  have before := tracks.reassembled drained ready compressed small earlier
  have after := advances.tracks.reassembled (advances.works (.inl status)) ready compressed
    small le
  have covers := (tracks.status_iff drained ready phase compressed small completes earlier).mp
    status
  obtain ⟨further, grown⟩ := messagesWithin_mono chunkSize csid (headers ++ media)
    (show received.length ≤ (received ++ data).length by rw [List.length_append]; omega)
  rw [← grown] at after ⊢
  have all : List.Forall₂ (Reassembled csid) more further := by
    have behind := List.forall₂_drop packs.length after
    rwa [List.drop_left, before.length_eq, List.drop_left] at behind
  rw [advances.delivered, if_pos (advances.status_data tracks status),
    List.drop_append_of_le_length covers, forall₂_append_getLast so_far all, List.length_append]
  omega

/-- **The call that completes the headers** passes the last pack it finishes. -/
theorem Advances.delivers_headers (tracks : Tracks build start received state packs)
    (advances : Advances build start received data state packs more next)
    (ready : start.toChunkDecoder.Ready chunkSize none)
    (phase : start.toHeaderPhase = ⟨.parseFirstHeader, none, none, none⟩)
    (compressed : WellCompressed none (headers ++ media)) (small : csid < 64)
    (completes : CompletesHeaders build headers)
    (le : received ++ data <+: encodeMessages chunkSize csid (headers ++ media))
    (status : state.1.rtmpCodec.decodeDataStatus = .parseFirstHeader)
    (isOver : next.1.1.rtmpCodec.decodeDataStatus = .parseDataPack)
    (drained : Drained (next.1.1.rtmpCodec.toChunkDecoder, next.1.2)) :
    List.Forall₂ (Reassembled csid) next.2
        ((messagesWithin chunkSize csid (headers ++ media) (received ++ data).length).drop
          headers.length) ↔
      (messagesWithin chunkSize csid (headers ++ media) (received ++ data).length).length =
        headers.length + 1 := by
  have all := advances.tracks.reassembled drained ready compressed small le
  have covers := (advances.tracks.status_iff drained ready phase compressed small completes
    le).mp isOver
  generalize messagesWithin chunkSize csid (headers ++ media) (received ++ data).length =
    completed at all covers ⊢
  rw [advances.delivered, if_pos isOver]
  -- a pack was finished: the phase changed
  rcases List.eq_nil_or_concat' more with rfl | ⟨more, last, rfl⟩
  · have after := advances.tracks.phase
    rw [List.append_nil, ← tracks.phase] at after
    rw [after, status] at isOver
    cases isOver
  · rw [List.getLast?_concat, Option.toList_some]
    constructor
    · intro related
      have one := related.length_eq
      rw [List.length_singleton, List.length_drop] at one
      omega
    · intro length
      have total := all.length_eq
      have count : (packs ++ more).length = headers.length := by
        rw [← List.append_assoc, List.length_append, List.length_singleton] at total
        omega
      have behind := List.forall₂_drop headers.length all
      rwa [← List.append_assoc, List.drop_left' count] at behind

/-- **A call delivers what it should exactly when it meets the condition.** -/
theorem Advances.delivers_iff (tracks : Tracks build start received state packs)
    (advances : Advances build start received data state packs more next)
    (ready : start.toChunkDecoder.Ready chunkSize none)
    (phase : start.toHeaderPhase = ⟨.parseFirstHeader, none, none, none⟩)
    (compressed : WellCompressed none (headers ++ media)) (small : csid < 64)
    (completes : CompletesHeaders build headers)
    (le : received ++ data <+: encodeMessages chunkSize csid (headers ++ media))
    (so_far : List.Forall₂ (Reassembled csid) delivered
      (Expected chunkSize csid (headers ++ media) headers.length
        state.1.rtmpCodec.decodeDataStatus received.length)) :
    List.Forall₂ (Reassembled csid) (delivered ++ next.2)
        (Expected chunkSize csid (headers ++ media) headers.length
          next.1.1.rtmpCodec.decodeDataStatus (received ++ data).length) ↔
      CallDelivers chunkSize csid (headers ++ media) headers.length state received.length data := by
  rw [CallDelivers, ← List.length_append]
  cases status : state.1.rtmpCodec.decodeDataStatus with
  | parseDataPack =>
      rw [status] at so_far
      rw [advances.status_data tracks status]
      exact advances.delivers_data tracks ready phase compressed small completes le status so_far
  | parseFirstHeader =>
      rw [status] at so_far
      cases so_far
      rw [List.nil_append]
      rcases Nat.lt_or_ge (state.2 ++ data).length RtmpCodec.startParseLength with few | enough
      · -- the call waits for more bytes
        have waiting : next.1.1.rtmpCodec.decodeDataStatus = .parseFirstHeader := by
          rw [advances.tracks.phase, advances.waits status few, List.append_nil, ← tracks.phase]
          exact status
        rw [advances.delivered, waiting]
        refine iff_of_true .nil fun enough => ?_
        exact absurd enough (Nat.not_le.mpr few)
      · have drained := advances.works (.inr enough)
        have isOver := advances.tracks.status_iff drained ready phase compressed small completes le
        cases after : next.1.1.rtmpCodec.decodeDataStatus with
        | parseFirstHeader =>
            rw [advances.delivered, after]
            refine iff_of_true .nil fun _ covers => ?_
            rw [after] at isOver
            exact absurd (isOver.mpr covers) nofun
        | parseDataPack =>
            have delivers := advances.delivers_headers tracks ready phase compressed small
              completes le status after drained
            rw [Expected, delivers]
            have covers := isOver.mp after
            exact ⟨fun count _ _ => count, fun count => count enough covers⟩

end Calls

/-- One of the calls has found `START_PARSE_LENGTH` bytes in the buffer, and the messages that
complete the sequence headers had come by then. -/
def HeadersRead (build : Build) (manager : RtmpManager) (chunkSize : Nat) (csid : UInt8)
    (sent : List SentMessage) (headers : Nat) (segments : List Bytes) : Prop :=
  ∃ before data, before ++ [data] <+: segments ∧
    RtmpCodec.startParseLength ≤
      (((RtmpManager.delivery build).feedAll (manager, []) before).1.2 ++ data).length ∧
    headers ≤ (messagesWithin chunkSize csid sent (before ++ [data]).flatten.length).length

theorem headersRead_concat {manager : RtmpManager} {chunkSize headers : Nat}
    {sent : List SentMessage} {segments : List Bytes} {data : Bytes} :
    HeadersRead build manager chunkSize csid sent headers (segments ++ [data]) ↔
      HeadersRead build manager chunkSize csid sent headers segments ∨
        RtmpCodec.startParseLength ≤
            (((RtmpManager.delivery build).feedAll (manager, []) segments).1.2 ++ data).length ∧
          headers ≤
            (messagesWithin chunkSize csid sent (segments ++ [data]).flatten.length).length := by
  constructor
  · rintro ⟨before, last, le, reached⟩
    rcases List.prefix_concat_iff.mp le with same | earlier
    · obtain ⟨rfl, one⟩ := List.append_inj' same rfl
      obtain rfl := List.singleton_inj.mp one
      exact .inr reached
    · exact .inl ⟨before, last, earlier, reached⟩
  · rintro (⟨before, last, earlier, reached⟩ | reached)
    · exact ⟨before, last, earlier.trans (List.prefix_append _ _), reached⟩
    · exact ⟨segments, data, List.prefix_rfl, reached⟩

/-- **The data phase begins** with the first call that finds enough bytes and the headers. -/
theorem status_iff_headersRead {manager : RtmpManager} {chunkSize : Nat}
    (ready : manager.rtmpCodec.toChunkDecoder.Ready chunkSize none)
    (phase : manager.rtmpCodec.toHeaderPhase = ⟨.parseFirstHeader, none, none, none⟩)
    (small : csid < 64) {headers media : List SentMessage}
    (compressed : WellCompressed none (headers ++ media))
    (completes : CompletesHeaders build headers) {segments : List Bytes}
    (le : segments.flatten <+: encodeMessages chunkSize csid (headers ++ media)) :
    ((RtmpManager.delivery build).feedAll (manager, [])
        segments).1.1.rtmpCodec.decodeDataStatus = .parseDataPack ↔
      HeadersRead build manager chunkSize csid (headers ++ media) headers.length segments := by
  have first : manager.rtmpCodec.decodeDataStatus = .parseFirstHeader := by rw [phase]
  have missing : manager.rtmpCodec.headerMissing build = true := by
    rw [phase]
    cases build.monitorMode <;> simp [headerMissing]
  induction segments using List.reverseRecOn with
  | nil =>
      refine iff_of_false ?_ ?_
      · rw [Consumer.feedAll, first]
        exact DecodeDataStatus.noConfusion
      · rintro ⟨before, data, le, -⟩
        exact absurd (List.prefix_nil.mp le) (by simp)
  | append_singleton segments data ih =>
      obtain ⟨packs, tracks⟩ := tracks_feedAll ready.sane first missing segments
      obtain ⟨more, advances⟩ := tracks.advances missing data
      rw [List.flatten_append, List.flatten_singleton] at le
      rw [headersRead_concat, Consumer.feedAll_concat, List.flatten_append, List.flatten_singleton]
      refine Iff.trans ?_ (or_congr_left (ih ((List.prefix_append _ _).trans le)))
      constructor
      · intro isOver
        cases status : ((RtmpManager.delivery build).feedAll (manager, [])
            segments).1.1.rtmpCodec.decodeDataStatus with
        | parseDataPack => exact .inl rfl
        | parseFirstHeader =>
            rcases Nat.lt_or_ge (((RtmpManager.delivery build).feedAll (manager, [])
                segments).1.2 ++ data).length RtmpCodec.startParseLength with few | enough
            · rw [advances.tracks.phase, advances.waits status few, List.append_nil,
                ← tracks.phase, status] at isOver
              cases isOver
            · exact .inr ⟨enough, (advances.tracks.status_iff (advances.works (.inr enough)) ready
                phase compressed small completes le).mp isOver⟩
      · rintro (status | ⟨enough, covers⟩)
        · have stays := advances.status_data tracks status
          exact stays
        · exact (advances.tracks.status_iff (advances.works (.inr enough)) ready phase compressed
            small completes le).mpr covers

/-- **The callback is given the right packs exactly in the runs whose calls meet the
condition.** For messages on one chunk stream and any way of cutting their bytes into calls
of `ParseData`: the data phase begins with the first call that finds `START_PARSE_LENGTH` bytes
and the sequence headers among what has come; and after every call the packs passed so far are
the messages completed behind those that complete the sequence headers, each once and in order,
if and only if in each call of the data phase at most one message ends and in the call that
completes the headers exactly one further message ends. -/
theorem delivery_iff (manager : RtmpManager) {chunkSize : Nat}
    (ready : manager.rtmpCodec.toChunkDecoder.Ready chunkSize none)
    (phase : manager.rtmpCodec.toHeaderPhase = ⟨.parseFirstHeader, none, none, none⟩)
    (oneByte : 2 ≤ csid ∧ csid ≤ 63) {headers media : List SentMessage}
    (compressed : WellCompressed none (headers ++ media))
    (completes : CompletesHeaders build headers) {segments : List Bytes}
    (cut : segments.flatten = encodeMessages chunkSize csid (headers ++ media)) :
    (∀ before, before <+: segments →
        (((RtmpManager.delivery build).feedAll (manager, [])
            before).1.1.rtmpCodec.decodeDataStatus = .parseDataPack ↔
          HeadersRead build manager chunkSize csid (headers ++ media) headers.length before)) ∧
      ((∀ before, before <+: segments →
          List.Forall₂ (Reassembled csid)
            ((RtmpManager.delivery build).feedAll (manager, []) before).2
            (Expected chunkSize csid (headers ++ media) headers.length
              ((RtmpManager.delivery build).feedAll (manager, [])
                before).1.1.rtmpCodec.decodeDataStatus
              before.flatten.length)) ↔
        ∀ before data, before ++ [data] <+: segments →
          CallDelivers chunkSize csid (headers ++ media) headers.length
            ((RtmpManager.delivery build).feedAll (manager, []) before).1 before.flatten.length
            data) := by
  have small : csid < 64 := Nat.lt_succ_of_le oneByte.2
  have part {before : List Bytes} (le : before <+: segments) :
      before.flatten <+: encodeMessages chunkSize csid (headers ++ media) := by
    obtain ⟨later, whole⟩ := le
    rw [← cut, ← whole, List.flatten_append]
    exact List.prefix_append _ _
  refine ⟨fun before le =>
    status_iff_headersRead ready phase small compressed completes (part le), ?_⟩
  have first : manager.rtmpCodec.decodeDataStatus = .parseFirstHeader := by rw [phase]
  have missing : manager.rtmpCodec.headerMissing build = true := by
    rw [phase]
    cases build.monitorMode <;> simp [headerMissing]
  refine forall_prefix_iff ?_ fun before data reached so_far => ?_
  · simp only [Consumer.feedAll, first, Expected]
    exact .nil
  · obtain ⟨packs, tracks⟩ := tracks_feedAll ready.sane first missing before
    obtain ⟨more, advances⟩ := tracks.advances missing data
    have le : before.flatten ++ data <+: encodeMessages chunkSize csid (headers ++ media) := by
      have whole := part reached
      rwa [List.flatten_append, List.flatten_singleton] at whole
    rw [Consumer.feedAll_concat, List.flatten_append, List.flatten_singleton]
    exact advances.delivers_iff tracks ready phase compressed small completes le so_far

/-- Sequence headers of a little more than 1000 bytes. -/
def longHeaders : List SentMessage :=
  [plainMessage 18 (List.replicate 1000 0) (by rw [List.length_replicate]; decide),
    plainMessage 9 [1] (by decide), plainMessage 8 [2] (by decide)]

theorem completesHeaders_longHeaders : CompletesHeaders .standard longHeaders where
  complete := by
    refine ⟨⟨_, List.mem_cons_self, rfl⟩, ⟨plainMessage 9 [1] (by decide), ?_, rfl⟩,
      fun _ => ⟨plainMessage 8 [2] (by decide), ?_, rfl⟩⟩
    · exact List.mem_cons_of_mem _ List.mem_cons_self
    · exact List.mem_cons_of_mem _ (List.mem_cons_of_mem _ List.mem_cons_self)
  needed before le other has := by
    have short : before.length < 3 :=
      Nat.lt_of_le_of_ne le.length_le fun same => other (le.eq_of_length same)
    have cut : before <+: longHeaders.take 2 := List.prefix_take_iff.mpr ⟨le, by omega⟩
    obtain ⟨one, member, type⟩ := has.audio rfl
    rcases List.mem_cons.mp (cut.subset member) with rfl | member
    · cases type
    · obtain rfl := List.mem_singleton.mp member
      cases type

/-- One frame. -/
def oneFrame : List SentMessage := [plainMessage 9 [3] (by decide)]

/-- One frame behind the headers, all in one read, is passed. -/
theorem delivery_iff_oneFrame :
    let stream := encodeMessages 4096 4 (longHeaders ++ oneFrame)
    let run := (RtmpManager.delivery .standard).feedAll (.atStart .standard, []) [stream]
    List.Forall₂ (Reassembled 4) run.2
      (Expected 4096 4 (longHeaders ++ oneFrame) longHeaders.length
        run.1.1.rtmpCodec.decodeDataStatus [stream].flatten.length) := by
  have ready : (RtmpManager.atStart .standard).rtmpCodec.toChunkDecoder.Ready 4096 none :=
    ⟨⟨by decide, by decide⟩, rfl, rfl, rfl, rfl, nofun⟩
  have compressed : WellCompressed none (longHeaders ++ oneFrame) :=
    ⟨rfl, trivial, trivial, trivial, trivial⟩
  have cut : [encodeMessages 4096 4 (longHeaders ++ oneFrame)].flatten =
      encodeMessages 4096 4 (longHeaders ++ oneFrame) := List.flatten_singleton
  refine (delivery_iff (.atStart .standard) ready rfl (by decide) compressed
    completesHeaders_longHeaders cut).2.mpr ?_ _ List.prefix_rfl
  intro before data reached
  obtain ⟨nothing, same⟩ := concat_prefix_singleton.mp reached
  have status : ((RtmpManager.delivery .standard).feedAll (RtmpManager.atStart .standard, [])
    []).1.1.rtmpCodec.decodeDataStatus = .parseFirstHeader := rfl
  have all := messagesWithin_encodeMessages 4096 4 (longHeaders ++ oneFrame)
  rw [nothing, same, CallDelivers, status, List.flatten_nil, List.length_nil, Nat.zero_add, all]
  exact fun _ _ => rfl

/-- **The packs passed depend on the reads.** Of two frames in one read only the second is
passed, and a read that ends with the sequence headers passes the last of these. -/
theorem delivery_depends_on_reads :
    let media := [plainMessage 9 [3] (by decide), plainMessage 9 [4] (by decide)]
    let two := (RtmpManager.delivery .standard).feedAll (.atStart .standard, [])
      [encodeMessages 4096 4 (longHeaders ++ media)]
    let none := (RtmpManager.delivery .standard).feedAll (.atStart .standard, [])
      [encodeMessages 4096 4 longHeaders]
    (two.1.1.rtmpCodec.decodeDataStatus = .parseDataPack ∧ two.1.2 = [] ∧
        two.2.map RtmpPack.buffer = [[4]] ∧ ¬ List.Forall₂ (Reassembled 4) two.2 media) ∧
      none.1.1.rtmpCodec.decodeDataStatus = .parseDataPack ∧
        none.2.map RtmpPack.buffer = [[2]] := by
  intro media two none
  have last : two.2.map RtmpPack.buffer = [[4]] := by decide +kernel
  refine ⟨⟨by decide +kernel, by decide +kernel, last, fun all => ?_⟩, by decide +kernel,
    by decide +kernel⟩
  have count := all.length_eq
  rw [← List.length_map, last] at count
  cases count

end LiveBroadcast
