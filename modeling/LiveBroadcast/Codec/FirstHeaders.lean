import LiveBroadcast.Codec.Delivery

/-!
# Which sequence headers are kept

`ParseFirstHeader` keeps a pack of each header type until none is missing, and every viewer
is later sent these packs first. A type that has been seen is stored again whenever another
message of it arrives before the last missing one, so what is kept is the last message of the
type that arrived in the first phase, not the first (`firstPack_foldl`).

**Main.** Over any bytes and any way of cutting them into calls, the stored packs are the
first of their type exactly when each type ends the phase with the message it began with
(`keepsFirst_iff`). For messages on one chunk stream the packs of the phase are the messages
that complete the headers (`arriving_reassembled`).
-/

set_option autoImplicit false

namespace LiveBroadcast

open ChunkDecoder

/-- The first pack of a type. -/
def firstOf (type : RtmpPackType) (packs : List RtmpPack) : Option RtmpPack :=
  packs.find? fun pack => pack.packType = type

/-- The last pack of a type. -/
def lastOf (type : RtmpPackType) (packs : List RtmpPack) : Option RtmpPack :=
  firstOf type packs.reverse

theorem lastOf_cons (type : RtmpPackType) (pack : RtmpPack) (packs : List RtmpPack) :
    lastOf type (pack :: packs) =
      (lastOf type packs).or (if pack.packType = type then some pack else none) := by
  rw [lastOf, firstOf, List.reverse_cons, List.find?_append]
  by_cases same : pack.packType = type
  · rw [List.find?_cons_of_pos (by simpa using same), if_pos same]
    rfl
  · rw [List.find?_cons_of_neg (by simpa using same), if_neg same]
    rfl

namespace HeaderPhase

/-- The types of the sequence headers. -/
def headerTypes : List RtmpPackType := [.rtmpScript, .rtmpVideo, .rtmpAudio]

/-- The pack stored for a type. -/
def firstPack (phase : HeaderPhase) (type : RtmpPackType) : Option RtmpPack :=
  match type with
  | .rtmpScript => phase.firstScriptPack
  | .rtmpVideo => phase.firstVideoPack
  | .rtmpAudio => phase.firstAudioPack
  | _ => none

/-- Of the packs finished one after the other, those that arrive in the first phase. -/
def arriving (build : Build) : HeaderPhase → List RtmpPack → List RtmpPack
  | _, [] => []
  | phase, pack :: packs =>
      match phase.decodeDataStatus with
      | .parseDataPack => []
      | .parseFirstHeader => pack :: arriving build (phase.collect build pack) packs

variable {build : Build} {phase : HeaderPhase} {type : RtmpPackType}

/-- A pack of a header type is stored, whatever was stored for the type before. -/
theorem firstPack_keepFirstPack (phase : HeaderPhase) (header : type ∈ headerTypes)
    (pack : RtmpPack) :
    (phase.keepFirstPack pack).firstPack type =
      if pack.packType = type then some pack else phase.firstPack type := by
  rw [headerTypes, List.mem_cons, List.mem_cons, List.mem_singleton] at header
  rcases header with rfl | rfl | rfl <;>
    cases kind : pack.packType <;> simp [keepFirstPack, firstPack, kind]

theorem firstPack_collect (first : phase.decodeDataStatus = .parseFirstHeader)
    (header : type ∈ headerTypes) (pack : RtmpPack) :
    (phase.collect build pack).firstPack type =
      if pack.packType = type then some pack else phase.firstPack type := by
  rw [← firstPack_keepFirstPack phase header pack]
  cases more : (phase.keepFirstPack pack).headerMissing build with
  | true => rw [collect_missing first more]
  | false =>
      rw [collect_complete first more]
      cases type <;> rfl

/-- **What is stored for a type** is the last pack of the type that arrived in the phase. -/
theorem firstPack_foldl (header : type ∈ headerTypes) (packs : List RtmpPack) :
    (packs.foldl (collect build) phase).firstPack type =
      (lastOf type (phase.arriving build packs)).or (phase.firstPack type) := by
  induction packs generalizing phase with
  | nil => rfl
  | cons pack packs ih =>
      cases status : phase.decodeDataStatus with
      | parseDataPack =>
          rw [foldl_collect_data status, arriving, status]
          rfl
      | parseFirstHeader =>
          rw [List.foldl_cons, ih, firstPack_collect status header, arriving, status,
            lastOf_cons, Option.or_assoc]
          congr 1
          split <;> rfl

theorem arriving_data (data : phase.decodeDataStatus = .parseDataPack)
    (packs : List RtmpPack) : phase.arriving build packs = [] := by
  cases packs with
  | nil => rfl
  | cons pack packs => rw [arriving, data]

end HeaderPhase

open HeaderPhase

variable {build : Build}

/-- The packs that a run finishes in the first phase. -/
def RtmpManager.headerPacks (build : Build) (manager : RtmpManager) (received : Bytes) :
    List RtmpPack :=
  manager.rtmpCodec.toHeaderPhase.arriving build
    (ChunkDecoder.drain manager.rtmpCodec.toChunkDecoder received).2

/-- **The stored headers are the first of their type exactly when none is replaced.** Over
every byte stream and every way of cutting it into calls of `ParseData`: once the phase is
over, the pack stored for each type is the first of the type that arrived in the phase, if
and only if the last one that arrived is the same. -/
theorem keepsFirst_iff (manager : RtmpManager)
    (sane : manager.rtmpCodec.toChunkDecoder.Sane)
    (phase : manager.rtmpCodec.toHeaderPhase = ⟨.parseFirstHeader, none, none, none⟩)
    {segments : List Bytes}
    (isOver : ((RtmpManager.delivery build).feedAll (manager, [])
      segments).1.1.rtmpCodec.decodeDataStatus = .parseDataPack) :
    (∀ type ∈ headerTypes,
        ((RtmpManager.delivery build).feedAll (manager, [])
            segments).1.1.rtmpCodec.firstPack type =
          firstOf type (manager.headerPacks build segments.flatten)) ↔
      ∀ type ∈ headerTypes,
        lastOf type (manager.headerPacks build segments.flatten) =
          firstOf type (manager.headerPacks build segments.flatten) := by
  have first : manager.rtmpCodec.decodeDataStatus = .parseFirstHeader := by rw [phase]
  have missing : manager.rtmpCodec.headerMissing build = true := by
    rw [phase]
    cases build.monitorMode <;> simp [headerMissing]
  obtain ⟨packs, tracks⟩ := @tracks_feedAll build manager sane first missing segments
  have finished : (ChunkDecoder.drain manager.rtmpCodec.toChunkDecoder segments.flatten).2 =
      packs := by
    have whole := tracks.passes.drains []
    rw [List.append_nil, List.append_nil, (tracks.drained isOver).2, List.append_nil] at whole
    rw [whole]
  refine forall₂_congr fun type header => ?_
  have stored : (manager.rtmpCodec.toHeaderPhase).firstPack type = none := by
    rw [phase]
    cases type <;> rfl
  rw [tracks.phase, firstPack_foldl header, stored, Option.or_none,
    RtmpManager.headerPacks, finished]

/-- Headers that are sent once are kept. -/
theorem keepsFirst_iff_longHeaders :
    let stream := encodeMessages 4096 4 (longHeaders ++ oneFrame)
    ∀ type ∈ headerTypes,
      ((RtmpManager.delivery .standard).feedAll (.atStart .standard, [])
          [stream]).1.1.rtmpCodec.firstPack type =
        firstOf type ((RtmpManager.atStart .standard).headerPacks .standard
          [stream].flatten) := by
  have sane : (RtmpManager.atStart .standard).rtmpCodec.toChunkDecoder.Sane :=
    ⟨⟨by decide, by decide⟩, by decide⟩
  exact (keepsFirst_iff (.atStart .standard) sane rfl (by decide +kernel)).mpr
    (by decide +kernel)

/-! ## The messages of the phase -/

/-- The packs that arrive in the phase are the messages up to the one that completes the
headers. -/
theorem Seen.arriving {csid : UInt8} {phase : HeaderPhase} {before : List SentMessage}
    (seen : Seen build phase before) {packs : List RtmpPack} {sent left : List SentMessage}
    (same : List.Forall₂ (Reassembled csid) packs sent)
    (completes : CompletesHeaders build (before ++ left)) (more : left ≠ [])
    (le : left <+: sent) : List.Forall₂ (Reassembled csid) (phase.arriving build packs) left := by
  induction same generalizing phase before left with
  | nil => exact absurd (List.prefix_nil.mp le) more
  | @cons pack one packs sent here _ ih =>
      obtain ⟨next, left, rfl⟩ := List.exists_cons_of_ne_nil more
      obtain ⟨rfl, behind⟩ := List.cons_prefix_cons.mp le
      have kept := seen.keepFirstPack here
      rw [List.append_cons] at completes
      rw [HeaderPhase.arriving, seen.first]
      refine .cons here ?_
      by_cases last : left = []
      · subst last
        rw [List.append_nil] at completes
        have complete := kept.headerMissing.mpr completes.complete
        rw [collect_complete seen.first complete, arriving_data rfl]
        exact .nil
      · have has : ¬ HasHeaders build (before ++ [next]) := by
          apply completes.needed _ (List.prefix_append _ _)
          intro whole
          exact last (List.self_eq_append_right.mp whole)
        have missing : (phase.keepFirstPack pack).headerMissing build = true := by
          rw [← Bool.not_eq_false, kept.headerMissing]
          exact has
        rw [collect_missing seen.first missing]
        exact ih kept completes last behind

/-- **The packs of the phase are the messages that complete the headers**, for messages on
one chunk stream of which at least these have arrived. -/
theorem headerPacks_reassembled (manager : RtmpManager) {chunkSize : Nat} {csid : UInt8}
    (ready : manager.rtmpCodec.toChunkDecoder.Ready chunkSize none)
    (phase : manager.rtmpCodec.toHeaderPhase = ⟨.parseFirstHeader, none, none, none⟩)
    (oneByte : 2 ≤ csid ∧ csid ≤ 63) {headers media : List SentMessage}
    (compressed : WellCompressed none (headers ++ media))
    (completes : CompletesHeaders build headers) {received : Bytes}
    (le : received <+: encodeMessages chunkSize csid (headers ++ media))
    (covers : headers.length ≤
      (messagesWithin chunkSize csid (headers ++ media) received.length).length) :
    List.Forall₂ (Reassembled csid) (manager.headerPacks build received) headers := by
  have small : csid < 64 := Nat.lt_succ_of_le oneByte.2
  have all := ready.drain_prefix compressed small le
  have seen : Seen build manager.rtmpCodec.toHeaderPhase [] := by
    rw [phase]
    refine ⟨rfl, ?_, ?_, ?_⟩ <;> simp [HasType]
  refine seen.arriving all completes ?_ ?_
  · rintro rfl
    obtain ⟨one, member, -⟩ := completes.complete.script
    exact absurd member List.not_mem_nil
  · exact List.prefix_of_prefix_length_le (List.prefix_append _ _)
      (messagesWithin_initial _ _ _ _) covers

theorem zeros_short : (List.replicate 1000 (0 : UInt8)).length < 2 ^ 24 := by
  rw [List.length_replicate]
  decide

theorem byte_short (byte : UInt8) : [byte].length < 2 ^ 24 := by
  rw [List.length_singleton]
  decide

/-- A message with one byte. -/
def byteMessage (type byte : UInt8) : SentMessage := plainMessage type [byte] (byte_short byte)

/-- Headers of a little more than 1000 bytes, of which the video header is sent twice. -/
def repeatedVideo : List SentMessage :=
  [plainMessage 18 (List.replicate 1000 0) zeros_short, byteMessage 9 1, byteMessage 9 2,
    byteMessage 8 3]

/-- **A header that is sent twice is replaced.** Of two video messages in front of the first
audio message the second is kept. -/
theorem secondHeader_replaces :
    let stream := encodeMessages 4096 4 repeatedVideo
    let after := ((RtmpManager.delivery .standard).feedAll (.atStart .standard, []) [stream]).1.1
    let packs := (RtmpManager.atStart .standard).headerPacks .standard stream
    after.rtmpCodec.decodeDataStatus = .parseDataPack ∧
      (after.rtmpCodec.firstPack .rtmpVideo).map RtmpPack.buffer = some [2] ∧
      (firstOf .rtmpVideo packs).map RtmpPack.buffer = some [1] ∧
      ¬ ∀ type ∈ headerTypes, after.rtmpCodec.firstPack type = firstOf type packs := by
  decide +kernel

end LiveBroadcast
