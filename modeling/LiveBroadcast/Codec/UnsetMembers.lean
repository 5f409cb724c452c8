import LiveBroadcast.Codec.Chunking

/-!
# The members that the constructor does not set

`RtmpCodec::RtmpCodec` sets the two status members, and `rtmp_chunk_size_` has an initializer.
`read_chunk_size_`, `chunk_over_` and the header fields of the two packs have the values that
memory happens to have (`UnsetMembers`).

A stream whose first chunk has a FMT0 header overwrites the header fields of the current pack
before they are read, and `DecodeBody` overwrites `chunk_over_`. But it reads
`read_chunk_size_`, to see whether the chunk is at its beginning. So two codecs decode all
such streams alike exactly when they agree on this member (`decoding_determined_iff`).
-/

set_option autoImplicit false

namespace LiveBroadcast

open ChunkDecoder

/-- The first chunk of the bytes has a FMT0 header. -/
def StartsFmt0 : Bytes → Prop
  | [] => True
  | first :: _ => RtmpPackFmt.ofByte (first >>> 6) = some .fmt0

instance : DecidablePred StartsFmt0
  | [] => inferInstanceAs (Decidable True)
  | first :: _ => inferInstanceAs (Decidable (RtmpPackFmt.ofByte (first >>> 6) = some .fmt0))

/-- Two codecs, whose unset members have these values, complete the same packs from the same
segments, and leave the same bytes unread. -/
def SameDecoding (build : Build) (unset other : UnsetMembers) (segments : List Bytes) : Prop :=
  (drainConsumer.feedAll ((RtmpCodec.construct build unset).toChunkDecoder, []) segments).2 =
      (drainConsumer.feedAll ((RtmpCodec.construct build other).toChunkDecoder, []) segments).2 ∧
    (drainConsumer.feedAll ((RtmpCodec.construct build unset).toChunkDecoder, []) segments).1.2 =
      (drainConsumer.feedAll ((RtmpCodec.construct build other).toChunkDecoder, []) segments).1.2

theorem StartsFmt0.left {a b : Bytes} (starts : StartsFmt0 (a ++ b)) : StartsFmt0 a := by
  cases a with
  | nil => trivial
  | cons first rest => exact starts

namespace ChunkDecoder

/-! ## Decoders that agree -/

/-- The decoders agree on all that a call of `DecodePack` reads before it writes it. -/
structure Agree (decoder other : ChunkDecoder) : Prop where
  decodePackStatus : decoder.decodePackStatus = other.decodePackStatus
  rtmpChunkSize : decoder.rtmpChunkSize = other.rtmpChunkSize
  readChunkSize : decoder.readChunkSize = other.readChunkSize
  currentRtmpPack : decoder.currentRtmpPack = other.currentRtmpPack

/-- The decoders have read nothing yet. -/
structure Fresh (decoder other : ChunkDecoder) : Prop where
  inHeader : decoder.decodePackStatus = .parseRtmpHeader
  otherInHeader : other.decodePackStatus = .parseRtmpHeader
  rtmpChunkSize : decoder.rtmpChunkSize = other.rtmpChunkSize
  readChunkSize : decoder.readChunkSize = other.readChunkSize
  empty : decoder.currentRtmpPack.buffer = []
  otherEmpty : other.currentRtmpPack.buffer = []

/-- Two calls of `DecodePack` that do the same: they take the same bytes, finish the same packs
and leave decoders that agree. -/
structure Alike (step other : DecodePackResult) : Prop where
  buffer : step.buffer = other.buffer
  result : step.result = other.result
  raised : step.raised = other.raised
  agree : Agree step.decoder other.decoder

variable {decoder other : ChunkDecoder}

theorem Agree.isChunkOver (agree : Agree decoder other) :
    decoder.isChunkOver = other.isChunkOver := by
  rw [ChunkDecoder.isChunkOver, ChunkDecoder.isChunkOver, agree.rtmpChunkSize,
    agree.readChunkSize, agree.currentRtmpPack]

theorem Agree.chunkNeed (agree : Agree decoder other) : decoder.chunkNeed = other.chunkNeed := by
  rw [ChunkDecoder.chunkNeed, ChunkDecoder.chunkNeed, agree.isChunkOver, agree.rtmpChunkSize,
    agree.readChunkSize, agree.currentRtmpPack]

theorem Agree.takePart (agree : Agree decoder other) (data : Bytes) :
    Agree (decoder.takePart data) (other.takePart data) := by
  refine ⟨?_, ?_, ?_, ?_⟩
  · rw [takePart_decodePackStatus, takePart_decodePackStatus, agree.decodePackStatus]
  · rw [takePart_rtmpChunkSize, takePart_rtmpChunkSize, agree.rtmpChunkSize]
  · rw [ChunkDecoder.takePart, ChunkDecoder.takePart, agree.isChunkOver, agree.readChunkSize]
  · rw [takePart_currentRtmpPack, takePart_currentRtmpPack, agree.currentRtmpPack]

/-- Closing the last chunk of a message leaves the same finished pack as well. -/
theorem Agree.closeChunk (agree : Agree decoder other) (data : Bytes) :
    Agree (decoder.closeChunk data) (other.closeChunk data) ∧
      (decoder.isChunkOver = true →
        (decoder.closeChunk data).lastRtmpPack = (other.closeChunk data).lastRtmpPack) := by
  have same := agree.isChunkOver
  obtain ⟨status, size, read, pack⟩ := agree
  rw [ChunkDecoder.closeChunk, ChunkDecoder.closeChunk, ← same]
  cases decoder.isChunkOver with
  | true =>
      simp only [if_true, pack]
      exact ⟨⟨rfl, size, read, rfl⟩, fun _ => trivial⟩
  | false =>
      simp only [Bool.false_eq_true, if_false, pack]
      exact ⟨⟨rfl, size, rfl, rfl⟩, False.elim⟩

/-- The second half of `DecodePack`. -/
theorem Agree.decodePackBody (agree : Agree decoder other) (buffer : Bytes) (readLength : Int) :
    Alike (decoder.decodePackBody buffer readLength) (other.decodePackBody buffer readLength) := by
  have status := agree.decodePackStatus
  cases here : decoder.decodePackStatus with
  | parseRtmpHeader =>
      rw [here] at status
      rw [decodePackBody_inHeader _ _ here, decodePackBody_inHeader _ _ status.symm]
      exact ⟨rfl, rfl, rfl, agree⟩
  | parseRtmpBody =>
      rw [here] at status
      have need := agree.chunkNeed
      rcases Nat.lt_or_ge buffer.length decoder.chunkNeed with short | enough
      · rw [decodePackBody_short _ here short,
          decodePackBody_short _ status.symm (need ▸ short)]
        exact ⟨rfl, rfl, rfl, agree.takePart buffer⟩
      · rw [decodePackBody_enough _ here enough,
          decodePackBody_enough _ status.symm (need ▸ enough), ← need, ← agree.isChunkOver]
        obtain ⟨closed, last⟩ := agree.closeChunk (buffer.take decoder.chunkNeed)
        refine ⟨rfl, rfl, ?_, closed⟩
        simp only [DecodePackResult.raised]
        split
        · next isOver => rw [last isOver]
        · rfl

theorem Agree.openBody (agree : Agree decoder other) (buffer : Bytes) :
    Agree (decoder.openBody buffer) (other.openBody buffer) := by
  obtain ⟨-, size, read, pack⟩ := agree
  exact ⟨rfl, size, read, by rw [ChunkDecoder.openBody, ChunkDecoder.openBody, pack]⟩

/-- **One call of `DecodePack`**, for decoders that agree. -/
theorem Agree.decodePack (agree : Agree decoder other) (buffer : Bytes) :
    Alike (decoder.decodePack buffer) (other.decodePack buffer) := by
  have status := agree.decodePackStatus
  cases buffer with
  | nil => exact ⟨rfl, rfl, rfl, agree⟩
  | cons first rest =>
      cases here : decoder.decodePackStatus with
      | parseRtmpBody =>
          rw [here] at status
          rw [decodePack_inBody here (List.cons_ne_nil _ _),
            decodePack_inBody status.symm (List.cons_ne_nil _ _)]
          exact agree.decodePackBody _ _
      | parseRtmpHeader =>
          rw [here] at status
          by_cases whole : RtmpPack.HeaderComplete (first :: rest)
          · rw [decodePack_header here whole, decodePack_header status.symm whole]
            exact (agree.openBody _).decodePackBody _ _
          · rw [decodePack_cut here whole, decodePack_cut status.symm whole]
            obtain ⟨-, size, read, pack⟩ := agree
            refine ⟨rfl, rfl, rfl, ⟨here.trans status, size, read, ?_⟩⟩
            rw [touch, touch, pack]

/-- **Decoders that agree drain alike.** -/
theorem Agree.drain (agree : Agree decoder other) (buffer : Bytes) :
    (ChunkDecoder.drain decoder buffer).2 = (ChunkDecoder.drain other buffer).2 ∧
      (ChunkDecoder.drain decoder buffer).1.2 = (ChunkDecoder.drain other buffer).1.2 ∧
      Agree (ChunkDecoder.drain decoder buffer).1.1 (ChunkDecoder.drain other buffer).1.1 := by
  induction length : buffer.length using Nat.strongRecOn generalizing decoder other buffer with
  | ind n ih =>
      subst length
      obtain ⟨bytes, result, raised, behind⟩ := agree.decodePack buffer
      by_cases stops : (decoder.decodePack buffer).result = 0
      · rw [drain_stop stops, @drain_stop other buffer (by rw [← result, stops])]
        exact ⟨raised, bytes, behind⟩
      · rw [drain_go stops, @drain_go other buffer (by rw [← result]; exact stops), ← bytes,
          raised]
        obtain ⟨packs, unread, agree'⟩ := ih _ (decodePack_shorter stops) behind _ rfl
        exact ⟨by rw [packs], unread, agree'⟩

/-! ## The first header -/

/-- The eleven bytes of a FMT0 header, and what is behind them. -/
theorem fields_of_length {rest : Bytes} (enough : 11 ≤ rest.length) :
    ∃ t0 t1 t2 s0 s1 s2 type i0 i1 i2 i3 behind,
      rest = t0 :: t1 :: t2 :: s0 :: s1 :: s2 :: type :: i0 :: i1 :: i2 :: i3 :: behind := by
  refine ⟨rest[0], rest[1], rest[2], rest[3], rest[4], rest[5], rest[6], rest[7], rest[8], rest[9],
    rest[10], rest.drop 11, ?_⟩
  simp only [List.getElem_cons_drop, List.drop_zero]

/-- **A FMT0 header overwrites all fields of a pack.** -/
theorem decodeHeader_fmt0 {pack another : RtmpPack} (empty : pack.buffer = [])
    (otherEmpty : another.buffer = []) {buffer : Bytes} (starts : StartsFmt0 buffer)
    (whole : RtmpPack.HeaderComplete buffer) :
    (pack.decodeHeader buffer).1 = (another.decodeHeader buffer).1 := by
  cases buffer with
  | nil => exact whole.elim
  | cons first rest =>
      have format : RtmpPackFmt.ofByte (first >>> 6) = some .fmt0 := starts
      have length : 12 ≤ rest.length + 1 := by
        simpa [RtmpPack.HeaderComplete, RtmpPack.headerSize, format,
          RtmpPackFmt.headerLength] using whole
      obtain ⟨t0, t1, t2, s0, s1, s2, type, i0, i1, i2, i3, rest, rfl⟩ :=
        fields_of_length (Nat.le_of_succ_le_succ length)
      simp only [RtmpPack.decodeHeader, format, RtmpPack.decodeFields, RtmpPack.decodeFmt0,
        RtmpPack.decodeFmt1, RtmpPack.setPackType, empty, otherEmpty]

/-- Fresh decoders that find a whole FMT0 header agree behind it. -/
theorem Fresh.openBody (fresh : Fresh decoder other) {buffer : Bytes} (starts : StartsFmt0 buffer)
    (whole : RtmpPack.HeaderComplete buffer) :
    Agree (decoder.openBody buffer) (other.openBody buffer) := by
  refine ⟨rfl, ?_, ?_, decodeHeader_fmt0 fresh.empty fresh.otherEmpty starts whole⟩
  · rw [openBody_rtmpChunkSize, openBody_rtmpChunkSize, fresh.rtmpChunkSize]
  · rw [openBody_readChunkSize, openBody_readChunkSize, fresh.readChunkSize]

theorem Fresh.touch (fresh : Fresh decoder other) (buffer : Bytes) :
    Fresh (decoder.touch buffer) (other.touch buffer) := by
  obtain ⟨inHeader, otherInHeader, size, read, empty, otherEmpty⟩ := fresh
  refine ⟨inHeader, otherInHeader, size, read, ?_, ?_⟩
  · rw [ChunkDecoder.touch, RtmpPack.touchHeader_buffer, empty]
  · rw [ChunkDecoder.touch, RtmpPack.touchHeader_buffer, otherEmpty]

/-- **Fresh decoders drain alike.** Behind the first header they agree; until it is whole, they
stay fresh and every byte stays unread. -/
theorem Fresh.drain (fresh : Fresh decoder other) {buffer : Bytes} (starts : StartsFmt0 buffer) :
    (ChunkDecoder.drain decoder buffer).2 = (ChunkDecoder.drain other buffer).2 ∧
      (ChunkDecoder.drain decoder buffer).1.2 = (ChunkDecoder.drain other buffer).1.2 ∧
      (Agree (ChunkDecoder.drain decoder buffer).1.1 (ChunkDecoder.drain other buffer).1.1 ∨
        Fresh (ChunkDecoder.drain decoder buffer).1.1 (ChunkDecoder.drain other buffer).1.1 ∧
          (ChunkDecoder.drain decoder buffer).1.2 = buffer) := by
  by_cases whole : RtmpPack.HeaderComplete buffer
  · cases buffer with
    | nil => exact whole.elim
    | cons first rest =>
        have call := (fresh.openBody starts whole).decodePackBody
          ((first :: rest).drop (RtmpPack.headerSize first)) (RtmpPack.headerSize first)
        rw [← decodePack_header fresh.inHeader whole,
          ← decodePack_header fresh.otherInHeader whole] at call
        obtain ⟨bytes, result, raised, behind⟩ := call
        by_cases stops : (decoder.decodePack (first :: rest)).result = 0
        · rw [drain_stop stops, @drain_stop other (first :: rest) (by rw [← result, stops])]
          exact ⟨raised, bytes, .inl behind⟩
        · rw [drain_go stops, @drain_go other (first :: rest) (by rw [← result]; exact stops),
            ← bytes, raised]
          obtain ⟨packs, unread, agree⟩ := behind.drain (decoder.decodePack (first :: rest)).buffer
          exact ⟨by rw [packs], unread, .inl agree⟩
  · rw [drain_cut fresh.inHeader whole, drain_cut fresh.otherInHeader whole]
    exact ⟨rfl, rfl, .inr ⟨fresh.touch buffer, rfl⟩⟩

/-- Two readers of the same bytes: they have the same bytes unread, and their decoders agree, or
are fresh and have read none of the bytes so far. -/
def Beside (before : Bytes) (left right : ChunkDecoder × Bytes) : Prop :=
  left.2 = right.2 ∧ (Agree left.1 right.1 ∨ Fresh left.1 right.1 ∧ left.2 = before)

/-- A piece read by both. -/
theorem Beside.feed {before piece : Bytes} {left right : ChunkDecoder × Bytes}
    (beside : Beside before left right) (starts : StartsFmt0 (before ++ piece)) :
    (drainConsumer.feed left piece).2 = (drainConsumer.feed right piece).2 ∧
      Beside (before ++ piece) (drainConsumer.feed left piece).1
        (drainConsumer.feed right piece).1 := by
  obtain ⟨unread, agree | ⟨fresh, all⟩⟩ := beside
  · obtain ⟨packs, rest, agree'⟩ := agree.drain (left.2 ++ piece)
    simp only [drainConsumer, ← unread]
    exact ⟨packs, rest, .inl agree'⟩
  · rw [← all] at starts ⊢
    obtain ⟨packs, rest, behind⟩ := fresh.drain starts
    simp only [drainConsumer, ← unread]
    exact ⟨packs, rest, behind⟩

end ChunkDecoder

namespace RtmpCodec

variable {build : Build} {unset other : UnsetMembers}

/-- **Codecs that agree on `read_chunk_size_` decode alike.** -/
theorem sameDecoding_of_readChunkSize (same : unset.readChunkSize = other.readChunkSize)
    {segments : List Bytes} (starts : StartsFmt0 segments.flatten) :
    SameDecoding build unset other segments := by
  have beside : Beside [] ((construct build unset).toChunkDecoder, [])
      ((construct build other).toChunkDecoder, []) :=
    ⟨rfl, .inr ⟨⟨rfl, rfl, rfl, same, rfl, rfl⟩, rfl⟩⟩
  obtain ⟨packs, behind⟩ := Consumer.feedAll_related (fun _ _ => StartsFmt0.left)
    (fun _ _ _ _ => Beside.feed) beside starts
  exact ⟨packs, behind.1⟩

/-! ## Codecs that differ -/

/-- The FMT0 header of a video message of length 0. -/
def emptyVideoHeader : Bytes := [4, 0, 0, 0, 0, 0, 0, 9, 1, 0, 0, 0]

/-- The decoder behind this header. -/
def behindHeader (build : Build) (unset : UnsetMembers) : ChunkDecoder :=
  (construct build unset).toChunkDecoder.openBody emptyVideoHeader

theorem decodePack_emptyVideoHeader (build : Build) (unset : UnsetMembers) (body : Bytes) :
    (construct build unset).toChunkDecoder.decodePack (emptyVideoHeader ++ body) =
      (behindHeader build unset).decodePackBody body 12 := by
  have whole : RtmpPack.HeaderComplete (emptyVideoHeader ++ body) :=
    RtmpPack.HeaderComplete.append (by decide) body
  exact decodePack_header rfl whole

theorem startsFmt0_emptyVideoHeader (body : Bytes) : StartsFmt0 (emptyVideoHeader ++ body) := by
  show RtmpPackFmt.ofByte ((4 : UInt8) >>> 6) = some .fmt0
  decide

theorem behindHeader_inBody (build : Build) (unset : UnsetMembers) :
    (behindHeader build unset).decodePackStatus = .parseRtmpBody := rfl

theorem behindHeader_remain (build : Build) (unset : UnsetMembers) :
    (behindHeader build unset).currentRtmpPack.getBodyRemainSize = 0 := by
  have size : (behindHeader build unset).currentRtmpPack.dataSize = ⟨0, 0, 0⟩ := rfl
  have empty : (behindHeader build unset).currentRtmpPack.buffer = [] := rfl
  rw [RtmpPack.getBodyRemainSize, RtmpPack.getBodyDataSize, RtmpPack.getBodyCurrentSize, size,
    empty]
  decide

theorem behindHeader_readChunkSize (build : Build) (unset : UnsetMembers) :
    (behindHeader build unset).readChunkSize = unset.readChunkSize := rfl

theorem behindHeader_rtmpChunkSize (build : Build) (unset : UnsetMembers) :
    (behindHeader build unset).rtmpChunkSize = initialChunkSize build := rfl

theorem behindHeader_isChunkOver (build : Build) (unset : UnsetMembers) :
    (behindHeader build unset).isChunkOver = decide (unset.readChunkSize = 0) := by
  rw [isChunkOver, behindHeader_remain, decide_eq_true (Nat.zero_le _), Bool.true_and,
    behindHeader_readChunkSize]

theorem behindHeader_chunkNeed {build : Build} (started : unset.readChunkSize ≠ 0) :
    (behindHeader build unset).chunkNeed = sub32 (initialChunkSize build) unset.readChunkSize := by
  rw [chunkNeed, behindHeader_isChunkOver, decide_eq_false started, if_neg Bool.false_ne_true,
    behindHeader_rtmpChunkSize, behindHeader_readChunkSize]

/-- At the beginning of a chunk, the header alone completes a pack. -/
theorem drain_emptyVideoHeader_zero (build : Build) (start : unset.readChunkSize = 0) :
    (ChunkDecoder.drain (construct build unset).toChunkDecoder emptyVideoHeader).2 ≠ [] := by
  have call := decodePack_emptyVideoHeader build unset []
  have isOver : (behindHeader build unset).isChunkOver = true := by
    rw [behindHeader_isChunkOver, decide_eq_true start]
  have need : (behindHeader build unset).chunkNeed = 0 := by
    rw [chunkNeed, if_pos isOver, behindHeader_remain]
  rw [List.append_nil, decodePackBody_enough _ (behindHeader_inBody _ _)
    (by rw [need]; exact Nat.zero_le _), isOver] at call
  rw [drain_go (by rw [call]; dsimp only; omega), call]
  exact List.cons_ne_nil _ _

/-- Otherwise it completes none. -/
theorem drain_emptyVideoHeader_ne (build : Build) (started : unset.readChunkSize ≠ 0) :
    (ChunkDecoder.drain (construct build unset).toChunkDecoder emptyVideoHeader).2 = [] := by
  have call := decodePack_emptyVideoHeader build unset []
  have split : (behindHeader build unset).isChunkOver = false := by
    rw [behindHeader_isChunkOver, decide_eq_false started]
  rw [List.append_nil] at call
  rcases Nat.eq_zero_or_pos (behindHeader build unset).chunkNeed with need | need
  · rw [decodePackBody_enough _ (behindHeader_inBody _ _) (by rw [need]; exact Nat.zero_le _),
      split] at call
    rw [drain_go (by rw [call]; dsimp only; omega), call]
    simp only [DecodePackResult.raised, Bool.false_eq_true, if_false, List.drop_nil, drain_nil,
      List.append_nil]
  · rw [decodePackBody_short _ (behindHeader_inBody _ _)
      (show ([] : Bytes).length < (behindHeader build unset).chunkNeed from need)] at call
    rw [drain_go (by rw [call]; dsimp only; omega), call]
    simp only [DecodePackResult.raised, Bool.false_eq_true, if_false, drain_nil, List.append_nil]

/-- A decoder that finishes a chunk in front of the last byte leaves this byte unread. -/
theorem drain_behind_chunk {build : Build} {need : Nat}
    (here : (behindHeader build unset).chunkNeed = need) :
    (ChunkDecoder.drain (construct build unset).toChunkDecoder
      (emptyVideoHeader ++ (List.replicate need 0 ++ [0]))).1.2 = [0] := by
  have call := decodePack_emptyVideoHeader build unset (List.replicate need 0 ++ [0])
  have length : (List.replicate need (0 : UInt8) ++ [0]).length = need + 1 := by
    rw [List.length_append, List.length_replicate, List.length_singleton]
  have inHeader (data : Bytes) : ((behindHeader build unset).closeChunk data).decodePackStatus =
      .parseRtmpHeader := by
    rw [closeChunk]
    split <;> rfl
  rw [decodePackBody_enough _ (behindHeader_inBody _ _) (by omega), here,
    List.drop_left' List.length_replicate] at call
  rw [drain_go (by rw [call]; dsimp only; omega), call,
    drain_cut (inHeader _) (by decide : ¬ RtmpPack.HeaderComplete [0])]

/-- A decoder that needs more for its chunk takes all bytes. -/
theorem drain_inside_chunk {build : Build} {need : Nat}
    (more : need < (behindHeader build unset).chunkNeed) :
    (ChunkDecoder.drain (construct build unset).toChunkDecoder
      (emptyVideoHeader ++ (List.replicate need 0 ++ [0]))).1.2 = [] := by
  have call := decodePack_emptyVideoHeader build unset (List.replicate need 0 ++ [0])
  have length : (List.replicate need (0 : UInt8) ++ [0]).length = need + 1 := by
    rw [List.length_append, List.length_replicate, List.length_singleton]
  rcases Nat.lt_or_ge (List.replicate need (0 : UInt8) ++ [0]).length
      (behindHeader build unset).chunkNeed with short | enough
  · rw [decodePackBody_short _ (behindHeader_inBody _ _) short] at call
    rw [drain_go (by rw [call]; dsimp only; omega), call, drain_nil]
  · rw [decodePackBody_enough _ (behindHeader_inBody _ _) enough,
      List.drop_of_length_le (by omega)] at call
    rw [drain_go (by rw [call]; dsimp only; omega), call, drain_nil]

/-- The codec whose chunk ends first leaves the byte behind its end, and the other takes it. -/
theorem unread_of_lt {build : Build} (started : unset.readChunkSize ≠ 0)
    (otherStarted : other.readChunkSize ≠ 0)
    (less : sub32 (initialChunkSize build) unset.readChunkSize <
      sub32 (initialChunkSize build) other.readChunkSize) :
    ∃ stream, StartsFmt0 stream ∧
      (ChunkDecoder.drain (construct build unset).toChunkDecoder stream).1.2 ≠
        (ChunkDecoder.drain (construct build other).toChunkDecoder stream).1.2 := by
  rw [← behindHeader_chunkNeed started, ← behindHeader_chunkNeed otherStarted] at less
  refine ⟨_, startsFmt0_emptyVideoHeader
    (List.replicate (behindHeader build unset).chunkNeed 0 ++ [0]), ?_⟩
  rw [drain_behind_chunk rfl, drain_inside_chunk less]
  exact List.cons_ne_nil _ _

end RtmpCodec

theorem sameDecoding_singleton {build : Build} {unset other : UnsetMembers} {stream : Bytes} :
    SameDecoding build unset other [stream] ↔
      (ChunkDecoder.drain (RtmpCodec.construct build unset).toChunkDecoder stream).2 =
          (ChunkDecoder.drain (RtmpCodec.construct build other).toChunkDecoder stream).2 ∧
        (ChunkDecoder.drain (RtmpCodec.construct build unset).toChunkDecoder stream).1.2 =
          (ChunkDecoder.drain (RtmpCodec.construct build other).toChunkDecoder stream).1.2 := by
  simp only [SameDecoding, Consumer.feedAll, drainConsumer, List.nil_append, List.append_nil]

open RtmpCodec

/-- **What decoding depends on.** For any two assignments of values to the members that the
constructor does not set: the codecs complete the same packs from, and leave the same bytes of,
every stream whose first chunk has a FMT0 header, however it is cut into segments, if and only
if the two values of `read_chunk_size_` are the same. -/
theorem decoding_determined_iff (build : Build) {unset other : UnsetMembers}
    (width : unset.readChunkSize < 2 ^ 32) (otherWidth : other.readChunkSize < 2 ^ 32) :
    (∀ segments : List Bytes, StartsFmt0 segments.flatten →
        SameDecoding build unset other segments) ↔
      unset.readChunkSize = other.readChunkSize := by
  constructor
  · intro same
    have drains (stream : Bytes) (starts : StartsFmt0 stream) := sameDecoding_singleton.mp
      (same [stream] (by rwa [List.flatten_singleton]))
    by_contra differ
    by_cases start : unset.readChunkSize = 0
    · have started : other.readChunkSize ≠ 0 := fun zero => differ (start.trans zero.symm)
      have packs := (drains emptyVideoHeader (startsFmt0_emptyVideoHeader [])).1
      rw [drain_emptyVideoHeader_ne build started] at packs
      exact drain_emptyVideoHeader_zero build start packs
    · by_cases otherStart : other.readChunkSize = 0
      · have packs := (drains emptyVideoHeader (startsFmt0_emptyVideoHeader [])).1
        rw [drain_emptyVideoHeader_ne build start] at packs
        exact drain_emptyVideoHeader_zero build otherStart packs.symm
      · have apart : sub32 (initialChunkSize build) unset.readChunkSize ≠
            sub32 (initialChunkSize build) other.readChunkSize := by
          unfold sub32
          omega
        rcases Nat.lt_or_gt_of_ne apart with less | more
        · obtain ⟨stream, starts, unread⟩ := unread_of_lt start otherStart less
          exact unread (drains stream starts).2
        · obtain ⟨stream, starts, unread⟩ := unread_of_lt otherStart start more
          exact unread (drains stream starts).2.symm
  · exact fun same segments starts => sameDecoding_of_readChunkSize same starts

/-- Two assignments that differ in every member but `read_chunk_size_`, and a video message of
three bytes in three segments. -/
theorem decoding_determined_iff_threeSegments :
    StartsFmt0 [[4, 0, 0, 0, 0], [0, 3, 9, 1, 0, 0, 0, 23], [1, 2]].flatten ∧
      SameDecoding .standard ⟨0, false, .zero, .zero⟩
        ⟨0, true, ⟨.fmt3, 5, ⟨1, 2, 3⟩, ⟨0, 1, 0⟩, .rtmpScript, ⟨9, 9, 9, 9⟩, [8]⟩, .zero⟩
        [[4, 0, 0, 0, 0], [0, 3, 9, 1, 0, 0, 0, 23], [1, 2]] := by
  have starts : StartsFmt0 [[4, 0, 0, 0, 0], [0, 3, 9, 1, 0, 0, 0, 23], [1, 2]].flatten := by
    decide
  have alike := (@decoding_determined_iff .standard ⟨0, false, .zero, .zero⟩
    ⟨0, true, ⟨.fmt3, 5, ⟨1, 2, 3⟩, ⟨0, 1, 0⟩, .rtmpScript, ⟨9, 9, 9, 9⟩, [8]⟩, .zero⟩
    (by decide) (by decide)).mpr rfl
  exact ⟨starts, alike _ starts⟩

/-- A video message of one byte. When `read_chunk_size_` happens to be 0, it is completed. When it
happens to be 1, its chunk does not end with its body. -/
theorem read_chunk_size_decides :
    StartsFmt0 [[4, 0, 0, 0, 0, 0, 1, 9, 1, 0, 0, 0, 23]].flatten ∧
      (ChunkDecoder.drain (construct .standard ⟨0, false, .zero, .zero⟩).toChunkDecoder
        [4, 0, 0, 0, 0, 0, 1, 9, 1, 0, 0, 0, 23]).2.map (·.buffer) = [[23]] ∧
      (ChunkDecoder.drain (construct .standard ⟨1, false, .zero, .zero⟩).toChunkDecoder
        [4, 0, 0, 0, 0, 0, 1, 9, 1, 0, 0, 0, 23]).2.map (·.buffer) = [] ∧
      ¬ SameDecoding .standard ⟨0, false, .zero, .zero⟩ ⟨1, false, .zero, .zero⟩
        [[4, 0, 0, 0, 0, 0, 1, 9, 1, 0, 0, 0, 23]] := by
  have zero : (ChunkDecoder.drain (construct .standard ⟨0, false, .zero, .zero⟩).toChunkDecoder
      [4, 0, 0, 0, 0, 0, 1, 9, 1, 0, 0, 0, 23]).2.map (·.buffer) = [[23]] := by decide +kernel
  have one : (ChunkDecoder.drain (construct .standard ⟨1, false, .zero, .zero⟩).toChunkDecoder
      [4, 0, 0, 0, 0, 0, 1, 9, 1, 0, 0, 0, 23]).2.map (·.buffer) = [] := by decide +kernel
  refine ⟨by decide, zero, one, fun same => ?_⟩
  have packs := (sameDecoding_singleton.mp same).1
  rw [packs, one] at zero
  exact absurd zero (by decide)

end LiveBroadcast
