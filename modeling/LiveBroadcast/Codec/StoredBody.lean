import LiveBroadcast.Codec.Chunking
import LiveBroadcast.Codec.DeclaredLength
import LiveBroadcast.Foundation.Runs

/-!
# The stored body and the declared size

The decoder keeps the body of the message being received and its declared size in one pack,
and nothing ties a new header to an empty body. As long as the stored body fits in the
declared size, so does what the current chunk still needs, and so the body never outgrows the
size (`Fits.step`). A header that declares less than what is stored makes the remaining size
wrap around to nearly `2 ^ 32`; the chunk it starts is then taken for a full one, and its bytes
are stored behind the others (`Fits.overflows`).

So the stored body fits in every state of a run exactly when every header that is read
declares at least what is stored (`stored_body_fits_iff`).
-/

set_option autoImplicit false

namespace LiveBroadcast

/-! ## Runs of the decoder -/

/-- What happens to a decoder and its buffer: bytes are read from the socket, bytes are
skipped, as the handshake does, or `DecodePack` is called. -/
inductive BufferEvent where
  | readFromSockfd (data : Bytes)
  | addReadIndex (length : Nat)
  | decodePack
  deriving DecidableEq, Repr

/-- A decoder and its buffer as a machine. -/
def decoding : Machine (ChunkDecoder × Bytes) BufferEvent where
  step state
    | .readFromSockfd data => (state.1, state.2 ++ data)
    | .addReadIndex length => (state.1, state.2.drop length)
    | .decodePack =>
        let step := state.1.decodePack state.2
        (step.decoder, step.buffer)

/-- The stored body fits in the declared size: the remaining size has not wrapped around, and
the bytes held stay below `2 ^ 24`. -/
structure RtmpPack.BodyFits (pack : RtmpPack) : Prop where
  current_le : pack.getBodyCurrentSize ≤ pack.getBodyDataSize
  remain : pack.getBodyCurrentSize + pack.getBodyRemainSize = pack.getBodyDataSize
  held : pack.buffer.length ≤ 2 ^ 24 - 1

/-- A whole header that is read declares at least what is stored. -/
def HeaderCovers (state : ChunkDecoder × Bytes) : BufferEvent → Prop
  | .decodePack =>
      state.1.decodePackStatus = .parseRtmpHeader → RtmpPack.HeaderComplete state.2 →
        state.1.stored ≤ (state.1.currentRtmpPack.decodeHeader state.2).1.getBodyDataSize
  | .readFromSockfd _ => True
  | .addReadIndex _ => True

namespace ChunkDecoder

/-- The declared size of the message being received. -/
def declared (decoder : ChunkDecoder) : Nat := decoder.currentRtmpPack.getBodyDataSize

theorem declared_lt (decoder : ChunkDecoder) : decoder.declared < 2 ^ 24 :=
  decoder.currentRtmpPack.getBodyDataSize_lt

theorem declared_takePart (decoder : ChunkDecoder) (data : Bytes) :
    (decoder.takePart data).declared = decoder.declared := by
  rw [declared, takePart_currentRtmpPack, RtmpPack.appendData_getBodyDataSize, declared]

theorem declared_closeChunk {decoder : ChunkDecoder} (data : Bytes)
    (split : decoder.isChunkOver = false) :
    (decoder.closeChunk data).declared = decoder.declared := by
  rw [declared, closeChunk_currentRtmpPack data split, RtmpPack.appendData_getBodyDataSize,
    declared]

/-- What the decoder keeps: the stored body fits in the declared size, between chunks no part
of one is counted, and inside a chunk what it still needs fits as well. -/
structure Fits (decoder : ChunkDecoder) : Prop extends decoder.InRange where
  small : decoder.rtmpChunkSize < 2 ^ 31
  stored_le : decoder.stored ≤ decoder.declared
  between : decoder.decodePackStatus = .parseRtmpHeader → decoder.readChunkSize = 0
  inside : decoder.decodePackStatus = .parseRtmpBody →
    decoder.stored + decoder.chunkNeed ≤ decoder.declared

variable {decoder : ChunkDecoder} {buffer : Bytes}

theorem Fits.bodyFits (fits : decoder.Fits) : decoder.currentRtmpPack.BodyFits := by
  have within : decoder.currentRtmpPack.buffer.length ≤
      decoder.currentRtmpPack.getBodyDataSize := fits.stored_le
  have size := decoder.currentRtmpPack.getBodyDataSize_lt
  have narrow : decoder.currentRtmpPack.getBodyCurrentSize =
      decoder.currentRtmpPack.buffer.length := Nat.mod_eq_of_lt (by omega)
  refine ⟨narrow.trans_le within, ?_, by omega⟩
  rw [RtmpPack.getBodyRemainSize, narrow, sub32_of_le within (by omega)]
  omega

/-- At the beginning of a chunk, what it needs fits when the stored body does. -/
theorem chunkNeed_fits (start : decoder.readChunkSize = 0) (small : decoder.rtmpChunkSize < 2 ^ 31)
    (within : decoder.stored ≤ decoder.declared) :
    decoder.stored + decoder.chunkNeed ≤ decoder.declared := by
  have size := decoder.declared_lt
  have narrow : decoder.currentRtmpPack.getBodyCurrentSize = decoder.stored :=
    Nat.mod_eq_of_lt (by rw [← stored]; omega)
  have remain : decoder.currentRtmpPack.getBodyRemainSize = decoder.declared - decoder.stored := by
    rw [RtmpPack.getBodyRemainSize, narrow]
    exact sub32_of_le within (by rw [← declared]; omega)
  cases isOver : decoder.isChunkOver with
  | true =>
      rw [chunkNeed, if_pos isOver, remain]
      omega
  | false =>
      have longer : decoder.rtmpChunkSize < decoder.currentRtmpPack.getBodyRemainSize := by
        simpa [isChunkOver, start] using isOver
      rw [chunkNeed, if_neg (by simp [isOver]), start,
        sub32_of_le (Nat.zero_le _) (by omega)]
      omega

/-! ## One call -/

/-- **A call in the body of a chunk** keeps what the chunk needs within the declared size. -/
theorem Fits.decodePackBody (fits : decoder.Fits)
    (inBody : decoder.decodePackStatus = .parseRtmpBody) (buffer : Bytes) (readLength : Int) :
    (decoder.decodePackBody buffer readLength).decoder.Fits := by
  have inside := fits.inside inBody
  rcases Nat.lt_or_ge buffer.length decoder.chunkNeed with short | enough
  · rw [decodePackBody_short readLength inBody short]
    dsimp only
    have need := chunkNeed_takePart fits.toInRange short
    have sane := fits.toInRange.takePart short
    have more := stored_takePart decoder buffer
    have same := declared_takePart decoder buffer
    refine ⟨sane.toInRange, ?_, by omega, fun inHeader => ?_, fun _ => by omega⟩
    · rw [takePart_rtmpChunkSize]
      exact fits.small
    · rw [takePart_decodePackStatus, inBody] at inHeader
      cases inHeader
  · rw [decodePackBody_enough readLength inBody enough]
    have kept := stored_closeChunk_le decoder (buffer.take decoder.chunkNeed)
    rw [List.length_take_of_le enough] at kept
    have sane := fits.toInRange.closeChunk (buffer.take decoder.chunkNeed)
    dsimp only
    cases isOver : decoder.isChunkOver with
    | true =>
        simp only [closeChunk, isOver, if_true] at kept sane ⊢
        refine ⟨sane.toInRange, fits.small, ?_, fun _ => (isChunkOver_eq_true isOver).2, ?_⟩
        · exact Nat.zero_le _
        · intro inBody
          cases inBody
    | false =>
        simp only [closeChunk, isOver, Bool.false_eq_true, if_false] at kept sane ⊢
        refine ⟨sane.toInRange, fits.small, kept.trans inside, fun _ => rfl, ?_⟩
        intro inBody
        cases inBody

/-- **A call** keeps the stored body within the declared size, when the header that it reads
covers what is stored. -/
theorem Fits.decodePack (fits : decoder.Fits)
    (covers : HeaderCovers (decoder, buffer) .decodePack) :
    (decoder.decodePack buffer).decoder.Fits := by
  cases buffer with
  | nil => exact fits
  | cons first rest =>
      cases status : decoder.decodePackStatus with
      | parseRtmpBody =>
          rw [decodePack_inBody status (by simp)]
          exact fits.decodePackBody status _ 0
      | parseRtmpHeader =>
          by_cases complete : RtmpPack.HeaderComplete (first :: rest)
          · rw [decodePack_header status complete]
            have start := fits.between status
            have within : (decoder.openBody (first :: rest)).stored ≤
                (decoder.openBody (first :: rest)).declared := by
              rw [stored_openBody complete]
              exact covers status complete
            have opened : (decoder.openBody (first :: rest)).Fits :=
              ⟨⟨fits.chunk_lt, fits.read_lt⟩, fits.small, within, nofun,
                fun _ => chunkNeed_fits start fits.small within⟩
            exact opened.decodePackBody rfl _ _
          · rw [decodePack_cut status complete]
            have same : (decoder.touch (first :: rest)).declared = decoder.declared := by
              obtain ⟨fmt, found⟩ := RtmpPackFmt.ofByte_high_bits first
              simp only [declared, touch, RtmpPack.touchHeader, found, RtmpPack.getBodyDataSize]
            refine ⟨⟨fits.chunk_lt, fits.read_lt⟩, fits.small, ?_, fits.between, fun inBody => ?_⟩
            · rw [stored_touch, same]
              exact fits.stored_le
            · have impossible : decoder.decodePackStatus = .parseRtmpBody := inBody
              rw [status] at impossible
              cases impossible

/-- **A header that declares less than what is stored** leaves a body that is longer than it
declares: the wrapped remainder is taken for a full chunk. -/
theorem Fits.overflows (fits : decoder.Fits)
    (uncovered : ¬ HeaderCovers (decoder, buffer) .decodePack) :
    ¬ (decoder.decodePack buffer).decoder.currentRtmpPack.BodyFits := by
  simp only [HeaderCovers, Classical.not_imp, Nat.not_le] at uncovered
  obtain ⟨status, complete, less⟩ := uncovered
  cases buffer with
  | nil => exact complete.elim
  | cons first rest =>
      rw [decodePack_header status complete]
      generalize opened : decoder.openBody (first :: rest) = begun
      have below : begun.declared < begun.stored := by
        rw [← opened, stored_openBody complete]
        exact less
      have few : begun.stored < 2 ^ 24 := by
        rw [← opened, stored_openBody complete]
        exact Nat.lt_of_le_of_lt fits.stored_le decoder.declared_lt
      have start : begun.readChunkSize = 0 := by
        rw [← opened, openBody_readChunkSize, fits.between status]
      have small : begun.rtmpChunkSize < 2 ^ 31 := by
        rw [← opened, openBody_rtmpChunkSize]
        exact fits.small
      have inBody : begun.decodePackStatus = .parseRtmpBody := by rw [← opened]; rfl
      have narrow : begun.currentRtmpPack.getBodyCurrentSize = begun.stored :=
        Nat.mod_eq_of_lt (by rw [← stored]; omega)
      have remain : begun.currentRtmpPack.getBodyRemainSize =
          2 ^ 32 - (begun.stored - begun.declared) := by
        rw [RtmpPack.getBodyRemainSize, narrow]
        exact sub32_of_lt below (by omega)
      have split : begun.isChunkOver = false := by
        simp only [isChunkOver, remain, Bool.and_eq_false_iff, decide_eq_false_iff_not]
        exact .inl (by omega)
      have need : begun.chunkNeed = begun.rtmpChunkSize := by
        rw [chunkNeed, if_neg (by simp [split]), start, sub32_of_le (Nat.zero_le _) (by omega)]
        rfl
      -- whatever arrives of the chunk is stored behind the rest
      have beyond (after : ChunkDecoder) (same : after.declared = begun.declared)
          (more : begun.stored ≤ after.stored) (bound : after.stored < 2 ^ 32) :
          ¬ after.currentRtmpPack.BodyFits := by
        intro bodyFits
        have le := bodyFits.current_le
        rw [RtmpPack.getBodyCurrentSize, ← stored, Nat.mod_eq_of_lt bound, ← declared] at le
        omega
      rcases Nat.lt_or_ge ((first :: rest).drop (RtmpPack.headerSize first)).length
        begun.chunkNeed with short | enough
      · rw [decodePackBody_short _ inBody short]
        refine beyond _ (declared_takePart begun _) ?_ ?_
        · rw [stored_takePart]
          omega
        · rw [stored_takePart]
          omega
      · rw [decodePackBody_enough _ inBody enough]
        have taken := List.length_take_of_le enough
        have longer : (begun.closeChunk (((first :: rest).drop
            (RtmpPack.headerSize first)).take begun.chunkNeed)).stored =
              begun.stored + begun.chunkNeed := by
          simp only [closeChunk, split, Bool.false_eq_true, if_false, stored,
            RtmpPack.appendData_buffer, List.length_append, taken]
        refine beyond _ (declared_closeChunk _ split) ?_ ?_
        · rw [longer]
          omega
        · rw [longer]
          omega

end ChunkDecoder

/-! ## Runs -/

/-- Steps whose headers cover what is stored keep the body within the declared size. -/
theorem decoding_preserves :
    decoding.Preserves HeaderCovers (fun state => state.1.Fits) where
  step state input fits covers := by
    cases input with
    | readFromSockfd data => exact fits
    | addReadIndex length => exact fits
    | decodePack => exact fits.decodePack covers

/-- The constructor leaves nothing stored. -/
theorem RtmpCodec.construct_fits (build : Build) {unset : UnsetMembers}
    (atStart : unset.readChunkSize = 0) : (construct build unset).toChunkDecoder.Fits where
  toInRange := (construct_ready build atStart).range
  small := by
    have size : initialChunkSize build < 2 ^ 31 := by
      obtain ⟨monitorMode⟩ := build
      cases monitorMode <;> decide
    exact size
  stored_le := Nat.zero_le _
  between _ := atStart
  inside := nofun

/-- **When the stored body fits in the declared size.** In every run of the decoder, whatever
bytes arrive, are skipped or are decoded and in which pieces, the stored body fits in the
declared size in every state, if and only if every whole header that is read declares at least
what is stored. -/
theorem stored_body_fits_iff (build : Build) (unset : UnsetMembers) (events : List BufferEvent) :
    (∀ before, before <+: events →
        (decoding.run ((RtmpCodec.construct build { unset with readChunkSize := 0 }).toChunkDecoder,
          []) before).1.currentRtmpPack.BodyFits) ↔
      ∀ before event, before ++ [event] <+: events →
        HeaderCovers (decoding.run ((RtmpCodec.construct build
          { unset with readChunkSize := 0 }).toChunkDecoder, []) before) event := by
  rw [← Machine.guarded_iff]
  refine decoding_preserves.always_iff (fun _ fits => fits.bodyFits) ?_
    (RtmpCodec.construct_fits build rfl) events
  intro state input fits holds
  cases input with
  | readFromSockfd data => trivial
  | addReadIndex length => trivial
  | decodePack =>
      by_contra uncovered
      exact fits.overflows uncovered holds

/-- After C0, C1 and C2: the first chunk of a message of 5000 bytes, and then a header that
declares one byte, with that byte. -/
def shrinkingHeader : List BufferEvent :=
  [.readFromSockfd (List.replicate 3073 0 ++ [4, 0, 0, 0, 0, 19, 136, 9, 1, 0, 0, 0] ++
      List.replicate 4096 7), .addReadIndex 1537, .addReadIndex 1536, .decodePack,
    .readFromSockfd [4, 0, 0, 0, 0, 0, 1, 9, 1, 0, 0, 0, 7], .decodePack]

/-- **A header can declare less than what is stored**: 4097 bytes are held for a message of
one byte. -/
theorem shrinking_header_overflows :
    let state := decoding.run ((RtmpCodec.atStart .standard).toChunkDecoder, []) shrinkingHeader
    state.1.currentRtmpPack.getBodyCurrentSize = 4097 ∧
      state.1.currentRtmpPack.getBodyDataSize = 1 ∧
      state.1.currentRtmpPack.getBodyRemainSize = 2 ^ 32 - 4096 := by
  decide +kernel

end LiveBroadcast
