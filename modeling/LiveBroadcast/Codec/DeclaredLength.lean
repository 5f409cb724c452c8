import LiveBroadcast.Codec.PackDecoding
import LiveBroadcast.Codec.FlvCodec

/-!
# Finished packs have the length they declare

A header in the middle of a message may set a declared size below the part of the body that
is stored, and the remaining size then wraps around. It wraps to a value that fits in a
chunk only when almost `2 ^ 32` bytes are stored (`sub32_small`), and a decoder cannot have
stored more bytes than it was given (`decodePack_stored`). So on any input of fewer bytes a
pack is finished with exactly the body its header declares.
-/

set_option autoImplicit false

namespace LiveBroadcast

/-- **A wrapped remainder is large.** When the difference fits in `small` and nearly
`2 ^ 32` bytes would be needed for it to have wrapped, it has not wrapped. -/
theorem sub32_small {declared stored small : Nat} (fits : sub32 declared stored ≤ small)
    (few : stored + small < 2 ^ 32) (size : declared < 2 ^ 32) :
    stored ≤ declared ∧ sub32 declared stored = declared - stored := by
  rcases Nat.lt_or_ge declared stored with above | within
  · have wrapped := sub32_of_lt above (by omega)
    omega
  · exact ⟨within, sub32_of_le within size⟩

namespace ChunkDecoder

/-- The body bytes stored for the message being received. -/
def stored (decoder : ChunkDecoder) : Nat := decoder.currentRtmpPack.buffer.length

@[simp] theorem stored_takePart (decoder : ChunkDecoder) (data : Bytes) :
    (decoder.takePart data).stored = decoder.stored + data.length := by
  simp only [stored, takePart, RtmpPack.appendData_buffer, List.length_append]

theorem stored_closeChunk_le (decoder : ChunkDecoder) (data : Bytes) :
    (decoder.closeChunk data).stored ≤ decoder.stored + data.length := by
  cases isOver : decoder.isChunkOver with
  | true => simp [stored, closeChunk, isOver, RtmpPack.dropAllData]
  | false => simp [stored, closeChunk, isOver]

theorem stored_openBody {decoder : ChunkDecoder} {first : UInt8} {rest : Bytes}
    (complete : RtmpPack.HeaderComplete (first :: rest)) :
    (decoder.openBody (first :: rest)).stored = decoder.stored := by
  obtain ⟨-, kept, -⟩ := RtmpPack.decodeHeader_complete decoder.currentRtmpPack complete
  simp only [stored, openBody, kept]

@[simp] theorem stored_touch (decoder : ChunkDecoder) (buffer : Bytes) :
    (decoder.touch buffer).stored = decoder.stored := by
  simp only [stored, touch, RtmpPack.touchHeader_buffer]

/-! ## One call -/

/-- What a call leaves: the chunk size, and no more bytes stored and unread than before. -/
structure Conserves (decoder : ChunkDecoder) (buffer : Bytes) (step : DecodePackResult) :
    Prop where
  chunkSize : step.decoder.rtmpChunkSize = decoder.rtmpChunkSize
  bytes : step.decoder.stored + step.buffer.length ≤ decoder.stored + buffer.length
  declared : step.packFinish = true →
    decoder.stored + buffer.length + decoder.rtmpChunkSize < 2 ^ 32 →
    step.decoder.lastRtmpPack.buffer.length = step.decoder.lastRtmpPack.getBodyDataSize

/-- **The last part of a message completes its declared length.** -/
theorem closeChunk_declared {decoder : ChunkDecoder} {buffer : Bytes}
    (isOver : decoder.isChunkOver = true) (enough : decoder.chunkNeed ≤ buffer.length)
    (few : decoder.stored + buffer.length + decoder.rtmpChunkSize < 2 ^ 32) :
    (decoder.closeChunk (buffer.take decoder.chunkNeed)).lastRtmpPack.buffer.length =
      (decoder.closeChunk (buffer.take decoder.chunkNeed)).lastRtmpPack.getBodyDataSize := by
  obtain ⟨fits, -⟩ := isChunkOver_eq_true isOver
  have size := decoder.currentRtmpPack.getBodyDataSize_lt
  have need : decoder.chunkNeed = decoder.currentRtmpPack.getBodyRemainSize := by
    rw [chunkNeed, if_pos isOver]
  have narrow : decoder.currentRtmpPack.getBodyCurrentSize = decoder.stored :=
    Nat.mod_eq_of_lt (by rw [← stored]; omega)
  rw [RtmpPack.getBodyRemainSize, narrow] at fits need
  obtain ⟨within, remain⟩ := sub32_small fits (by omega) (by omega)
  simp only [closeChunk, isOver, if_true, RtmpPack.appendData_buffer,
    RtmpPack.appendData_getBodyDataSize, List.length_append, List.length_take_of_le enough]
  rw [need, remain, ← stored]
  omega

theorem decodePackBody_conserves (decoder : ChunkDecoder) (buffer : Bytes) (readLength : Int) :
    Conserves decoder buffer (decoder.decodePackBody buffer readLength) := by
  cases status : decoder.decodePackStatus with
  | parseRtmpHeader =>
      rw [decodePackBody_inHeader _ _ status]
      exact ⟨rfl, Nat.le_refl _, fun finished => nomatch finished⟩
  | parseRtmpBody =>
      rcases Nat.lt_or_ge buffer.length decoder.chunkNeed with short | enough
      · rw [decodePackBody_short readLength status short]
        refine ⟨takePart_rtmpChunkSize decoder buffer, ?_,
          fun finished => absurd finished Bool.false_ne_true⟩
        simp
      · rw [decodePackBody_enough readLength status enough]
        refine ⟨closeChunk_rtmpChunkSize decoder _, ?_,
          fun isOver few => closeChunk_declared isOver enough few⟩
        have kept := stored_closeChunk_le decoder (buffer.take decoder.chunkNeed)
        rw [List.length_take_of_le enough] at kept
        simp only [List.length_drop]
        omega

/-- **No call stores bytes it was not given**, and a finished pack is whole. -/
theorem decodePack_conserves (decoder : ChunkDecoder) (buffer : Bytes) :
    Conserves decoder buffer (decoder.decodePack buffer) := by
  cases buffer with
  | nil => exact ⟨rfl, Nat.le_refl _, fun finished => nomatch finished⟩
  | cons first rest =>
      cases status : decoder.decodePackStatus with
      | parseRtmpBody =>
          rw [decodePack_inBody status (by simp)]
          exact decodePackBody_conserves _ _ 0
      | parseRtmpHeader =>
          by_cases complete : RtmpPack.HeaderComplete (first :: rest)
          · rw [decodePack_header status complete]
            obtain ⟨chunkSize, bytes, declared⟩ := decodePackBody_conserves
              (decoder.openBody (first :: rest))
              ((first :: rest).drop (RtmpPack.headerSize first))
              (RtmpPack.headerSize first)
            have same : (decoder.openBody (first :: rest)).rtmpChunkSize =
                decoder.rtmpChunkSize := rfl
            rw [stored_openBody complete, List.length_drop] at bytes declared
            exact ⟨chunkSize, by omega, fun finished few => declared finished (by omega)⟩
          · rw [decodePack_cut status complete]
            refine ⟨rfl, ?_, fun finished => absurd finished Bool.false_ne_true⟩
            simp

/-! ## Runs of calls -/

/-- What happens to a decoder and its buffer: bytes arrive, or `DecodePack` is called. -/
inductive DecoderEvent where
  | arrive (data : Bytes)
  | call
  deriving DecidableEq, Repr

/-- The bytes that arrive in a run. -/
def arrived : List DecoderEvent → Nat
  | [] => 0
  | .arrive data :: events => data.length + arrived events
  | .call :: events => arrived events

/-- What each call of the run leaves, in order. -/
def calls : ChunkDecoder → Bytes → List DecoderEvent → List DecodePackResult
  | _, _, [] => []
  | decoder, buffer, .arrive data :: events => calls decoder (buffer ++ data) events
  | decoder, buffer, .call :: events =>
      let step := decoder.decodePack buffer
      step :: calls step.decoder step.buffer events

/-- A pack finished anywhere in a run is whole, when what is stored, unread and still to
come leaves room for a chunk. -/
theorem calls_declared {decoder : ChunkDecoder} {buffer : Bytes} {events : List DecoderEvent}
    (few : decoder.stored + buffer.length + arrived events + decoder.rtmpChunkSize < 2 ^ 32)
    {step : DecodePackResult} (made : step ∈ calls decoder buffer events)
    (finished : step.packFinish = true) :
    step.decoder.lastRtmpPack.buffer.length = step.decoder.lastRtmpPack.getBodyDataSize := by
  induction events generalizing decoder buffer with
  | nil => exact absurd made (List.not_mem_nil)
  | cons event events ih =>
      cases event with
      | arrive data =>
          refine ih ?_ made
          rw [List.length_append]
          simp only [arrived] at few
          omega
      | call =>
          obtain ⟨chunkSize, bytes, declared⟩ := decodePack_conserves decoder buffer
          simp only [arrived] at few
          rcases List.mem_cons.mp made with rfl | later
          · exact declared finished (by omega)
          · exact ih (by omega) later

end ChunkDecoder

/-- **Every finished pack has its declared length, on any input.** Whatever bytes arrive,
fewer than `2 ^ 32 - 4096` of them, and however `DecodePack` is called in between, a
finished pack has the body size of its header, and so has every tag made of it. -/
theorem finished_pack_declared (codec : RtmpCodec) (chunkSize : codec.rtmpChunkSize = 4096)
    (empty : codec.currentRtmpPack.buffer = []) {events : List ChunkDecoder.DecoderEvent}
    (few : ChunkDecoder.arrived events < 2 ^ 32 - 4096) {step : DecodePackResult}
    (made : step ∈ codec.toChunkDecoder.calls [] events) (finished : step.packFinish = true) :
    step.decoder.lastRtmpPack.buffer.length = step.decoder.lastRtmpPack.getBodyDataSize ∧
      ∀ (build : Build) (unset : UInt8) (flv : Rtmp2FlvCodec),
        (flv.transform build unset step.decoder.lastRtmpPack .new).2.body.length =
          (flv.transform build unset step.decoder.lastRtmpPack .new).2.getDataSize := by
  have nothing : codec.toChunkDecoder.stored = 0 := by rw [ChunkDecoder.stored, empty]; rfl
  have declared := ChunkDecoder.calls_declared (by rw [nothing, chunkSize]; simp; omega) made
    finished
  exact ⟨declared, fun build unset flv => flv.transform_declared build unset _ declared⟩

/-- A message of which a first chunk of 4096 bytes declares 5000 bytes, and the header of the
next chunk 4098. -/
def redeclaredMessage : List ChunkDecoder.DecoderEvent :=
  [.arrive ([4, 0, 0, 1, 0, 0x13, 0x88, 8, 1, 0, 0, 0] ++ List.replicate 4096 7), .call,
    .arrive [0x44, 0, 0, 1, 0, 0x10, 0x02, 8, 10, 11], .call]

/-- The pack is finished with the 4098 bytes of the later header. -/
theorem finished_pack_declared_redeclaredMessage :
    ((RtmpCodec.atStart .standard).toChunkDecoder.calls [] redeclaredMessage).map
        (fun step => (step.packFinish, step.decoder.lastRtmpPack.getBodyDataSize)) =
      [(false, 0), (true, 4098)] ∧
    ∀ step ∈ (RtmpCodec.atStart .standard).toChunkDecoder.calls [] redeclaredMessage,
      step.packFinish = true →
        step.decoder.lastRtmpPack.buffer.length =
          step.decoder.lastRtmpPack.getBodyDataSize := by
  have few : ChunkDecoder.arrived redeclaredMessage < 2 ^ 32 - 4096 := by decide +kernel
  refine ⟨by decide +kernel, fun step made finished => ?_⟩
  exact (finished_pack_declared (RtmpCodec.atStart .standard) rfl rfl few made finished).1

end LiveBroadcast
