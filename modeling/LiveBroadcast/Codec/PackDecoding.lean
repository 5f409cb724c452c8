import LiveBroadcast.Codec.RtmpCodec
import LiveBroadcast.Foundation.Segmentation

/-!
# What a call of DecodePack does

A decoder in the body state needs a definite number of bytes to finish the current chunk
(`chunkNeed`). With fewer bytes `DecodePack` takes them all and needs that many fewer
(`takePart`); with enough it closes the chunk (`closeChunk`), and if nothing of the message
was left beyond this chunk it finishes the pack. In the header state it starts with the
chunk header, when that is whole.

`drain` is the loop "call `DecodePack` until it returns 0". The main result is that
draining is incremental (`drain_append`): bytes may arrive cut at any place, inside a
header, inside a body or at the end of a chunk, and the packs finished, the decoder and the
unread bytes are those of the uncut bytes (`drainConsumer_incremental`).
-/

set_option autoImplicit false

namespace LiveBroadcast

namespace ChunkDecoder

/-! ## The body of a chunk -/

/-- The number of bytes that finish the current chunk. -/
def chunkNeed (decoder : ChunkDecoder) : Nat :=
  if decoder.isChunkOver then decoder.currentRtmpPack.getBodyRemainSize
  else sub32 decoder.rtmpChunkSize decoder.readChunkSize

/-- The decoder after fewer bytes than the chunk needs. -/
def takePart (decoder : ChunkDecoder) (data : Bytes) : ChunkDecoder :=
  { decoder with
    chunkOver := decoder.isChunkOver
    currentRtmpPack := decoder.currentRtmpPack.appendData data
    readChunkSize :=
      if decoder.isChunkOver then decoder.readChunkSize
      else (decoder.readChunkSize + data.length) % 2 ^ 32 }

/-- The decoder after the last bytes of the chunk. -/
def closeChunk (decoder : ChunkDecoder) (data : Bytes) : ChunkDecoder :=
  if decoder.isChunkOver then
    { decoder with
      decodePackStatus := .parseRtmpHeader
      chunkOver := true
      lastRtmpPack := decoder.currentRtmpPack.appendData data
      currentRtmpPack := (decoder.currentRtmpPack.appendData data).dropAllData }
  else
    { decoder with
      decodePackStatus := .parseRtmpHeader
      chunkOver := false
      currentRtmpPack := decoder.currentRtmpPack.appendData data
      readChunkSize := 0 }

@[simp] theorem takePart_rtmpChunkSize (decoder : ChunkDecoder) (data : Bytes) :
    (decoder.takePart data).rtmpChunkSize = decoder.rtmpChunkSize := by
  rw [takePart]

@[simp] theorem takePart_decodePackStatus (decoder : ChunkDecoder) (data : Bytes) :
    (decoder.takePart data).decodePackStatus = decoder.decodePackStatus := by
  rw [takePart]

@[simp] theorem takePart_lastRtmpPack (decoder : ChunkDecoder) (data : Bytes) :
    (decoder.takePart data).lastRtmpPack = decoder.lastRtmpPack := by
  rw [takePart]

@[simp] theorem takePart_currentRtmpPack (decoder : ChunkDecoder) (data : Bytes) :
    (decoder.takePart data).currentRtmpPack = decoder.currentRtmpPack.appendData data := by
  rw [takePart]

@[simp] theorem closeChunk_rtmpChunkSize (decoder : ChunkDecoder) (data : Bytes) :
    (decoder.closeChunk data).rtmpChunkSize = decoder.rtmpChunkSize := by
  rw [closeChunk]
  cases decoder.isChunkOver with
  | true => rfl
  | false => rfl

/-- Closing a chunk that is not the last keeps its bytes in the current pack. -/
theorem closeChunk_currentRtmpPack {decoder : ChunkDecoder} (data : Bytes)
    (split : decoder.isChunkOver = false) :
    (decoder.closeChunk data).currentRtmpPack = decoder.currentRtmpPack.appendData data := by
  rw [closeChunk, split, if_neg Bool.false_ne_true]

theorem decodeBody_short {decoder : ChunkDecoder} {data : Bytes}
    (short : data.length < decoder.chunkNeed) :
    decoder.decodeBody data = (decoder.takePart data, data.length, false) := by
  cases isOver : decoder.isChunkOver with
  | true =>
      simp only [chunkNeed, isOver, if_true] at short
      simp [decodeBody, isOver, short, takePart]
  | false =>
      simp only [chunkNeed, isOver, Bool.false_eq_true, if_false] at short
      simp [decodeBody, isOver, short, takePart]

theorem decodeBody_enough {decoder : ChunkDecoder} {data : Bytes}
    (enough : decoder.chunkNeed ≤ data.length) :
    decoder.decodeBody data =
      ({ decoder with
          chunkOver := decoder.isChunkOver
          currentRtmpPack := decoder.currentRtmpPack.appendData (data.take decoder.chunkNeed)
          readChunkSize := if decoder.isChunkOver then decoder.readChunkSize else 0 },
        decoder.chunkNeed, true) := by
  cases isOver : decoder.isChunkOver with
  | true =>
      simp only [chunkNeed, isOver, if_true] at enough ⊢
      simp [decodeBody, isOver, Nat.not_lt.mpr enough]
  | false =>
      simp only [chunkNeed, isOver, Bool.false_eq_true, if_false] at enough ⊢
      simp [decodeBody, isOver, Nat.not_lt.mpr enough]

theorem decodePackBody_inHeader {decoder : ChunkDecoder} (buffer : Bytes) (readLength : Int)
    (inHeader : decoder.decodePackStatus = .parseRtmpHeader) :
    decoder.decodePackBody buffer readLength = ⟨decoder, buffer, readLength, false⟩ := by
  rw [decodePackBody, inHeader]

theorem decodePackBody_short {decoder : ChunkDecoder} {buffer : Bytes} (readLength : Int)
    (inBody : decoder.decodePackStatus = .parseRtmpBody)
    (short : buffer.length < decoder.chunkNeed) :
    decoder.decodePackBody buffer readLength =
      ⟨decoder.takePart buffer, [], readLength + buffer.length, false⟩ := by
  rw [decodePackBody, inBody, decodeBody_short short]
  show DecodePackResult.mk (decoder.takePart buffer) (buffer.drop buffer.length)
    (readLength + buffer.length) false = _
  rw [List.drop_length]

theorem decodePackBody_enough {decoder : ChunkDecoder} {buffer : Bytes} (readLength : Int)
    (inBody : decoder.decodePackStatus = .parseRtmpBody)
    (enough : decoder.chunkNeed ≤ buffer.length) :
    decoder.decodePackBody buffer readLength =
      ⟨decoder.closeChunk (buffer.take decoder.chunkNeed), buffer.drop decoder.chunkNeed,
        readLength + decoder.chunkNeed, decoder.isChunkOver⟩ := by
  rw [decodePackBody, inBody, decodeBody_enough enough, closeChunk]
  cases decoder.isChunkOver with
  | true => rfl
  | false => rfl

/-! ## The header of a chunk -/

/-- The decoder once the chunk header at the front of the buffer is read. -/
def openBody (decoder : ChunkDecoder) (buffer : Bytes) : ChunkDecoder :=
  { decoder with
    currentRtmpPack := (decoder.currentRtmpPack.decodeHeader buffer).1
    decodePackStatus := .parseRtmpBody }

@[simp] theorem openBody_rtmpChunkSize (decoder : ChunkDecoder) (buffer : Bytes) :
    (decoder.openBody buffer).rtmpChunkSize = decoder.rtmpChunkSize := by
  rw [openBody]

@[simp] theorem openBody_readChunkSize (decoder : ChunkDecoder) (buffer : Bytes) :
    (decoder.openBody buffer).readChunkSize = decoder.readChunkSize := by
  rw [openBody]

/-- The decoder when the chunk header at the front of the buffer is cut. -/
def touch (decoder : ChunkDecoder) (buffer : Bytes) : ChunkDecoder :=
  { decoder with currentRtmpPack := decoder.currentRtmpPack.touchHeader buffer }

@[simp] theorem decodePack_nil (decoder : ChunkDecoder) :
    decoder.decodePack [] = ⟨decoder, [], 0, false⟩ := rfl

theorem decodePack_inBody {decoder : ChunkDecoder} {buffer : Bytes}
    (inBody : decoder.decodePackStatus = .parseRtmpBody) (arrived : buffer ≠ []) :
    decoder.decodePack buffer = decoder.decodePackBody buffer 0 := by
  have nonempty : ¬ buffer.length = 0 := by simpa using arrived
  simp [decodePack, nonempty, decodePackHeader, inBody]

/-- **A cut header stops the call**: nothing is consumed and 0 is returned. -/
theorem decodePack_cut {decoder : ChunkDecoder} {buffer : Bytes}
    (inHeader : decoder.decodePackStatus = .parseRtmpHeader)
    (cut : ¬ RtmpPack.HeaderComplete buffer) :
    decoder.decodePack buffer = ⟨decoder.touch buffer, buffer, 0, false⟩ := by
  cases buffer with
  | nil => rfl
  | cons first rest =>
      simp [decodePack, decodePackHeader, inHeader, RtmpPack.decodeHeader_short _ cut,
        decodePackBody, touch]

/-- **A whole header is read and the call goes on with the body.** -/
theorem decodePack_header {decoder : ChunkDecoder} {first : UInt8} {rest : Bytes}
    (inHeader : decoder.decodePackStatus = .parseRtmpHeader)
    (complete : RtmpPack.HeaderComplete (first :: rest)) :
    decoder.decodePack (first :: rest) =
      (decoder.openBody (first :: rest)).decodePackBody
        ((first :: rest).drop (RtmpPack.headerSize first)) (RtmpPack.headerSize first) := by
  obtain ⟨count, -, -⟩ := RtmpPack.decodeHeader_complete decoder.currentRtmpPack complete
  have positive := RtmpPack.headerSize_pos first
  simp [decodePack, decodePackHeader, inHeader, count, positive, openBody]

/-! ## Lengths -/

theorem decodePackBody_length (decoder : ChunkDecoder) (buffer : Bytes) (readLength : Int) :
    (decoder.decodePackBody buffer readLength).result +
        (decoder.decodePackBody buffer readLength).buffer.length =
      readLength + buffer.length ∧
    readLength ≤ (decoder.decodePackBody buffer readLength).result := by
  cases status : decoder.decodePackStatus with
  | parseRtmpHeader => simp [decodePackBody_inHeader _ _ status]
  | parseRtmpBody =>
      rcases Nat.lt_or_ge buffer.length decoder.chunkNeed with short | enough
      · rw [decodePackBody_short readLength status short]
        simp only [List.length_nil]
        omega
      · rw [decodePackBody_enough readLength status enough]
        simp only [List.length_drop]
        omega

/-- **The returned length is the number of bytes consumed**, and never negative. -/
theorem decodePack_length (decoder : ChunkDecoder) (buffer : Bytes) :
    (decoder.decodePack buffer).result + (decoder.decodePack buffer).buffer.length =
        buffer.length ∧
      0 ≤ (decoder.decodePack buffer).result := by
  cases buffer with
  | nil => simp
  | cons first rest =>
      cases status : decoder.decodePackStatus with
      | parseRtmpHeader =>
          by_cases complete : RtmpPack.HeaderComplete (first :: rest)
          · rw [decodePack_header status complete]
            have bounds := decodePackBody_length (decoder.openBody (first :: rest))
              ((first :: rest).drop (RtmpPack.headerSize first)) (RtmpPack.headerSize first)
            have fits : RtmpPack.headerSize first ≤ (first :: rest).length := complete
            simp only [List.length_drop] at bounds
            omega
          · rw [decodePack_cut status complete]
            simp
      | parseRtmpBody =>
          rw [decodePack_inBody status (by simp)]
          have bounds := decodePackBody_length decoder (first :: rest) 0
          omega

/-! ## Taking a chunk in parts -/

/-- The two chunk sizes are `uint32_t` values with the bytes read of the chunk below its
size. -/
structure InRange (decoder : ChunkDecoder) : Prop where
  chunk_lt : decoder.rtmpChunkSize < 2 ^ 32
  read_lt : decoder.readChunkSize < decoder.rtmpChunkSize

/-- Between two calls a decoder that waits for body bytes does need some. -/
structure Sane (decoder : ChunkDecoder) : Prop extends decoder.InRange where
  body_need : decoder.decodePackStatus = .parseRtmpBody → 0 < decoder.chunkNeed

theorem isChunkOver_eq_true {decoder : ChunkDecoder} (isOver : decoder.isChunkOver = true) :
    decoder.currentRtmpPack.getBodyRemainSize ≤ decoder.rtmpChunkSize ∧
      decoder.readChunkSize = 0 := by
  simpa [isChunkOver] using isOver

theorem takePart_of_over {decoder : ChunkDecoder} (data : Bytes)
    (isOver : decoder.isChunkOver = true) :
    decoder.takePart data =
      { decoder with
        chunkOver := true, currentRtmpPack := decoder.currentRtmpPack.appendData data } := by
  simp [takePart, isOver]

theorem takePart_of_split {decoder : ChunkDecoder} (data : Bytes)
    (split : decoder.isChunkOver = false) :
    decoder.takePart data =
      { decoder with
        chunkOver := false
        currentRtmpPack := decoder.currentRtmpPack.appendData data
        readChunkSize := (decoder.readChunkSize + data.length) % 2 ^ 32 } := by
  simp [takePart, split]

/-- **A part of a chunk neither ends it nor turns it into another kind of chunk.** -/
theorem isChunkOver_takePart {decoder : ChunkDecoder} {data : Bytes} (range : decoder.InRange)
    (short : data.length < decoder.chunkNeed) :
    (decoder.takePart data).isChunkOver = decoder.isChunkOver := by
  obtain ⟨chunk_lt, read_lt⟩ := range
  cases isOver : decoder.isChunkOver with
  | true =>
      obtain ⟨fits, start⟩ := isChunkOver_eq_true isOver
      simp only [chunkNeed, isOver, if_true] at short
      have left := RtmpPack.getBodyRemainSize_appendData (Nat.le_of_lt short)
      rw [takePart_of_over data isOver]
      simp only [isChunkOver, left, start, Bool.and_eq_true, decide_eq_true_eq, and_true]
      omega
  | false =>
      simp only [chunkNeed, isOver, Bool.false_eq_true, if_false,
        sub32_of_le (Nat.le_of_lt read_lt) chunk_lt] at short
      by_cases moved : decoder.readChunkSize + data.length = 0
      · have empty : data = [] := List.length_eq_zero_iff.mp (by omega)
        have start : decoder.readChunkSize = 0 := by omega
        subst empty
        rw [takePart_of_split [] isOver]
        simpa [isChunkOver, start] using isOver
      · have wrapped : (decoder.readChunkSize + data.length) % 2 ^ 32 ≠ 0 := by omega
        rw [takePart_of_split data isOver]
        simp only [isChunkOver, wrapped, decide_false, Bool.and_false]

theorem chunkNeed_takePart {decoder : ChunkDecoder} {data : Bytes} (range : decoder.InRange)
    (short : data.length < decoder.chunkNeed) :
    (decoder.takePart data).chunkNeed = decoder.chunkNeed - data.length := by
  have same := isChunkOver_takePart range short
  obtain ⟨chunk_lt, read_lt⟩ := range
  cases isOver : decoder.isChunkOver with
  | true =>
      rw [isOver] at same
      simp only [chunkNeed, isOver, same, if_true] at short ⊢
      exact RtmpPack.getBodyRemainSize_appendData (Nat.le_of_lt short)
  | false =>
      rw [isOver] at same
      simp only [chunkNeed, isOver, same, Bool.false_eq_true, if_false] at short ⊢
      rw [sub32_of_le (Nat.le_of_lt read_lt) chunk_lt] at short ⊢
      simp only [takePart, isOver, Bool.false_eq_true, if_false]
      rw [Nat.mod_eq_of_lt (by omega), sub32_of_le (by omega) chunk_lt]
      omega

theorem takePart_takePart {decoder : ChunkDecoder} {a b : Bytes} (range : decoder.InRange)
    (short : a.length < decoder.chunkNeed) :
    (decoder.takePart a).takePart b = decoder.takePart (a ++ b) := by
  have same := isChunkOver_takePart range short
  cases isOver : decoder.isChunkOver with
  | true =>
      rw [isOver] at same
      simp [takePart, isOver] at same ⊢
      simp [same]
  | false =>
      rw [isOver] at same
      simp [takePart, isOver] at same ⊢
      simp [same, Nat.add_assoc]

theorem closeChunk_takePart {decoder : ChunkDecoder} {a b : Bytes} (range : decoder.InRange)
    (short : a.length < decoder.chunkNeed) :
    (decoder.takePart a).closeChunk b = decoder.closeChunk (a ++ b) := by
  have same := isChunkOver_takePart range short
  unfold closeChunk
  rw [same]
  cases isOver : decoder.isChunkOver with
  | true => simp [takePart, isOver]
  | false => simp [takePart]

end ChunkDecoder

/-- The pack a call of `DecodePack` finishes: then `GetLastRtmpPack` returns it. -/
def DecodePackResult.raised (step : DecodePackResult) : List RtmpPack :=
  if step.packFinish then [step.decoder.lastRtmpPack] else []

namespace ChunkDecoder

/-! ## Draining a buffer -/

/-- Call `DecodePack` until it returns 0, at most `fuel` times. -/
def drainFuel : Nat → ChunkDecoder → Bytes → (ChunkDecoder × Bytes) × List RtmpPack
  | 0, decoder, buffer => ((decoder, buffer), [])
  | fuel + 1, decoder, buffer =>
      let step := decoder.decodePack buffer
      if step.result = 0 then
        ((step.decoder, step.buffer), step.raised)
      else
        let rest := drainFuel fuel step.decoder step.buffer
        (rest.1, step.raised ++ rest.2)

/-- Call `DecodePack` until it returns 0: the decoder, the unread bytes and the packs that
were finished. -/
def drain (decoder : ChunkDecoder) (buffer : Bytes) : (ChunkDecoder × Bytes) × List RtmpPack :=
  drainFuel (buffer.length + 1) decoder buffer

theorem decodePack_shorter {decoder : ChunkDecoder} {buffer : Bytes}
    (goes : (decoder.decodePack buffer).result ≠ 0) :
    (decoder.decodePack buffer).buffer.length < buffer.length := by
  have bounds := decodePack_length decoder buffer
  omega

/-- The fuel does not run out. -/
theorem drainFuel_eq (fuel : Nat) (decoder : ChunkDecoder) (buffer : Bytes)
    (enough : buffer.length < fuel) : drainFuel fuel decoder buffer = drain decoder buffer := by
  induction fuel using Nat.strongRecOn generalizing decoder buffer with
  | ind fuel ih =>
      obtain ⟨fuel, rfl⟩ : ∃ n, fuel = n + 1 := ⟨fuel - 1, by omega⟩
      rw [drain, drainFuel, drainFuel]
      by_cases stops : (decoder.decodePack buffer).result = 0
      · simp only [stops, if_true]
      · have shorter := decodePack_shorter stops
        simp only [stops, if_false]
        rw [ih fuel (Nat.lt_succ_self _) _ _ (by omega)]
        rcases Nat.lt_or_ge buffer.length fuel with less | full
        · rw [ih buffer.length (by omega) _ _ shorter]
        · obtain rfl : buffer.length = fuel := by omega
          rw [ih buffer.length (Nat.lt_succ_self _) _ _ shorter]

theorem drain_stop {decoder : ChunkDecoder} {buffer : Bytes}
    (stops : (decoder.decodePack buffer).result = 0) :
    drain decoder buffer =
      (((decoder.decodePack buffer).decoder, (decoder.decodePack buffer).buffer),
        (decoder.decodePack buffer).raised) := by
  rw [drain, drainFuel]
  simp only [stops, if_true]

theorem drain_go {decoder : ChunkDecoder} {buffer : Bytes}
    (goes : (decoder.decodePack buffer).result ≠ 0) :
    drain decoder buffer =
      ((drain (decoder.decodePack buffer).decoder (decoder.decodePack buffer).buffer).1,
        (decoder.decodePack buffer).raised ++
          (drain (decoder.decodePack buffer).decoder (decoder.decodePack buffer).buffer).2) := by
  rw [drain, drainFuel]
  simp only [goes, if_false]
  rw [drainFuel_eq _ _ _ (decodePack_shorter goes)]

@[simp] theorem drain_nil (decoder : ChunkDecoder) : drain decoder [] = ((decoder, []), []) := rfl

theorem drain_cut {decoder : ChunkDecoder} {buffer : Bytes}
    (inHeader : decoder.decodePackStatus = .parseRtmpHeader)
    (cut : ¬ RtmpPack.HeaderComplete buffer) :
    drain decoder buffer = ((decoder.touch buffer, buffer), []) := by
  have call := decodePack_cut inHeader cut
  rw [drain_stop (by rw [call]), call]
  rfl

/-- Reading a cut header again, with more bytes, leaves what reading it once leaves. -/
theorem decodePack_touch {decoder : ChunkDecoder}
    (inHeader : decoder.decodePackStatus = .parseRtmpHeader) (a b : Bytes) :
    (decoder.touch a).decodePack (a ++ b) = decoder.decodePack (a ++ b) := by
  cases a with
  | nil => rfl
  | cons first rest =>
      have read := RtmpPack.decodeHeader_touchHeader decoder.currentRtmpPack (first :: rest) b
      simp only [List.cons_append] at read ⊢
      simp [decodePack, decodePackHeader, inHeader, touch, read]

/-- Draining a cut header again, with more bytes, starts from the same decoder. -/
theorem drain_touch (decoder : ChunkDecoder) (a b : Bytes)
    (inHeader : decoder.decodePackStatus = .parseRtmpHeader) :
    drain (decoder.touch a) (a ++ b) = drain decoder (a ++ b) := by
  have same := decodePack_touch inHeader a b
  by_cases stops : (decoder.decodePack (a ++ b)).result = 0
  · rw [drain_stop stops, drain_stop (by rw [same]; exact stops), same]
  · rw [drain_go stops, drain_go (by rw [same]; exact stops), same]

/-! ### A call that reaches the body -/

/-- A call that reaches the body of a chunk and will not return 0: the decoder with the
header read, the bytes behind the header and the bytes counted so far. -/
structure Reaches (decoder : ChunkDecoder) (buffer : Bytes) (opened : ChunkDecoder)
    (body : Bytes) (readLength : Nat) : Prop where
  calls : ∀ more, decoder.decodePack (buffer ++ more) =
    opened.decodePackBody (body ++ more) readLength
  length : readLength + body.length = buffer.length
  inBody : opened.decodePackStatus = .parseRtmpBody
  range : opened.InRange
  positive : 0 < readLength ∨ (body ≠ [] ∧ 0 < opened.chunkNeed)

theorem Reaches.call {decoder opened : ChunkDecoder} {buffer body : Bytes} {readLength : Nat}
    (reaches : Reaches decoder buffer opened body readLength) :
    decoder.decodePack buffer = opened.decodePackBody body readLength := by
  simpa using reaches.calls []

/-- More bytes behind the buffer are more bytes behind the header. -/
theorem Reaches.append {decoder opened : ChunkDecoder} {buffer body : Bytes} {readLength : Nat}
    (reaches : Reaches decoder buffer opened body readLength) (more : Bytes) :
    Reaches decoder (buffer ++ more) opened (body ++ more) readLength where
  calls further := by simpa using reaches.calls (more ++ further)
  length := by
    have := reaches.length
    simp only [List.length_append]
    omega
  inBody := reaches.inBody
  range := reaches.range
  positive := by
    rcases reaches.positive with counted | ⟨arrived, needed⟩
    · exact .inl counted
    · exact .inr ⟨by simp [arrived], needed⟩

theorem Reaches.drain_short {decoder opened : ChunkDecoder} {buffer body : Bytes}
    {readLength : Nat} (reaches : Reaches decoder buffer opened body readLength)
    (short : body.length < opened.chunkNeed) :
    drain decoder buffer = ((opened.takePart body, []), []) := by
  have call := reaches.call
  rw [decodePackBody_short _ reaches.inBody short] at call
  have moved : ((readLength : Int) + body.length) ≠ 0 := by
    rcases reaches.positive with counted | ⟨arrived, -⟩
    · omega
    · have := List.length_pos_iff.mpr arrived
      omega
  rw [drain_go (by rw [call]; exact moved), call, drain_nil]
  rfl

theorem Reaches.drain_enough {decoder opened : ChunkDecoder} {buffer body : Bytes}
    {readLength : Nat} (reaches : Reaches decoder buffer opened body readLength)
    (enough : opened.chunkNeed ≤ body.length) :
    drain decoder buffer =
      ((drain (opened.closeChunk (body.take opened.chunkNeed)) (body.drop opened.chunkNeed)).1,
        (if opened.isChunkOver then
            [(opened.closeChunk (body.take opened.chunkNeed)).lastRtmpPack] else []) ++
          (drain (opened.closeChunk (body.take opened.chunkNeed))
            (body.drop opened.chunkNeed)).2) := by
  have call := reaches.call
  rw [decodePackBody_enough _ reaches.inBody enough] at call
  have moved : ((readLength : Int) + opened.chunkNeed) ≠ 0 := by
    rcases reaches.positive with counted | ⟨-, needed⟩ <;> omega
  rw [drain_go (by rw [call]; exact moved), call]
  rfl

/-- Enough bytes for the last chunk of a message finish its pack. -/
theorem Reaches.drain_over {decoder opened : ChunkDecoder} {buffer body : Bytes}
    {readLength : Nat} (reaches : Reaches decoder buffer opened body readLength)
    (isOver : opened.isChunkOver = true) (enough : opened.chunkNeed ≤ body.length) :
    (drain decoder buffer).1 =
        (drain (opened.closeChunk (body.take opened.chunkNeed)) (body.drop opened.chunkNeed)).1 ∧
      (drain decoder buffer).2 =
        (opened.closeChunk (body.take opened.chunkNeed)).lastRtmpPack ::
          (drain (opened.closeChunk (body.take opened.chunkNeed))
            (body.drop opened.chunkNeed)).2 := by
  have drained := reaches.drain_enough enough
  rw [isOver, if_pos rfl, List.singleton_append, ← Prod.eta (drain decoder buffer),
    Prod.mk.injEq] at drained
  exact drained

/-- Enough bytes for any other chunk go into the current pack. -/
theorem Reaches.drain_split {decoder opened : ChunkDecoder} {buffer body : Bytes}
    {readLength : Nat} (reaches : Reaches decoder buffer opened body readLength)
    (split : opened.isChunkOver = false) (enough : opened.chunkNeed ≤ body.length) :
    drain decoder buffer =
      drain (opened.closeChunk (body.take opened.chunkNeed)) (body.drop opened.chunkNeed) := by
  rw [reaches.drain_enough enough, split, if_neg Bool.false_ne_true, List.nil_append, Prod.eta]

/-- A call in the body state with bytes to read. -/
theorem Sane.reaches_body {decoder : ChunkDecoder} {buffer : Bytes} (sane : decoder.Sane)
    (inBody : decoder.decodePackStatus = .parseRtmpBody) (arrived : buffer ≠ []) :
    Reaches decoder buffer decoder buffer 0 where
  calls more := decodePack_inBody inBody (by simp [arrived])
  length := Nat.zero_add _
  inBody := inBody
  range := sane.toInRange
  positive := .inr ⟨arrived, sane.body_need inBody⟩

/-- A call in the header state with a whole header. -/
theorem Sane.reaches_header {decoder : ChunkDecoder} {first : UInt8} {rest : Bytes}
    (sane : decoder.Sane) (inHeader : decoder.decodePackStatus = .parseRtmpHeader)
    (complete : RtmpPack.HeaderComplete (first :: rest)) :
    Reaches decoder (first :: rest) (decoder.openBody (first :: rest))
      ((first :: rest).drop (RtmpPack.headerSize first)) (RtmpPack.headerSize first) where
  calls more := by
    obtain ⟨-, -, stable⟩ := RtmpPack.decodeHeader_complete decoder.currentRtmpPack complete
    have fits : RtmpPack.headerSize first ≤ (first :: rest).length := complete
    have opened : decoder.openBody (first :: rest ++ more) = decoder.openBody (first :: rest) := by
      simp only [openBody, stable]
    rw [← opened, ← List.drop_append_of_le_length fits]
    exact decodePack_header inHeader (complete.append more)
  length := by
    have fits : RtmpPack.headerSize first ≤ (first :: rest).length := complete
    rw [List.length_drop]
    omega
  inBody := rfl
  range := ⟨sane.chunk_lt, sane.read_lt⟩
  positive := .inl (RtmpPack.headerSize_pos first)

/-- A header that is there to its last byte and no further is read by itself, whatever
comes behind it. -/
theorem Sane.reaches_behind {decoder : ChunkDecoder} (sane : decoder.Sane)
    (inHeader : decoder.decodePackStatus = .parseRtmpHeader) {first : UInt8} {fields : Bytes}
    (whole : RtmpPack.headerSize first = fields.length + 1) (tail : Bytes) :
    Reaches decoder (first :: fields ++ tail) (decoder.openBody (first :: fields)) tail
      (RtmpPack.headerSize first) := by
  have complete : RtmpPack.HeaderComplete (first :: fields) := Nat.le_of_eq whole
  have nothing : (first :: fields).drop (RtmpPack.headerSize first) = [] :=
    List.drop_of_length_le (Nat.le_of_eq whole.symm)
  have alone := sane.reaches_header inHeader complete
  rw [nothing] at alone
  exact alone.append tail

/-- Every call of a sane decoder finds a cut header or no byte, or reaches a body. -/
theorem Sane.call_cases {decoder : ChunkDecoder} (sane : decoder.Sane) (buffer : Bytes) :
    (decoder.decodePackStatus = .parseRtmpHeader ∧ ¬ RtmpPack.HeaderComplete buffer) ∨
      (decoder.decodePackStatus = .parseRtmpBody ∧ buffer = []) ∨
      ∃ opened body readLength, Reaches decoder buffer opened body readLength := by
  cases status : decoder.decodePackStatus with
  | parseRtmpHeader =>
      by_cases complete : RtmpPack.HeaderComplete buffer
      · cases buffer with
        | nil => exact complete.elim
        | cons first rest =>
            exact .inr (.inr ⟨_, _, _, sane.reaches_header status complete⟩)
      · exact .inl ⟨rfl, complete⟩
  | parseRtmpBody =>
      by_cases empty : buffer = []
      · exact .inr (.inl ⟨rfl, empty⟩)
      · exact .inr (.inr ⟨_, _, _, sane.reaches_body status empty⟩)

/-! ### Sanity is preserved -/

theorem Sane.touch {decoder : ChunkDecoder} (sane : decoder.Sane) (buffer : Bytes)
    (inHeader : decoder.decodePackStatus = .parseRtmpHeader) : (decoder.touch buffer).Sane where
  chunk_lt := sane.chunk_lt
  read_lt := sane.read_lt
  body_need inBody := by
    have impossible : decoder.decodePackStatus = .parseRtmpBody := inBody
    rw [inHeader] at impossible
    cases impossible

theorem InRange.takePart_read_lt {decoder : ChunkDecoder} (range : decoder.InRange)
    {data : Bytes} (short : data.length < decoder.chunkNeed) :
    (decoder.takePart data).readChunkSize < decoder.rtmpChunkSize := by
  obtain ⟨chunk_lt, read_lt⟩ := range
  rw [ChunkDecoder.takePart]
  cases isOver : decoder.isChunkOver with
  | true => exact read_lt
  | false =>
      rw [chunkNeed, if_neg (by simp [isOver]), sub32_of_le (Nat.le_of_lt read_lt) chunk_lt]
        at short
      have below : decoder.readChunkSize + data.length < decoder.rtmpChunkSize := by omega
      exact Nat.lt_of_le_of_lt (Nat.mod_le _ _) below

theorem InRange.takePart {decoder : ChunkDecoder} (range : decoder.InRange) {data : Bytes}
    (short : data.length < decoder.chunkNeed) : (decoder.takePart data).Sane where
  chunk_lt := by
    rw [takePart_rtmpChunkSize]
    exact range.chunk_lt
  read_lt := by
    rw [takePart_rtmpChunkSize]
    exact range.takePart_read_lt short
  body_need _ := by
    rw [chunkNeed_takePart range short]
    exact Nat.sub_pos_of_lt short

theorem InRange.closeChunk {decoder : ChunkDecoder} (range : decoder.InRange) (data : Bytes) :
    (decoder.closeChunk data).Sane := by
  obtain ⟨chunk_lt, read_lt⟩ := range
  cases isOver : decoder.isChunkOver with
  | true =>
      simp only [ChunkDecoder.closeChunk, isOver, if_true]
      exact ⟨⟨chunk_lt, read_lt⟩, fun inBody => nomatch inBody⟩
  | false =>
      simp only [ChunkDecoder.closeChunk, isOver, Bool.false_eq_true, if_false]
      exact ⟨⟨chunk_lt, Nat.zero_lt_of_lt read_lt⟩, fun inBody => nomatch inBody⟩

/-! ### Draining is incremental -/

/-- A body cut in two: after the first part, the rest leads where both parts lead. -/
theorem Reaches.drain_resume {decoder opened : ChunkDecoder} {buffer body : Bytes}
    {readLength : Nat} (reaches : Reaches decoder buffer opened body readLength) (more : Bytes)
    (short : body.length < opened.chunkNeed) :
    ChunkDecoder.drain decoder (buffer ++ more) =
      ChunkDecoder.drain (opened.takePart body) more := by
  by_cases empty : more = []
  · subst empty
    rw [List.append_nil, reaches.drain_short short, drain_nil]
  · have inBody : (opened.takePart body).decodePackStatus = .parseRtmpBody := by
      rw [takePart_decodePackStatus, reaches.inBody]
    have resumed := (reaches.range.takePart short).reaches_body inBody empty
    have need := chunkNeed_takePart reaches.range short
    have same := isChunkOver_takePart reaches.range short
    rcases Nat.lt_or_ge (body ++ more).length opened.chunkNeed with cut | enough
    · have cut' : more.length < (opened.takePart body).chunkNeed := by
        rw [List.length_append] at cut
        omega
      rw [(reaches.append more).drain_short cut, resumed.drain_short cut',
        takePart_takePart reaches.range short]
    · have enough' : (opened.takePart body).chunkNeed ≤ more.length := by
        rw [List.length_append] at enough
        omega
      rw [(reaches.append more).drain_enough enough, resumed.drain_enough enough', same,
        closeChunk_takePart reaches.range short, need, List.take_append, List.drop_append,
        List.take_of_length_le (Nat.le_of_lt short), List.drop_of_length_le (Nat.le_of_lt short),
        List.nil_append]

/-- One decoder and buffer lead to another, finishing some packs on the way: from both,
whatever bytes follow, draining ends in the same place. -/
structure Passes (decoder : ChunkDecoder) (buffer : Bytes) (packs : List RtmpPack)
    (after : ChunkDecoder) (unread : Bytes) : Prop where
  drains : ∀ tail, ChunkDecoder.drain decoder (buffer ++ tail) =
    ((ChunkDecoder.drain after (unread ++ tail)).1,
      packs ++ (ChunkDecoder.drain after (unread ++ tail)).2)
  sane : after.Sane

theorem Sane.passes_refl {decoder : ChunkDecoder} (sane : decoder.Sane) (buffer : Bytes) :
    Passes decoder buffer [] decoder buffer := ⟨fun _ => rfl, sane⟩

theorem Passes.trans {decoder between after : ChunkDecoder} {buffer unread rest : Bytes}
    {packs more : List RtmpPack} (first : Passes decoder buffer packs between unread)
    (second : Passes between unread more after rest) :
    Passes decoder buffer (packs ++ more) after rest where
  drains tail := by rw [first.drains, second.drains, List.append_assoc]
  sane := second.sane

/-- More bytes behind the buffer are left behind the unread bytes. -/
theorem Passes.append {decoder after : ChunkDecoder} {buffer unread : Bytes}
    {packs : List RtmpPack} (passes : Passes decoder buffer packs after unread) (more : Bytes) :
    Passes decoder (buffer ++ more) packs after (unread ++ more) where
  drains tail := by
    rw [List.append_assoc, List.append_assoc]
    exact passes.drains (more ++ tail)
  sane := passes.sane

/-- **One call of `DecodePack`** leads to what it leaves. -/
theorem Sane.passes_call {decoder : ChunkDecoder} (sane : decoder.Sane) (buffer : Bytes) :
    Passes decoder buffer (decoder.decodePack buffer).raised
      (decoder.decodePack buffer).decoder (decoder.decodePack buffer).buffer := by
  rcases sane.call_cases buffer with ⟨inHeader, cut⟩ | ⟨-, rfl⟩ | ⟨opened, body, k, reaches⟩
  · rw [decodePack_cut inHeader cut]
    exact ⟨fun tail => (drain_touch decoder buffer tail inHeader).symm, sane.touch buffer inHeader⟩
  · exact sane.passes_refl []
  · rcases Nat.lt_or_ge body.length opened.chunkNeed with short | enough
    · -- the bytes end inside the body of a chunk
      rw [reaches.call, decodePackBody_short _ reaches.inBody short]
      exact ⟨fun tail => reaches.drain_resume tail short, reaches.range.takePart short⟩
    · -- the chunk is closed within the bytes
      rw [reaches.call, decodePackBody_enough _ reaches.inBody enough]
      refine ⟨fun tail => ?_, reaches.range.closeChunk _⟩
      have enough' : opened.chunkNeed ≤ (body ++ tail).length := by
        rw [List.length_append]
        omega
      rw [(reaches.append tail).drain_enough enough', List.take_append_of_le_length enough,
        List.drop_append_of_le_length enough]
      rfl

/-- Draining leads to what it leaves. -/
theorem Sane.passes_drain {decoder : ChunkDecoder} (sane : decoder.Sane) (buffer : Bytes) :
    Passes decoder buffer (ChunkDecoder.drain decoder buffer).2
      (ChunkDecoder.drain decoder buffer).1.1 (ChunkDecoder.drain decoder buffer).1.2 := by
  induction length : buffer.length using Nat.strongRecOn generalizing decoder buffer with
  | ind n ih =>
      subst length
      have call := sane.passes_call buffer
      by_cases stops : (decoder.decodePack buffer).result = 0
      · rw [drain_stop stops]
        exact call
      · rw [drain_go stops]
        exact call.trans (ih _ (decodePack_shorter stops) call.sane _ rfl)

/-- Draining keeps a decoder sane. -/
theorem Sane.drain {decoder : ChunkDecoder} (sane : decoder.Sane) (buffer : Bytes) :
    (ChunkDecoder.drain decoder buffer).1.1.Sane := (sane.passes_drain buffer).sane

/-- **Bytes may arrive in two parts.** Draining the first part and then, from where that
leaves the decoder and the unread bytes, the rest, is draining all of them. -/
theorem Sane.drain_append {decoder : ChunkDecoder} (sane : decoder.Sane) (a b : Bytes) :
    ChunkDecoder.drain decoder (a ++ b) =
      ((ChunkDecoder.drain (ChunkDecoder.drain decoder a).1.1
          ((ChunkDecoder.drain decoder a).1.2 ++ b)).1,
        (ChunkDecoder.drain decoder a).2 ++
          (ChunkDecoder.drain (ChunkDecoder.drain decoder a).1.1
            ((ChunkDecoder.drain decoder a).1.2 ++ b)).2) :=
  (sane.passes_drain a).drains b

/-- The read loop around `DecodePack`: append what arrived to the buffer, then drain it. -/
def drainConsumer : Consumer (ChunkDecoder × Bytes) UInt8 RtmpPack where
  feed state data := drain state.1 (state.2 ++ data)

/-- Nothing can be decoded from the unread bytes. -/
def Drained (state : ChunkDecoder × Bytes) : Prop :=
  state.1.Sane ∧ drain state.1 state.2 = (state, [])

theorem Sane.drained_nil {decoder : ChunkDecoder} (sane : decoder.Sane) :
    Drained (decoder, []) := ⟨sane, drain_nil decoder⟩

/-- A drained buffer is drained: nothing more comes of it. -/
theorem Sane.drain_drained {decoder : ChunkDecoder} (sane : decoder.Sane) (buffer : Bytes) :
    Drained (ChunkDecoder.drain decoder buffer).1 := by
  refine ⟨sane.drain buffer, ?_⟩
  have again := sane.drain_append buffer []
  simp only [List.append_nil] at again
  have packs := congrArg Prod.snd again
  simp only [List.self_eq_append_right] at packs
  exact Prod.ext (congrArg Prod.fst again).symm packs

/-- **The decoder does not see how its bytes were cut into reads.** -/
theorem drainConsumer_incremental : drainConsumer.Incremental Drained where
  settled state data drained := drained.1.drain_drained _
  nil state drained := by
    simpa [drainConsumer] using drained.2
  append state a b drained := by
    simp only [drainConsumer]
    rw [← List.append_assoc]
    exact drained.1.drain_append _ b

end ChunkDecoder

end LiveBroadcast
