import Mathlib.Data.List.Forall2
import LiveBroadcast.Codec.PackDecoding

/-!
# Chunk reassembly inverts chunking

A message is sent as a sequence of chunks. The first carries a header of one of the four
formats, of which FMT1 to FMT3 leave out fields that equal those of the previous message;
the others carry a FMT3 header. Each chunk holds the next part of the body, up to the chunk
size (`Message.chunks`).

The proof follows the decoder from chunk to chunk. While a message is being received the
decoder holds the part of the body that was in the chunks so far (`Holding`), and between
messages it is `Ready`, with the header fields of the previous message still in the current
pack. One chunk takes `Holding` to `Holding` or, when it is the last, to `Ready` with the
pack finished; one message takes `Ready` to `Ready` (`Ready.drain_message`). Because
draining is incremental, the way the bytes are cut into reads plays no part.
-/

set_option autoImplicit false

namespace LiveBroadcast

/-! ## Encoding -/

/-- The byte that starts a chunk: the format and a chunk stream id of 2 to 63. -/
def basicHeader (fmt : RtmpPackFmt) (csid : UInt8) : UInt8 := fmt.toByte <<< 6 ||| csid

/-- An RTMP message whose timestamp field is below the escape value `0xFFFFFF` and whose
body is short enough for the three size bytes. -/
structure Message where
  timestamp : ByteTriple
  type : UInt8
  streamId : ByteQuad
  body : Bytes
  timestamp_lt : timestamp.toNat < 0xFFFFFF
  body_lt : body.length < 2 ^ 24

/-- The parts of a body that its chunks carry: all but the last have the chunk size. -/
def bodyPieces (chunkSize : Nat) (body : Bytes) : List Bytes :=
  if body.length ≤ chunkSize ∨ chunkSize = 0 then [body]
  else body.take chunkSize :: bodyPieces chunkSize (body.drop chunkSize)
termination_by body.length

/-- The chunks of the parts behind the first: a FMT3 header and the part. -/
def continuationChunks (chunkSize : Nat) (csid : UInt8) (body : Bytes) : List Bytes :=
  (bodyPieces chunkSize body).map (basicHeader .fmt3 csid :: ·)

namespace Message

/-- The three size bytes. -/
def size (message : Message) : ByteTriple := .ofNat message.body.length

@[simp] theorem size_toNat (message : Message) : message.size.toNat = message.body.length := by
  rw [size, ByteTriple.toNat_ofNat, Nat.mod_eq_of_lt message.body_lt]

/-- The message header without the basic header. -/
def header (message : Message) : RtmpPackFmt → Bytes
  | .fmt0 => message.timestamp.bytes ++ message.size.bytes ++ [message.type] ++
      message.streamId.bytes
  | .fmt1 => message.timestamp.bytes ++ message.size.bytes ++ [message.type]
  | .fmt2 => message.timestamp.bytes
  | .fmt3 => []

/-- The fields that a format leaves out equal those of the previous message. -/
def Omits (message previous : Message) : RtmpPackFmt → Prop
  | .fmt0 => True
  | .fmt1 => message.streamId = previous.streamId
  | .fmt2 => message.streamId = previous.streamId ∧ message.size = previous.size ∧
      message.type = previous.type
  | .fmt3 => message.streamId = previous.streamId ∧ message.size = previous.size ∧
      message.type = previous.type ∧ message.timestamp = previous.timestamp

/-- The first chunk of a message up to its body. -/
def firstHeader (message : Message) (csid : UInt8) (fmt : RtmpPackFmt) : Bytes :=
  basicHeader fmt csid :: message.header fmt

/-- The chunks of a message. -/
def chunks (message : Message) (chunkSize : Nat) (csid : UInt8) (fmt : RtmpPackFmt) :
    List Bytes :=
  if message.body.length ≤ chunkSize then [message.firstHeader csid fmt ++ message.body]
  else
    (message.firstHeader csid fmt ++ message.body.take chunkSize) ::
      continuationChunks chunkSize csid (message.body.drop chunkSize)

/-- The bytes of a message on the wire. -/
def encode (message : Message) (chunkSize : Nat) (csid : UInt8) (fmt : RtmpPackFmt) : Bytes :=
  (message.chunks chunkSize csid fmt).flatten

end Message

/-- A message with the format chosen for its first chunk. -/
structure SentMessage where
  fmt : RtmpPackFmt
  message : Message

/-- The formats are allowed: the first message of a stream is sent with FMT0, and a later
one leaves out only fields it shares with the message before it. -/
def WellCompressed : Option Message → List SentMessage → Prop
  | _, [] => True
  | none, sent :: rest => sent.fmt = .fmt0 ∧ WellCompressed (some sent.message) rest
  | some previous, sent :: rest =>
      sent.message.Omits previous sent.fmt ∧ WellCompressed (some sent.message) rest

/-- The bytes of a list of messages on one chunk stream. -/
def encodeMessages (chunkSize : Nat) (csid : UInt8) (sent : List SentMessage) : Bytes :=
  sent.flatMap fun one => one.message.encode chunkSize csid one.fmt

theorem zeroTimestamp_lt : ByteTriple.toNat ⟨0, 0, 0⟩ < 0xFFFFFF := by decide

/-- A message sent with a FMT0 header at time 0. -/
def plainMessage (type : UInt8) (body : Bytes) (short : body.length < 2 ^ 24) : SentMessage :=
  ⟨.fmt0, ⟨⟨0, 0, 0⟩, type, ⟨1, 0, 0, 0⟩, body, zeroTimestamp_lt, short⟩⟩

theorem WellCompressed.head {previous : Option Message} {sent : SentMessage}
    {rest : List SentMessage} (compressed : WellCompressed previous (sent :: rest)) :
    WellCompressed previous [sent] ∧ WellCompressed (some sent.message) rest := by
  cases previous with
  | none => exact ⟨⟨compressed.1, trivial⟩, compressed.2⟩
  | some before => exact ⟨⟨compressed.1, trivial⟩, compressed.2⟩

/-! ## The basic header -/

theorem basicHeader_bits (fmt : RtmpPackFmt) {csid : UInt8} (small : csid < 64) :
    basicHeader fmt csid >>> 6 = fmt.toByte ∧ basicHeader fmt csid &&& 0b00111111 = csid := by
  have table : ∀ n : Fin 64, basicHeader fmt (UInt8.ofNat n) >>> 6 = fmt.toByte ∧
      basicHeader fmt (UInt8.ofNat n) &&& 0b00111111 = UInt8.ofNat n := by
    cases fmt <;> decide +kernel
  have entry := table ⟨csid.toNat, small⟩
  simpa using entry

theorem ofByte_toByte (fmt : RtmpPackFmt) : RtmpPackFmt.ofByte fmt.toByte = some fmt := by
  cases fmt <;> rfl

theorem headerSize_basicHeader (fmt : RtmpPackFmt) {csid : UInt8} (small : csid < 64) :
    RtmpPack.headerSize (basicHeader fmt csid) = fmt.headerLength + 1 := by
  simp [RtmpPack.headerSize, (basicHeader_bits fmt small).1, ofByte_toByte]

theorem Message.length_header (message : Message) (fmt : RtmpPackFmt) :
    (message.header fmt).length = fmt.headerLength := by
  cases fmt <;> rfl

/-- The header of a message is whole once its own bytes are there. -/
theorem headerComplete_firstHeader (message : Message) (fmt : RtmpPackFmt) {csid : UInt8}
    (small : csid < 64) (tail : Bytes) :
    RtmpPack.HeaderComplete (message.firstHeader csid fmt ++ tail) := by
  simp only [Message.firstHeader, List.cons_append, RtmpPack.HeaderComplete,
    headerSize_basicHeader fmt small, List.length_append, message.length_header]
  omega

/-! ## What the decoder holds -/

/-- The header fields of a message, in the form `RtmpPack` stores them. -/
structure RtmpPack.Carries (pack : RtmpPack) (message : Message) : Prop where
  timestamp : pack.timestamp = message.timestamp
  dataSize : pack.dataSize = message.size
  packType : pack.packType = RtmpPack.typeOfByte message.type
  streamId : pack.streamId = message.streamId

/-- A finished pack is the message that was sent: header fields, body and chunk stream. -/
structure Reassembled (csid : UInt8) (pack : RtmpPack) (sent : SentMessage) : Prop where
  carries : pack.Carries sent.message
  body : pack.buffer = sent.message.body
  csid : pack.csid = csid

namespace ChunkDecoder

/-- Between two chunks, with some body stored perhaps. -/
structure Between (decoder : ChunkDecoder) (chunkSize : Nat) : Prop where
  range : decoder.InRange
  size : decoder.rtmpChunkSize = chunkSize
  inHeader : decoder.decodePackStatus = .parseRtmpHeader
  atStart : decoder.readChunkSize = 0

/-- Between messages: no chunk begun, no body stored, and in the current pack still the
header fields of the previous message, if there was one. -/
structure Ready (decoder : ChunkDecoder) (chunkSize : Nat) (previous : Option Message) :
    Prop where
  range : decoder.InRange
  size : decoder.rtmpChunkSize = chunkSize
  inHeader : decoder.decodePackStatus = .parseRtmpHeader
  atStart : decoder.readChunkSize = 0
  empty : decoder.currentRtmpPack.buffer = []
  fields : ∀ message, previous = some message → decoder.currentRtmpPack.Carries message

/-- At the beginning of a chunk of a message: `received` was in the chunks before and
`rest` is still to come. -/
structure Holding (decoder : ChunkDecoder) (chunkSize : Nat) (message : Message)
    (received rest : Bytes) : Prop where
  range : decoder.InRange
  size : decoder.rtmpChunkSize = chunkSize
  atStart : decoder.readChunkSize = 0
  stored : decoder.currentRtmpPack.buffer = received
  body : received ++ rest = message.body
  fields : decoder.currentRtmpPack.Carries message

variable {decoder opened : ChunkDecoder} {chunkSize : Nat} {previous : Option Message}
  {message : Message} {received rest : Bytes} {csid : UInt8}

theorem Between.sane (between : decoder.Between chunkSize) : decoder.Sane where
  toInRange := between.range
  body_need inBody := by
    rw [between.inHeader] at inBody
    cases inBody

theorem Between.chunkSize_pos (between : decoder.Between chunkSize) : 0 < chunkSize :=
  between.size ▸ Nat.zero_lt_of_lt between.range.read_lt

theorem Ready.between (ready : decoder.Ready chunkSize previous) : decoder.Between chunkSize :=
  ⟨ready.range, ready.size, ready.inHeader, ready.atStart⟩

theorem Ready.sane (ready : decoder.Ready chunkSize previous) : decoder.Sane :=
  ready.between.sane

theorem Holding.between (holding : decoder.Holding chunkSize message received rest)
    (inHeader : decoder.decodePackStatus = .parseRtmpHeader) : decoder.Between chunkSize :=
  ⟨holding.range, holding.size, inHeader, holding.atStart⟩

theorem Holding.chunkSize_pos (holding : decoder.Holding chunkSize message received rest) :
    0 < chunkSize :=
  holding.size ▸ Nat.zero_lt_of_lt holding.range.read_lt

/-- The remaining size is the length of what is still to come. -/
theorem Holding.getBodyRemainSize (holding : decoder.Holding chunkSize message received rest) :
    decoder.currentRtmpPack.getBodyRemainSize = rest.length := by
  have total : received.length + rest.length = message.body.length := by
    rw [← holding.body, List.length_append]
  have bound := message.body_lt
  rw [RtmpPack.getBodyRemainSize, RtmpPack.getBodyDataSize, RtmpPack.getBodyCurrentSize,
    holding.fields.dataSize, message.size_toNat, holding.stored, Nat.mod_eq_of_lt (by omega),
    sub32_of_le (by omega) (by omega)]
  omega

/-- The last chunk: what is still to come fits in one. -/
theorem Holding.last (holding : decoder.Holding chunkSize message received rest)
    (fits : rest.length ≤ chunkSize) :
    decoder.isChunkOver = true ∧ decoder.chunkNeed = rest.length := by
  have isOver : decoder.isChunkOver = true := by
    simp [isChunkOver, holding.getBodyRemainSize, holding.atStart, holding.size, fits]
  refine ⟨isOver, ?_⟩
  rw [chunkNeed, if_pos isOver, holding.getBodyRemainSize]

/-- A chunk that is not the last is filled to the chunk size. -/
theorem Holding.split (holding : decoder.Holding chunkSize message received rest)
    (longer : chunkSize < rest.length) :
    decoder.isChunkOver = false ∧ decoder.chunkNeed = chunkSize := by
  have split : decoder.isChunkOver = false := by
    simp [isChunkOver, holding.getBodyRemainSize, holding.size, Nat.not_le.mpr longer]
  refine ⟨split, ?_⟩
  rw [chunkNeed, if_neg (by simp [split]), holding.atStart,
    sub32_of_le (Nat.zero_le _) holding.range.chunk_lt, Nat.sub_zero, holding.size]

/-- The decoder after a message: ready for the next one, with the message in the last
pack. -/
structure Finished (decoder : ChunkDecoder) (chunkSize : Nat) (message : Message)
    (csid : UInt8) : Prop where
  ready : decoder.Ready chunkSize (some message)
  carries : decoder.lastRtmpPack.Carries message
  body : decoder.lastRtmpPack.buffer = message.body
  csid : decoder.lastRtmpPack.csid = csid

/-- **Closing the last chunk finishes the pack of the message.** -/
theorem Holding.closeChunk_last (holding : decoder.Holding chunkSize message received rest)
    (fits : rest.length ≤ chunkSize) :
    (decoder.closeChunk rest).Finished chunkSize message decoder.currentRtmpPack.csid := by
  obtain ⟨isOver, -⟩ := holding.last fits
  obtain ⟨timestamp, dataSize, packType, streamId⟩ := holding.fields
  simp only [closeChunk, isOver, if_true]
  refine ⟨⟨⟨holding.range.chunk_lt, holding.range.read_lt⟩, holding.size, rfl, holding.atStart,
    rfl, ?_⟩, ⟨timestamp, dataSize, packType, streamId⟩, ?_, rfl⟩
  · intro sent same
    cases same
    exact ⟨timestamp, dataSize, packType, streamId⟩
  · rw [RtmpPack.appendData_buffer, holding.stored, holding.body]

/-- Closing any other chunk moves its part of the body to what was received. -/
theorem Holding.closeChunk_split (holding : decoder.Holding chunkSize message received rest)
    (longer : chunkSize < rest.length) :
    (decoder.closeChunk (rest.take chunkSize)).Holding chunkSize message
        (received ++ rest.take chunkSize) (rest.drop chunkSize) ∧
      (decoder.closeChunk (rest.take chunkSize)).decodePackStatus = .parseRtmpHeader := by
  obtain ⟨split, -⟩ := holding.split longer
  obtain ⟨timestamp, dataSize, packType, streamId⟩ := holding.fields
  simp only [closeChunk, split, Bool.false_eq_true, if_false]
  refine ⟨⟨⟨holding.range.chunk_lt, Nat.zero_lt_of_lt holding.range.read_lt⟩, holding.size, rfl,
    ?_, ?_, ⟨timestamp, dataSize, packType, streamId⟩⟩, trivial⟩
  · rw [RtmpPack.appendData_buffer, holding.stored]
  · rw [List.append_assoc, List.take_append_drop, holding.body]

/-! ## Reading a header -/

/-- **A continuation header** changes the format and the chunk stream id only. -/
theorem Holding.openBody (holding : decoder.Holding chunkSize message received rest)
    (small : csid < 64) :
    (decoder.openBody [basicHeader .fmt3 csid]).Holding chunkSize message received rest ∧
      (decoder.openBody [basicHeader .fmt3 csid]).currentRtmpPack.csid = csid := by
  obtain ⟨high, low⟩ := basicHeader_bits .fmt3 small
  obtain ⟨timestamp, dataSize, packType, streamId⟩ := holding.fields
  simp only [ChunkDecoder.openBody, RtmpPack.decodeHeader, high, low, ofByte_toByte,
    RtmpPack.decodeFields]
  exact ⟨⟨⟨holding.range.chunk_lt, holding.range.read_lt⟩, holding.size, holding.atStart,
    holding.stored, holding.body, ⟨timestamp, dataSize, packType, streamId⟩⟩, trivial⟩

/-- Reading the first header of a message leaves its fields in the pack: the header carries
them or, where it leaves them out, they are there from the message before. -/
theorem Carries.decodeFields {pack : RtmpPack} {sent : SentMessage}
    (fields : ∀ message, previous = some message → pack.Carries message)
    (compressed : WellCompressed previous [sent]) (format : pack.fmt = sent.fmt) :
    (pack.decodeFields (sent.message.header sent.fmt)).1.Carries sent.message ∧
      (pack.decodeFields (sent.message.header sent.fmt)).1.csid = pack.csid := by
  obtain ⟨fmt, message⟩ := sent
  have allowed : fmt = .fmt0 ∨ ∃ before, previous = some before ∧ message.Omits before fmt := by
    cases previous with
    | none => exact .inl compressed.1
    | some before => exact .inr ⟨before, rfl, compressed.1⟩
  simp only [RtmpPack.decodeFields, format]
  cases fmt with
  | fmt0 => exact ⟨⟨rfl, rfl, rfl, rfl⟩, rfl⟩
  | fmt1 =>
      obtain impossible | ⟨before, rfl, kept⟩ := allowed
      · cases impossible
      · obtain ⟨-, -, -, streamId⟩ := fields before rfl
        exact ⟨⟨rfl, rfl, rfl, streamId.trans (Eq.symm kept)⟩, rfl⟩
  | fmt2 =>
      obtain impossible | ⟨before, rfl, keptId, keptSize, keptType⟩ := allowed
      · cases impossible
      · obtain ⟨-, dataSize, packType, streamId⟩ := fields before rfl
        exact ⟨⟨rfl, dataSize.trans keptSize.symm, keptType ▸ packType,
          streamId.trans keptId.symm⟩, rfl⟩
  | fmt3 =>
      obtain impossible | ⟨before, rfl, keptId, keptSize, keptType, keptTime⟩ := allowed
      · cases impossible
      · obtain ⟨timestamp, dataSize, packType, streamId⟩ := fields before rfl
        exact ⟨⟨timestamp.trans keptTime.symm, dataSize.trans keptSize.symm,
          keptType ▸ packType, streamId.trans keptId.symm⟩, rfl⟩

/-- **The header of the first chunk** turns a ready decoder into one that holds the message
with nothing received. -/
theorem Ready.openBody (ready : decoder.Ready chunkSize previous) {sent : SentMessage}
    (compressed : WellCompressed previous [sent]) (small : csid < 64) :
    (decoder.openBody (sent.message.firstHeader csid sent.fmt)).Holding chunkSize sent.message []
        sent.message.body ∧
      (decoder.openBody
        (sent.message.firstHeader csid sent.fmt)).currentRtmpPack.csid = csid := by
  obtain ⟨high, low⟩ := basicHeader_bits sent.fmt small
  have whole : RtmpPack.HeaderComplete (sent.message.firstHeader csid sent.fmt) := by
    simpa using headerComplete_firstHeader sent.message sent.fmt small []
  obtain ⟨-, buffer, -⟩ := RtmpPack.decodeHeader_complete decoder.currentRtmpPack whole
  have read : decoder.currentRtmpPack.decodeHeader (sent.message.firstHeader csid sent.fmt) =
      RtmpPack.decodeFields { decoder.currentRtmpPack with csid := csid, fmt := sent.fmt }
        (sent.message.header sent.fmt) := by
    simp only [Message.firstHeader, RtmpPack.decodeHeader, high, low, ofByte_toByte]
  have fields : ∀ message, previous = some message →
      RtmpPack.Carries { decoder.currentRtmpPack with csid := csid, fmt := sent.fmt } message := by
    intro message same
    obtain ⟨timestamp, dataSize, packType, streamId⟩ := ready.fields message same
    exact ⟨timestamp, dataSize, packType, streamId⟩
  obtain ⟨carries, id⟩ := Carries.decodeFields fields compressed rfl
  rw [← read] at carries id
  exact ⟨⟨⟨ready.range.chunk_lt, ready.range.read_lt⟩, ready.size, ready.atStart,
    buffer.trans ready.empty, rfl, carries⟩, id⟩

/-- A message all of whose fields are left out may be taken for the message before it. -/
theorem Ready.skip (ready : decoder.Ready chunkSize previous) {sent : SentMessage}
    (compressed : WellCompressed previous [sent]) (format : sent.fmt = .fmt3) :
    decoder.Ready chunkSize (some sent.message) := by
  obtain ⟨fmt, message⟩ := sent
  obtain rfl : fmt = .fmt3 := format
  cases previous with
  | none => exact nomatch compressed.1
  | some before =>
      obtain ⟨timestamp, dataSize, packType, streamId⟩ := ready.fields before rfl
      obtain ⟨keptId, keptSize, keptType, keptTime⟩ := compressed.1
      refine ⟨ready.range, ready.size, ready.inHeader, ready.atStart, ready.empty, ?_⟩
      intro sent same
      cases same
      exact ⟨timestamp.trans keptTime.symm, dataSize.trans keptSize.symm, keptType ▸ packType,
        streamId.trans keptId.symm⟩

/-- A call that finds the header of a chunk reads it and goes on with the body. A
continuation header is a FMT3 header of the message, which has no fields. -/
theorem Between.reaches (between : decoder.Between chunkSize) (message : Message)
    (fmt : RtmpPackFmt) (small : csid < 64) (tail : Bytes) :
    Reaches decoder (message.firstHeader csid fmt ++ tail)
      (decoder.openBody (message.firstHeader csid fmt)) tail
      (RtmpPack.headerSize (basicHeader fmt csid)) :=
  between.sane.reaches_behind between.inHeader
    (by rw [headerSize_basicHeader fmt small, message.length_header]) tail

/-! ## From chunk to chunk -/

/-- Draining some bytes finishes one pack and goes on from the decoder behind it. -/
def FinishesBy (decoder : ChunkDecoder) (bytes : Bytes) (after : ChunkDecoder) : Prop :=
  ∀ tail, ChunkDecoder.drain decoder (bytes ++ tail) =
    ((ChunkDecoder.drain after tail).1,
      after.lastRtmpPack :: (ChunkDecoder.drain after tail).2)

/-- The last chunk of a message, behind its header. -/
theorem Reaches.finishes_last {head : Bytes} {readLength : Nat}
    (reaches : ∀ tail, Reaches decoder (head ++ tail) opened tail readLength)
    (holding : opened.Holding chunkSize message received rest) (fits : rest.length ≤ chunkSize) :
    decoder.FinishesBy (head ++ rest) (opened.closeChunk rest) := by
  intro tail
  obtain ⟨isOver, need⟩ := holding.last fits
  have enough : opened.chunkNeed ≤ (rest ++ tail).length := by
    rw [need, List.length_append]
    exact Nat.le_add_right _ _
  rw [List.append_assoc, (reaches (rest ++ tail)).drain_enough enough, need, isOver,
    List.take_left, List.drop_left]
  rfl

/-- A chunk that is not the last, behind its header. -/
theorem Reaches.passes_split {head : Bytes} {readLength : Nat}
    (reaches : ∀ tail, Reaches decoder (head ++ tail) opened tail readLength)
    (holding : opened.Holding chunkSize message received rest)
    (longer : chunkSize < rest.length) (tail : Bytes) :
    ChunkDecoder.drain decoder (head ++ rest.take chunkSize ++ tail) =
      ChunkDecoder.drain (opened.closeChunk (rest.take chunkSize)) tail := by
  obtain ⟨split, need⟩ := holding.split longer
  have length : (rest.take chunkSize).length = chunkSize :=
    List.length_take_of_le (Nat.le_of_lt longer)
  have enough : opened.chunkNeed ≤ (rest.take chunkSize ++ tail).length := by
    rw [need, List.length_append, length]
    exact Nat.le_add_right _ _
  rw [List.append_assoc, (reaches _).drain_enough enough, need, split,
    List.take_left' length, List.drop_left' length]
  rfl

/-- **The rest of a message** in continuation chunks finishes its pack. -/
theorem Holding.drain_continuation (holding : decoder.Holding chunkSize message received rest)
    (inHeader : decoder.decodePackStatus = .parseRtmpHeader) (small : csid < 64) :
    ∃ after, after.Finished chunkSize message csid ∧
      decoder.FinishesBy (continuationChunks chunkSize csid rest).flatten after := by
  induction length : rest.length using Nat.strongRecOn generalizing decoder received rest with
  | ind n ih =>
      subst length
      have reaches (tail : Bytes) : Reaches decoder ([basicHeader .fmt3 csid] ++ tail) _ tail _ :=
        (holding.between inHeader).reaches message .fmt3 small tail
      obtain ⟨opened, id⟩ := holding.openBody small
      have positive := holding.chunkSize_pos
      rw [continuationChunks, bodyPieces]
      rcases Nat.lt_or_ge chunkSize rest.length with longer | fits
      · obtain ⟨holding', inHeader'⟩ := opened.closeChunk_split longer
        have shorter : (rest.drop chunkSize).length < rest.length := by
          rw [List.length_drop]
          omega
        obtain ⟨after, finished, finishes⟩ := ih _ shorter holding' inHeader' rfl
        refine ⟨after, finished, fun tail => ?_⟩
        rw [if_neg (by omega), List.map_cons, List.flatten_cons, List.append_assoc]
        exact (Reaches.passes_split reaches opened longer _).trans (finishes tail)
      · rw [if_pos (.inl fits), List.map_singleton, List.flatten_singleton]
        have finished := opened.closeChunk_last fits
        rw [id] at finished
        exact ⟨_, finished, Reaches.finishes_last reaches opened fits⟩

/-- **One message**, from ready to ready. -/
theorem Ready.drain_message (ready : decoder.Ready chunkSize previous) {sent : SentMessage}
    (compressed : WellCompressed previous [sent]) (small : csid < 64) :
    ∃ after, after.Finished chunkSize sent.message csid ∧
      decoder.FinishesBy (sent.message.encode chunkSize csid sent.fmt) after := by
  obtain ⟨opened, id⟩ := ready.openBody compressed small
  have reaches := fun tail => ready.between.reaches sent.message sent.fmt small tail
  rw [Message.encode, Message.chunks]
  rcases Nat.lt_or_ge chunkSize sent.message.body.length with longer | fits
  · obtain ⟨holding, inHeader⟩ := opened.closeChunk_split longer
    obtain ⟨after, finished, finishes⟩ := holding.drain_continuation inHeader small
    refine ⟨after, finished, fun tail => ?_⟩
    rw [if_neg (Nat.not_le.mpr longer), List.flatten_cons, List.append_assoc]
    exact (Reaches.passes_split reaches opened longer _).trans (finishes tail)
  · rw [if_pos fits, List.flatten_singleton]
    have finished := opened.closeChunk_last fits
    rw [id] at finished
    exact ⟨_, finished, Reaches.finishes_last reaches opened fits⟩

/-! ## From message to message -/

/-- **A list of messages**, from ready to ready: one pack for each, in order. -/
theorem Ready.drain_messages (ready : decoder.Ready chunkSize previous)
    {sent : List SentMessage} (compressed : WellCompressed previous sent) (small : csid < 64) :
    ∃ after last packs, after.Ready chunkSize last ∧
      List.Forall₂ (Reassembled csid) packs sent ∧
      ∀ tail, ChunkDecoder.drain decoder (encodeMessages chunkSize csid sent ++ tail) =
        ((ChunkDecoder.drain after tail).1, packs ++ (ChunkDecoder.drain after tail).2) := by
  induction sent generalizing decoder previous with
  | nil => exact ⟨decoder, previous, [], ready, .nil, fun _ => rfl⟩
  | cons one sent ih =>
      obtain ⟨first, others⟩ := compressed.head
      obtain ⟨between, finished, finishes⟩ := ready.drain_message first small
      obtain ⟨after, last, packs, ready', all, drains⟩ := ih finished.ready others
      refine ⟨after, last, between.lastRtmpPack :: packs, ready',
        .cons ⟨finished.carries, finished.body, finished.csid⟩ all, fun tail => ?_⟩
      rw [encodeMessages, List.flatMap_cons, List.append_assoc, finishes, ← encodeMessages,
        drains]
      rfl

/-- **A ready decoder reads back what is chunked at its own size**, however it is cut. -/
theorem Ready.reassembles (ready : decoder.Ready chunkSize previous) (small : csid < 64)
    {sent : List SentMessage} (compressed : WellCompressed previous sent)
    {segments : List Bytes} (cut : segments.flatten = encodeMessages chunkSize csid sent) :
    List.Forall₂ (Reassembled csid) (drainConsumer.feedAll (decoder, []) segments).2 sent ∧
      (drainConsumer.feedAll (decoder, []) segments).1.2 = [] := by
  obtain ⟨after, last, packs, -, all, drains⟩ := ready.drain_messages compressed small
  have whole := drains []
  simp only [drain_nil, List.append_nil] at whole
  rw [drainConsumer_incremental.feedAll_eq ready.sane.drained_nil, cut]
  simp only [drainConsumer, List.nil_append, whole]
  exact ⟨all, trivial⟩

end ChunkDecoder

open ChunkDecoder

/-- The constructor leaves a decoder at the beginning of a chunk, if the count of the bytes
read of the chunk happens to be zero. -/
theorem RtmpCodec.construct_ready (build : Build) {unset : UnsetMembers}
    (atStart : unset.readChunkSize = 0) :
    (construct build unset).toChunkDecoder.Ready (initialChunkSize build) none := by
  have size : 0 < initialChunkSize build ∧ initialChunkSize build < 2 ^ 32 := by
    obtain ⟨monitorMode⟩ := build
    cases monitorMode <;> decide
  exact ⟨⟨size.2, atStart.trans_lt size.1⟩, rfl, rfl, atStart, rfl, fun _ none => nomatch none⟩

/-- **Chunk reassembly inverts chunking, for every way of cutting the bytes.** Whatever the
chunk size, a list of messages sent on one chunk stream and read in any pieces gives one
pack for each message, in order, and leaves nothing unread. -/
theorem chunk_reassembly (codec : RtmpCodec) (positive : 0 < codec.rtmpChunkSize)
    (width : codec.rtmpChunkSize < 2 ^ 32) (atStart : codec.readChunkSize = 0)
    (empty : codec.currentRtmpPack.buffer = [])
    (inHeader : codec.decodePackStatus = .parseRtmpHeader) {csid : UInt8}
    (oneByte : 2 ≤ csid ∧ csid ≤ 63) {sent : List SentMessage}
    (compressed : WellCompressed none sent) {segments : List Bytes}
    (cut : segments.flatten = encodeMessages codec.rtmpChunkSize csid sent) :
    List.Forall₂ (Reassembled csid)
        (drainConsumer.feedAll (codec.toChunkDecoder, []) segments).2 sent ∧
      (drainConsumer.feedAll (codec.toChunkDecoder, []) segments).1.2 = [] := by
  have small : csid < 64 := Nat.lt_succ_of_le oneByte.2
  have ready : codec.toChunkDecoder.Ready codec.rtmpChunkSize none :=
    ⟨⟨width, by omega⟩, rfl, inHeader, atStart, empty, fun _ impossible => nomatch impossible⟩
  exact ready.reassembles small compressed cut

/-- Two messages of three and two bytes, the second with a FMT1 header. -/
def shortMessages : List SentMessage :=
  [⟨.fmt0, ⟨⟨0, 0, 7⟩, 18, ⟨1, 0, 0, 0⟩, [10, 11, 12], by decide, by decide⟩⟩,
    ⟨.fmt1, ⟨⟨0, 0, 9⟩, 8, ⟨1, 0, 0, 0⟩, [13, 14], by decide, by decide⟩⟩]

/-- The short messages on chunks of two bytes, cut inside the first header. -/
theorem chunk_reassembly_shortMessages :
    List.Forall₂ (Reassembled 6)
      (drainConsumer.feedAll
        ({ RtmpCodec.atStart .standard with rtmpChunkSize := 2 }.toChunkDecoder, [])
        [(encodeMessages 2 6 shortMessages).take 5,
          (encodeMessages 2 6 shortMessages).drop 5]).2 shortMessages := by
  have compressed : WellCompressed none shortMessages := ⟨rfl, rfl, trivial⟩
  exact (chunk_reassembly { RtmpCodec.atStart .standard with rtmpChunkSize := 2 } (by decide)
    (by decide) rfl rfl rfl (by decide) compressed (by simp)).1

end LiveBroadcast
