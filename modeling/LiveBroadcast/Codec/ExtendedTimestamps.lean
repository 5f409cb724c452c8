import LiveBroadcast.Codec.Chunking

/-!
# Extended timestamps

A timestamp of `0xFFFFFF` or more does not fit in the three bytes of the message header. They
hold `0xFFFFFF` then, and the timestamp follows the message header in four bytes of its own, in
every chunk of the message (`TimedMessage.chunks`).

`DecodeHeader` does not know these four bytes: it takes them for the first bytes of the body.
Messages without an extended timestamp are the messages of `Chunking` (`toSent`), and framing
survives. With one extended timestamp among the headers there are bodies for which it does not
(`framing_survives_iff`).
-/

set_option autoImplicit false

namespace LiveBroadcast

open ChunkDecoder

/-- A message with any 32-bit timestamp, and the format of its first chunk. -/
structure TimedMessage where
  fmt : RtmpPackFmt
  time : Nat
  type : UInt8
  streamId : ByteQuad
  body : Bytes
  time_lt : time < 2 ^ 32
  body_lt : body.length < 2 ^ 24

namespace TimedMessage

/-- The timestamp needs the four extra bytes. -/
def Extended (message : TimedMessage) : Prop := 0xFFFFFF ≤ message.time

instance (message : TimedMessage) : Decidable message.Extended :=
  inferInstanceAs (Decidable (0xFFFFFF ≤ message.time))

/-- The three timestamp bytes. -/
def timestamp (message : TimedMessage) : ByteTriple :=
  if message.Extended then ⟨255, 255, 255⟩ else .ofNat message.time

/-- The extended timestamp behind the message header, if there is one. -/
def extendedTimestamp (message : TimedMessage) : Bytes :=
  if message.Extended then (ByteQuad.htonl message.time).bytes else []

/-- The three size bytes. -/
def size (message : TimedMessage) : ByteTriple := .ofNat message.body.length

/-- The message header without the basic header. -/
def header (message : TimedMessage) : Bytes :=
  match message.fmt with
  | .fmt0 => message.timestamp.bytes ++ message.size.bytes ++ [message.type] ++
      message.streamId.bytes
  | .fmt1 => message.timestamp.bytes ++ message.size.bytes ++ [message.type]
  | .fmt2 => message.timestamp.bytes
  | .fmt3 => []

/-- The first chunk up to the part of the body. -/
def firstHeader (message : TimedMessage) (csid : UInt8) : Bytes :=
  basicHeader message.fmt csid :: (message.header ++ message.extendedTimestamp)

/-- The chunks of a message: each has the extended timestamp behind its header. -/
def chunks (message : TimedMessage) (chunkSize : Nat) (csid : UInt8) : List Bytes :=
  if message.body.length ≤ chunkSize then [message.firstHeader csid ++ message.body]
  else
    (message.firstHeader csid ++ message.body.take chunkSize) ::
      (bodyPieces chunkSize (message.body.drop chunkSize)).map fun piece =>
        basicHeader .fmt3 csid :: (message.extendedTimestamp ++ piece)

def encode (message : TimedMessage) (chunkSize : Nat) (csid : UInt8) : Bytes :=
  (message.chunks chunkSize csid).flatten

/-- The fields that the format leaves out equal those of the previous message. -/
def Omits (message previous : TimedMessage) : Prop :=
  match message.fmt with
  | .fmt0 => True
  | .fmt1 => message.streamId = previous.streamId
  | .fmt2 => message.streamId = previous.streamId ∧ message.size = previous.size ∧
      message.type = previous.type
  | .fmt3 => message.streamId = previous.streamId ∧ message.size = previous.size ∧
      message.type = previous.type ∧ message.time = previous.time

/-- The first message is sent with FMT0, and a later one leaves out only fields it shares with
the message before it. -/
def WellCompressed : Option TimedMessage → List TimedMessage → Prop
  | _, [] => True
  | none, message :: rest => message.fmt = .fmt0 ∧ WellCompressed (some message) rest
  | some previous, message :: rest =>
      message.Omits previous ∧ WellCompressed (some message) rest

/-- The bytes of a list of messages on one chunk stream. -/
def encodeAll (chunkSize : Nat) (csid : UInt8) (messages : List TimedMessage) : Bytes :=
  messages.flatMap fun message => message.encode chunkSize csid

/-- What the header of a message says, apart from the size of the body. -/
def heading (message : TimedMessage) : RtmpPackFmt × Nat × UInt8 × ByteQuad :=
  (message.fmt, message.time, message.type, message.streamId)

end TimedMessage

/-- A finished pack is the message that was sent: the fields of its header and its body. -/
structure RtmpPack.IsTimed (csid : UInt8) (pack : RtmpPack) (message : TimedMessage) : Prop where
  timestamp : pack.timestamp = message.timestamp
  dataSize : pack.dataSize = message.size
  packType : pack.packType = RtmpPack.typeOfByte message.type
  streamId : pack.streamId = message.streamId
  body : pack.buffer = message.body
  csid : pack.csid = csid

/-- Behind every message, and however the bytes are cut, the packs finished are the messages,
every byte is read, and the decoder waits for the header of a chunk. -/
def Framed (decoder : ChunkDecoder) (csid : UInt8) (messages : List TimedMessage) : Prop :=
  ∀ before, before <+: messages → ∀ segments : List Bytes,
    segments.flatten = TimedMessage.encodeAll decoder.rtmpChunkSize csid before →
      List.Forall₂ (RtmpPack.IsTimed csid) (drainConsumer.feedAll (decoder, []) segments).2 before ∧
        (drainConsumer.feedAll (decoder, []) segments).1.2 = [] ∧
        (drainConsumer.feedAll (decoder, []) segments).1.1.decodePackStatus = .parseRtmpHeader

namespace TimedMessage

/-! ## Messages without an extended timestamp -/

variable {message previous : TimedMessage}

/-- Such a message is one of `Chunking`. -/
def toSent (message : TimedMessage) (short : ¬ message.Extended) : SentMessage :=
  ⟨message.fmt, ⟨.ofNat message.time, message.type, message.streamId, message.body,
    by
      rw [ByteTriple.toNat_ofNat]
      exact Nat.lt_of_le_of_lt (Nat.mod_le _ _) (Nat.not_le.mp short),
    message.body_lt⟩⟩

theorem encode_toSent (short : ¬ message.Extended) (chunkSize : Nat) (csid : UInt8) :
    (message.toSent short).message.encode chunkSize csid (message.toSent short).fmt =
      message.encode chunkSize csid := by
  have header : (message.toSent short).message.header message.fmt = message.header := by
    cases format : message.fmt with
    | fmt0 => simp [TimedMessage.header, format, timestamp, short, toSent, Message.header]; rfl
    | fmt1 => simp [TimedMessage.header, format, timestamp, short, toSent, Message.header]; rfl
    | fmt2 => simp [TimedMessage.header, format, timestamp, short, toSent, Message.header]
    | fmt3 => simp [TimedMessage.header, format, Message.header]
  have first : (message.toSent short).message.firstHeader csid (message.toSent short).fmt =
      message.firstHeader csid := by
    rw [Message.firstHeader, firstHeader, extendedTimestamp, if_neg short, List.append_nil,
      ← header]
    rfl
  rw [Message.encode, encode, Message.chunks, chunks, first, continuationChunks,
    extendedTimestamp, if_neg short]
  rfl

theorem omits_toSent (short : ¬ message.Extended) (before : ¬ previous.Extended)
    (omits : message.Omits previous) :
    (message.toSent short).message.Omits (previous.toSent before).message message.fmt := by
  unfold Omits at omits
  cases format : message.fmt with
  | fmt0 => trivial
  | fmt1 =>
      simp only [format] at omits
      exact omits
  | fmt2 =>
      simp only [format] at omits
      exact omits
  | fmt3 =>
      simp only [format] at omits
      obtain ⟨streamId, size, type, time⟩ := omits
      exact ⟨streamId, size, type, congrArg ByteTriple.ofNat time⟩

theorem isTimed_of_reassembled {csid : UInt8} {pack : RtmpPack} (short : ¬ message.Extended)
    (reassembled : Reassembled csid pack (message.toSent short)) : pack.IsTimed csid message := by
  obtain ⟨⟨timestamp, dataSize, packType, streamId⟩, body, id⟩ := reassembled
  refine ⟨?_, dataSize, packType, streamId, body, id⟩
  rw [timestamp, TimedMessage.timestamp, if_neg short]
  rfl

theorem WellCompressed.tail {previous : Option TimedMessage} {message : TimedMessage}
    {rest : List TimedMessage} (compressed : WellCompressed previous (message :: rest)) :
    WellCompressed (some message) rest := by
  cases previous with
  | none => exact compressed.2
  | some before => exact compressed.2

theorem WellCompressed.of_prefix {previous : Option TimedMessage}
    {before messages : List TimedMessage} (compressed : WellCompressed previous messages)
    (part : before <+: messages) : WellCompressed previous before := by
  induction before generalizing previous messages with
  | nil => cases previous <;> trivial
  | cons message before ih =>
      obtain ⟨rest, rfl⟩ := part
      have later := ih compressed.tail (List.prefix_append before rest)
      cases previous with
      | none => exact ⟨compressed.1, later⟩
      | some earlier => exact ⟨compressed.1, later⟩

/-- The message that a decoder has the header fields of, if the previous message is this one. -/
inductive Held : Option TimedMessage → Option Message → Prop where
  | none : Held none none
  | some (previous : TimedMessage) (short : ¬ previous.Extended) :
      Held (some previous) (some (previous.toSent short).message)

theorem Held.compressed {previous : Option TimedMessage} {held : Option Message}
    (holds : Held previous held) {message : TimedMessage} {rest : List TimedMessage}
    (compressed : WellCompressed previous (message :: rest)) (short : ¬ message.Extended) :
    LiveBroadcast.WellCompressed held [message.toSent short] := by
  cases holds with
  | none => exact ⟨compressed.1, trivial⟩
  | some before narrow => exact ⟨omits_toSent short narrow compressed.1, trivial⟩

/-- Messages without extended timestamps are messages of `Chunking`. -/
theorem exists_sent (chunkSize : Nat) (csid : UInt8) {previous : Option TimedMessage}
    {held : Option Message} (holds : Held previous held) {messages : List TimedMessage}
    (compressed : WellCompressed previous messages)
    (short : ∀ message ∈ messages, ¬ message.Extended) :
    ∃ sent, LiveBroadcast.WellCompressed held sent ∧
      encodeMessages chunkSize csid sent = encodeAll chunkSize csid messages ∧
      ∀ packs, List.Forall₂ (Reassembled csid) packs sent →
        List.Forall₂ (RtmpPack.IsTimed csid) packs messages := by
  induction messages generalizing previous held with
  | nil =>
      refine ⟨[], ?_, rfl, fun packs same => ?_⟩
      · cases held <;> trivial
      · cases same
        exact .nil
  | cons message messages ih =>
      have here := short message List.mem_cons_self
      obtain ⟨sent, later, bytes, all⟩ := ih (.some message here) compressed.tail
        fun other inside => short other (List.mem_cons_of_mem _ inside)
      refine ⟨message.toSent here :: sent, ?_, ?_, fun packs same => ?_⟩
      · have first := holds.compressed compressed here
        cases held with
        | none => exact ⟨first.1, later⟩
        | some before => exact ⟨first.1, later⟩
      · rw [encodeMessages, List.flatMap_cons, encode_toSent here, ← encodeMessages, bytes,
          encodeAll, encodeAll, List.flatMap_cons]
      · cases same with
        | cons first rest => exact .cons (isTimed_of_reassembled here first) (all _ rest)

end TimedMessage

open TimedMessage

/-- **Framing survives** short timestamps. -/
theorem framed_of_short {decoder : ChunkDecoder} {chunkSize : Nat}
    (ready : decoder.Ready chunkSize none) {csid : UInt8} (small : csid < 64)
    {messages : List TimedMessage} (compressed : TimedMessage.WellCompressed none messages)
    (short : ∀ message ∈ messages, ¬ message.Extended) : Framed decoder csid messages := by
  intro before part segments cut
  obtain ⟨sent, allowed, bytes, all⟩ := exists_sent chunkSize csid .none
    (compressed.of_prefix part) fun message inside => short message (part.subset inside)
  obtain ⟨after, last, packs, ready', same, drains⟩ := ready.drain_messages allowed small
  have whole := drains []
  simp only [drain_nil, List.append_nil] at whole
  rw [drainConsumer_incremental.feedAll_eq ready.sane.drained_nil, cut, ready.size, ← bytes]
  simp only [drainConsumer, List.nil_append, whole]
  exact ⟨all packs same, trivial, ready'.inHeader⟩

/-! ## A message with an extended timestamp -/

namespace TimedMessage

/-- A body of one byte has its length in three bytes. -/
theorem byte_body_lt (byte : UInt8) : ([byte] : Bytes).length < 2 ^ 24 := by
  rw [List.length_singleton]
  decide

/-- The message with another body. -/
def withByte (message : TimedMessage) (byte : UInt8) : TimedMessage :=
  { message with body := [byte], body_lt := byte_body_lt byte }

/-- The first byte of the timestamp in network order. -/
def firstByte (message : TimedMessage) : UInt8 := UInt8.ofNat (message.time / 16777216)

/-- The message with a body of one byte that is not the first byte of its timestamp. -/
def misread (message : TimedMessage) : TimedMessage := message.withByte (message.firstByte + 1)

/-- The bodies of one byte leave the headers allowed. -/
theorem wellCompressed_misread {previous : Option TimedMessage} {messages : List TimedMessage}
    (compressed : WellCompressed previous messages) :
    WellCompressed (previous.map misread) (messages.map misread) := by
  induction messages generalizing previous with
  | nil => cases previous <;> trivial
  | cons message messages ih =>
      have later := ih compressed.tail
      cases previous with
      | none => exact ⟨compressed.1, later⟩
      | some before =>
          refine ⟨?_, later⟩
          have omits : message.Omits before := compressed.1
          unfold Omits at omits ⊢
          have format : message.misread.fmt = message.fmt := rfl
          rw [format]
          cases kind : message.fmt with
          | fmt0 => trivial
          | fmt1 =>
              simp only [kind] at omits ⊢
              exact omits
          | fmt2 =>
              simp only [kind] at omits ⊢
              exact ⟨omits.1, rfl, omits.2.2⟩
          | fmt3 =>
              simp only [kind] at omits ⊢
              exact ⟨omits.1, rfl, omits.2.2⟩

end TimedMessage

/-- The header of a message, read by a decoder that is ready for it, leaves the size of the
message in the pack, and no body. -/
theorem ChunkDecoder.Ready.openBody_timed {decoder : ChunkDecoder} {chunkSize : Nat}
    {held : Option Message} (ready : decoder.Ready chunkSize held)
    {previous : Option TimedMessage} (holds : Held previous held) {message : TimedMessage}
    {rest : List TimedMessage}
    (compressed : TimedMessage.WellCompressed previous (message :: rest)) {csid : UInt8}
    (small : csid < 64) :
    (decoder.openBody (basicHeader message.fmt csid :: message.header)).currentRtmpPack.dataSize =
        message.size ∧
      (decoder.openBody (basicHeader message.fmt csid :: message.header)).currentRtmpPack.buffer =
        [] := by
  obtain ⟨high, low⟩ := basicHeader_bits message.fmt small
  have read : decoder.currentRtmpPack.decodeHeader
      (basicHeader message.fmt csid :: message.header) =
      RtmpPack.decodeFields { decoder.currentRtmpPack with csid := csid, fmt := message.fmt }
        message.header := by
    simp only [RtmpPack.decodeHeader, high, low, ofByte_toByte]
  have inherited (size : ∀ before, previous = some before → message.size = before.size)
      (kind : message.fmt ≠ .fmt0) : decoder.currentRtmpPack.dataSize = message.size := by
    cases holds with
    | none => exact absurd compressed.1 kind
    | some before short => rw [(ready.fields _ rfl).dataSize, size before rfl]; rfl
  simp only [ChunkDecoder.openBody, read]
  simp only [RtmpPack.decodeFields]
  cases kind : message.fmt with
  | fmt0 =>
      simp only [TimedMessage.header, kind]
      exact ⟨rfl, ready.empty⟩
  | fmt1 =>
      simp only [TimedMessage.header, kind]
      exact ⟨rfl, ready.empty⟩
  | fmt2 =>
      simp only [TimedMessage.header, kind]
      refine ⟨inherited ?_ (by simp [kind]), ready.empty⟩
      rintro before rfl
      have omits : message.Omits before := compressed.1
      simp only [TimedMessage.Omits, kind] at omits
      exact omits.2.1
  | fmt3 =>
      refine ⟨inherited ?_ (by simp [kind]), ready.empty⟩
      rintro before rfl
      have omits : message.Omits before := compressed.1
      simp only [TimedMessage.Omits, kind] at omits
      exact omits.2.1

theorem TimedMessage.length_header (message : TimedMessage) :
    message.header.length = message.fmt.headerLength := by
  unfold TimedMessage.header
  cases message.fmt <;> rfl

/-- **The first byte of an extended timestamp is taken for a body of one byte.** -/
theorem ChunkDecoder.Ready.drain_extended {decoder : ChunkDecoder} {chunkSize : Nat}
    {held : Option Message} (ready : decoder.Ready chunkSize held)
    {previous : Option TimedMessage} (holds : Held previous held) {message : TimedMessage}
    {rest : List TimedMessage}
    (compressed : TimedMessage.WellCompressed previous (message :: rest)) {csid : UInt8}
    (small : csid < 64) (wide : message.Extended) (single : message.body.length = 1)
    (tail : Bytes) :
    ∃ pack packs,
      (ChunkDecoder.drain decoder (message.encode chunkSize csid ++ tail)).2 = pack :: packs ∧
        pack.buffer = [message.firstByte] := by
  obtain ⟨size, empty⟩ := ready.openBody_timed holds compressed small
  have positive := ready.between.chunkSize_pos
  have fields : RtmpPack.headerSize (basicHeader message.fmt csid) = message.header.length + 1 := by
    rw [headerSize_basicHeader message.fmt small, message.length_header]
  obtain ⟨others, extended⟩ : ∃ others,
      message.extendedTimestamp = message.firstByte :: others := by
    rw [TimedMessage.extendedTimestamp, if_pos wide]
    exact ⟨_, rfl⟩
  have bytes : message.encode chunkSize csid ++ tail =
      (basicHeader message.fmt csid :: message.header) ++
        (message.firstByte :: (others ++ message.body ++ tail)) := by
    rw [encode, chunks, if_pos (by omega), List.flatten_singleton, firstHeader, extended]
    simp only [List.cons_append, List.append_assoc]
  have reaches := ready.sane.reaches_behind ready.inHeader fields
    (message.firstByte :: (others ++ message.body ++ tail))
  have start : (decoder.openBody
      (basicHeader message.fmt csid :: message.header)).readChunkSize = 0 ∧
        (decoder.openBody
          (basicHeader message.fmt csid :: message.header)).rtmpChunkSize = chunkSize := by
    rw [openBody_readChunkSize, openBody_rtmpChunkSize]
    exact ⟨ready.atStart, ready.size⟩
  -- one byte is declared and none is stored
  generalize decoder.openBody (basicHeader message.fmt csid :: message.header) = opened
    at reaches size empty start
  have remain : opened.currentRtmpPack.getBodyRemainSize = 1 := by
    have declared : opened.currentRtmpPack.getBodyDataSize = 1 := by
      rw [RtmpPack.getBodyDataSize, size, TimedMessage.size, single]
      rfl
    rw [RtmpPack.getBodyRemainSize, declared, RtmpPack.getBodyCurrentSize, empty]
    rfl
  have isOver : opened.isChunkOver = true := by
    rw [ChunkDecoder.isChunkOver, remain, start.1, start.2]
    exact Bool.and_eq_true_iff.mpr ⟨decide_eq_true positive, rfl⟩
  have need : opened.chunkNeed = 1 := by rw [chunkNeed, if_pos isOver, remain]
  have drained := (reaches.drain_over isOver (by rw [need]; simp)).2
  rw [bytes, drained, need]
  refine ⟨_, _, rfl, ?_⟩
  simp only [closeChunk, isOver, if_true, RtmpPack.appendData_buffer, empty]
  rfl

/-- **Framing does not survive** an extended timestamp: with bodies of one byte, each other than
the first byte of the timestamp, the packs are the messages only if no timestamp is extended. -/
theorem short_of_drained {decoder : ChunkDecoder} {chunkSize : Nat} {held : Option Message}
    (ready : decoder.Ready chunkSize held) {previous : Option TimedMessage}
    (holds : Held (previous.map misread) held) {csid : UInt8} (small : csid < 64)
    {messages : List TimedMessage} (compressed : TimedMessage.WellCompressed previous messages)
    (drained : List.Forall₂ (RtmpPack.IsTimed csid)
      (ChunkDecoder.drain decoder (encodeAll chunkSize csid (messages.map misread))).2
      (messages.map misread)) :
    ∀ message ∈ messages, ¬ message.Extended := by
  induction messages generalizing decoder held previous with
  | nil => exact List.forall_mem_nil _
  | cons message messages ih =>
      have allowed := wellCompressed_misread compressed
      rw [List.map_cons] at allowed drained
      rw [encodeAll, List.flatMap_cons, ← encodeAll] at drained
      by_cases wide : message.Extended
      · have shifted : message.misread.Extended := wide
        obtain ⟨pack, packs, found, body⟩ := ready.drain_extended holds allowed small shifted rfl
          (encodeAll chunkSize csid (messages.map misread))
        rw [found] at drained
        cases drained with
        | cons first _ =>
            have same : [message.firstByte] = [message.firstByte + 1] := body.symm.trans first.body
            have differ : message.firstByte ≠ message.firstByte + 1 := by
              intro equal
              have values := congrArg UInt8.toNat equal
              rw [UInt8.toNat_add] at values
              have bound := message.firstByte.toNat_lt
              have one : UInt8.toNat 1 = 1 := rfl
              omega
            exact absurd (List.singleton_inj.mp same) differ
      · have narrow : ¬ message.misread.Extended := wide
        obtain ⟨after, finished, finishes⟩ :=
          ready.drain_message (holds.compressed allowed narrow) small
        rw [encode_toSent narrow] at finishes
        rw [finishes] at drained
        cases drained with
        | cons _ rest =>
            have behind : Held ((some message).map misread)
                (some (message.misread.toSent narrow).message) := .some _ narrow
            have others := ih finished.ready behind compressed.tail rest
            intro other inside
            rcases List.mem_cons.mp inside with rfl | later
            · exact wide
            · exact others other later

/-- **When framing survives.** Take the headers of a list of messages on one chunk stream, with
any formats that are allowed and any timestamps, extended ones included. For all bodies of the
messages, and however the bytes are cut, `DecodePack` finishes exactly the messages and is at
the header of a chunk behind each, if and only if none of the timestamps is extended. -/
theorem framing_survives_iff (build : Build) (members : UnsetMembers) {csid : UInt8}
    (oneByte : 2 ≤ csid ∧ csid ≤ 63) {messages : List TimedMessage}
    (compressed : TimedMessage.WellCompressed none messages) :
    (∀ others : List TimedMessage, others.map heading = messages.map heading →
        TimedMessage.WellCompressed none others →
        Framed (RtmpCodec.construct build { members with readChunkSize := 0 }).toChunkDecoder csid
          others) ↔
      ∀ message ∈ messages, message.time < 0xFFFFFF := by
  have small : csid < 64 := Nat.lt_succ_of_le oneByte.2
  have ready : (RtmpCodec.construct build { members with readChunkSize := 0 }).toChunkDecoder.Ready
      (RtmpCodec.initialChunkSize build) none := RtmpCodec.construct_ready build rfl
  constructor
  · intro framed
    have allowed : TimedMessage.WellCompressed none (messages.map misread) :=
      wellCompressed_misread compressed
    have same : (messages.map misread).map heading = messages.map heading := by
      rw [List.map_map]
      rfl
    obtain ⟨packs, -, -⟩ := framed _ same allowed _ List.prefix_rfl
      [encodeAll (RtmpCodec.initialChunkSize build) csid (messages.map misread)]
      List.flatten_singleton
    rw [drainConsumer_incremental.feedAll_eq ready.sane.drained_nil, List.flatten_singleton]
      at packs
    have nothing : Held ((none : Option TimedMessage).map misread) none := .none
    have short := short_of_drained ready nothing small compressed packs
    exact fun message inside => Nat.not_le.mp (short message inside)
  · intro short others same allowed
    refine framed_of_short ready small allowed fun other inside => ?_
    have listed : other.heading ∈ messages.map heading := same ▸ List.mem_map_of_mem inside
    obtain ⟨message, there, equal⟩ := List.mem_map.mp listed
    have times : message.time = other.time := congrArg (fun heading => heading.2.1) equal
    exact Nat.not_le.mpr (times ▸ short message there)

/-- Two video messages, the second 40 milliseconds behind the first. -/
def timedMessages : List TimedMessage :=
  [⟨.fmt0, 0xFFFFFE, 9, ⟨1, 0, 0, 0⟩, [51, 52], by decide, by decide⟩,
    ⟨.fmt1, 40, 9, ⟨1, 0, 0, 0⟩, [53], by decide, by decide⟩]

theorem framing_survives_iff_timedMessages :
    List.Forall₂ (RtmpPack.IsTimed 4)
      (drainConsumer.feedAll ((RtmpCodec.construct .standard
          ⟨0, false, .zero, .zero⟩).toChunkDecoder, [])
        [encodeAll 4096 4 timedMessages]).2 timedMessages := by
  have compressed : TimedMessage.WellCompressed none timedMessages := ⟨rfl, rfl, trivial⟩
  have framed := (framing_survives_iff .standard ⟨0, false, .zero, .zero⟩
    (by decide : (2 : UInt8) ≤ 4 ∧ (4 : UInt8) ≤ 63) compressed).mpr (by decide)
  exact (framed timedMessages rfl compressed timedMessages List.prefix_rfl [_]
    List.flatten_singleton).1

/-- A message with an extended timestamp and one behind it. -/
def extendedMessages : List TimedMessage :=
  [⟨.fmt0, 0x1020304, 9, ⟨1, 0, 0, 0⟩, [61, 62, 63], by decide, by decide⟩,
    ⟨.fmt1, 41, 9, ⟨1, 0, 0, 0⟩, [64], by decide, by decide⟩]

/-- **The body begins with the extended timestamp**, and the header behind it is missed. -/
theorem extended_timestamp_not_framed :
    TimedMessage.WellCompressed none extendedMessages ∧
      (ChunkDecoder.drain (RtmpCodec.atStart .standard).toChunkDecoder
        (encodeAll 4096 4 extendedMessages)).2.map (·.buffer) = [[1, 2, 3]] ∧
      ¬ Framed (RtmpCodec.atStart .standard).toChunkDecoder 4 extendedMessages := by
  have drained : (ChunkDecoder.drain (RtmpCodec.atStart .standard).toChunkDecoder
      (encodeAll 4096 4 extendedMessages)).2.map (·.buffer) = [[1, 2, 3]] := by decide +kernel
  refine ⟨⟨rfl, rfl, trivial⟩, drained, fun framed => ?_⟩
  obtain ⟨packs, -, -⟩ := framed extendedMessages List.prefix_rfl [_] List.flatten_singleton
  have lengths := packs.length_eq
  have one := congrArg List.length drained
  rw [List.length_map] at one
  exact absurd (one.symm.trans lengths) (by decide)

end LiveBroadcast
