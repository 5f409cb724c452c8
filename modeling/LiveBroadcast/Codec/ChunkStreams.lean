import Mathlib.Data.List.Chain
import LiveBroadcast.Codec.Chunking
import LiveBroadcast.Foundation.Interleaving

/-!
# Chunk streams on one wire

A peer may have several chunk streams, each with its own messages, and interleave their
chunks. A header that leaves fields out refers to the previous message of its own chunk
stream. This module defines the chunks of a message with what they are part of, the wires
that carry the messages of some chunk streams (`CarriesStreams`), and those on which the
messages come one after another (`OneAfterAnother`). What a decoder makes of them is only
stated here: it demultiplexes the wire (`Demultiplexes`), or even finishes every message in
its place (`KeepsUp`).
-/

set_option autoImplicit false

namespace LiveBroadcast

/-! ## Chunks on the wire -/

/-- A chunk: its chunk stream, the message it belongs to, the format of its header, its part
of the body, and whether it is the last chunk of the message. -/
structure WireChunk where
  csid : UInt8
  sent : SentMessage
  fmt : RtmpPackFmt
  part : Bytes
  last : Bool

/-- The bytes of a chunk: header and part of the body. -/
def WireChunk.bytes (chunk : WireChunk) : Bytes :=
  chunk.sent.message.firstHeader chunk.csid chunk.fmt ++ chunk.part

/-- The bytes of the chunks on a wire. -/
def wireBytes (wire : List WireChunk) : Bytes := wire.flatMap WireChunk.bytes

/-- The chunks that carry `rest`, what is still to come of the body of a message: the first
with a header of the given format, the others with a FMT3 header. -/
def chunksFrom (chunkSize : Nat) (csid : UInt8) (sent : SentMessage) (fmt : RtmpPackFmt)
    (rest : Bytes) : List WireChunk :=
  if rest.length ≤ chunkSize ∨ chunkSize = 0 then [⟨csid, sent, fmt, rest, true⟩]
  else
    ⟨csid, sent, fmt, rest.take chunkSize, false⟩ ::
      chunksFrom chunkSize csid sent .fmt3 (rest.drop chunkSize)
termination_by rest.length

/-- The chunks of a message on a chunk stream. -/
def chunksOf (chunkSize : Nat) (csid : UInt8) (sent : SentMessage) : List WireChunk :=
  chunksFrom chunkSize csid sent sent.fmt sent.message.body

/-- The messages whose last chunk is on the wire, in the order of these chunks. -/
def completed (wire : List WireChunk) : List SentMessage :=
  (wire.filter (·.last)).map (·.sent)

theorem completed_append (front wire : List WireChunk) :
    completed (front ++ wire) = completed front ++ completed wire := by
  rw [completed, List.filter_append, List.map_append, completed, completed]

/-- The wire carries the messages of these chunk streams, interleaved in some way: each
stream has a one-byte id, its formats are allowed within the stream, and its chunks are on
the wire in order. -/
structure CarriesStreams (chunkSize : Nat) (streams : UInt8 → List SentMessage)
    (wire : List WireChunk) : Prop where
  oneByte : ∀ csid, streams csid ≠ [] → 2 ≤ csid ∧ csid ≤ 63
  compressed : ∀ csid, WellCompressed none (streams csid)
  inOrder : Interleaves WireChunk.csid (chunksOf chunkSize) streams wire

/-! ## What it means to demultiplex -/

/-- A finished pack is this message: timestamp field, size, type and body. -/
structure RtmpPack.IsMessage (pack : RtmpPack) (sent : SentMessage) : Prop where
  timestamp : pack.timestamp = sent.message.timestamp
  dataSize : pack.dataSize = sent.message.size
  packType : pack.packType = RtmpPack.typeOfByte sent.message.type
  body : pack.buffer = sent.message.body

/-- Draining the wire finishes each message once, in some order. -/
def Demultiplexes (decoder : ChunkDecoder) (wire : List WireChunk) : Prop :=
  ∃ order : List SentMessage, order.Perm (completed wire) ∧
    List.Forall₂ RtmpPack.IsMessage (ChunkDecoder.drain decoder (wireBytes wire)).2 order

/-- Demultiplexing gives as many packs as messages. -/
theorem Demultiplexes.length_eq {decoder : ChunkDecoder} {wire : List WireChunk}
    (demultiplexes : Demultiplexes decoder wire) :
    (ChunkDecoder.drain decoder (wireBytes wire)).2.length = (completed wire).length := by
  obtain ⟨order, same, all⟩ := demultiplexes
  exact all.length_eq.trans same.length_eq

/-- After these chunks the packs finished are the messages whose last chunk was there, every
byte is read, and the decoder waits for the header of a chunk. -/
structure InStep (decoder : ChunkDecoder) (wire : List WireChunk) : Prop where
  packs : List.Forall₂ RtmpPack.IsMessage (ChunkDecoder.drain decoder (wireBytes wire)).2
    (completed wire)
  unread : (ChunkDecoder.drain decoder (wireBytes wire)).1.2 = []
  inHeader : (ChunkDecoder.drain decoder (wireBytes wire)).1.1.decodePackStatus =
    .parseRtmpHeader

/-- The decoder is in step after every chunk of the wire. -/
def KeepsUp (decoder : ChunkDecoder) (wire : List WireChunk) : Prop :=
  ∀ before, before <+: wire → InStep decoder before

/-- A decoder that keeps up has finished each message in the end. -/
theorem KeepsUp.demultiplexes {decoder : ChunkDecoder} {wire : List WireChunk}
    (keeps : KeepsUp decoder wire) : Demultiplexes decoder wire :=
  ⟨completed wire, .refl _, (keeps wire (List.prefix_refl wire)).packs⟩

/-- The fields a format leaves out equal those of the previous message, as far as
`DecodeHeader` keeps them; the message stream id is not compared. -/
def Message.Repeats (message previous : Message) : RtmpPackFmt → Prop
  | .fmt0 => True
  | .fmt1 => True
  | .fmt2 => message.size = previous.size ∧
      RtmpPack.typeOfByte message.type = RtmpPack.typeOfByte previous.type
  | .fmt3 => message.timestamp = previous.timestamp ∧ message.size = previous.size ∧
      RtmpPack.typeOfByte message.type = RtmpPack.typeOfByte previous.type

/-- The messages are on the wire one after another, each in uninterrupted chunks, and each
leaves out only fields that it shares with the message in front of it. -/
def OneAfterAnother (chunkSize : Nat) (wire : List WireChunk) : Prop :=
  ∃ order : List (UInt8 × SentMessage),
    wire = order.flatMap (fun one => chunksOf chunkSize one.1 one.2) ∧
      order.IsChain fun previous one => one.2.message.Repeats previous.2.message one.2.fmt

/-! ## The chunks of a message -/

section Chunks

variable {chunkSize : Nat} {csid : UInt8} {sent : SentMessage} {fmt : RtmpPackFmt}
  {rest : Bytes} {chunk : WireChunk}

theorem chunksFrom_last (fits : rest.length ≤ chunkSize) :
    chunksFrom chunkSize csid sent fmt rest = [⟨csid, sent, fmt, rest, true⟩] := by
  rw [chunksFrom, if_pos (.inl fits)]

theorem chunksFrom_split (positive : 0 < chunkSize) (longer : chunkSize < rest.length) :
    chunksFrom chunkSize csid sent fmt rest =
      ⟨csid, sent, fmt, rest.take chunkSize, false⟩ ::
        chunksFrom chunkSize csid sent .fmt3 (rest.drop chunkSize) := by
  rw [chunksFrom, if_neg (by omega)]

/-- Each chunk is of the message; all but the last have the chunk size. -/
theorem of_mem_chunksFrom (positive : 0 < chunkSize)
    (isChunk : chunk ∈ chunksFrom chunkSize csid sent fmt rest) :
    chunk.csid = csid ∧ chunk.sent = sent ∧
      (chunk.last = false → chunk.part.length = chunkSize) ∧
        (chunk.last = true → chunk.part.length ≤ chunkSize) := by
  induction length : rest.length using Nat.strongRecOn generalizing rest fmt with
  | ind n ih =>
      subst length
      rcases Nat.lt_or_ge chunkSize rest.length with longer | fits
      · rw [chunksFrom_split positive longer] at isChunk
        rcases List.mem_cons.mp isChunk with rfl | later
        · exact ⟨rfl, rfl, fun _ => List.length_take_of_le (Nat.le_of_lt longer), nofun⟩
        · exact ih _ (by rw [List.length_drop]; omega) later rfl
      · rw [chunksFrom_last fits] at isChunk
        obtain rfl := List.mem_singleton.mp isChunk
        exact ⟨rfl, rfl, nofun, fun _ => fits⟩

/-- The chunks of a message are a block, and their number follows from the length of what
they carry. -/
theorem chunksFrom_block (positive : 0 < chunkSize) :
    ∃ front item, chunksFrom chunkSize csid sent fmt rest = front ++ [item] ∧
      (∀ other ∈ front, other.last = false) ∧ item.last = true ∧
        rest.length = front.length * chunkSize + item.part.length := by
  induction length : rest.length using Nat.strongRecOn generalizing rest fmt with
  | ind n ih =>
      subst length
      rcases Nat.lt_or_ge chunkSize rest.length with longer | fits
      · have shorter : (rest.drop chunkSize).length < rest.length := by
          rw [List.length_drop]
          omega
        obtain ⟨front, item, block, before, ends, size⟩ :=
          @ih _ shorter .fmt3 (rest.drop chunkSize) rfl
        refine ⟨⟨csid, sent, fmt, rest.take chunkSize, false⟩ :: front, item, ?_, ?_, ends, ?_⟩
        · rw [chunksFrom_split positive longer, block, List.cons_append]
        · intro other inFront
          rcases List.mem_cons.mp inFront with rfl | later
          · rfl
          · exact before other later
        · rw [List.length_drop] at size
          rw [List.length_cons, Nat.succ_mul]
          omega
      · exact ⟨[], ⟨csid, sent, fmt, rest, true⟩, chunksFrom_last fits, nofun, rfl, by simp⟩

end Chunks

/-! ## What a header announces -/

/-- The fields of a message header but the message stream id. -/
structure Announced where
  timestamp : ByteTriple
  dataSize : ByteTriple
  packType : RtmpPackType

def RtmpPack.announced (pack : RtmpPack) : Announced :=
  ⟨pack.timestamp, pack.dataSize, pack.packType⟩

@[simp] theorem RtmpPack.appendData_announced (pack : RtmpPack) (data : Bytes) :
    (pack.appendData data).announced = pack.announced := rfl

@[simp] theorem RtmpPack.dropAllData_announced (pack : RtmpPack) :
    pack.dropAllData.announced = pack.announced := rfl

namespace Message

variable (message previous : Message) (before : Announced)

def announced : Announced :=
  ⟨message.timestamp, message.size, RtmpPack.typeOfByte message.type⟩

/-- What is announced once the header of a message is read: the fields it leaves out are
those from before. -/
def announcedAfter : RtmpPackFmt → Announced
  | .fmt0 => message.announced
  | .fmt1 => message.announced
  | .fmt2 => ⟨message.timestamp, before.dataSize, before.packType⟩
  | .fmt3 => before

/-- Behind another message a header announces its own exactly if it repeats what it leaves
out. -/
theorem announcedAfter_eq_iff (fmt : RtmpPackFmt) :
    message.announcedAfter previous.announced fmt = message.announced ↔
      message.Repeats previous fmt := by
  cases fmt with
  | fmt0 => exact ⟨fun _ => trivial, fun _ => rfl⟩
  | fmt1 => exact ⟨fun _ => trivial, fun _ => rfl⟩
  | fmt2 =>
      simp only [announcedAfter, announced, Repeats, Announced.mk.injEq, true_and]
      exact and_congr eq_comm eq_comm
  | fmt3 =>
      simp only [announcedAfter, announced, Repeats, Announced.mk.injEq]
      exact and_congr eq_comm (and_congr eq_comm eq_comm)

end Message

theorem RtmpPack.IsMessage.announced {pack : RtmpPack} {sent : SentMessage}
    (same : pack.IsMessage sent) : pack.announced = sent.message.announced := by
  rw [RtmpPack.announced, same.timestamp, same.dataSize, same.packType, Message.announced]

/-- **A whole header** sets what is announced and leaves the stored body. -/
theorem RtmpPack.decodeHeader_firstHeader (pack : RtmpPack) (message : Message)
    (fmt : RtmpPackFmt) {csid : UInt8} (small : csid < 64) :
    (pack.decodeHeader (message.firstHeader csid fmt)).1.announced =
        message.announcedAfter pack.announced fmt ∧
      (pack.decodeHeader (message.firstHeader csid fmt)).1.buffer = pack.buffer := by
  obtain ⟨high, low⟩ := basicHeader_bits fmt small
  simp only [Message.firstHeader, decodeHeader, high, low, ofByte_toByte, decodeFields]
  cases fmt with
  | fmt0 => exact ⟨rfl, rfl⟩
  | fmt1 => exact ⟨rfl, rfl⟩
  | fmt2 => exact ⟨rfl, rfl⟩
  | fmt3 => exact ⟨rfl, rfl⟩

/-- What is announced behind some chunks. -/
def announcedBehind (before : Announced) (wire : List WireChunk) : Announced :=
  wire.foldl (fun announced chunk =>
    chunk.sent.message.announcedAfter announced chunk.fmt) before

@[simp] theorem announcedBehind_cons (before : Announced) (chunk : WireChunk)
    (wire : List WireChunk) :
    announcedBehind before (chunk :: wire) =
      announcedBehind (chunk.sent.message.announcedAfter before chunk.fmt) wire := rfl

theorem announcedBehind_append (before : Announced) (front wire : List WireChunk) :
    announcedBehind before (front ++ wire) =
      announcedBehind (announcedBehind before front) wire := List.foldl_append

/-- The continuation chunks of a message announce nothing of their own. -/
theorem announcedBehind_chunksFrom {chunkSize : Nat} (positive : 0 < chunkSize) (csid : UInt8)
    (sent : SentMessage) (fmt : RtmpPackFmt) (rest : Bytes) (before : Announced) :
    announcedBehind before (chunksFrom chunkSize csid sent fmt rest) =
      sent.message.announcedAfter before fmt := by
  induction length : rest.length using Nat.strongRecOn generalizing rest fmt before with
  | ind n ih =>
      subst length
      rcases Nat.lt_or_ge chunkSize rest.length with longer | fits
      · rw [chunksFrom_split positive longer, announcedBehind_cons]
        exact ih _ (by rw [List.length_drop]; omega) .fmt3 _ _ rfl
      · rw [chunksFrom_last fits]
        rfl

/-! ## The streams on a wire -/

section Streams

variable {chunkSize : Nat} {streams : UInt8 → List SentMessage} {wire rest : List WireChunk}

theorem chunksOf_isBlock (positive : 0 < chunkSize) (csid : UInt8) (sent : SentMessage) :
    IsBlock WireChunk.last (chunksOf chunkSize csid sent) := by
  obtain ⟨front, item, block, before, ends, -⟩ := chunksFrom_block positive
  exact ⟨front, item, block, before, ends⟩

/-- The number of chunks in front of the last one follows from the length of the body. -/
theorem length_body_of_chunksOf (positive : 0 < chunkSize) {csid : UInt8} {sent : SentMessage}
    {front : List WireChunk} {item : WireChunk}
    (block : chunksOf chunkSize csid sent = front ++ [item]) :
    sent.message.body.length = front.length * chunkSize + item.part.length := by
  obtain ⟨front', item', block', -, -, size⟩ :
      ∃ front' item', chunksOf chunkSize csid sent = front' ++ [item'] ∧ _ :=
    chunksFrom_block positive
  obtain ⟨rfl, same⟩ := List.append_inj' (block.symm.trans block') rfl
  obtain rfl := List.singleton_inj.mp same
  exact size

/-- A message is completed once by its chunks. -/
theorem completed_chunksOf (positive : 0 < chunkSize) (csid : UInt8) (sent : SentMessage) :
    completed (chunksOf chunkSize csid sent) = [sent] := by
  obtain ⟨front, item, block, before, ends⟩ := chunksOf_isBlock positive csid sent
  have isChunk : item ∈ chunksOf chunkSize csid sent := by simp [block]
  have none : front.filter (·.last) = [] :=
    List.filter_eq_nil_iff.mpr fun other inFront => by simp [before other inFront]
  rw [block, completed_append, completed, none, completed, List.filter_cons_of_pos ends,
    List.map_nil, List.nil_append, List.filter_nil, List.map_singleton,
    (of_mem_chunksFrom positive isChunk).2.1]

/-- **Every message is on the wire to its last chunk, once**, and in the order of its
stream. -/
theorem CarriesStreams.completed_eq (carries : CarriesStreams chunkSize streams wire)
    (positive : 0 < chunkSize) (csid : UInt8) :
    completed (wire.filter fun chunk => chunk.csid = csid) = streams csid := by
  rw [carries.inOrder csid]
  induction streams csid with
  | nil => rfl
  | cons message messages ih =>
      rw [List.flatMap_cons, completed_append, completed_chunksOf positive, ih,
        List.singleton_append]

/-- A message that comes first on the wire is the first of its stream. -/
theorem CarriesStreams.head {csid : UInt8} {sent : SentMessage} (positive : 0 < chunkSize)
    (carries : CarriesStreams chunkSize streams (chunksOf chunkSize csid sent ++ rest)) :
    ∃ messages, streams csid = sent :: messages := by
  have first := carries.completed_eq positive csid
  have own : (chunksOf chunkSize csid sent).filter (fun chunk => chunk.csid = csid) =
      chunksOf chunkSize csid sent :=
    List.filter_eq_self.mpr fun chunk inBlock =>
      decide_eq_true (of_mem_chunksFrom positive inBlock).1
  rw [List.filter_append, own, completed_append, completed_chunksOf positive,
    List.singleton_append] at first
  exact ⟨_, first.symm⟩

/-- A message that is on the wire whole was sent with a small id. -/
theorem CarriesStreams.csid_lt {order : List (UInt8 × SentMessage)} (positive : 0 < chunkSize)
    (carries : CarriesStreams chunkSize streams
      (order.flatMap fun one => chunksOf chunkSize one.1 one.2))
    {one : UInt8 × SentMessage} (isSent : one ∈ order) : one.1 < 64 := by
  obtain ⟨front, item, block, -⟩ := chunksOf_isBlock positive one.1 one.2
  have isChunk : item ∈ chunksOf chunkSize one.1 one.2 := by simp [block]
  have onWire : item ∈ order.flatMap (fun one => chunksOf chunkSize one.1 one.2) :=
    List.mem_flatMap.mpr ⟨one, isSent, isChunk⟩
  obtain ⟨message, inStream, -⟩ := carries.inOrder.mem_block onWire
  rw [(of_mem_chunksFrom positive isChunk).1] at inStream
  exact Nat.lt_succ_of_le (carries.oneByte one.1 (List.ne_nil_of_mem inStream)).2

/-- Messages on two chunk streams. -/
def twoStreams (a b : UInt8) (first second : List SentMessage) (csid : UInt8) :
    List SentMessage :=
  if csid = a then first else if csid = b then second else []

theorem twoStreams_carries {a b : UInt8} {first second : List SentMessage}
    (oneByte : (2 ≤ a ∧ a ≤ 63) ∧ 2 ≤ b ∧ b ≤ 63)
    (compressed : WellCompressed none first ∧ WellCompressed none second)
    (firstInOrder : wire.filter (fun chunk => chunk.csid = a) =
      first.flatMap (chunksOf chunkSize a))
    (secondInOrder : wire.filter (fun chunk => chunk.csid = b) =
      second.flatMap (chunksOf chunkSize b))
    (noOther : ∀ chunk ∈ wire, chunk.csid = a ∨ chunk.csid = b) :
    CarriesStreams chunkSize (twoStreams a b first second) wire := by
  refine ⟨fun csid => ?_, fun csid => ?_, fun csid => ?_⟩ <;>
    rw [twoStreams] <;> by_cases isFirst : csid = a
  · rw [isFirst]
    exact fun _ => oneByte.1
  · rw [if_neg isFirst]
    by_cases isSecond : csid = b
    · rw [isSecond]
      exact fun _ => oneByte.2
    · rw [if_neg isSecond]
      exact fun sends => absurd rfl sends
  · rw [if_pos isFirst]
    exact compressed.1
  · rw [if_neg isFirst]
    by_cases isSecond : csid = b
    · rw [if_pos isSecond]
      exact compressed.2
    · rw [if_neg isSecond]
      trivial
  · rw [if_pos isFirst, isFirst]
    exact firstInOrder
  · rw [if_neg isFirst]
    by_cases isSecond : csid = b
    · rw [if_pos isSecond, isSecond]
      exact secondInOrder
    · rw [if_neg isSecond, List.flatMap_nil, List.filter_eq_nil_iff]
      intro chunk onWire same
      have own := of_decide_eq_true same
      exact (noOther chunk onWire).elim (fun id => isFirst (own.symm.trans id))
        fun id => isSecond (own.symm.trans id)

end Streams

end LiveBroadcast
