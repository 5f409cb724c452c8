import LiveBroadcast.Codec.ChunkStreams

/-!
# Chunk streams share one pack

`RtmpCodec` reads the chunk stream id of every chunk but keeps one current pack for all chunk
streams: a header inherits from whatever message was read last, and the parts of all bodies
go to one buffer.

The decoder keeps up with a wire when it finishes a pack at the last chunk of each message,
with that message in it, and stands between two chunks after every chunk (`KeepsUp`). It does
so for exactly those interleavings in which the messages come one after another, each in
uninterrupted chunks, and whose headers leave out only what is equal in the previous message
on the wire, of whatever chunk stream (`keepsUp_iff`).

In one direction the decoder is followed from chunk to chunk, as for a single chunk stream.
In the other, a decoder that keeps up stores one chunk size of bytes for every chunk that is
not a last one; at the first last chunk their number is that of the chunks its own message
has sent, so no other chunk is among them (`KeepsUp.first_message`).
-/

set_option autoImplicit false

namespace LiveBroadcast

namespace ChunkDecoder

/-! ## One chunk -/

/-- The decoder after a whole chunk. -/
def behind (decoder : ChunkDecoder) (chunk : WireChunk) : ChunkDecoder :=
  (drain decoder chunk.bytes).1.1

variable {decoder : ChunkDecoder} {chunkSize : Nat} {chunk : WireChunk}
  {wire front rest : List WireChunk}

/-- Closing the last chunk keeps the body in the last pack and empties the current one. -/
theorem closeChunk_of_over (data : Bytes) (isOver : decoder.isChunkOver = true)
    (range : decoder.InRange) :
    (decoder.closeChunk data).Between decoder.rtmpChunkSize ∧
      (decoder.closeChunk data).currentRtmpPack =
        (decoder.currentRtmpPack.appendData data).dropAllData ∧
      (decoder.closeChunk data).lastRtmpPack = decoder.currentRtmpPack.appendData data := by
  obtain ⟨-, atStart⟩ := isChunkOver_eq_true isOver
  simp only [closeChunk, isOver, if_true]
  exact ⟨⟨⟨range.chunk_lt, range.read_lt⟩, rfl, rfl, atStart⟩, trivial, trivial⟩

/-- Closing any other chunk keeps the body in the current pack. -/
theorem closeChunk_of_split (data : Bytes) (split : decoder.isChunkOver = false)
    (range : decoder.InRange) :
    (decoder.closeChunk data).Between decoder.rtmpChunkSize ∧
      (decoder.closeChunk data).currentRtmpPack = decoder.currentRtmpPack.appendData data := by
  simp only [closeChunk, split, Bool.false_eq_true, if_false]
  exact ⟨⟨⟨range.chunk_lt, Nat.zero_lt_of_lt range.read_lt⟩, rfl, rfl, rfl⟩, trivial⟩

/-- At the start of a chunk that is not the last, the whole chunk size is needed. -/
theorem chunkNeed_of_split (split : decoder.isChunkOver = false)
    (atStart : decoder.readChunkSize = 0) (range : decoder.InRange) :
    decoder.chunkNeed = decoder.rtmpChunkSize := by
  rw [chunkNeed, if_neg (by simp [split]), atStart, sub32_of_le (Nat.zero_le _) range.chunk_lt,
    Nat.sub_zero]

/-- **The bytes of a chunk that are left over cannot pass for nothing**: fewer than a chunk
size of them in front of a decoder between two chunks would end a message, or leave the
decoder waiting for a body or a header. -/
theorem Between.nothing_left (between : decoder.Between chunkSize) {left : Bytes}
    (few : left.length ≤ chunkSize) (packs : (drain decoder left).2 = [])
    (unread : (drain decoder left).1.2 = [])
    (inHeader : (drain decoder left).1.1.decodePackStatus = .parseRtmpHeader) : left = [] := by
  cases left with
  | nil => rfl
  | cons first fields =>
      by_cases complete : RtmpPack.HeaderComplete (first :: fields)
      · have reaches := between.sane.reaches_header between.inHeader complete
        have shorter := reaches.length
        have positive := RtmpPack.headerSize_pos first
        rcases Nat.lt_or_ge ((first :: fields).drop (RtmpPack.headerSize first)).length
          (decoder.openBody (first :: fields)).chunkNeed with short | enough
        · rw [reaches.drain_short short, takePart_decodePackStatus, reaches.inBody] at inHeader
          cases inHeader
        · cases isOver : (decoder.openBody (first :: fields)).isChunkOver with
          | true =>
              rw [(reaches.drain_over isOver enough).2] at packs
              cases packs
          | false =>
              rw [chunkNeed_of_split isOver (by rw [openBody_readChunkSize, between.atStart])
                reaches.range, openBody_rtmpChunkSize, between.size] at enough
              omega
      · rw [drain_cut between.inHeader complete] at unread
        cases unread

/-! ## Being in step, chunk by chunk -/

theorem drain_chunk (decoder : ChunkDecoder) (chunk : WireChunk) :
    drain decoder (wireBytes [chunk]) = drain decoder chunk.bytes := by
  rw [wireBytes, List.flatMap_singleton]

/-- The decoder is in step after a chunk and more if it is after the chunk and then, from
there, after the rest. -/
theorem inStep_cons (sane : decoder.Sane) (first : InStep decoder [chunk]) :
    InStep decoder (chunk :: wire) ↔ InStep (decoder.behind chunk) wire := by
  obtain ⟨packs, unread, -⟩ := first
  rw [drain_chunk] at packs unread
  have whole : drain decoder (wireBytes (chunk :: wire)) =
      ((drain (decoder.behind chunk) (wireBytes wire)).1,
        (drain decoder chunk.bytes).2 ++ (drain (decoder.behind chunk) (wireBytes wire)).2) := by
    rw [wireBytes, List.flatMap_cons, sane.drain_append, unread, List.nil_append]
    rfl
  have ends : completed (chunk :: wire) = completed [chunk] ++ completed wire :=
    completed_append [chunk] wire
  constructor
  · intro step
    have all := step.packs
    rw [whole, ends] at all
    refine ⟨?_, by simpa only [whole] using step.unread, by simpa only [whole] using step.inHeader⟩
    have later := List.forall₂_drop_append _ _ _ all
    rwa [← packs.length_eq, List.drop_left] at later
  · intro step
    refine ⟨?_, by simpa only [whole] using step.unread, by simpa only [whole] using step.inHeader⟩
    rw [whole, ends]
    exact List.rel_append packs step.packs

/-- Keeping up with a wire is being in step after its first chunk and keeping up from
there. -/
theorem Between.keepsUp_cons (between : decoder.Between chunkSize) :
    KeepsUp decoder (chunk :: wire) ↔
      InStep decoder [chunk] ∧ KeepsUp (decoder.behind chunk) wire := by
  constructor
  · intro keeps
    have first : InStep decoder [chunk] := keeps [chunk] (by simp)
    refine ⟨first, fun before start => ?_⟩
    have longer : chunk :: before <+: chunk :: wire := List.cons_prefix_cons.mpr ⟨rfl, start⟩
    exact (inStep_cons between.sane first).mp (keeps _ longer)
  · rintro ⟨first, keeps⟩ before start
    obtain rfl | ⟨later, rfl, starts⟩ := List.prefix_cons_iff.mp start
    · exact ⟨.nil, rfl, between.inHeader⟩
    · exact (inStep_cons between.sane first).mpr (keeps later starts)

theorem Between.keepsUp_nil (between : decoder.Between chunkSize) : KeepsUp decoder [] := by
  intro before start
  obtain rfl := List.prefix_nil.mp start
  exact ⟨.nil, rfl, between.inHeader⟩

/-! ## A decoder that keeps up -/

/-- The decoder with the header of a chunk read. -/
def opened (decoder : ChunkDecoder) (chunk : WireChunk) : ChunkDecoder :=
  decoder.openBody (chunk.sent.message.firstHeader chunk.csid chunk.fmt)

theorem opened_announced (decoder : ChunkDecoder) (small : chunk.csid < 64) :
    (decoder.opened chunk).currentRtmpPack.announced =
        chunk.sent.message.announcedAfter decoder.currentRtmpPack.announced chunk.fmt ∧
      (decoder.opened chunk).currentRtmpPack.buffer = decoder.currentRtmpPack.buffer :=
  decoder.currentRtmpPack.decodeHeader_firstHeader chunk.sent.message chunk.fmt small

theorem Between.opened_sizes (between : decoder.Between chunkSize) (chunk : WireChunk) :
    (decoder.opened chunk).readChunkSize = 0 ∧
      (decoder.opened chunk).rtmpChunkSize = chunkSize := by
  rw [opened, openBody_readChunkSize, openBody_rtmpChunkSize]
  exact ⟨between.atStart, between.size⟩

/-- **A chunk that is not a last one**: a decoder in step has stored it all, whatever message
it belongs to. -/
theorem Between.stores (between : decoder.Between chunkSize) (small : chunk.csid < 64)
    (full : chunk.part.length = chunkSize) (more : chunk.last = false)
    (step : InStep decoder [chunk]) :
    (decoder.behind chunk).Between chunkSize ∧
      (decoder.behind chunk).currentRtmpPack =
        (decoder.opened chunk).currentRtmpPack.appendData chunk.part := by
  have reaches : Reaches decoder chunk.bytes (decoder.opened chunk) chunk.part _ :=
    between.reaches chunk.sent.message chunk.fmt small chunk.part
  have none : (drain decoder chunk.bytes).2 = [] := by
    have packs := step.packs
    rw [drain_chunk, completed, List.filter_cons_of_neg (by simp [more])] at packs
    exact List.forall₂_nil_right_iff.mp packs
  obtain ⟨atStart, size⟩ := between.opened_sizes chunk
  cases isOver : (decoder.opened chunk).isChunkOver with
  | true =>
      -- what is missing would fit in the chunk, and end a message here
      obtain ⟨fits, -⟩ := isChunkOver_eq_true isOver
      have enough : (decoder.opened chunk).chunkNeed ≤ chunk.part.length := by
        rw [chunkNeed, if_pos isOver, full, ← size]
        exact fits
      rw [(reaches.drain_over isOver enough).2] at none
      cases none
  | false =>
      have need : (decoder.opened chunk).chunkNeed = chunk.part.length := by
        rw [chunkNeed_of_split isOver atStart reaches.range, size, full]
      have after : decoder.behind chunk = (decoder.opened chunk).closeChunk chunk.part := by
        rw [behind, reaches.drain_split isOver (Nat.le_of_eq need), need, List.take_length,
          List.drop_length, drain_nil]
      rw [after, ← size]
      exact closeChunk_of_split chunk.part isOver reaches.range

/-- **A last chunk**: a decoder in step has all of the body of its message, and the fields of
the message announced. -/
theorem Between.finishes (between : decoder.Between chunkSize) (small : chunk.csid < 64)
    (fits : chunk.part.length ≤ chunkSize) (ends : chunk.last = true)
    (step : InStep decoder [chunk]) :
    (decoder.behind chunk).Between chunkSize ∧
      (decoder.behind chunk).currentRtmpPack.buffer = [] ∧
      (decoder.behind chunk).currentRtmpPack.announced = chunk.sent.message.announced ∧
      decoder.currentRtmpPack.buffer ++ chunk.part = chunk.sent.message.body ∧
      chunk.sent.message.announcedAfter decoder.currentRtmpPack.announced chunk.fmt =
        chunk.sent.message.announced := by
  have reaches : Reaches decoder chunk.bytes (decoder.opened chunk) chunk.part _ :=
    between.reaches chunk.sent.message chunk.fmt small chunk.part
  obtain ⟨announced, stored⟩ := opened_announced decoder small
  obtain ⟨atStart, size⟩ := between.opened_sizes chunk
  obtain ⟨packs, unread, inHeader⟩ := step
  rw [drain_chunk] at packs unread inHeader
  rw [completed, List.filter_cons_of_pos (by simp [ends])] at packs
  rcases Nat.lt_or_ge chunk.part.length (decoder.opened chunk).chunkNeed with short | enough
  · -- the message would not be finished
    rw [reaches.drain_short short] at packs
    cases packs
  · cases isOver : (decoder.opened chunk).isChunkOver with
    | false =>
        -- the chunk would be full and the message not finished
        have need := chunkNeed_of_split isOver atStart reaches.range
        rw [size] at need
        rw [reaches.drain_split isOver enough, need, List.drop_of_length_le fits,
          drain_nil] at packs
        cases packs
    | true =>
        obtain ⟨closed, current, last⟩ := closeChunk_of_over
          (chunk.part.take (decoder.opened chunk).chunkNeed) isOver reaches.range
        obtain ⟨left, finished⟩ := reaches.drain_over isOver enough
        rw [finished] at packs
        rw [left] at unread inHeader
        obtain ⟨isMessage, others⟩ := List.forall₂_cons.mp packs
        rw [size] at closed
        have nothing := closed.nothing_left (by rw [List.length_drop]; omega)
          (List.forall₂_nil_right_iff.mp others) unread inHeader
        have whole : chunk.part.take (decoder.opened chunk).chunkNeed = chunk.part := by
          have parts := List.take_append_drop (decoder.opened chunk).chunkNeed chunk.part
          rwa [nothing, List.append_nil] at parts
        have after : decoder.behind chunk = (decoder.opened chunk).closeChunk chunk.part := by
          rw [behind, left, nothing, whole, drain_nil]
        rw [whole] at closed current last isMessage
        rw [last] at isMessage
        have fields := isMessage.announced
        rw [RtmpPack.appendData_announced] at fields
        rw [after, current, RtmpPack.dropAllData_announced, RtmpPack.appendData_announced,
          ← stored, ← announced]
        exact ⟨closed, rfl, fields, isMessage.body, fields⟩

/-- **Chunks none of which is a last one** are stored one chunk size each. -/
theorem Between.stores_all (between : decoder.Between chunkSize)
    (keeps : KeepsUp decoder (front ++ wire))
    (whole : ∀ chunk ∈ front,
      chunk.csid < 64 ∧ chunk.part.length = chunkSize ∧ chunk.last = false) :
    ∃ after : ChunkDecoder, after.Between chunkSize ∧ KeepsUp after wire ∧
      after.currentRtmpPack.buffer.length =
        decoder.currentRtmpPack.buffer.length + front.length * chunkSize ∧
      after.currentRtmpPack.announced =
        announcedBehind decoder.currentRtmpPack.announced front := by
  induction front generalizing decoder with
  | nil => exact ⟨decoder, between, keeps, by simp, rfl⟩
  | cons chunk front ih =>
      obtain ⟨small, full, more⟩ := whole chunk List.mem_cons_self
      obtain ⟨step, keeps'⟩ := between.keepsUp_cons.mp keeps
      obtain ⟨between', current⟩ := between.stores small full more step
      obtain ⟨announced, stored⟩ := opened_announced decoder small
      obtain ⟨after, between'', keeps'', length, fields⟩ := ih between' keeps'
        fun other inFront => whole other (List.mem_cons_of_mem _ inFront)
      refine ⟨after, between'', keeps'', ?_, ?_⟩
      · rw [length, current, RtmpPack.appendData_buffer, stored, List.length_append, full,
          List.length_cons, Nat.succ_mul]
        omega
      · rw [fields, current, RtmpPack.appendData_announced, announced, announcedBehind_cons]

end ChunkDecoder

/-! ## From the streams to the order of the messages -/

section Wire

open ChunkDecoder

variable {decoder : ChunkDecoder} {chunkSize : Nat} {streams : UInt8 → List SentMessage}
  {wire : List WireChunk}

/-- Every chunk on the wire has a small id, and the chunk size if it is not a last one. -/
theorem chunk_on_wire (positive : 0 < chunkSize)
    (small : ∀ csid, streams csid ≠ [] → csid < 64)
    (inOrder : Interleaves WireChunk.csid (chunksOf chunkSize) streams wire)
    {chunk : WireChunk} (onWire : chunk ∈ wire) :
    chunk.csid < 64 ∧ (chunk.last = false → chunk.part.length = chunkSize) ∧
      (chunk.last = true → chunk.part.length ≤ chunkSize) := by
  obtain ⟨own, inStream, inBlock⟩ := inOrder.mem_block onWire
  obtain ⟨-, -, sizes⟩ := of_mem_chunksFrom positive inBlock
  exact ⟨small _ (List.ne_nil_of_mem inStream), sizes⟩

/-- **A decoder that keeps up is sent a whole message first**: the first chunk that is a last
one ends a message whose chunks are all that came before, and whose header announces it. -/
theorem KeepsUp.first_message (keeps : KeepsUp decoder wire)
    (between : decoder.Between chunkSize) (empty : decoder.currentRtmpPack.buffer = [])
    (small : ∀ csid, streams csid ≠ [] → csid < 64)
    (inOrder : Interleaves WireChunk.csid (chunksOf chunkSize) streams wire)
    (sent : wire ≠ []) :
    ∃ csid message messages rest, streams csid = message :: messages ∧
      wire = chunksOf chunkSize csid message ++ rest ∧
      message.message.announcedAfter decoder.currentRtmpPack.announced message.fmt =
        message.message.announced ∧
      ∃ after : ChunkDecoder, after.Between chunkSize ∧ after.currentRtmpPack.buffer = [] ∧
        after.currentRtmpPack.announced = message.message.announced ∧ KeepsUp after rest := by
  have positive := between.chunkSize_pos
  have blocks : ∀ csid, ∀ message ∈ streams csid,
      IsBlock WireChunk.last (chunksOf chunkSize csid message) :=
    fun csid message _ => chunksOf_isBlock positive csid message
  obtain ⟨front, item, rest, rfl, before, ends⟩ := inOrder.exists_final blocks sent
  obtain ⟨message, messages, stream, block, -⟩ := inOrder.first_block blocks before ends
  have ofMessage : item ∈ chunksOf chunkSize item.csid message := by simp [block]
  obtain ⟨-, isMessage, -, -⟩ := of_mem_chunksFrom positive ofMessage
  -- the decoder up to the last chunk of the message, and behind it
  obtain ⟨upTo, between', keeps', stored, fields⟩ := between.stores_all keeps
    fun chunk inFront =>
      have ⟨smallId, full, _⟩ :=
        chunk_on_wire positive small inOrder (List.mem_append_left _ inFront)
      ⟨smallId, full (before chunk inFront), before chunk inFront⟩
  obtain ⟨smallId, -, fits⟩ :=
    chunk_on_wire positive small inOrder (List.mem_append_right _ List.mem_cons_self)
  obtain ⟨step, keeps''⟩ := between'.keepsUp_cons.mp keeps'
  obtain ⟨between'', empty'', announced, body, own⟩ :=
    between'.finishes smallId (fits ends) ends step
  rw [isMessage] at announced body own
  -- the bytes stored are as many as the chunks of the message itself carry
  have alone : front.filter (fun chunk => chunk.csid = item.csid) = front := by
    have size := length_body_of_chunksOf positive block
    rw [← body, List.length_append, stored, empty, List.length_nil, Nat.zero_add] at size
    have equal := Nat.eq_of_mul_eq_mul_right positive (Nat.add_right_cancel size)
    exact List.filter_eq_self.mpr (List.length_filter_eq_length_iff.mp equal.symm)
  rw [alone] at block
  refine ⟨item.csid, message, messages, rest, stream, ?_, ?_,
    upTo.behind item, between'', empty'', announced, keeps''⟩
  · rw [block, List.append_assoc, List.singleton_append]
  · rw [← announcedBehind_chunksFrom positive item.csid message message.fmt message.message.body,
      ← chunksOf, block, announcedBehind_append, ← fields, announcedBehind_cons, isMessage]
    exact own

/-- **A decoder that keeps up is sent one message after another.** -/
theorem KeepsUp.order (keeps : KeepsUp decoder wire) (between : decoder.Between chunkSize)
    (empty : decoder.currentRtmpPack.buffer = [])
    (small : ∀ csid, streams csid ≠ [] → csid < 64)
    (inOrder : Interleaves WireChunk.csid (chunksOf chunkSize) streams wire) :
    ∃ order : List (UInt8 × SentMessage),
      wire = order.flatMap (fun one => chunksOf chunkSize one.1 one.2) ∧
        (order.IsChain fun previous one =>
          one.2.message.Repeats previous.2.message one.2.fmt) ∧
        ∀ first ∈ order.head?, first.2.message.announcedAfter decoder.currentRtmpPack.announced
          first.2.fmt = first.2.message.announced := by
  induction length : wire.length using Nat.strongRecOn generalizing decoder wire streams with
  | ind n ih =>
      subst length
      by_cases sent : wire = []
      · exact ⟨[], by simp [sent], .nil, nofun⟩
      obtain ⟨csid, message, messages, rest, stream, rfl, own, after, between', empty', announced,
        keeps'⟩ := KeepsUp.first_message keeps between empty small inOrder sent
      have positive := between.chunkSize_pos
      have inOrder' := inOrder.drop_block
        (fun chunk inBlock => (of_mem_chunksFrom positive inBlock).1) stream
      have small' : ∀ k, Function.update streams csid messages k ≠ [] → k < 64 := by
        intro k unsent
        obtain ⟨other, left⟩ := List.exists_mem_of_ne_nil _ unsent
        exact small k (List.ne_nil_of_mem (mem_of_left_to_send stream left))
      have shorter : rest.length < (chunksOf chunkSize csid message ++ rest).length := by
        obtain ⟨front, item, block, -⟩ := chunksOf_isBlock positive csid message
        simp [block]
        omega
      obtain ⟨order, rfl, chain, next⟩ :=
        ih _ shorter keeps' between' empty' small' inOrder' rfl
      refine ⟨(csid, message) :: order, rfl, List.isChain_cons.mpr ⟨?_, chain⟩, ?_⟩
      · intro one isNext
        have repeats := next one isNext
        rw [announced] at repeats
        exact (Message.announcedAfter_eq_iff _ _ _).mp repeats
      · intro first isFirst
        obtain rfl := Option.some.inj isFirst
        exact own

end Wire

/-! ## From the order of the messages to a decoder that keeps up -/

/-- The message with another message stream id, which no pack is compared by. -/
def Message.onStream (message : Message) (streamId : ByteQuad) : Message :=
  { message with streamId := streamId }

theorem RtmpPack.Carries.announced {pack : RtmpPack} {message : Message} {streamId : ByteQuad}
    (carries : pack.Carries (message.onStream streamId)) :
    pack.announced = message.announced := by
  rw [RtmpPack.announced, carries.timestamp, carries.dataSize, carries.packType]
  rfl

namespace ChunkDecoder

variable {decoder : ChunkDecoder} {chunkSize : Nat} {wire : List WireChunk} {csid : UInt8}
  {sent : SentMessage} {fmt : RtmpPackFmt} {received rest : Bytes}

/-- With a header read that announces the message, the decoder holds what was received of
it. -/
theorem Between.holding (between : decoder.Between chunkSize) (small : csid < 64)
    (stored : decoder.currentRtmpPack.buffer = received)
    (body : received ++ rest = sent.message.body)
    (fields : sent.message.announcedAfter decoder.currentRtmpPack.announced fmt =
      sent.message.announced) :
    ∃ streamId, (decoder.openBody (sent.message.firstHeader csid fmt)).Holding chunkSize
      (sent.message.onStream streamId) received rest := by
  obtain ⟨announced, buffer⟩ :=
    decoder.currentRtmpPack.decodeHeader_firstHeader sent.message fmt small
  rw [fields, RtmpPack.announced, Message.announced, Announced.mk.injEq] at announced
  obtain ⟨timestamp, dataSize, packType⟩ := announced
  refine ⟨(decoder.openBody (sent.message.firstHeader csid fmt)).currentRtmpPack.streamId, ?_⟩
  exact ⟨⟨between.range.chunk_lt, between.range.read_lt⟩, between.size, between.atStart,
    buffer.trans stored, body, ⟨timestamp, dataSize, packType, rfl⟩⟩

/-- What draining one chunk leaves tells whether the decoder is in step. -/
theorem inStep_of_drain {chunk : WireChunk} {after : ChunkDecoder} {packs : List RtmpPack}
    (drained : drain decoder chunk.bytes = ((after, []), packs))
    (inHeader : after.decodePackStatus = .parseRtmpHeader)
    (all : List.Forall₂ RtmpPack.IsMessage packs (completed [chunk])) :
    InStep decoder [chunk] ∧ decoder.behind chunk = after := by
  refine ⟨⟨?_, ?_, ?_⟩, by rw [behind, drained]⟩
  · rw [drain_chunk, drained]
    exact all
  · rw [drain_chunk, drained]
  · rw [drain_chunk, drained]
    exact inHeader

/-- **The chunks of one message**: a decoder that has what came before keeps up with them,
and with the wire behind them if every decoder that has read the message does. -/
theorem Between.keepsUp_chunksFrom (between : decoder.Between chunkSize) (small : csid < 64)
    (stored : decoder.currentRtmpPack.buffer = received)
    (body : received ++ rest = sent.message.body)
    (fields : sent.message.announcedAfter decoder.currentRtmpPack.announced fmt =
      sent.message.announced)
    (goesOn : ∀ after : ChunkDecoder, after.Between chunkSize →
      after.currentRtmpPack.buffer = [] →
      after.currentRtmpPack.announced = sent.message.announced → KeepsUp after wire) :
    KeepsUp decoder (chunksFrom chunkSize csid sent fmt rest ++ wire) := by
  have positive := between.chunkSize_pos
  induction length : rest.length using Nat.strongRecOn
      generalizing decoder fmt received rest with
  | ind n ih =>
      subst length
      obtain ⟨streamId, holding⟩ := between.holding small stored body fields
      have reaches := between.reaches sent.message fmt small
      rcases Nat.lt_or_ge chunkSize rest.length with longer | fits
      · rw [chunksFrom_split positive longer, List.cons_append, between.keepsUp_cons]
        obtain ⟨holding', inHeader⟩ := holding.closeChunk_split longer
        have passes := Reaches.passes_split reaches holding longer []
        rw [List.append_nil, drain_nil] at passes
        obtain ⟨step, behind⟩ := @inStep_of_drain _
          ⟨csid, sent, fmt, rest.take chunkSize, false⟩ _ _ passes inHeader .nil
        rw [behind]
        refine ⟨step, ih _ ?_ (holding'.between inHeader) holding'.stored holding'.body ?_ rfl⟩
        · rw [List.length_drop]
          omega
        · exact RtmpPack.Carries.announced holding'.fields
      · rw [chunksFrom_last fits, List.singleton_append, between.keepsUp_cons]
        obtain ⟨ready, carries, body', -⟩ := holding.closeChunk_last fits
        have finishes := Reaches.finishes_last reaches holding fits []
        rw [List.append_nil, drain_nil] at finishes
        obtain ⟨step, behind⟩ := @inStep_of_drain _
          ⟨csid, sent, fmt, rest, true⟩ _ _ finishes ready.inHeader
          (.cons ⟨carries.timestamp, carries.dataSize, carries.packType, body'⟩ .nil)
        rw [behind]
        refine ⟨step, goesOn _ ready.between ready.empty ?_⟩
        exact RtmpPack.Carries.announced (ready.fields _ rfl)

/-- **Messages one after another**: a decoder keeps up if the first header, too, announces
its message. -/
theorem Between.keepsUp_order (between : decoder.Between chunkSize)
    (empty : decoder.currentRtmpPack.buffer = []) {order : List (UInt8 × SentMessage)}
    (small : ∀ one ∈ order, one.1 < 64)
    (chain : order.IsChain fun previous one =>
      one.2.message.Repeats previous.2.message one.2.fmt)
    (own : ∀ first ∈ order.head?, first.2.message.announcedAfter
      decoder.currentRtmpPack.announced first.2.fmt = first.2.message.announced) :
    KeepsUp decoder (order.flatMap fun one => chunksOf chunkSize one.1 one.2) := by
  induction order generalizing decoder with
  | nil => exact between.keepsUp_nil
  | cons one order ih =>
      obtain ⟨next, chain⟩ := List.isChain_cons.mp chain
      rw [List.flatMap_cons]
      refine between.keepsUp_chunksFrom (small one List.mem_cons_self) empty (List.nil_append _)
        (own one rfl) fun after between' empty' announced => ?_
      apply ih between' empty' (fun other later => small other (List.mem_cons_of_mem _ later)) chain
      intro first isNext
      rw [announced]
      exact (Message.announcedAfter_eq_iff _ _ _).mpr (next first isNext)

end ChunkDecoder

/-! ## Which interleavings are demultiplexed -/

section Demultiplexing

open ChunkDecoder

variable {chunkSize : Nat} {streams : UInt8 → List SentMessage} {wire rest : List WireChunk}

/-- **Which interleavings are demultiplexed.** Whatever the messages, the chunk streams and
the order of the chunks, the decoder keeps up with the wire exactly if the messages are sent
one after another and leave out only what is equal in the message in front of them on the
wire. Then the packs are the messages, each once: of every stream, those whose last chunk is
on the wire are all there are. -/
theorem keepsUp_iff (codec : RtmpCodec) (positive : 0 < codec.rtmpChunkSize)
    (width : codec.rtmpChunkSize < 2 ^ 32) (atStart : codec.readChunkSize = 0)
    (empty : codec.currentRtmpPack.buffer = [])
    (inHeader : codec.decodePackStatus = .parseRtmpHeader)
    (carries : CarriesStreams codec.rtmpChunkSize streams wire) :
    (KeepsUp codec.toChunkDecoder wire ↔ OneAfterAnother codec.rtmpChunkSize wire) ∧
      (OneAfterAnother codec.rtmpChunkSize wire → Demultiplexes codec.toChunkDecoder wire) ∧
      ∀ csid, completed (wire.filter fun chunk => chunk.csid = csid) = streams csid := by
  have between : codec.toChunkDecoder.Between codec.rtmpChunkSize :=
    ⟨⟨width, by omega⟩, rfl, inHeader, atStart⟩
  have inOrder (keeps : KeepsUp codec.toChunkDecoder wire) :
      OneAfterAnother codec.rtmpChunkSize wire := by
    have small : ∀ csid, streams csid ≠ [] → csid < 64 := fun csid sends =>
      Nat.lt_succ_of_le (carries.oneByte csid sends).2
    obtain ⟨order, cut, chain, -⟩ := KeepsUp.order keeps between empty small carries.inOrder
    exact ⟨order, cut, chain⟩
  have keepsUp (inOrder : OneAfterAnother codec.rtmpChunkSize wire) :
      KeepsUp codec.toChunkDecoder wire := by
    obtain ⟨order, rfl, chain⟩ := inOrder
    apply between.keepsUp_order empty (fun one isSent => carries.csid_lt positive isSent) chain
    intro first isFirst
    obtain ⟨order, rfl⟩ := List.head?_eq_some_iff.mp isFirst
    rw [List.flatMap_cons] at carries
    obtain ⟨messages, stream⟩ := carries.head positive
    have compressed := carries.compressed first.1
    rw [stream] at compressed
    rw [compressed.1, Message.announcedAfter]
  exact ⟨⟨inOrder, keepsUp⟩, fun sequential => (keepsUp sequential).demultiplexes,
    carries.completed_eq positive⟩

/-- A codec at the beginning of a chunk, with chunks of four bytes. -/
def fourByteCodec : RtmpCodec := { RtmpCodec.atStart .standard with rtmpChunkSize := 4 }

def firstVideo : SentMessage :=
  ⟨.fmt0, ⟨⟨0, 0, 10⟩, 9, ⟨1, 0, 0, 0⟩, [23, 1, 2], by decide, by decide⟩⟩

def controlMessage : SentMessage :=
  ⟨.fmt0, ⟨⟨0, 0, 0⟩, 3, ⟨0, 0, 0, 0⟩, [0, 0, 32, 0], zeroTimestamp_lt, by decide⟩⟩

/-- A video message with the size, the type and the timestamp of the first one. -/
def secondVideo (fmt : RtmpPackFmt) : SentMessage :=
  ⟨fmt, ⟨⟨0, 0, 10⟩, 9, ⟨1, 0, 0, 0⟩, [39, 3, 4], by decide, by decide⟩⟩

/-- A control message on chunk stream 2 between two video messages on chunk stream 4. -/
def controlWire (fmt : RtmpPackFmt) : List WireChunk :=
  [⟨4, firstVideo, .fmt0, [23, 1, 2], true⟩, ⟨2, controlMessage, .fmt0, [0, 0, 32, 0], true⟩,
    ⟨4, secondVideo fmt, fmt, [39, 3, 4], true⟩]

theorem controlWire_carries (fmt : RtmpPackFmt) :
    CarriesStreams 4 (twoStreams 4 2 [firstVideo, secondVideo fmt] [controlMessage])
      (controlWire fmt) := by
  have short : (secondVideo fmt).message.body.length ≤ 4 := Nat.le_succ 3
  have compressed : WellCompressed none [firstVideo, secondVideo fmt] := by
    refine ⟨rfl, ?_, trivial⟩
    cases fmt with
    | fmt0 => exact trivial
    | fmt1 => exact rfl
    | fmt2 => exact ⟨rfl, rfl, rfl⟩
    | fmt3 => exact ⟨rfl, rfl, rfl, rfl⟩
  have control : WellCompressed none [controlMessage] := ⟨rfl, trivial⟩
  apply twoStreams_carries (by decide) ⟨compressed, control⟩
  · rw [List.flatMap_cons, List.flatMap_singleton, chunksOf, chunksOf,
      chunksFrom_last (by decide), chunksFrom_last short]
    rfl
  · rw [List.flatMap_singleton, chunksOf, chunksFrom_last (by decide)]
    rfl
  · simp [controlWire]

/-- With a FMT1 header the second video message leaves out only its message stream id. -/
theorem keepsUp_iff_controlWire : KeepsUp fourByteCodec.toChunkDecoder (controlWire .fmt1) := by
  have order : OneAfterAnother 4 (controlWire .fmt1) := by
    refine ⟨[(4, firstVideo), (2, controlMessage), (4, secondVideo .fmt1)], ?_, ?_⟩
    · simp only [List.flatMap_cons, List.flatMap_nil, chunksOf]
      rw [chunksFrom_last (by decide), chunksFrom_last (by decide), chunksFrom_last (by decide)]
      rfl
    · exact .cons_cons trivial (.cons_cons trivial (.singleton _))
  exact (keepsUp_iff fourByteCodec (by decide) (by decide) rfl rfl rfl
    (controlWire_carries .fmt1)).1.mpr order

/-- Two messages of two chunks each. -/
def longAudio : SentMessage :=
  ⟨.fmt0, ⟨⟨0, 0, 20⟩, 8, ⟨1, 0, 0, 0⟩, [1, 2, 3, 4, 5, 6], by decide, by decide⟩⟩

def longVideo : SentMessage :=
  ⟨.fmt0, ⟨⟨0, 0, 30⟩, 9, ⟨1, 0, 0, 0⟩, [11, 12, 13, 14, 15, 16], by decide, by decide⟩⟩

/-- The chunks of the two messages by turns. -/
def alternatingWire : List WireChunk :=
  [⟨4, longAudio, .fmt0, [1, 2, 3, 4], false⟩, ⟨6, longVideo, .fmt0, [11, 12, 13, 14], false⟩,
    ⟨4, longAudio, .fmt3, [5, 6], true⟩, ⟨6, longVideo, .fmt3, [15, 16], true⟩]

theorem alternatingWire_carries :
    CarriesStreams 4 (twoStreams 4 6 [longAudio] [longVideo]) alternatingWire := by
  have audio : WellCompressed none [longAudio] := ⟨rfl, trivial⟩
  have video : WellCompressed none [longVideo] := ⟨rfl, trivial⟩
  apply twoStreams_carries (by decide) ⟨audio, video⟩
  · rw [List.flatMap_singleton, chunksOf, chunksFrom_split (by decide) (by decide),
      chunksFrom_last (by decide)]
    rfl
  · rw [List.flatMap_singleton, chunksOf, chunksFrom_split (by decide) (by decide),
      chunksFrom_last (by decide)]
    rfl
  · simp [alternatingWire]

/-- A message with the body `[23, 1, 2]` whose timestamp field has the escape value, with the
four bytes of the extended timestamp behind its header. -/
def extendedTimestamp : Bytes :=
  basicHeader .fmt0 4 :: [255, 255, 255, 0, 0, 3, 9, 1, 0, 0, 0] ++ [1, 0, 0, 0] ++ [23, 1, 2]

/-- **A control message between two others, or two messages by turns**, and a message gets
lost: the second video message waits for as many bytes as the control message had, and the
parts of both long messages go into one pack. An extended timestamp is taken for the body. -/
theorem streams_share_one_pack :
    (CarriesStreams 4 (twoStreams 4 2 [firstVideo, secondVideo .fmt2] [controlMessage])
        (controlWire .fmt2) ∧
      ¬ Demultiplexes fourByteCodec.toChunkDecoder (controlWire .fmt2)) ∧
    (CarriesStreams 4 (twoStreams 4 2 [firstVideo, secondVideo .fmt3] [controlMessage])
        (controlWire .fmt3) ∧
      ¬ Demultiplexes fourByteCodec.toChunkDecoder (controlWire .fmt3)) ∧
    (CarriesStreams 4 (twoStreams 4 6 [longAudio] [longVideo]) alternatingWire ∧
      ¬ Demultiplexes fourByteCodec.toChunkDecoder alternatingWire) ∧
    [23, 1, 2] ∉ (drain fourByteCodec.toChunkDecoder extendedTimestamp).2.map (·.buffer) :=
  ⟨⟨controlWire_carries .fmt2, fun all => absurd all.length_eq (by decide +kernel)⟩,
    ⟨controlWire_carries .fmt3, fun all => absurd all.length_eq (by decide +kernel)⟩,
    ⟨alternatingWire_carries, fun all => absurd all.length_eq (by decide +kernel)⟩,
    by decide +kernel⟩

end Demultiplexing

end LiveBroadcast
