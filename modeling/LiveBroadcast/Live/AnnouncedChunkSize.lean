import LiveBroadcast.Live.HandshakeSegments

/-!
# The announced chunk size

In its handshake a publisher announces the chunk size it is going to use. `ParseShakeHand`
reads the message and drops it: the decoder keeps the chunk size it was built with.

A list of messages that is chunked at the announced size is read back when no message is
longer than the smaller of the two sizes, since then no message is split, and always when the
two sizes are equal. A message that is one byte longer than the smaller size is not read back
(`Ready.drain_splitShort` when the publisher splits it, `Ready.drain_wholeLong` when only the
decoder does). So the decoder honours an announcement, for all messages up to some length, in
these two cases only (`announced_chunk_size_iff`).
-/

set_option autoImplicit false

namespace LiveBroadcast

open ChunkDecoder

/-! ## The announcement -/

/-- Set Chunk Size: four bytes in network order. -/
def setChunkSizeMessage (n : Nat) : Message where
  timestamp := ⟨0, 0, 0⟩
  type := 1
  streamId := ⟨0, 0, 0, 0⟩
  body := (ByteQuad.htonl n).bytes
  timestamp_lt := zeroTimestamp_lt
  body_lt := by
    rw [ByteQuad.length_bytes]
    decide

/-- The chunk size that both sides use before any is announced. -/
def defaultChunkSize : Nat := 128

/-- The announcement on the wire. -/
def announcement (n : Nat) (csid : UInt8) : Bytes :=
  (setChunkSizeMessage n).encode defaultChunkSize csid .fmt0

/-- The message that a following one on this chunk stream is compressed against. -/
def announcedBefore (n : Nat) (announcing csid : UInt8) : Option Message :=
  if csid = announcing then some (setChunkSizeMessage n) else none

/-- A manager that has read C0, C1 and C2 and waits for the announcement. -/
def RtmpManager.awaitingChunkSize (build : Build) (unset : UnsetMembers)
    (connectPack releasePack : RtmpPack) : RtmpManager :=
  { construct build { unset with readChunkSize := 0 } connectPack releasePack with
    shakeHandStatus := .shakeRtmpSetChunkSize }

/-- **Honouring an announcement**, for messages of at most `most` bytes: the stage consumes
it, and every list of such messages on one chunk stream, chunked at the announced size and
cut in any way, is read back. -/
def RtmpManager.HonoursChunkSize (build : Build) (manager : RtmpManager) (n most : Nat) : Prop :=
  ∀ announcing csid : UInt8, 2 ≤ announcing ∧ announcing ≤ 63 → 2 ≤ csid ∧ csid ≤ 63 →
    ∃ after, (∀ tail, manager.parseShakeHand build (announcement n announcing ++ tail) =
        ⟨after, tail, .shakeRtmpSetChunkSize⟩) ∧
      ∀ sent segments, WellCompressed (announcedBefore n announcing csid) sent →
        (∀ one ∈ sent, one.message.body.length ≤ most) →
        segments.flatten = encodeMessages n csid sent →
          List.Forall₂ (Reassembled csid)
            (drainConsumer.feedAll (after.rtmpCodec.toChunkDecoder, []) segments).2 sent

/-- What may be compressed against nothing may be compressed against anything. -/
theorem WellCompressed.of_none {sent : List SentMessage} (compressed : WellCompressed none sent)
    (previous : Option Message) : WellCompressed previous sent := by
  cases sent with
  | nil => cases previous <;> trivial
  | cons one sent =>
      obtain ⟨format, others⟩ := compressed
      cases previous with
      | none => exact ⟨format, others⟩
      | some before => exact ⟨by rw [format]; trivial, others⟩

/-- **The stage drops the announcement**: the decoder is ready behind it, with the chunk size
that it had. -/
theorem RtmpManager.parseShakeHand_announcement (build : Build) (unset : UnsetMembers)
    (connectPack releasePack : RtmpPack) (n : Nat) {csid : UInt8} (small : csid < 64) :
    ∃ after, (∀ tail, (awaitingChunkSize build unset connectPack releasePack).parseShakeHand build
        (announcement n csid ++ tail) = ⟨after, tail, .shakeRtmpSetChunkSize⟩) ∧
      after.rtmpCodec.toChunkDecoder.Ready (RtmpCodec.initialChunkSize build)
        (some (setChunkSizeMessage n)) := by
  have ready : (awaitingChunkSize build unset connectPack
      releasePack).rtmpCodec.toChunkDecoder.Ready (RtmpCodec.initialChunkSize build) none :=
    RtmpCodec.construct_ready build rfl
  have length : (setChunkSizeMessage n).body.length = 4 := ByteQuad.length_bytes _
  have fits : (setChunkSizeMessage n).body.length ≤ RtmpCodec.initialChunkSize build := by
    rw [length]
    obtain ⟨monitorMode⟩ := build
    cases monitorMode <;> decide
  have opened : ((awaitingChunkSize build unset connectPack releasePack).rtmpCodec.openBody
      (basicHeader .fmt0 csid :: (setChunkSizeMessage n).header .fmt0)).Holding
        (RtmpCodec.initialChunkSize build) (setChunkSizeMessage n) []
        (setChunkSizeMessage n).body :=
    (@Ready.openBody _ _ none csid ready ⟨.fmt0, setChunkSizeMessage n⟩ ⟨rfl, trivial⟩ small).1
  have chunk := delimits_of_holding ready.sane ready.inHeader
    (by rw [headerSize_basicHeader _ small, Message.length_header]) opened
  rw [List.take_of_length_le fits] at chunk
  have finished := opened.closeChunk_last fits
  have wire : announcement n csid =
      (setChunkSizeMessage n).firstHeader csid .fmt0 ++ (setChunkSizeMessage n).body := by
    rw [announcement, Message.encode, Message.chunks, if_pos (by rw [length]; decide),
      List.flatten_singleton]
  have call := @parseShakeHand_chunk build _ .setChunkSize _ _ _ rfl chunk
    (by intro impossible; cases impossible)
  rw [(opened.last fits).1] at call
  refine ⟨afterChunk .setChunkSize (awaitingChunkSize build unset connectPack releasePack) _ true,
    fun tail => ?_, by simpa [afterChunk] using finished.ready⟩
  rw [wire]
  exact call tail

/-! ## Messages that are read back -/

/-- A message that neither size splits is one chunk under both. -/
theorem Message.encode_short {message : Message} {n chunkSize : Nat}
    (fits : message.body.length ≤ min n chunkSize) (csid : UInt8) (fmt : RtmpPackFmt) :
    message.encode n csid fmt = message.encode chunkSize csid fmt := by
  obtain ⟨small, low⟩ := Nat.le_min.mp fits
  rw [encode, chunks, if_pos small, encode, chunks, if_pos low]

theorem encodeMessages_short {sent : List SentMessage} {n chunkSize : Nat}
    (fits : ∀ one ∈ sent, one.message.body.length ≤ min n chunkSize) (csid : UInt8) :
    encodeMessages n csid sent = encodeMessages chunkSize csid sent := by
  induction sent with
  | nil => rfl
  | cons one sent ih =>
      have first := Message.encode_short (fits one List.mem_cons_self) csid one.fmt
      have others := ih fun other seen => fits other (List.mem_cons_of_mem one seen)
      rw [encodeMessages, List.flatMap_cons, first, ← encodeMessages, others, encodeMessages,
        encodeMessages, List.flatMap_cons]

/-! ## A message that is not -/

/-- A message of zero bytes. -/
def zeroMessage (length : Nat) (short : length < 2 ^ 24) : SentMessage :=
  plainMessage 8 (List.replicate length 0) (by rwa [List.length_replicate])

namespace ChunkDecoder

variable {decoder : ChunkDecoder} {chunkSize n : Nat} {previous : Option Message} {csid : UInt8}
  {sent : SentMessage}

/-- **The decoder splits a message that is sent whole.** It takes the last byte of the body
for a header, which is cut. -/
theorem Ready.drain_wholeLong (ready : decoder.Ready chunkSize previous) (small : csid < 64)
    (compressed : WellCompressed none [sent])
    (body : sent.message.body = List.replicate (chunkSize + 1) 0) (whole : chunkSize + 1 ≤ n) :
    (drain decoder (encodeMessages n csid [sent])).2 = [] := by
  obtain ⟨opened, -⟩ := @Ready.openBody _ _ _ csid ready _ (compressed.of_none previous) small
  have reaches := fun tail => ready.between.reaches sent.message sent.fmt small tail
  have longer : chunkSize < sent.message.body.length := by
    rw [body, List.length_replicate]
    exact Nat.lt_succ_self _
  obtain ⟨-, inHeader⟩ := opened.closeChunk_split longer
  have last : sent.message.body.drop chunkSize = [0] := by
    rw [body, List.drop_replicate, Nat.add_sub_cancel_left]
    rfl
  have wire : encodeMessages n csid [sent] =
      sent.message.firstHeader csid sent.fmt ++ sent.message.body.take chunkSize ++ [0] := by
    rw [encodeMessages, List.flatMap_singleton, Message.encode, Message.chunks,
      if_pos (by rw [body, List.length_replicate]; exact whole), List.flatten_singleton,
      List.append_assoc, ← last, List.take_append_drop]
  have call := decodePack_cut inHeader (show ¬ RtmpPack.HeaderComplete [0] by decide)
  rw [wire, Reaches.passes_split reaches opened longer, drain_stop (by rw [call]), call]
  rfl

/-- **The publisher splits a message that the decoder takes whole.** The header of the second
chunk becomes part of the body. -/
theorem Ready.drain_splitShort (ready : decoder.Ready chunkSize previous) (small : csid < 64)
    (compressed : WellCompressed none [sent]) (positive : 0 < n)
    (body : sent.message.body = List.replicate (n + 1) 0) (fits : n + 1 ≤ chunkSize) :
    (drain decoder (encodeMessages n csid [sent])).2.head?.map RtmpPack.buffer =
      some (List.replicate n 0 ++ [basicHeader .fmt3 csid]) := by
  obtain ⟨opened, -⟩ := @Ready.openBody _ _ _ csid ready _ (compressed.of_none previous) small
  have reaches := fun tail => ready.between.reaches sent.message sent.fmt small tail
  have length : sent.message.body.length = n + 1 := by rw [body, List.length_replicate]
  obtain ⟨isOver, need⟩ := opened.last (by rw [length]; exact fits)
  have taken : sent.message.body.take n = List.replicate n 0 := by
    rw [body, List.take_replicate, Nat.min_eq_left (Nat.le_succ n)]
  have left : sent.message.body.drop n = [0] := by
    rw [body, List.drop_replicate, Nat.add_sub_cancel_left]
    rfl
  have wire : encodeMessages n csid [sent] = sent.message.firstHeader csid sent.fmt ++
      ((List.replicate n 0 ++ [basicHeader .fmt3 csid]) ++ [0]) := by
    have piece : bodyPieces n [0] = [[0]] := by
      rw [bodyPieces, if_pos (.inl positive)]
    rw [encodeMessages, List.flatMap_singleton, Message.encode, Message.chunks,
      if_neg (by omega), taken, left, continuationChunks, piece]
    simp
  have part : (List.replicate n 0 ++ [basicHeader .fmt3 csid]).length =
      (decoder.openBody (sent.message.firstHeader csid sent.fmt)).chunkNeed := by
    rw [need, length, List.length_append, List.length_replicate, List.length_singleton]
  have enough := Nat.le_of_eq part.symm |>.trans
    (@List.length_append _ (List.replicate n 0 ++ [basicHeader .fmt3 csid]) [0] ▸
      Nat.le_add_right _ _)
  rw [wire, ((reaches _).drain_over isOver enough).2, List.take_left' part]
  simp only [closeChunk, isOver, if_true, List.head?_cons, Option.map_some,
    RtmpPack.appendData_buffer, opened.stored, List.nil_append]

/-- **One byte more than the smaller size is not read back**, when the sizes differ. -/
theorem Ready.loses (ready : decoder.Ready chunkSize previous) (small : csid < 64)
    (compressed : WellCompressed none [sent]) (positive : 0 < n) (differ : n ≠ chunkSize)
    (body : sent.message.body = List.replicate (min n chunkSize + 1) 0) :
    ¬ List.Forall₂ (Reassembled csid) (drain decoder (encodeMessages n csid [sent])).2 [sent] := by
  intro all
  rcases Nat.lt_or_gt_of_ne differ with shorter | longer
  · rw [Nat.min_eq_left (Nat.le_of_lt shorter)] at body
    have first := ready.drain_splitShort small compressed positive body shorter
    cases packs : (drain decoder (encodeMessages n csid [sent])).2 with
    | nil =>
        rw [packs] at first
        cases first
    | cons pack others =>
        rw [packs] at first all
        cases all with
        | cons same _ =>
            have stored := Option.some.inj first
            rw [same.body, body, List.replicate_succ', List.append_cancel_left_eq,
              List.singleton_inj] at stored
            have bits := (basicHeader_bits .fmt3 small).1
            rw [← stored] at bits
            exact absurd bits (by decide)
  · rw [Nat.min_eq_right (Nat.le_of_lt longer)] at body
    rw [ready.drain_wholeLong small compressed body longer] at all
    cases all

end ChunkDecoder

/-- A message that is longer than the smaller of two different sizes keeps an announcement
from being honoured. -/
theorem RtmpManager.not_honoursChunkSize (build : Build) (unset : UnsetMembers)
    (connectPack releasePack : RtmpPack) {n most : Nat} (announced : 1 ≤ n)
    (differ : n ≠ RtmpCodec.initialChunkSize build)
    (longer : min n (RtmpCodec.initialChunkSize build) < most) :
    ¬ (awaitingChunkSize build unset connectPack releasePack).HonoursChunkSize build n most := by
  intro honours
  have short : min n (RtmpCodec.initialChunkSize build) + 1 < 2 ^ 24 := by
    refine Nat.lt_of_le_of_lt (Nat.succ_le_succ (Nat.min_le_right _ _)) ?_
    obtain ⟨monitorMode⟩ := build
    cases monitorMode <;> decide
  obtain ⟨after, consumed, reads⟩ := honours 2 4 (by decide) (by decide)
  obtain ⟨behind, drops, ready⟩ := @parseShakeHand_announcement build unset connectPack releasePack
    n 2 (by decide)
  obtain rfl : after = behind :=
    congrArg ParseShakeHandResult.manager ((consumed []).symm.trans (drops []))
  have all := reads [zeroMessage _ short] [encodeMessages n 4 [zeroMessage _ short]] ⟨rfl, trivial⟩
    (fun one seen => by
      obtain rfl := List.mem_singleton.mp seen
      exact (List.length_replicate (n := min n _ + 1)).trans_le longer)
    (by rw [List.flatten_singleton])
  rw [drainConsumer_incremental.feedAll_eq ready.sane.drained_nil, List.flatten_singleton] at all
  simp only [drainConsumer, List.nil_append] at all
  exact ready.loses (by decide) ⟨rfl, trivial⟩ announced differ rfl all

/-- **When an announced chunk size is honoured.** The announcement is consumed and dropped, and
every list of messages of at most `most` bytes that is chunked at the announced size is read
back, however it is cut, if and only if the announced size is the decoder's own or neither
size is below `most`. -/
theorem announced_chunk_size_iff (build : Build) (unset : UnsetMembers)
    (connectPack releasePack : RtmpPack) {n : Nat} (announced : 1 ≤ n) (most : Nat) :
    (RtmpManager.awaitingChunkSize build unset connectPack releasePack).HonoursChunkSize build n
        most ↔
      n = RtmpCodec.initialChunkSize build ∨ most ≤ min n (RtmpCodec.initialChunkSize build) := by
  constructor
  · intro honours
    by_contra neither
    rw [not_or, Nat.not_le] at neither
    exact RtmpManager.not_honoursChunkSize build unset connectPack releasePack announced neither.1
      neither.2 honours
  · intro agree announcing csid oneByte range
    have small : csid < 64 := Nat.lt_succ_of_le range.2
    obtain ⟨after, drops, ready⟩ := RtmpManager.parseShakeHand_announcement build unset connectPack
      releasePack n (Nat.lt_succ_of_le oneByte.2)
    refine ⟨after, drops, fun sent segments compressed bounded cut => ?_⟩
    have against : WellCompressed (some (setChunkSizeMessage n)) sent := by
      rw [announcedBefore] at compressed
      split at compressed
      · exact compressed
      · exact compressed.of_none _
    have wire : encodeMessages n csid sent =
        encodeMessages (RtmpCodec.initialChunkSize build) csid sent := by
      rcases agree with same | short
      · rw [same]
      · exact encodeMessages_short (fun one seen => (bounded one seen).trans short) csid
    exact (ready.reassembles small against (cut.trans wire)).1

/-- An announcement of 4096 is honoured in the standard build. -/
theorem announced_chunk_size_iff_4096 :
    (RtmpManager.awaitingChunkSize .standard ⟨0, false, .zero, .zero⟩ .zero .zero).HonoursChunkSize
      .standard 4096 (2 ^ 24) := by
  have announced : 1 ≤ 4096 := by decide
  exact (announced_chunk_size_iff .standard ⟨0, false, .zero, .zero⟩ .zero .zero announced
    (2 ^ 24)).mpr (.inl rfl)

/-- **An announcement of 128 is not honoured**, as messages of 129 bytes show. -/
theorem announced_128_not_honoured :
    ¬ (RtmpManager.awaitingChunkSize .standard ⟨0, false, .zero, .zero⟩ .zero
      .zero).HonoursChunkSize .standard 128 (2 ^ 24) :=
  RtmpManager.not_honoursChunkSize .standard ⟨0, false, .zero, .zero⟩ .zero .zero (by decide)
    (by decide) (by decide)

end LiveBroadcast
