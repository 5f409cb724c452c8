import LiveBroadcast.Codec.Chunking

/-!
# Streams cut anywhere

The first bytes of an encoded list of messages, up to any place, finish exactly the messages
that end within them (`Ready.drain_prefix`). What is behind the last message end is a part
of one message, and a part of a message finishes nothing: it ends inside a chunk header,
inside a chunk or between two chunks (`Ready.drain_part`).
-/

set_option autoImplicit false

namespace LiveBroadcast

/-- The messages that end within the first `n` bytes of the stream. -/
def messagesWithin (chunkSize : Nat) (csid : UInt8) : List SentMessage → Nat → List SentMessage
  | [], _ => []
  | one :: sent, n =>
      let size := (one.message.encode chunkSize csid one.fmt).length
      if size ≤ n then one :: messagesWithin chunkSize csid sent (n - size) else []

theorem messagesWithin_initial (chunkSize : Nat) (csid : UInt8) (sent : List SentMessage)
    (n : Nat) : messagesWithin chunkSize csid sent n <+: sent := by
  induction sent generalizing n with
  | nil => exact List.prefix_rfl
  | cons one sent ih =>
      rw [messagesWithin]
      split
      · exact List.cons_prefix_cons.mpr ⟨rfl, ih _⟩
      · exact List.nil_prefix

/-- All messages end within the whole stream. -/
theorem messagesWithin_encodeMessages (chunkSize : Nat) (csid : UInt8)
    (sent : List SentMessage) :
    messagesWithin chunkSize csid sent (encodeMessages chunkSize csid sent).length = sent := by
  induction sent with
  | nil => rfl
  | cons one sent ih =>
      rw [encodeMessages, List.flatMap_cons, List.length_append, messagesWithin,
        if_pos (Nat.le_add_right _ _), Nat.add_sub_cancel_left, ← encodeMessages, ih]

/-- More bytes, no fewer messages. -/
theorem messagesWithin_mono (chunkSize : Nat) (csid : UInt8) (sent : List SentMessage)
    {n m : Nat} (le : n ≤ m) :
    messagesWithin chunkSize csid sent n <+: messagesWithin chunkSize csid sent m := by
  induction sent generalizing n m with
  | nil => exact List.prefix_rfl
  | cons one sent ih =>
      rw [messagesWithin, messagesWithin]
      split
      · rw [if_pos (by omega)]
        exact List.cons_prefix_cons.mpr ⟨rfl, ih (by omega)⟩
      · exact List.nil_prefix

namespace ChunkDecoder

variable {decoder opened : ChunkDecoder} {chunkSize : Nat} {previous : Option Message}
  {message : Message} {received rest : Bytes} {csid : UInt8}

/-- A chunk takes what the chunk size allows of the rest of the body. -/
theorem Holding.chunkNeed_eq (holding : decoder.Holding chunkSize message received rest) :
    decoder.chunkNeed = (rest.take chunkSize).length := by
  rw [List.length_take]
  rcases Nat.lt_or_ge chunkSize rest.length with longer | fits
  · rw [(holding.split longer).2, Nat.min_eq_left (Nat.le_of_lt longer)]
  · rw [(holding.last fits).2, Nat.min_eq_right fits]

/-- **A part of a chunk finishes nothing.** -/
theorem Reaches.drain_part {first : UInt8} {fields piece part : Bytes} {readLength : Nat}
    (inHeader : decoder.decodePackStatus = .parseRtmpHeader)
    (whole : RtmpPack.headerSize first = fields.length + 1)
    (reaches : ∀ tail, Reaches decoder (first :: fields ++ tail) opened tail readLength)
    (need : opened.chunkNeed = piece.length) (le : part <+: first :: fields ++ piece)
    (short : part.length < (first :: fields ++ piece).length) :
    (ChunkDecoder.drain decoder part).2 = [] := by
  rcases prefix_append_cases le with ⟨le, shorter⟩ | ⟨body, rfl, -⟩
  · -- the part ends inside the header
    have cut : ¬ RtmpPack.HeaderComplete part := by
      cases part with
      | nil => exact id
      | cons other part =>
          obtain ⟨rfl, -⟩ := List.cons_prefix_cons.mp le
          simp only [RtmpPack.HeaderComplete, whole, List.length_cons] at shorter ⊢
          omega
    rw [drain_cut inHeader cut]
  · -- the part ends inside the body
    rw [(reaches body).drain_short]
    rw [List.length_append, List.length_append] at short
    omega

/-- The rest of a message in continuation chunks, cut before its end. -/
theorem Holding.drain_part (holding : decoder.Holding chunkSize message received rest)
    (inHeader : decoder.decodePackStatus = .parseRtmpHeader) (small : csid < 64) {part : Bytes}
    (le : part <+: (continuationChunks chunkSize csid rest).flatten)
    (short : part.length < (continuationChunks chunkSize csid rest).flatten.length) :
    (ChunkDecoder.drain decoder part).2 = [] := by
  induction length : rest.length using Nat.strongRecOn
    generalizing decoder received rest part with
  | ind n ih =>
      subst length
      have reaches (tail : Bytes) : Reaches decoder ([basicHeader .fmt3 csid] ++ tail) _ tail _ :=
        (holding.between inHeader).reaches message .fmt3 small tail
      have whole := headerSize_basicHeader .fmt3 small
      obtain ⟨opened, -⟩ := holding.openBody small
      have need := opened.chunkNeed_eq
      have positive := holding.chunkSize_pos
      rw [continuationChunks, bodyPieces] at le short
      rcases Nat.lt_or_ge chunkSize rest.length with longer | fits
      · rw [if_neg (by omega), List.map_cons, List.flatten_cons] at le short
        rcases prefix_append_cases le with ⟨inside, shorter⟩ | ⟨later, rfl, behind⟩
        · exact Reaches.drain_part inHeader whole reaches need inside shorter
        · obtain ⟨holding', inHeader'⟩ := opened.closeChunk_split longer
          have fewer : (rest.drop chunkSize).length < rest.length := by
            rw [List.length_drop]
            omega
          rw [List.length_append, List.length_append] at short
          have cut := Nat.lt_of_add_lt_add_left short
          have passed := Reaches.passes_split reaches opened longer later
          rw [List.singleton_append] at passed
          rw [passed]
          exact ih _ fewer holding' inHeader' behind cut rfl
      · rw [if_pos (.inl fits), List.map_singleton, List.flatten_singleton] at le short
        rw [List.take_of_length_le fits] at need
        exact Reaches.drain_part inHeader whole reaches need le short

/-- **A message cut before its end finishes nothing.** -/
theorem Ready.drain_part (ready : decoder.Ready chunkSize previous) {sent : SentMessage}
    (compressed : WellCompressed previous [sent]) (small : csid < 64) {part : Bytes}
    (le : part <+: sent.message.encode chunkSize csid sent.fmt)
    (short : part.length < (sent.message.encode chunkSize csid sent.fmt).length) :
    (ChunkDecoder.drain decoder part).2 = [] := by
  obtain ⟨opened, -⟩ := ready.openBody compressed small
  have reaches := fun tail => ready.between.reaches sent.message sent.fmt small tail
  have whole : RtmpPack.headerSize (basicHeader sent.fmt csid) =
      (sent.message.header sent.fmt).length + 1 := by
    rw [headerSize_basicHeader sent.fmt small, sent.message.length_header]
  have need := opened.chunkNeed_eq
  rw [Message.encode, Message.chunks] at le short
  rcases Nat.lt_or_ge chunkSize sent.message.body.length with longer | fits
  · rw [if_neg (Nat.not_le.mpr longer), List.flatten_cons] at le short
    rcases prefix_append_cases le with ⟨inside, shorter⟩ | ⟨later, rfl, behind⟩
    · exact Reaches.drain_part ready.inHeader whole reaches need inside shorter
    · obtain ⟨holding, inHeader⟩ := opened.closeChunk_split longer
      have cut : later.length <
          (continuationChunks chunkSize csid
            (sent.message.body.drop chunkSize)).flatten.length := by
        simp only [List.length_append] at short
        omega
      rw [Reaches.passes_split reaches opened longer later]
      exact holding.drain_part inHeader small behind cut
  · rw [if_pos fits, List.flatten_singleton] at le short
    rw [List.take_of_length_le fits] at need
    exact Reaches.drain_part ready.inHeader whole reaches need le short

/-- **A stream cut anywhere** finishes the messages that end before the cut. -/
theorem Ready.drain_prefix (ready : decoder.Ready chunkSize previous) {sent : List SentMessage}
    (compressed : WellCompressed previous sent) (small : csid < 64) {part : Bytes}
    (le : part <+: encodeMessages chunkSize csid sent) :
    List.Forall₂ (Reassembled csid) (ChunkDecoder.drain decoder part).2
      (messagesWithin chunkSize csid sent part.length) := by
  induction sent generalizing decoder previous part with
  | nil =>
      obtain rfl := List.prefix_nil.mp le
      exact .nil
  | cons one sent ih =>
      obtain ⟨first, others⟩ := compressed.head
      rw [encodeMessages, List.flatMap_cons] at le
      rw [messagesWithin]
      rcases prefix_append_cases le with ⟨inside, shorter⟩ | ⟨later, rfl, behind⟩
      · rw [if_neg (Nat.not_le.mpr shorter), ready.drain_part first small inside shorter]
        exact .nil
      · obtain ⟨between, finished, finishes⟩ := ready.drain_message first small
        have rest := ih finished.ready others behind
        rw [if_pos (by rw [List.length_append]; exact Nat.le_add_right _ _), finishes,
          List.length_append, Nat.add_sub_cancel_left]
        exact .cons ⟨finished.carries, finished.body, finished.csid⟩ rest

end ChunkDecoder

end LiveBroadcast
