import LiveBroadcast.Codec.PackDecoding

/-!
# Calls on a chunk

The handshake calls `DecodePack` once for each chunk and looks at what the single call
leaves. With a whole chunk at the front of the buffer the call takes exactly that
(`Sane.decodePack_chunk`). With a part of it the call stores or leaves what there is, and the
next call, with more bytes, leaves what one call on all of them would leave
(`Sane.decodePack_part`).
-/

set_option autoImplicit false

namespace LiveBroadcast

/-- Two calls leave the same, and both counted something if they finished a pack. -/
structure DecodePackResult.Agrees (step other : DecodePackResult) : Prop where
  decoder : step.decoder = other.decoder
  buffer : step.buffer = other.buffer
  packFinish : step.packFinish = other.packFinish
  counted : step.packFinish = true → 0 < step.result ∧ 0 < other.result

namespace ChunkDecoder

variable {decoder opened : ChunkDecoder} {first : UInt8} {fields body part more : Bytes}

/-- A call counts something when it finishes a pack. -/
theorem Sane.decodePack_counts {buffer : Bytes} (sane : decoder.Sane)
    (finishes : (decoder.decodePack buffer).packFinish = true) :
    0 < (decoder.decodePack buffer).result := by
  rcases sane.call_cases buffer with ⟨inHeader, cut⟩ | ⟨-, rfl⟩ | ⟨opened, body, k, reaches⟩
  · rw [decodePack_cut inHeader cut] at finishes
    cases finishes
  · cases finishes
  · rw [reaches.call] at finishes ⊢
    rcases Nat.lt_or_ge body.length opened.chunkNeed with short | enough
    · rw [decodePackBody_short _ reaches.inBody short] at finishes
      cases finishes
    · rw [decodePackBody_enough _ reaches.inBody enough]
      rcases reaches.positive with counted | ⟨-, needed⟩ <;> simp only <;> omega

/-- A chunk that is there as a whole: its header, and a body of the length that the decoder
needs behind that header. -/
structure Delimits (decoder : ChunkDecoder) (first : UInt8) (fields body : Bytes) : Prop where
  sane : decoder.Sane
  inHeader : decoder.decodePackStatus = .parseRtmpHeader
  whole : RtmpPack.headerSize first = fields.length + 1
  need : (decoder.openBody (first :: fields)).chunkNeed = body.length

theorem Delimits.reaches (chunk : decoder.Delimits first fields body) (tail : Bytes) :
    Reaches decoder (first :: fields ++ tail) (decoder.openBody (first :: fields)) tail
      (RtmpPack.headerSize first) :=
  chunk.sane.reaches_behind chunk.inHeader chunk.whole tail

/-- **A call with a whole chunk** takes the chunk and leaves what is behind it. -/
theorem Delimits.decodePack_chunk (chunk : decoder.Delimits first fields body) (tail : Bytes) :
    decoder.decodePack (first :: fields ++ body ++ tail) =
      ⟨(decoder.openBody (first :: fields)).closeChunk body, tail,
        RtmpPack.headerSize first + body.length,
        (decoder.openBody (first :: fields)).isChunkOver⟩ := by
  have reaches := chunk.reaches (body ++ tail)
  have enough : (decoder.openBody (first :: fields)).chunkNeed ≤ (body ++ tail).length := by
    rw [chunk.need, List.length_append]
    exact Nat.le_add_right _ _
  rw [List.append_assoc, reaches.call, decodePackBody_enough _ reaches.inBody enough, chunk.need,
    List.take_left, List.drop_left]

/-- What a call on a part of a chunk leaves: it finishes nothing, and the next call makes up
for it. A part that is cut inside the header stays unread, and of a longer part nothing
does. -/
structure TakesPart (decoder : ChunkDecoder) (part : Bytes) (headerSize : Nat)
    (step : DecodePackResult) : Prop where
  waits : step.packFinish = false
  resumes : ∀ more, (step.decoder.decodePack (step.buffer ++ more)).Agrees
    (decoder.decodePack (part ++ more))
  left : (part.length < headerSize ∧ step.buffer = part) ∨
    (headerSize ≤ part.length ∧ step.buffer = [] ∧ step.decoder.decodePackStatus = .parseRtmpBody)

/-- A call in the middle of a body goes on where the one before ended. -/
theorem Reaches.resumes {buffer : Bytes} {readLength : Nat}
    (reaches : Reaches decoder buffer opened body readLength)
    (short : body.length < opened.chunkNeed) (more : Bytes) :
    ((opened.takePart body).decodePack more).Agrees
      (opened.decodePackBody (body ++ more) readLength) := by
  have need := chunkNeed_takePart reaches.range short
  have same := isChunkOver_takePart reaches.range short
  by_cases empty : more = []
  · subst empty
    rw [List.append_nil, decodePackBody_short _ reaches.inBody short]
    exact ⟨rfl, rfl, rfl, fun impossible => nomatch impossible⟩
  · have inBody : (opened.takePart body).decodePackStatus = .parseRtmpBody := by
      rw [takePart_decodePackStatus, reaches.inBody]
    rw [decodePack_inBody inBody empty]
    rcases Nat.lt_or_ge (body ++ more).length opened.chunkNeed with cut | enough
    · have cut' : more.length < (opened.takePart body).chunkNeed := by
        rw [List.length_append] at cut
        omega
      rw [decodePackBody_short _ reaches.inBody cut, decodePackBody_short _ inBody cut',
        takePart_takePart reaches.range short]
      exact ⟨rfl, rfl, rfl, fun impossible => nomatch impossible⟩
    · have enough' : (opened.takePart body).chunkNeed ≤ more.length := by
        rw [List.length_append] at enough
        omega
      rw [decodePackBody_enough _ reaches.inBody enough, decodePackBody_enough _ inBody enough',
        same, closeChunk_takePart reaches.range short, need, List.take_append, List.drop_append,
        List.take_of_length_le (Nat.le_of_lt short), List.drop_of_length_le (Nat.le_of_lt short),
        List.nil_append]
      refine ⟨rfl, rfl, rfl, fun _ => ?_⟩
      simp only
      omega

/-- **A call with a part of a chunk** makes up for itself with the next call. -/
theorem Delimits.decodePack_part (chunk : decoder.Delimits first fields body)
    (le : part <+: first :: fields ++ body)
    (short : part.length < (first :: fields ++ body).length) :
    decoder.TakesPart part (RtmpPack.headerSize first) (decoder.decodePack part) := by
  rcases prefix_append_cases le with ⟨le, shorter⟩ | ⟨taken, rfl, -⟩
  · -- the part ends inside the header
    have below : part.length < RtmpPack.headerSize first := by
      rw [chunk.whole]
      exact shorter
    have cut : ¬ RtmpPack.HeaderComplete part := by
      cases part with
      | nil => exact id
      | cons other part =>
          obtain ⟨rfl, -⟩ := List.cons_prefix_cons.mp le
          exact Nat.not_le.mpr below
    have call := decodePack_cut chunk.inHeader cut
    refine ⟨by rw [call], fun more => ?_, Or.inl ⟨below, by rw [call]⟩⟩
    rw [call]
    simp only [decodePack_touch chunk.inHeader]
    exact ⟨rfl, rfl, rfl, fun finishes =>
      ⟨chunk.sane.decodePack_counts finishes, chunk.sane.decodePack_counts finishes⟩⟩
  · -- the part ends inside the body
    have reaches := chunk.reaches taken
    have shorter : taken.length < (decoder.openBody (first :: fields)).chunkNeed := by
      rw [List.length_append, List.length_append] at short
      rw [chunk.need]
      omega
    have call := reaches.call
    rw [decodePackBody_short _ reaches.inBody shorter] at call
    refine ⟨by rw [call], fun more => ?_, Or.inr ⟨?_, by rw [call], by rw [call]; rfl⟩⟩
    · rw [call, reaches.calls more]
      exact reaches.resumes shorter more
    · rw [chunk.whole, List.length_append]
      exact Nat.le_add_right _ _

end ChunkDecoder

end LiveBroadcast
