import LiveBroadcast.Codec.PackDecoding

/-!
# What a call of DecodeData does

`DecodeData` drains its buffer, whatever the phase, and only the use it makes of the
finished packs differs. In the first phase a pack goes to the sequence headers until none is
missing (`collect`); then the phase is over and further packs are only counted. So after a
call that gets to work, the decoder and the unread bytes are those that draining leaves, and
the phase is the fold of `collect` over the packs that draining finishes
(`decodeData_headers`, `decodeData_data`).

The flag `pack_finish` that the caller sees is set when the first phase ends in this call or
when a pack is finished in the data phase; it does not say how many.
-/

set_option autoImplicit false

namespace LiveBroadcast

/-- What a finished pack does to the phase. -/
def HeaderPhase.collect (build : Build) (phase : HeaderPhase) (pack : RtmpPack) : HeaderPhase :=
  match phase.decodeDataStatus with
  | .parseDataPack => phase
  | .parseFirstHeader =>
      let phase := phase.keepFirstPack pack
      if phase.headerMissing build then phase
      else { phase with decodeDataStatus := .parseDataPack }

namespace HeaderPhase

variable {build : Build} {phase : HeaderPhase}

@[simp] theorem keepFirstPack_status (phase : HeaderPhase) (pack : RtmpPack) :
    (phase.keepFirstPack pack).decodeDataStatus = phase.decodeDataStatus := by
  unfold keepFirstPack
  split <;> rfl

/-- In the data phase packs change nothing. -/
theorem foldl_collect_data (data : phase.decodeDataStatus = .parseDataPack)
    (packs : List RtmpPack) : packs.foldl (collect build) phase = phase := by
  induction packs with
  | nil => rfl
  | cons pack packs ih => rw [List.foldl_cons, collect, data]; exact ih

theorem collect_missing {pack : RtmpPack}
    (first : phase.decodeDataStatus = .parseFirstHeader)
    (missing : (phase.keepFirstPack pack).headerMissing build = true) :
    phase.collect build pack = phase.keepFirstPack pack := by
  simp only [collect, first, missing, if_true]

theorem collect_complete {pack : RtmpPack}
    (first : phase.decodeDataStatus = .parseFirstHeader)
    (complete : (phase.keepFirstPack pack).headerMissing build = false) :
    phase.collect build pack =
      { phase.keepFirstPack pack with decodeDataStatus := .parseDataPack } := by
  simp only [collect, first, complete, Bool.false_eq_true, if_false]

end HeaderPhase

namespace ChunkDecoder

/-! ## The last pack -/

/-- A call that finishes no pack leaves the last one. -/
theorem decodePack_lastRtmpPack {decoder : ChunkDecoder} {buffer : Bytes}
    (unfinished : (decoder.decodePack buffer).packFinish = false) :
    (decoder.decodePack buffer).decoder.lastRtmpPack = decoder.lastRtmpPack := by
  have inBody (opened : ChunkDecoder) (body : Bytes) (readLength : Int)
      (unfinished : (opened.decodePackBody body readLength).packFinish = false) :
      (opened.decodePackBody body readLength).decoder.lastRtmpPack = opened.lastRtmpPack := by
    cases status : opened.decodePackStatus with
    | parseRtmpHeader => rw [decodePackBody_inHeader _ _ status]
    | parseRtmpBody =>
        rcases Nat.lt_or_ge body.length opened.chunkNeed with short | enough
        · rw [decodePackBody_short readLength status short, takePart_lastRtmpPack]
        · rw [decodePackBody_enough readLength status enough] at unfinished ⊢
          have split : opened.isChunkOver = false := unfinished
          simp [closeChunk, split]
  cases buffer with
  | nil => rfl
  | cons first rest =>
      cases status : decoder.decodePackStatus with
      | parseRtmpBody =>
          rw [decodePack_inBody status (by simp)] at unfinished ⊢
          exact inBody decoder _ 0 unfinished
      | parseRtmpHeader =>
          by_cases complete : RtmpPack.HeaderComplete (first :: rest)
          · rw [decodePack_header status complete] at unfinished ⊢
            exact inBody (decoder.openBody (first :: rest)) _ _ unfinished
          · rw [decodePack_cut status complete]
            rfl

/-- **After draining, the last pack is the last one finished.** -/
theorem drain_lastRtmpPack (decoder : ChunkDecoder) (buffer : Bytes) :
    (drain decoder buffer).1.1.lastRtmpPack =
      (drain decoder buffer).2.getLastD decoder.lastRtmpPack := by
  have call (decoder : ChunkDecoder) (buffer : Bytes) :
      (decoder.decodePack buffer).decoder.lastRtmpPack =
        (decoder.decodePack buffer).raised.getLastD decoder.lastRtmpPack := by
    cases finished : (decoder.decodePack buffer).packFinish with
    | true => simp [DecodePackResult.raised, finished]
    | false => simp [DecodePackResult.raised, finished, decodePack_lastRtmpPack finished]
  induction length : buffer.length using Nat.strongRecOn generalizing decoder buffer with
  | ind n ih =>
      subst length
      by_cases stops : (decoder.decodePack buffer).result = 0
      · rw [drain_stop stops]
        exact call decoder buffer
      · rw [drain_go stops]
        simp only [ih _ (decodePack_shorter stops) _ _ rfl, call decoder buffer]
        simp

/-! ## Where a loop stops -/

/-- A call that reaches a body does not return 0. -/
theorem Reaches.result_ne_zero {decoder opened : ChunkDecoder} {buffer body : Bytes}
    {readLength : Nat} (reaches : Reaches decoder buffer opened body readLength) :
    (decoder.decodePack buffer).result ≠ 0 := by
  intro stops
  have positive := reaches.positive
  rcases Nat.lt_or_ge body.length opened.chunkNeed with short | enough
  · rw [reaches.call, decodePackBody_short _ reaches.inBody short] at stops
    have nothing : (readLength : Int) + body.length = 0 := stops
    rcases positive with counted | ⟨arrived, -⟩
    · omega
    · have := List.length_pos_iff.mpr arrived
      omega
  · rw [reaches.call, decodePackBody_enough _ reaches.inBody enough] at stops
    have nothing : (readLength : Int) + opened.chunkNeed = 0 := stops
    omega

/-- There is nothing to decode: no byte, or a cut header where a header is due. -/
def Starved (decoder : ChunkDecoder) (buffer : Bytes) : Prop :=
  buffer = [] ∨ decoder.decodePackStatus = .parseRtmpHeader ∧ ¬ RtmpPack.HeaderComplete buffer

/-- A cut header is short. -/
theorem Starved.length_lt {decoder : ChunkDecoder} {buffer : Bytes}
    (starved : decoder.Starved buffer) : buffer.length < 12 := by
  rcases starved with rfl | ⟨-, cut⟩
  · exact Nat.succ_pos _
  · cases buffer with
    | nil => exact Nat.succ_pos _
    | cons first rest =>
        have size := RtmpPack.headerSize_le first
        simp only [RtmpPack.HeaderComplete] at cut
        rw [List.length_cons]
        omega

/-- **A call returns 0 only without input that it could decode**: it finishes no pack and
leaves the bytes, which are none or a cut header. -/
theorem Sane.call_stops {decoder : ChunkDecoder} (sane : decoder.Sane) {buffer : Bytes}
    (stops : (decoder.decodePack buffer).result = 0) :
    (decoder.decodePack buffer).packFinish = false ∧
      (decoder.decodePack buffer).buffer = buffer ∧
      (decoder.decodePack buffer).decoder.Starved buffer := by
  rcases sane.call_cases buffer with ⟨inHeader, cut⟩ | ⟨-, rfl⟩ | ⟨opened, body, k, reaches⟩
  · rw [decodePack_cut inHeader cut]
    exact ⟨rfl, rfl, .inr ⟨inHeader, cut⟩⟩
  · exact ⟨rfl, rfl, .inl rfl⟩
  · exact absurd stops reaches.result_ne_zero

/-- Draining leaves a cut header at most. -/
theorem Sane.drain_starved {decoder : ChunkDecoder} (sane : decoder.Sane) (buffer : Bytes) :
    (ChunkDecoder.drain decoder buffer).1.1.Starved (ChunkDecoder.drain decoder buffer).1.2 := by
  induction length : buffer.length using Nat.strongRecOn generalizing decoder buffer with
  | ind n ih =>
      subst length
      by_cases stops : (decoder.decodePack buffer).result = 0
      · obtain ⟨-, kept, starved⟩ := sane.call_stops stops
        rw [drain_stop stops]
        simpa only [kept] using starved
      · rw [drain_go stops]
        exact ih _ (decodePack_shorter stops) (sane.passes_call buffer).sane _ rfl

theorem Sane.drain_unread {decoder : ChunkDecoder} (sane : decoder.Sane) (buffer : Bytes) :
    (ChunkDecoder.drain decoder buffer).1.2.length < 12 :=
  (sane.drain_starved buffer).length_lt

end ChunkDecoder

namespace RtmpCodec

open ChunkDecoder HeaderPhase

variable {build : Build} {codec : RtmpCodec}

/-! ## The data phase -/

/-- The loop of `DecodeData` in the data phase drains the buffer and notes whether a pack
was finished. -/
theorem decodeDataLoop_data (data : codec.decodeDataStatus = .parseDataPack) {fuel : Nat}
    {buffer : Bytes} (enough : buffer.length < fuel) (packFinish : Bool) :
    decodeDataLoop build fuel codec buffer packFinish =
      ⟨{ codec with toChunkDecoder := (drain codec.toChunkDecoder buffer).1.1 },
        (drain codec.toChunkDecoder buffer).1.2, 0,
        packFinish || !(drain codec.toChunkDecoder buffer).2.isEmpty⟩ := by
  induction fuel generalizing codec buffer packFinish with
  | zero => exact absurd enough (Nat.not_lt_zero _)
  | succ fuel ih =>
      have returned := (decodePack_length codec.toChunkDecoder buffer).2
      have flag : (!(codec.decodePack buffer).raised.isEmpty) =
          (codec.decodePack buffer).packFinish := by
        cases finished : (codec.decodePack buffer).packFinish <;>
          simp [DecodePackResult.raised, finished]
      rw [decodeDataLoop]
      simp only [data]
      rw [if_neg (by omega)]
      by_cases stops : (codec.decodePack buffer).result = 0
      · rw [if_pos stops, drain_stop stops]
        simp only [flag]
      · have shorter := decodePack_shorter stops
        have either (a b : List RtmpPack) : (!(a ++ b).isEmpty) = (!a.isEmpty || !b.isEmpty) := by
          cases a <;> rfl
        have rest := @ih ⟨(codec.decodePack buffer).decoder, codec.toHeaderPhase⟩ data
          (codec.decodePack buffer).buffer (by omega)
        rw [if_neg stops, drain_go stops, rest]
        simp only [either, flag, Bool.or_assoc]

/-- **A call in the data phase** drains the buffer. -/
theorem decodeData_data (data : codec.decodeDataStatus = .parseDataPack) (buffer : Bytes) :
    (codec.decodeData build buffer).codec =
        { codec with toChunkDecoder := (drain codec.toChunkDecoder buffer).1.1 } ∧
      (codec.decodeData build buffer).buffer = (drain codec.toChunkDecoder buffer).1.2 ∧
      (codec.decodeData build buffer).packFinish =
        !(drain codec.toChunkDecoder buffer).2.isEmpty := by
  rw [decodeData, decodeDataLoop_data data (Nat.lt_succ_self _)]
  exact ⟨rfl, rfl, rfl⟩

/-! ## The first phase -/

/-- A call in the first phase waits for 1000 bytes. -/
theorem decodeData_waits (first : codec.decodeDataStatus = .parseFirstHeader) {buffer : Bytes}
    (few : buffer.length < startParseLength) :
    (codec.decodeData build buffer).codec = codec ∧
      (codec.decodeData build buffer).buffer = buffer ∧
      (codec.decodeData build buffer).packFinish = false := by
  simp [decodeData, decodeDataLoop, first, parseFirstHeader, few]

/-- What the loop of `ParseFirstHeader` leaves: it has passed some packs, the phase is their
fold, and if a header is still missing the buffer is drained. -/
structure Collected (build : Build) (codec : RtmpCodec) (buffer : Bytes) (sum : Int)
    (packs : List RtmpPack) (step : DecodeDataResult) : Prop where
  passes : Passes codec.toChunkDecoder buffer packs step.codec.toChunkDecoder step.buffer
  counted : step.result + step.buffer.length = sum + buffer.length
  moved : step.packFinish = true → sum < step.result
  shorter : step.buffer.length ≤ buffer.length
  phase : packs.foldl (collect build) codec.toHeaderPhase =
    if step.packFinish then
      { step.codec.toHeaderPhase with decodeDataStatus := .parseDataPack }
    else step.codec.toHeaderPhase
  status : step.codec.decodeDataStatus = .parseFirstHeader
  drained : step.packFinish = false → Drained (step.codec.toChunkDecoder, step.buffer)

/-- A call of `DecodePack` in front of the loop. -/
theorem Collected.after (later : RtmpCodec) {buffer rest : Bytes} {sum read : Int}
    {raised packs : List RtmpPack} {step : DecodeDataResult}
    (passes : Passes codec.toChunkDecoder buffer raised later.toChunkDecoder rest)
    (length : read + rest.length = buffer.length) (positive : 0 < read)
    (phase : raised.foldl (collect build) codec.toHeaderPhase = later.toHeaderPhase)
    (collected : Collected build later rest (sum + read) packs step) :
    Collected build codec buffer sum (raised ++ packs) step where
  passes := passes.trans collected.passes
  counted := by
    have := collected.counted
    omega
  moved finish := by
    have := collected.moved finish
    omega
  shorter := by
    have := collected.shorter
    omega
  phase := by rw [List.foldl_append, phase, collected.phase]
  status := collected.status
  drained := collected.drained

/-- With all headers there the loop ends at once. -/
theorem parseFirstHeaderLoop_complete (complete : codec.headerMissing build = false) (fuel : Nat)
    (buffer : Bytes) (sum : Int) :
    parseFirstHeaderLoop build fuel codec buffer sum = ⟨codec, buffer, sum, true⟩ := by
  cases fuel <;> simp [parseFirstHeaderLoop, complete]

/-- **The loop of `ParseFirstHeader`** collects the packs that draining finishes, up to the
one that completes the headers. -/
theorem parseFirstHeaderLoop_collected (sane : codec.toChunkDecoder.Sane)
    (first : codec.decodeDataStatus = .parseFirstHeader)
    (missing : codec.headerMissing build = true) {fuel : Nat} {buffer : Bytes}
    (enough : buffer.length < fuel) (sum : Int) :
    ∃ packs, Collected build codec buffer sum packs
      (parseFirstHeaderLoop build fuel codec buffer sum) := by
  induction fuel generalizing codec buffer sum with
  | zero => exact absurd enough (Nat.not_lt_zero _)
  | succ fuel ih =>
      have call := sane.passes_call buffer
      obtain ⟨length, returned⟩ := decodePack_length codec.toChunkDecoder buffer
      rw [parseFirstHeaderLoop, if_pos missing]
      dsimp only
      rw [if_neg (by omega)]
      by_cases stops : (codec.decodePack buffer).result = 0
      · obtain ⟨unfinished, kept, -⟩ := sane.call_stops stops
        have drained := sane.drain_drained buffer
        rw [drain_stop stops] at drained
        rw [if_pos stops, unfinished]
        simp only [Bool.false_eq_true, if_false, missing, Bool.not_true]
        rw [DecodePackResult.raised, unfinished] at call
        exact ⟨[], call, by simp [kept], by simp, by simp [kept], rfl, first, fun _ => drained⟩
      · rw [if_neg stops]
        have positive : 0 < (codec.decodePack buffer).result := by omega
        have shorter := decodePack_shorter stops
        rw [DecodePackResult.raised] at call
        cases finished : (codec.decodePack buffer).packFinish with
        | false =>
            simp only [finished, Bool.false_eq_true, if_false] at call ⊢
            obtain ⟨packs, collected⟩ := @ih
              ⟨(codec.decodePack buffer).decoder, codec.toHeaderPhase⟩ call.sane first missing
              (codec.decodePack buffer).buffer (by omega)
              (sum + (codec.decodePack buffer).result)
            exact ⟨[] ++ packs, .after ⟨_, codec.toHeaderPhase⟩ call length positive rfl collected⟩
        | true =>
            simp only [finished, if_true] at call ⊢
            generalize (codec.decodePack buffer).decoder.lastRtmpPack = pack at call ⊢
            cases complete :
              HeaderPhase.headerMissing build (codec.keepFirstPack pack) with
            | true =>
                obtain ⟨packs, collected⟩ := @ih
                  ⟨(codec.decodePack buffer).decoder, codec.keepFirstPack pack⟩ call.sane
                  ((keepFirstPack_status _ _).trans first) complete
                  (codec.decodePack buffer).buffer (by omega)
                  (sum + (codec.decodePack buffer).result)
                exact ⟨[pack] ++ packs, .after ⟨_, codec.keepFirstPack pack⟩ call length positive
                  (collect_missing first complete) collected⟩
            | false =>
                rw [parseFirstHeaderLoop_complete complete]
                refine ⟨[pack], call, ?_, fun _ => ?_, ?_, ?_, ?_, nofun⟩
                · dsimp only
                  omega
                · dsimp only
                  omega
                · dsimp only
                  omega
                · exact collect_complete first complete
                · exact (keepFirstPack_status _ _).trans first

/-- A drained buffer holds too few bytes for another round of `ParseFirstHeader`. -/
theorem decodeDataLoop_drained (first : codec.decodeDataStatus = .parseFirstHeader)
    {buffer : Bytes} (drained : Drained (codec.toChunkDecoder, buffer)) (fuel : Nat) :
    decodeDataLoop build fuel codec buffer false = ⟨codec, buffer, 0, false⟩ := by
  have few := drained.1.drain_unread buffer
  rw [drained.2] at few
  have waits : buffer.length < startParseLength := Nat.lt_trans few (by decide)
  cases fuel with
  | zero => rfl
  | succ fuel => simp [decodeDataLoop, first, parseFirstHeader, waits]

/-- The loop of `DecodeData` from the first phase, with 1000 bytes. -/
theorem decodeDataLoop_headers (sane : codec.toChunkDecoder.Sane)
    (first : codec.decodeDataStatus = .parseFirstHeader)
    (missing : codec.headerMissing build = true) {buffer : Bytes}
    (enough : startParseLength ≤ buffer.length) :
    ∃ packFinish,
      decodeDataLoop build (buffer.length + 1) codec buffer false =
        ⟨⟨(drain codec.toChunkDecoder buffer).1.1,
            (drain codec.toChunkDecoder buffer).2.foldl (collect build) codec.toHeaderPhase⟩,
          (drain codec.toChunkDecoder buffer).1.2, 0, packFinish⟩ ∧
      (packFinish = true ↔ ((drain codec.toChunkDecoder buffer).2.foldl (collect build)
        codec.toHeaderPhase).decodeDataStatus = .parseDataPack) := by
  obtain ⟨packs, collected⟩ := parseFirstHeaderLoop_collected sane first missing
    (Nat.lt_succ_self buffer.length) 0
  have started : parseFirstHeader build codec buffer =
      parseFirstHeaderLoop build (buffer.length + 1) codec buffer 0 := by
    rw [parseFirstHeader, if_neg (Nat.not_lt.mpr enough)]
  rw [← started] at collected
  have whole := collected.passes.drains []
  simp only [List.append_nil] at whole
  rw [decodeDataLoop, whole]
  simp only [first, List.foldl_append, collected.phase]
  generalize parseFirstHeader build codec buffer = step at collected
  have counted := collected.counted
  have shorter := collected.shorter
  rw [if_neg (by omega)]
  cases finish : step.packFinish with
  | true =>
      have moved := collected.moved finish
      refine ⟨true, ?_, ?_⟩
      · simp only [if_true]
        rw [if_neg (by omega), decodeDataLoop_data rfl (by omega), foldl_collect_data rfl]
        rfl
      · simp only [if_true]
        rw [foldl_collect_data rfl]
        exact iff_of_true trivial rfl
  | false =>
      have drained := collected.drained finish
      refine ⟨false, ?_, ?_⟩
      · simp only [Bool.false_eq_true, if_false, drained.2, List.foldl_nil]
        split
        · rfl
        · exact decodeDataLoop_drained collected.status drained _
      · simp only [Bool.false_eq_true, if_false, drained.2, List.foldl_nil, false_iff]
        rw [collected.status]
        exact nofun

/-- **A call in the first phase with 1000 bytes** drains the buffer. The packs go to the
sequence headers, and the flag says whether the phase is over. -/
theorem decodeData_headers (sane : codec.toChunkDecoder.Sane)
    (first : codec.decodeDataStatus = .parseFirstHeader)
    (missing : codec.headerMissing build = true) {buffer : Bytes}
    (enough : startParseLength ≤ buffer.length) :
    (codec.decodeData build buffer).codec =
        ⟨(drain codec.toChunkDecoder buffer).1.1,
          (drain codec.toChunkDecoder buffer).2.foldl (collect build) codec.toHeaderPhase⟩ ∧
      (codec.decodeData build buffer).buffer = (drain codec.toChunkDecoder buffer).1.2 ∧
      ((codec.decodeData build buffer).packFinish = true ↔
        ((drain codec.toChunkDecoder buffer).2.foldl (collect build)
          codec.toHeaderPhase).decodeDataStatus = .parseDataPack) := by
  obtain ⟨packFinish, loop, flag⟩ := decodeDataLoop_headers sane first missing enough
  rw [decodeData, loop]
  exact ⟨rfl, rfl, flag⟩

end RtmpCodec

end LiveBroadcast
