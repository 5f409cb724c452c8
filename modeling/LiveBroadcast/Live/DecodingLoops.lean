import LiveBroadcast.Foundation.Loops
import LiveBroadcast.Live.ReceiveBuffer

/-!
# The loops of the codec end

`DecodeData` goes round until a call returns 0, and `ParseFirstHeader` has a loop of its own
inside. The two loops are here without a bound on their rounds (`parseFirstHeaderRounds`,
`decodeDataRounds`). They return what the functions with fuel compute: a call of `DecodePack`
that lets a loop go on takes a byte from the buffer (`parseFirstHeaderLoop_returns`,
`decodeDataLoop_returns`).

A 0 could also end `DecodeData` where more could be decoded. In the states that a codec can be
in it does not: the decoder is sane and the phase is settled (`Reachable.sane`,
`Reachable.settled`), so what is left is too little for the first phase, or nothing, or a cut
chunk header (`decodeData_stops`).
-/

set_option autoImplicit false

namespace LiveBroadcast

namespace RtmpCodec

open ChunkDecoder HeaderPhase

/-! ## The loops without fuel -/

/-- The `while` loop of `ParseFirstHeader`: the codec, the buffer and the sum parsed so far. -/
def parseFirstHeaderRounds (build : Build) : Loop (RtmpCodec × Bytes × Int) DecodeDataResult where
  body state :=
    let (codec, buffer, sum) := state
    if codec.headerMissing build then
      let step := codec.decodePack buffer
      let codec := { codec with toChunkDecoder := step.decoder }
      let codec :=
        if step.packFinish then
          { codec with toHeaderPhase := codec.keepFirstPack codec.lastRtmpPack }
        else codec
      if step.result < 0 then .inr ⟨codec, step.buffer, -1, false⟩
      else if step.result = 0 then .inr ⟨codec, step.buffer, sum, !codec.headerMissing build⟩
      else .inl (codec, step.buffer, sum + step.result)
    else .inr ⟨codec, buffer, sum, true⟩

/-- The `while` loop of `DecodeData`: the codec, the buffer and `*pack_finish`. -/
def decodeDataRounds (build : Build) : Loop (RtmpCodec × Bytes × Bool) DecodeDataResult where
  body state :=
    let (codec, buffer, packFinish) := state
    match codec.decodeDataStatus with
    | .parseFirstHeader =>
        let step := codec.parseFirstHeader build buffer
        let codec :=
          if step.packFinish then { step.codec with decodeDataStatus := .parseDataPack }
          else step.codec
        if step.result < 0 then .inr ⟨codec, step.buffer, -1, step.packFinish⟩
        else if step.result = 0 then .inr ⟨codec, step.buffer, 0, step.packFinish⟩
        else .inl (codec, step.buffer, step.packFinish)
    | .parseDataPack =>
        let step := codec.decodePack buffer
        let codec := { codec with toChunkDecoder := step.decoder }
        let packFinish := packFinish || step.packFinish
        if step.result < 0 then .inr ⟨codec, step.buffer, -1, packFinish⟩
        else if step.result = 0 then .inr ⟨codec, step.buffer, 0, packFinish⟩
        else .inl (codec, step.buffer, packFinish)

variable {build : Build}

/-- **The loop of `ParseFirstHeader` ends**: as many rounds as the buffer has bytes, and one
more, are enough. -/
theorem parseFirstHeaderLoop_returns {fuel : Nat} (codec : RtmpCodec) {buffer : Bytes}
    (enough : buffer.length < fuel) (sum : Int) :
    (parseFirstHeaderRounds build).Returns (codec, buffer, sum)
      (parseFirstHeaderLoop build fuel codec buffer sum) := by
  induction fuel generalizing codec buffer sum with
  | zero => exact absurd enough (Nat.not_lt_zero _)
  | succ fuel ih =>
      rw [parseFirstHeaderLoop]
      by_cases missing : codec.headerMissing build = true
      · have returned := (decodePack_length codec.toChunkDecoder buffer).2
        rw [if_pos missing]
        dsimp only
        rw [if_neg (Int.not_lt.mpr returned)]
        by_cases stops : (codec.decodePack buffer).result = 0
        · rw [if_pos stops]
          apply Loop.Returns.leaves
          dsimp only [parseFirstHeaderRounds]
          rw [if_pos missing, if_neg (Int.not_lt.mpr returned), if_pos stops]
        · rw [if_neg stops]
          have shorter := decodePack_shorter stops
          refine Loop.Returns.goes ?_ (ih _ (by omega) _)
          dsimp only [parseFirstHeaderRounds]
          rw [if_pos missing, if_neg (Int.not_lt.mpr returned), if_neg stops]
      · rw [if_neg missing]
        apply Loop.Returns.leaves
        dsimp only [parseFirstHeaderRounds]
        rw [if_neg missing]

/-- What the loop of `ParseFirstHeader` adds to its sum is what it takes from the buffer. -/
theorem parseFirstHeaderLoop_counts (fuel : Nat) (codec : RtmpCodec) (buffer : Bytes)
    (sum : Int) :
    (parseFirstHeaderLoop build fuel codec buffer sum).result +
        (parseFirstHeaderLoop build fuel codec buffer sum).buffer.length =
      sum + buffer.length := by
  induction fuel generalizing codec buffer sum with
  | zero => rfl
  | succ fuel ih =>
      obtain ⟨length, returned⟩ := decodePack_length codec.toChunkDecoder buffer
      rw [parseFirstHeaderLoop]
      by_cases missing : codec.headerMissing build = true
      · rw [if_pos missing]
        dsimp only
        rw [if_neg (Int.not_lt.mpr returned)]
        by_cases stops : (codec.decodePack buffer).result = 0
        · rw [if_pos stops]
          dsimp only
          omega
        · rw [if_neg stops, ih]
          omega
      · rw [if_neg missing]

theorem parseFirstHeader_counts (codec : RtmpCodec) (buffer : Bytes) :
    (codec.parseFirstHeader build buffer).result +
      (codec.parseFirstHeader build buffer).buffer.length = buffer.length := by
  rw [parseFirstHeader]
  split
  · exact Int.zero_add _
  · exact (parseFirstHeaderLoop_counts _ _ _ _).trans (Int.zero_add _)

/-- **The loop of `DecodeData` ends.** -/
theorem decodeDataLoop_returns {fuel : Nat} (codec : RtmpCodec) {buffer : Bytes}
    (enough : buffer.length < fuel) (packFinish : Bool) :
    (decodeDataRounds build).Returns (codec, buffer, packFinish)
      (decodeDataLoop build fuel codec buffer packFinish) := by
  induction fuel generalizing codec buffer packFinish with
  | zero => exact absurd enough (Nat.not_lt_zero _)
  | succ fuel ih =>
      rw [decodeDataLoop]
      cases status : codec.decodeDataStatus with
      | parseFirstHeader =>
          have counts := @parseFirstHeader_counts build codec buffer
          dsimp only
          by_cases fails : (codec.parseFirstHeader build buffer).result < 0
          · rw [if_pos fails]
            apply Loop.Returns.leaves
            simp only [decodeDataRounds, status]
            rw [if_pos fails]
          · rw [if_neg fails]
            by_cases stops : (codec.parseFirstHeader build buffer).result = 0
            · rw [if_pos stops]
              apply Loop.Returns.leaves
              simp only [decodeDataRounds, status]
              rw [if_neg fails, if_pos stops]
            · rw [if_neg stops]
              refine Loop.Returns.goes ?_ (ih _ (by omega) _)
              simp only [decodeDataRounds, status]
              rw [if_neg fails, if_neg stops]
      | parseDataPack =>
          have returned := (decodePack_length codec.toChunkDecoder buffer).2
          dsimp only
          rw [if_neg (Int.not_lt.mpr returned)]
          by_cases stops : (codec.decodePack buffer).result = 0
          · rw [if_pos stops]
            apply Loop.Returns.leaves
            simp only [decodeDataRounds, status]
            rw [if_neg (Int.not_lt.mpr returned), if_pos stops]
          · rw [if_neg stops]
            have shorter := decodePack_shorter stops
            refine Loop.Returns.goes ?_ (ih _ (by omega) _)
            simp only [decodeDataRounds, status]
            rw [if_neg (Int.not_lt.mpr returned), if_neg stops]

/-! ## The states of a codec -/

/-- The states that calls of `DecodePack` and `DecodeData` lead to, on any bytes, from a
constructor that finds 0 where `read_chunk_size_` is. -/
inductive Reachable (build : Build) : RtmpCodec → Prop where
  | construct (unset : UnsetMembers) (start : unset.readChunkSize = 0) :
      Reachable build (.construct build unset)
  | decodePack {codec : RtmpCodec} (earlier : Reachable build codec) (buffer : Bytes) :
      Reachable build { codec with toChunkDecoder := (codec.decodePack buffer).decoder }
  | decodeData {codec : RtmpCodec} (earlier : Reachable build codec) (buffer : Bytes) :
      Reachable build (codec.decodeData build buffer).codec

theorem decodeData_sane {codec : RtmpCodec} (sane : codec.toChunkDecoder.Sane) (buffer : Bytes) :
    (codec.decodeData build buffer).codec.toChunkDecoder.Sane := by
  refine @Machine.LeadsBy.keeps _ _ decoding (fun state => state.1.Sane) _ ?_ _ _
    (decodeData_leads build codec buffer) sane
  intro state event _ sane
  cases event with
  | readFromSockfd data => exact sane
  | addReadIndex length => exact sane
  | decodePack => exact (sane.passes_call state.2).sane

variable {codec : RtmpCodec}

theorem Reachable.sane (reachable : Reachable build codec) : codec.toChunkDecoder.Sane := by
  induction reachable with
  | construct unset start => exact (construct_ready build start).sane
  | decodePack earlier buffer ih => exact (ih.passes_call buffer).sane
  | decodeData earlier buffer ih => exact decodeData_sane ih buffer

theorem Reachable.settled (reachable : Reachable build codec) :
    codec.toHeaderPhase.Settled build := by
  induction reachable with
  | construct unset start => exact LiveServer.settled_construct unset
  | decodePack earlier buffer ih => exact ih
  | decodeData earlier buffer ih => exact (decodeData_phase _ buffer).settled ih

/-! ## What is left -/

/-- No call fails. -/
theorem decodeDataLoop_result (fuel : Nat) (codec : RtmpCodec) (buffer : Bytes)
    (packFinish : Bool) : (decodeDataLoop build fuel codec buffer packFinish).result = 0 := by
  induction fuel generalizing codec buffer packFinish with
  | zero => rfl
  | succ fuel ih =>
      rw [decodeDataLoop]
      cases codec.decodeDataStatus with
      | parseFirstHeader =>
          have counts := @parseFirstHeader_counts build codec buffer
          have taken := (suffix_of_leads (@parseFirstHeader_leads build codec buffer)).length_le
          dsimp only at taken ⊢
          rw [if_neg (by omega)]
          split
          · rfl
          · exact ih _ _ _
      | parseDataPack =>
          have returned := (decodePack_length codec.toChunkDecoder buffer).2
          dsimp only
          rw [if_neg (Int.not_lt.mpr returned)]
          split
          · rfl
          · exact ih _ _ _

/-- **The result of `DecodeData`** is the number of bytes taken. -/
theorem decodeData_result (codec : RtmpCodec) (buffer : Bytes) :
    (codec.decodeData build buffer).result =
      (buffer.length - (codec.decodeData build buffer).buffer.length : Nat) := by
  have taken := (suffix_of_leads (decodeData_leads build codec buffer)).length_le
  have difference : (codec.decodeData build buffer).result =
      (buffer.length : Int) - (codec.decodeData build buffer).buffer.length := by
    rw [decodeData, decodeDataLoop_result, if_neg (Int.lt_irrefl 0)]
  dsimp only at taken
  omega

/-- **`DecodeData` ends, and stops only where nothing more can be decoded.** In every state that
a codec can be in and for every content of the buffer, both loops end with what the functions
compute; the result is the number of bytes taken from the front of the buffer; and what is left
is too little for the first phase, or nothing, or a chunk header that is not whole. -/
theorem decodeData_stops (reachable : Reachable build codec) (buffer : Bytes) :
    ((∀ codec buffer sum, (parseFirstHeaderRounds build).Returns (codec, buffer, sum)
        (parseFirstHeaderLoop build (buffer.length + 1) codec buffer sum)) ∧
      (decodeDataRounds build).Returns (codec, buffer, false)
        (decodeDataLoop build (buffer.length + 1) codec buffer false)) ∧
      (codec.decodeData build buffer).buffer <:+ buffer ∧
      (codec.decodeData build buffer).result =
        (buffer.length - (codec.decodeData build buffer).buffer.length : Nat) ∧
      ((codec.decodeData build buffer).codec.decodeDataStatus = .parseFirstHeader ∧
          (codec.decodeData build buffer).buffer.length < startParseLength ∨
        (codec.decodeData build buffer).buffer = [] ∨
        (codec.decodeData build buffer).codec.decodePackStatus = .parseRtmpHeader ∧
          (codec.decodeData build buffer).buffer.length < 12 ∧
          ¬ RtmpPack.HeaderComplete (codec.decodeData build buffer).buffer) := by
  refine ⟨⟨fun codec buffer sum => ?_, ?_⟩, ?_, decodeData_result codec buffer, ?_⟩
  · exact parseFirstHeaderLoop_returns codec (Nat.lt_succ_self _) sum
  · exact decodeDataLoop_returns codec (Nat.lt_succ_self _) false
  · exact suffix_of_leads (decodeData_leads build codec buffer)
  · rcases decodeData_left reachable.sane reachable.settled buffer with waits | starved
    · exact .inl waits
    · have few := starved.length_lt
      rcases starved with empty | ⟨inHeader, cut⟩
      · exact .inr (.inl empty)
      · exact .inr (.inr ⟨inHeader, few, cut⟩)

/-- The three sequence headers, a video message in two chunks, an audio message, and the first
three bytes of one more chunk header. -/
def headersAndFrames : Bytes :=
  [4, 0, 0, 0, 0, 0x03, 0xE8, 18, 1, 0, 0, 0] ++ List.replicate 1000 0 ++
    [0x44, 0, 0, 0, 0, 0, 1, 9, 23] ++ [0x44, 0, 0, 0, 0, 0, 1, 8, 175] ++
    [0x44, 0, 0, 40, 0, 0x10, 0x02, 9] ++ List.replicate 4096 5 ++ [0xC4, 5, 5] ++
    [0x44, 0, 0, 0, 0, 0, 2, 8, 175, 1] ++ [0x44, 0, 0]

/-- Both phases run, and the cut header is left. -/
theorem decodeData_stops_headersAndFrames :
    (decodeDataRounds .standard).Returns (atStart .standard, headersAndFrames, false)
        (decodeDataLoop .standard (headersAndFrames.length + 1) (atStart .standard)
          headersAndFrames false) ∧
      ((atStart .standard).decodeData .standard headersAndFrames).buffer = [0x44, 0, 0] ∧
      ((atStart .standard).decodeData .standard headersAndFrames).result = 5147 := by
  have reachable : Reachable .standard (atStart .standard) := .construct _ rfl
  obtain ⟨⟨-, returns⟩, -, result, -⟩ := decodeData_stops reachable headersAndFrames
  have left : ((atStart .standard).decodeData .standard headersAndFrames).buffer =
      [0x44, 0, 0] := by decide +kernel
  have length : headersAndFrames.length = 5150 := by decide +kernel
  rw [left, length] at result
  exact ⟨returns, left, result⟩

end RtmpCodec

end LiveBroadcast
