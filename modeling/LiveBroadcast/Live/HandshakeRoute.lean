import LiveBroadcast.Codec.ChunkCalls
import LiveBroadcast.Codec.PartialChunking
import LiveBroadcast.Foundation.EarlyReturn
import LiveBroadcast.Live.RtmpPushConnection

/-!
# The pieces of a handshake

`ShakeHand` is a loop around `ParseShakeHand` that returns early: when more bytes are needed,
when a call has taken a chunk that does not end its message, and when releaseStream is to be
authenticated. The bytes of a handshake are C0C1, C2 and the chunks of the commands, and one
call takes each of these as a whole. A createStream message that starts with `0xc3` is not
read as a chunk. A call skips 26 bytes, or as many as there are, and does so as well if the
byte `0xc3` is met in the middle of a message.
-/

set_option autoImplicit false

namespace LiveBroadcast

/-! ## The stages of the commands -/

/-- The stages that wait for a command message. -/
inductive CommandStage where
  | setChunkSize
  | connect
  | releaseStream
  | fcPublish
  | createStream
  | publish
  deriving DecidableEq, Repr

namespace CommandStage

def packType : CommandStage → ShakeHandPackType
  | .setChunkSize => .shakeRtmpSetChunkSize
  | .connect => .shakeRtmpConnect
  | .releaseStream => .shakeRtmpReleaseStream
  | .fcPublish => .shakeRtmpFcPublish
  | .createStream => .shakeRtmpCreateStream
  | .publish => .shakeRtmpPublish

/-- The status behind the message. -/
def next : CommandStage → ShakeHandPackType
  | .setChunkSize => .shakeRtmpConnect
  | .connect => .shakeRtmpReleaseStream
  | .releaseStream => .shakeRtmpFcPublish
  | .fcPublish => .shakeRtmpCreateStream
  | .createStream => .shakeRtmpPublish
  | .publish => .shakeSuccess

/-- What becomes of the pack. -/
def keep : CommandStage → RtmpManager → RtmpPack → RtmpManager
  | .connect => RtmpManager.keepConnectPack
  | .releaseStream => RtmpManager.keepReleasePack
  | _ => RtmpManager.dropPack

/-- What a call at this stage stores: the decoder and its last pack. -/
def store (stage : CommandStage) (manager : RtmpManager) (decoder : ChunkDecoder) : RtmpManager :=
  stage.keep { manager with rtmpCodec := { manager.rtmpCodec with toChunkDecoder := decoder } }
    decoder.lastRtmpPack

variable (stage : CommandStage) (manager : RtmpManager) (decoder other : ChunkDecoder)

@[simp] theorem store_decoder :
    (stage.store manager decoder).rtmpCodec.toChunkDecoder = decoder := by
  cases stage <;> rfl

@[simp] theorem store_shakeHandStatus :
    (stage.store manager decoder).shakeHandStatus = manager.shakeHandStatus := by
  cases stage <;> rfl

/-- What is stored replaces what was stored. -/
@[simp] theorem store_store :
    stage.store (stage.store manager decoder) other = stage.store manager other := by
  cases stage <;> rfl

/-- The stages of a handshake, in order. -/
def all (build : Build) : List CommandStage :=
  (if build.monitorMode then [] else [.setChunkSize]) ++
    [.connect, .releaseStream, .fcPublish, .createStream, .publish]

/-- Each stage is the one that the status before it waits for. -/
def InOrder : ShakeHandPackType → List CommandStage → Prop
  | _, [] => True
  | status, stage :: stages => stage.packType = status ∧ InOrder stage.next stages

theorem all_inOrder (build : Build) :
    InOrder (if build.monitorMode then .shakeRtmpConnect else .shakeRtmpSetChunkSize)
      (all build) := by
  obtain ⟨monitorMode⟩ := build
  cases monitorMode <;> simp [all, InOrder, packType, next]

variable {stage} in
theorem packType_ne (away : stage ≠ .createStream) : stage.packType ≠ .shakeRtmpCreateStream := by
  cases stage with
  | createStream => exact absurd rfl away
  | setChunkSize | connect | releaseStream | fcPublish | publish => decide

end CommandStage

namespace RtmpManager

variable {build : Build} {manager other : RtmpManager} {stage : CommandStage}
  {buffer behind : Bytes}

/-- Away from the skip a stage reads a message. -/
theorem parseShakeHand_command (status : manager.shakeHandStatus = stage.packType)
    (reads : stage = .createStream → buffer.head? ≠ some 0xc3) :
    manager.parseShakeHand build buffer =
      manager.parseMessage buffer stage.keep stage.packType stage.next := by
  cases stage with
  | createStream =>
      have reads := reads rfl
      simp only [parseShakeHand, status, CommandStage.packType]
      cases buffer with
      | nil => rfl
      | cons first rest =>
          have other : first ≠ 0xc3 := fun same => reads (by rw [same]; rfl)
          simp only [if_neg other]
          rfl
  | setChunkSize | connect | releaseStream | fcPublish | publish =>
      simp [parseShakeHand, status, CommandStage.packType, CommandStage.keep, CommandStage.next]

/-- A call that finishes the message. -/
theorem parseMessage_finishes
    (finishes : (manager.rtmpCodec.decodePack buffer).packFinish = true)
    (counted : 0 < (manager.rtmpCodec.decodePack buffer).result) :
    manager.parseMessage buffer stage.keep stage.packType stage.next =
      ⟨{ stage.store manager (manager.rtmpCodec.decodePack buffer).decoder with
          shakeHandStatus := stage.next },
        (manager.rtmpCodec.decodePack buffer).buffer, stage.packType⟩ := by
  simp only [parseMessage, parseHeaderAndBody, finishes, if_true, if_pos counted]
  rfl

/-- A call that does not. -/
theorem parseMessage_waits
    (waits : (manager.rtmpCodec.decodePack buffer).packFinish = false) :
    manager.parseMessage buffer stage.keep stage.packType stage.next =
      ⟨stage.store manager (manager.rtmpCodec.decodePack buffer).decoder,
        (manager.rtmpCodec.decodePack buffer).buffer, .shakeDataNotEnough⟩ := by
  simp [parseMessage, parseHeaderAndBody, waits, CommandStage.store]

/-- Calls of the decoder that agree make calls of the stage that agree. -/
theorem parseMessage_agrees
    (agrees : (manager.rtmpCodec.decodePack buffer).Agrees (other.rtmpCodec.decodePack behind))
    (stored : ∀ decoder, stage.store manager decoder = stage.store other decoder) :
    manager.parseMessage buffer stage.keep stage.packType stage.next =
      other.parseMessage behind stage.keep stage.packType stage.next := by
  cases finishes : (manager.rtmpCodec.decodePack buffer).packFinish with
  | true =>
      obtain ⟨counted, counted'⟩ := agrees.counted finishes
      rw [parseMessage_finishes finishes counted,
        parseMessage_finishes (agrees.packFinish ▸ finishes) counted', agrees.decoder,
        agrees.buffer, stored]
  | false =>
      rw [parseMessage_waits finishes, parseMessage_waits (agrees.packFinish ▸ finishes),
        agrees.decoder, agrees.buffer, stored]

/-! ## The loop -/

/-- The length of a createStream message that starts with `0xc3`. -/
def createStreamSkip : Nat := 26

/-- The skip is taken, but not from the beginning of a message or not in full. -/
def CutsSkip (manager : RtmpManager) (buffer : Bytes) : Prop :=
  manager.shakeHandStatus = .shakeRtmpCreateStream ∧ buffer.head? = some 0xc3 ∧
    ¬ (manager.rtmpCodec.decodePackStatus = .parseRtmpHeader ∧
      manager.rtmpCodec.currentRtmpPack.buffer = [] ∧ createStreamSkip ≤ buffer.length)

instance (manager : RtmpManager) (buffer : Bytes) : Decidable (manager.CutsSkip buffer) :=
  inferInstanceAs (Decidable (_ ∧ _ ∧ ¬ _))

/-- A call without bytes. -/
theorem parseShakeHand_nil (build : Build) (manager : RtmpManager) :
    shakeHandReturns (manager.parseShakeHand build []).result ≠ none ∧
      (manager.parseShakeHand build []).buffer = [] ∧
      (manager.parseShakeHand build []).manager.shakeHandStatus = manager.shakeHandStatus := by
  cases status : manager.shakeHandStatus <;>
    simp [parseShakeHand, status, parseBlock, parseMessage, parseHeaderAndBody, shakeHandReturns,
      dropPack, keepConnectPack, keepReleasePack]

/-- `ShakeHand` as a loop around `ParseShakeHand`. -/
def handshakeLoop (build : Build) :
    EarlyReturn RtmpManager UInt8 ShakeHandPackType Bytes ShakeHandPackType where
  call manager buffer :=
    let step := manager.parseShakeHand build buffer
    ⟨step.manager, step.buffer, step.result⟩
  returns report := (shakeHandReturns report).isSome
  replies := replies build
  view := shakeHandStatus
  Faulty := CutsSkip
  loop manager buffer :=
    let outcome := manager.shakeHand build buffer
    ((outcome.manager, outcome.buffer), outcome.replies)
  loop_eq manager buffer := by
    cases returns : shakeHandReturns (manager.parseShakeHand build buffer).result with
    | some result => simp [shakeHand_returns returns]
    | none => simp [shakeHand_goes returns]
  idle_returns manager := Option.isSome_iff_ne_none.mpr (parseShakeHand_nil build manager).1
  idle_unread manager := (parseShakeHand_nil build manager).2.1
  idle_view manager := (parseShakeHand_nil build manager).2.2
  idle_harmless _ cuts := nomatch cuts.2.1

/-! ## The pieces -/

/-- A block of fixed length. -/
def blockPiece (build : Build) (stage : ShakeHandPackType) (block : Bytes) :
    Piece UInt8 Bytes where
  input := block
  replies := replies build stage
  stops := false
  breaks _ _ := false

/-- At the stage of createStream the skip is taken inside a chunk: the chunk starts with
`0xc3`, or its header has been read and `0xc3` is the next byte to arrive. -/
def skipsInside (chunk : Bytes) (seen arrived : Nat) : Bool :=
  if chunk.head? = some 0xc3 then decide (0 < arrived)
  else decide (RtmpPack.headerSize (chunk.headD 0) ≤ seen) && decide (seen < arrived) &&
    decide (chunk[seen]? = some 0xc3)

/-- A chunk of a command. The loop returns behind every chunk but the last, and behind
releaseStream. -/
def chunkPiece (build : Build) (stage : CommandStage) (chunk : Bytes) (last : Bool) :
    Piece UInt8 Bytes where
  input := chunk
  replies := if last then replies build stage.packType else []
  stops := !last || decide (stage = .releaseStream)
  breaks seen arrived := decide (stage = .createStream) && skipsInside chunk seen arrived

/-- A createStream message that is skipped, in full if all of it has arrived. -/
def skipPiece (build : Build) (message : Bytes) : Piece UInt8 Bytes where
  input := message
  replies := replies build .shakeRtmpCreateStream
  stops := false
  breaks _ arrived := decide (0 < arrived) && decide (arrived < message.length)

/-- **A block is taken as a whole.** -/
theorem takes_block {stage next : ShakeHandPackType} {block : Bytes}
    (reads : ∀ buffer, manager.parseShakeHand build buffer =
      manager.parseBlock buffer block.length stage next)
    (nonempty : block ≠ []) (goes : shakeHandReturns stage = none)
    (away : manager.shakeHandStatus ≠ .shakeRtmpCreateStream) :
    (handshakeLoop build).Takes manager (blockPiece build stage block)
      { manager with shakeHandStatus := next } where
  nonempty := nonempty
  fresh _ _ _ := rfl
  faulty _ _ := iff_of_false (fun cuts => away cuts.1) Bool.false_ne_true
  whole := by
    refine ⟨stage, by simp [handshakeLoop, goes, blockPiece], rfl, fun tail _ => ?_⟩
    have call : manager.parseShakeHand build (block ++ tail) =
        ⟨{ manager with shakeHandStatus := next }, tail, stage⟩ := by
      rw [reads, parseBlock, List.drop_left, if_neg]
      rw [List.length_append]
      exact Nat.not_lt.mpr (Nat.le_add_right _ _)
    simp only [handshakeLoop, blockPiece, call]
  part := by
    intro part le other _
    have short : part.length < block.length := by
      refine Nat.lt_of_le_of_ne le.length_le fun same => other (le.eq_of_length same)
    have call : manager.parseShakeHand build part = ⟨manager, part, .shakeDataNotEnough⟩ := by
      rw [reads, parseBlock, if_pos short]
    simp only [handshakeLoop, call]
    exact ⟨rfl, rfl, fun _ _ _ => rfl,
      fun _ _ => iff_of_false (fun cuts => away cuts.1) Bool.false_ne_true⟩

/-! ### Chunks -/

/-- Input that follows a chunk starts like it. -/
theorem head_of_follows {input rest : Bytes} {first : UInt8}
    (follows : EarlyReturn.Follows input (first :: rest)) (arrived : input ≠ []) :
    input.head? = some first := by
  rcases follows with within | beyond
  · cases input with
    | nil => exact absurd rfl arrived
    | cons other input => rw [(List.cons_prefix_cons.mp within).1, List.head?_cons]
  · obtain ⟨tail, rfl⟩ := beyond
    rfl

/-- What arrives behind a part of a chunk is the next byte of the chunk. -/
theorem next_of_follows {part more chunk : Bytes}
    (follows : EarlyReturn.Follows (part ++ more) chunk) (short : part.length < chunk.length)
    (arrived : more ≠ []) : chunk[part.length]? = more.head? := by
  obtain ⟨next, more, rfl⟩ := List.exists_cons_of_ne_nil arrived
  rcases follows with within | beyond
  · obtain ⟨tail, rfl⟩ := within
    simp
  · obtain ⟨tail, same⟩ := beyond
    have found : (chunk ++ tail)[part.length]? = some next := by simp [same]
    rwa [List.getElem?_append_left short] at found

/-- **The skip is taken where `skipsInside` says so**: the bytes that are unread behind a part
of a chunk, and what arrives, start with `0xc3`. -/
theorem skipsInside_iff {part more unread rest : Bytes} {first : UInt8}
    (follows : EarlyReturn.Follows (part ++ more) (first :: rest))
    (short : part.length < (first :: rest).length)
    (left : (part.length < RtmpPack.headerSize first ∧ unread = part) ∨
      (RtmpPack.headerSize first ≤ part.length ∧ unread = [] ∧ first ≠ 0xc3)) :
    (unread ++ more).head? = some 0xc3 ↔
      skipsInside (first :: rest) part.length (part ++ more).length = true := by
  rw [skipsInside, List.head?_cons, List.headD_cons]
  rcases left with ⟨inHeader, rfl⟩ | ⟨inBody, rfl, other⟩
  · by_cases empty : unread ++ more = []
    · rw [empty]
      obtain ⟨rfl, rfl⟩ := List.append_eq_nil_iff.mp empty
      simp
    · rw [head_of_follows follows empty]
      by_cases skip : first = 0xc3
      · have arrived := List.length_pos_iff.mpr empty
        simpa [skip] using arrived
      · simp [skip, Nat.not_le.mpr inHeader]
  · rw [if_neg (by simpa using other), decide_eq_true inBody, Bool.true_and, List.nil_append]
    by_cases empty : more = []
    · simp [empty]
    · have longer := List.length_pos_iff.mpr empty
      rw [next_of_follows follows short empty]
      simp only [List.length_append, Bool.and_eq_true, decide_eq_true_eq]
      exact ⟨fun head => ⟨by omega, head⟩, And.right⟩

/-- In the middle of a message the skip is cut wherever it is taken. -/
theorem cutsSkip_iff (status : manager.shakeHandStatus = .shakeRtmpCreateStream)
    (middle : buffer.head? = some 0xc3 → ¬ (manager.rtmpCodec.decodePackStatus = .parseRtmpHeader ∧
      manager.rtmpCodec.currentRtmpPack.buffer = [])) :
    manager.CutsSkip buffer ↔ buffer.head? = some 0xc3 := by
  refine ⟨fun cuts => cuts.2.1, fun head => ⟨status, head, fun start => ?_⟩⟩
  exact middle head ⟨start.1, start.2.1⟩

theorem not_cutsSkip {status : ShakeHandPackType} (at_status : manager.shakeHandStatus = status)
    (away : status ≠ .shakeRtmpCreateStream) : ¬ manager.CutsSkip buffer :=
  fun cuts => away (at_status.symm.trans cuts.1)

/-- The manager behind a chunk. -/
def afterChunk (stage : CommandStage) (manager : RtmpManager) (decoder : ChunkDecoder)
    (last : Bool) : RtmpManager :=
  if last then { stage.store manager decoder with shakeHandStatus := stage.next }
  else stage.store manager decoder

section

variable {first : UInt8} {fields body : Bytes}

/-- A call with a whole chunk. -/
theorem parseShakeHand_chunk (status : manager.shakeHandStatus = stage.packType)
    (chunk : manager.rtmpCodec.toChunkDecoder.Delimits first fields body)
    (reads : stage = .createStream → first ≠ 0xc3) (tail : Bytes) :
    manager.parseShakeHand build (first :: fields ++ body ++ tail) =
      ⟨afterChunk stage manager
          ((manager.rtmpCodec.openBody (first :: fields)).closeChunk body)
          (manager.rtmpCodec.openBody (first :: fields)).isChunkOver,
        tail,
        if (manager.rtmpCodec.openBody (first :: fields)).isChunkOver then stage.packType
        else .shakeDataNotEnough⟩ := by
  have call := chunk.decodePack_chunk tail
  have head : stage = .createStream →
      (first :: fields ++ body ++ tail).head? ≠ some 0xc3 := fun here same =>
    reads here (Option.some.inj same)
  rw [parseShakeHand_command status head]
  cases isOver : (manager.rtmpCodec.openBody (first :: fields)).isChunkOver with
  | true =>
      have counted : 0 < (manager.rtmpCodec.decodePack (first :: fields ++ body ++ tail)).result :=
        chunk.sane.decodePack_counts (by rw [call, isOver])
      rw [parseMessage_finishes (by rw [call, isOver]) counted, call]
      simp only [afterChunk, if_true]
  | false =>
      rw [parseMessage_waits (by rw [call, isOver]), call]
      simp only [afterChunk, Bool.false_eq_true, if_false]

/-- A call with a part of a chunk leaves something that stands for the part. -/
theorem standsFor_part (status : manager.shakeHandStatus = stage.packType)
    (chunk : manager.rtmpCodec.toChunkDecoder.Delimits first fields body)
    (middle : stage = .createStream → first = 0xc3 → manager.rtmpCodec.currentRtmpPack.buffer ≠ [])
    {part : Bytes} (le : part <+: first :: fields ++ body)
    (short : part.length < (first :: fields ++ body).length) (last : Bool)
    (harmless : stage = .createStream → first = 0xc3 → part = []) :
    (handshakeLoop build).StandsFor manager
      (chunkPiece build stage (first :: fields ++ body) last) part part.length
      (stage.store manager (manager.rtmpCodec.decodePack part).decoder)
      (manager.rtmpCodec.decodePack part).buffer := by
  have taken := chunk.decodePack_part le short
  -- where the skip would be taken, the bytes in front of it are those of `skipsInside`
  have skips (here : stage = .createStream) (more : Bytes)
      (follows : EarlyReturn.Follows (part ++ more) (first :: fields ++ body)) :
      ((manager.rtmpCodec.decodePack part).buffer ++ more).head? = some 0xc3 ↔
        skipsInside (first :: fields ++ body) part.length (part ++ more).length = true := by
    refine skipsInside_iff follows short ?_
    rcases taken.left with inHeader | ⟨inBody, unread, -⟩
    · exact Or.inl inHeader
    · refine Or.inr ⟨inBody, unread, fun skip => ?_⟩
      rw [harmless here skip] at inBody
      exact absurd inBody (Nat.not_le.mpr (RtmpPack.headerSize_pos first))
  refine ⟨by simp [handshakeLoop], fun more follows clean => ?_, fun more follows => ?_⟩
  · -- the next call makes up for this one
    have reads (here : stage = .createStream) :
        ((manager.rtmpCodec.decodePack part).buffer ++ more).head? ≠ some 0xc3 := by
      rw [Ne, skips here more follows, Bool.not_eq_true]
      simpa [chunkPiece, here] using clean
    have reads' (here : stage = .createStream) : (part ++ more).head? ≠ some 0xc3 := by
      by_cases skip : first = 0xc3
      · have reads := reads here
        rwa [harmless here skip] at reads ⊢
      · by_cases empty : part ++ more = []
        · simp [empty]
        · rw [head_of_follows follows empty]
          simpa using skip
    have agrees := taken.resumes more
    simp only [handshakeLoop]
    rw [parseShakeHand_command (by simpa using status) reads,
      parseShakeHand_command status reads',
      parseMessage_agrees (by simpa using agrees) (fun decoder => by simp)]
  · by_cases here : stage = .createStream
    · have inMiddle (head : ((manager.rtmpCodec.decodePack part).buffer ++ more).head? =
          some 0xc3) :
          ¬ ((manager.rtmpCodec.decodePack part).decoder.decodePackStatus = .parseRtmpHeader ∧
            (manager.rtmpCodec.decodePack part).decoder.currentRtmpPack.buffer = []) := by
        rintro ⟨inHeader, empty⟩
        rcases taken.left with ⟨-, unread⟩ | ⟨-, -, inBody⟩
        · rw [unread] at head
          have arrived : part ++ more ≠ [] := fun nothing => by simp [nothing] at head
          have skip : first = 0xc3 := by
            rw [head_of_follows follows arrived] at head
            exact Option.some.inj head
          rw [harmless here skip] at empty
          exact middle here skip empty
        · rw [inBody] at inHeader
          cases inHeader
      have cuts : (stage.store manager (manager.rtmpCodec.decodePack part).decoder).CutsSkip
          ((manager.rtmpCodec.decodePack part).buffer ++ more) ↔
            ((manager.rtmpCodec.decodePack part).buffer ++ more).head? = some 0xc3 := by
        refine cutsSkip_iff ?_ ?_
        · rw [CommandStage.store_shakeHandStatus, status, here]
          rfl
        · rw [CommandStage.store_decoder]
          exact inMiddle
      refine cuts.trans ((skips here more follows).trans ?_)
      simp [chunkPiece, here]
    · refine iff_of_false (not_cutsSkip (by simpa using status) (CommandStage.packType_ne here)) ?_
      simp [chunkPiece, here]

/-- **A chunk is taken as a whole.** -/
theorem takes_chunk (status : manager.shakeHandStatus = stage.packType)
    (chunk : manager.rtmpCodec.toChunkDecoder.Delimits first fields body)
    (middle : stage = .createStream → first = 0xc3 →
      manager.rtmpCodec.currentRtmpPack.buffer ≠ []) :
    (handshakeLoop build).Takes manager
      (chunkPiece build stage (first :: fields ++ body)
        (manager.rtmpCodec.openBody (first :: fields)).isChunkOver)
      (afterChunk stage manager ((manager.rtmpCodec.openBody (first :: fields)).closeChunk body)
        (manager.rtmpCodec.openBody (first :: fields)).isChunkOver) := by
  have skipsInside_zero (arrived : Nat) :
      skipsInside (first :: fields ++ body) 0 arrived = true ↔ first = 0xc3 ∧ 0 < arrived := by
    have size := RtmpPack.headerSize_pos first
    by_cases skip : first = 0xc3
    · simp [skipsInside, skip]
    · simp [skipsInside, skip, Nat.ne_of_gt size]
  have reads {input : Bytes} (follows : EarlyReturn.Follows input (first :: fields ++ body))
      (arrived : input ≠ []) : input.head? = some first := head_of_follows follows arrived
  refine ⟨List.cons_ne_nil _ _, ?_, ?_, ?_, ?_⟩
  · -- what is not skipped later is not skipped at first
    intro seen arrived clean
    by_cases here : stage = .createStream
    · simp only [chunkPiece, here, decide_true, Bool.true_and] at clean ⊢
      rw [← Bool.not_eq_true, skipsInside_zero]
      rintro ⟨skip, some_arrived⟩
      simp [skipsInside, skip, some_arrived] at clean
    · simp [chunkPiece, here]
  · intro input follows
    by_cases here : stage = .createStream
    · have cuts : manager.CutsSkip input ↔ input.head? = some 0xc3 := by
        refine cutsSkip_iff (status.trans (here ▸ rfl)) fun head start => ?_
        have arrived : input ≠ [] := fun nothing => by simp [nothing] at head
        rw [reads follows arrived] at head
        exact middle here (Option.some.inj head) start.2
      refine cuts.trans ?_
      simp only [chunkPiece, here, decide_true, Bool.true_and]
      rw [skipsInside_zero]
      by_cases empty : input = []
      · simp [empty]
      · rw [reads follows empty]
        exact ⟨fun head => ⟨Option.some.inj head, List.length_pos_iff.mpr empty⟩,
          fun both => congrArg some both.1⟩
    · refine iff_of_false (not_cutsSkip status (CommandStage.packType_ne here)) ?_
      simp [chunkPiece, here]
  · refine ⟨if (manager.rtmpCodec.openBody (first :: fields)).isChunkOver then stage.packType
      else .shakeDataNotEnough, ?_, ?_, fun tail clean => ?_⟩
    · cases (manager.rtmpCodec.openBody (first :: fields)).isChunkOver <;> cases stage <;> rfl
    · cases (manager.rtmpCodec.openBody (first :: fields)).isChunkOver <;> cases stage <;> rfl
    · have away (here : stage = .createStream) : first ≠ 0xc3 := by
        intro skip
        simp only [chunkPiece, here, decide_true, Bool.true_and] at clean
        rw [← Bool.not_eq_true, skipsInside_zero] at clean
        exact clean ⟨skip, by simp⟩
      have call := @parseShakeHand_chunk build _ _ _ _ _ status chunk away tail
      simp only [handshakeLoop, chunkPiece, call]
  · intro part le other clean
    have short : part.length < (first :: fields ++ body).length :=
      Nat.lt_of_le_of_ne le.length_le fun same => other (le.eq_of_length same)
    have harmless (here : stage = .createStream) (skip : first = 0xc3) : part = [] := by
      simp only [chunkPiece, here, decide_true, Bool.true_and] at clean
      rw [← Bool.not_eq_true, skipsInside_zero] at clean
      exact List.length_eq_zero_iff.mp (Nat.eq_zero_of_not_pos fun arrived => clean ⟨skip, arrived⟩)
    have head (here : stage = .createStream) : part.head? ≠ some 0xc3 := by
      by_cases skip : first = 0xc3
      · simp [harmless here skip]
      · by_cases empty : part = []
        · simp [empty]
        · rw [reads (.inl le) empty]
          simpa using skip
    have call := @parseShakeHand_command build _ _ _ status head
    rw [parseMessage_waits (chunk.decodePack_part le short).waits] at call
    simp only [handshakeLoop, call]
    exact ⟨rfl, standsFor_part status chunk middle le short _ harmless⟩

/-! ### The skip -/

/-- **A message that is skipped is taken as a whole**, and the decoder does not see it. -/
theorem takes_skip (status : manager.shakeHandStatus = .shakeRtmpCreateStream)
    (inHeader : manager.rtmpCodec.decodePackStatus = .parseRtmpHeader)
    (empty : manager.rtmpCodec.currentRtmpPack.buffer = []) {rest : Bytes}
    (length : (0xc3 :: rest : Bytes).length = createStreamSkip) :
    (handshakeLoop build).Takes manager (skipPiece build (0xc3 :: rest))
      { manager with shakeHandStatus := .shakeRtmpPublish } := by
  have skips (input : Bytes) (follows : EarlyReturn.Follows input (0xc3 :: rest)) :
      manager.CutsSkip input ↔ (skipPiece build (0xc3 :: rest)).breaks 0 input.length = true := by
    simp only [CutsSkip, status, inHeader, empty, true_and, Nat.not_le, skipPiece, length,
      Bool.and_eq_true, decide_eq_true_eq]
    by_cases nothing : input = []
    · simp [nothing]
    · rw [head_of_follows follows nothing]
      exact ⟨fun cut => ⟨List.length_pos_iff.mpr nothing, cut.2⟩, fun cut => ⟨rfl, cut.2⟩⟩
  refine ⟨List.cons_ne_nil _ _, fun _ _ => id, skips, ?_, ?_⟩
  · refine ⟨.shakeRtmpCreateStream, rfl, rfl, fun tail _ => ?_⟩
    have dropped : ((0xc3 :: rest : Bytes) ++ tail).drop 26 = tail := List.drop_left' length
    simp only [handshakeLoop, skipPiece, parseShakeHand, status, List.cons_append, if_true]
    rw [← List.cons_append, dropped]
  · intro part le other clean
    obtain rfl : part = [] := by
      have short := Nat.lt_of_le_of_ne le.length_le fun same => other (le.eq_of_length same)
      simp only [skipPiece, Bool.and_eq_false_iff, decide_eq_false_iff_not, Nat.not_lt] at clean
      rcases clean with none_arrived | all_arrived
      · exact List.length_eq_zero_iff.mp (Nat.le_zero.mp none_arrived)
      · exact absurd short (Nat.not_lt.mpr all_arrived)
    have call : manager.parseShakeHand build [] = ⟨manager, [], .shakeDataNotEnough⟩ := by
      simp only [parseShakeHand, status]
    simp only [handshakeLoop, call]
    exact ⟨rfl, rfl, fun _ _ _ => rfl, fun _ follows => skips _ follows⟩

end

/-! ## Commands -/

/-- A command message with its chunk stream. -/
structure Command where
  csid : UInt8
  sent : SentMessage
  oneByte : 2 ≤ csid ∧ csid ≤ 63

namespace Command

/-- The chunks of a command. -/
def chunks (command : Command) (chunkSize : Nat) : List Bytes :=
  command.sent.message.chunks chunkSize command.csid command.sent.fmt

/-- The bytes of a command. -/
def encode (command : Command) (chunkSize : Nat) : Bytes := (command.chunks chunkSize).flatten

/-- The first byte of a command. -/
def first (command : Command) : UInt8 := basicHeader command.sent.fmt command.csid

theorem small (command : Command) : command.csid < 64 := Nat.lt_succ_of_le command.oneByte.2

theorem encode_eq (command : Command) (chunkSize : Nat) :
    ∃ rest, command.encode chunkSize = command.first :: rest := by
  rw [encode, chunks, Message.chunks]
  split <;> exact ⟨_, rfl⟩

/-- Only a message with all fields left out starts with `0xc3`. -/
theorem fmt_of_first {command : Command} (skip : command.first = 0xc3) :
    command.sent.fmt = .fmt3 := by
  have bits := (basicHeader_bits command.sent.fmt command.small).1
  rw [← first, skip] at bits
  cases format : command.sent.fmt with
  | fmt3 => rfl
  | fmt0 | fmt1 | fmt2 =>
      rw [format] at bits
      exact absurd bits (by decide)

end Command

/-- The pieces of a command that is read chunk by chunk. -/
def chunkPieces (build : Build) (stage : CommandStage) : List Bytes → List (Piece UInt8 Bytes)
  | [] => []
  | chunk :: chunks => chunkPiece build stage chunk chunks.isEmpty :: chunkPieces build stage chunks

/-- The pieces of a command: its chunks, or all of it where it is skipped. -/
def commandPieces (build : Build) (chunkSize : Nat) (stage : CommandStage) (command : Command) :
    List (Piece UInt8 Bytes) :=
  if stage = .createStream ∧ command.first = 0xc3 then [skipPiece build (command.encode chunkSize)]
  else chunkPieces build stage (command.chunks chunkSize)

/-! ### Where the pieces lead -/

/-- The pieces of a message lead to a status, with the decoder ready behind the message. Until
then the status stays. -/
def LeadsTo (build : Build) (chunkSize : Nat) (manager : RtmpManager)
    (pieces : List (Piece UInt8 Bytes)) (status : ShakeHandPackType) (previous : Option Message) :
    Prop :=
  ∃ after, (handshakeLoop build).Passes manager pieces after ∧ after.shakeHandStatus = status ∧
    after.rtmpCodec.toChunkDecoder.Ready chunkSize previous

section

variable {chunkSize : Nat} {message : Message} {received rest : Bytes} {csid first : UInt8}
  {fields : Bytes}

/-- The decoder delimits the chunks of the message that it will hold behind their header. -/
theorem delimits_of_holding {decoder : ChunkDecoder} (sane : decoder.Sane)
    (inHeader : decoder.decodePackStatus = .parseRtmpHeader)
    (whole : RtmpPack.headerSize first = fields.length + 1)
    (opened : (decoder.openBody (first :: fields)).Holding chunkSize message received rest) :
    decoder.Delimits first fields (rest.take chunkSize) :=
  ⟨sane, inHeader, whole, opened.chunkNeed_eq⟩

/-- The last chunk of a message. -/
theorem leadsTo_last (status : manager.shakeHandStatus = stage.packType)
    (chunk : manager.rtmpCodec.toChunkDecoder.Delimits first fields (rest.take chunkSize))
    (opened : (manager.rtmpCodec.openBody (first :: fields)).Holding chunkSize message received
      rest)
    (fits : rest.length ≤ chunkSize)
    (middle : stage = .createStream → first = 0xc3 →
      manager.rtmpCodec.currentRtmpPack.buffer ≠ []) :
    LeadsTo build chunkSize manager [chunkPiece build stage (first :: fields ++ rest) true]
      stage.next (some message) := by
  rw [List.take_of_length_le fits] at chunk
  have takes := @takes_chunk build manager stage _ _ _ status chunk middle
  rw [(opened.last fits).1] at takes
  refine ⟨_, takes.passes, rfl, ?_⟩
  have finished := opened.closeChunk_last fits
  simpa [afterChunk] using finished.ready

/-- A chunk that is not the last. -/
theorem takes_split (status : manager.shakeHandStatus = stage.packType)
    (chunk : manager.rtmpCodec.toChunkDecoder.Delimits first fields (rest.take chunkSize))
    (opened : (manager.rtmpCodec.openBody (first :: fields)).Holding chunkSize message received
      rest)
    (longer : chunkSize < rest.length)
    (middle : stage = .createStream → first = 0xc3 →
      manager.rtmpCodec.currentRtmpPack.buffer ≠ []) :
    (handshakeLoop build).Takes manager
      (chunkPiece build stage (first :: fields ++ rest.take chunkSize) false)
      (stage.store manager
        ((manager.rtmpCodec.openBody (first :: fields)).closeChunk (rest.take chunkSize))) := by
  have takes := @takes_chunk build manager stage _ _ _ status chunk middle
  rw [(opened.split longer).1] at takes
  exact takes

theorem continuationChunks_isEmpty (chunkSize : Nat) (csid : UInt8) (body : Bytes) :
    (continuationChunks chunkSize csid body).isEmpty = false := by
  rw [continuationChunks, bodyPieces]
  split <;> rfl

/-- **The rest of a message** in continuation chunks. -/
theorem leadsTo_continuation (small : csid < 64)
    (status : manager.shakeHandStatus = stage.packType)
    (holding : manager.rtmpCodec.toChunkDecoder.Holding chunkSize message received rest)
    (inHeader : manager.rtmpCodec.decodePackStatus = .parseRtmpHeader) (begun : received ≠ []) :
    LeadsTo build chunkSize manager
      (chunkPieces build stage (continuationChunks chunkSize csid rest)) stage.next
      (some message) := by
  induction length : rest.length using Nat.strongRecOn generalizing manager received rest with
  | ind n ih =>
      subst length
      obtain ⟨opened, -⟩ := holding.openBody small
      have chunk := delimits_of_holding (holding.between inHeader).sane inHeader
        (headerSize_basicHeader .fmt3 small) opened
      have middle (_ : stage = .createStream) (_ : basicHeader .fmt3 csid = 0xc3) :
          manager.rtmpCodec.currentRtmpPack.buffer ≠ [] := by
        rw [holding.stored]
        exact begun
      have positive := holding.chunkSize_pos
      rw [continuationChunks, bodyPieces]
      rcases Nat.lt_or_ge chunkSize rest.length with longer | fits
      · rw [if_neg (by omega), List.map_cons, ← continuationChunks, chunkPieces,
          continuationChunks_isEmpty]
        obtain ⟨holding', inHeader'⟩ := opened.closeChunk_split longer
        have takes := @takes_split build manager stage _ _ _ _ _ _ status chunk opened longer middle
        have fewer : (rest.drop chunkSize).length < rest.length := by
          rw [List.length_drop]
          omega
        have more : received ++ rest.take chunkSize ≠ [] := by simp [begun]
        obtain ⟨after, leads, arrived⟩ := @ih _ fewer
          (stage.store manager _) _ _ (by simpa using status) (by simpa using holding')
          (by simpa using inHeader') more rfl
        exact ⟨after, leads.cons takes (CommandStage.store_shakeHandStatus ..), arrived⟩
      · rw [if_pos (.inl fits)]
        exact leadsTo_last status chunk opened fits middle

/-- **A command**, from the stage that waits for it to the next. -/
theorem leadsTo_command {previous : Option Message} {command : Command}
    (status : manager.shakeHandStatus = stage.packType)
    (ready : manager.rtmpCodec.toChunkDecoder.Ready chunkSize previous)
    (compressed : WellCompressed previous [command.sent])
    (fixed : stage = .createStream → command.first = 0xc3 →
      (command.encode chunkSize).length = createStreamSkip) :
    LeadsTo build chunkSize manager (commandPieces build chunkSize stage command) stage.next
      (some command.sent.message) := by
  rw [commandPieces]
  split
  · next both =>
      -- the message is skipped
      obtain ⟨rfl, skip⟩ := both
      obtain ⟨rest, encode⟩ := command.encode_eq chunkSize
      have length := fixed rfl skip
      rw [skip] at encode
      rw [encode] at length ⊢
      refine ⟨_, (takes_skip status ready.inHeader ready.empty length).passes, rfl, ?_⟩
      exact ready.skip compressed (Command.fmt_of_first skip)
  · next read =>
      -- the message is read chunk by chunk
      have middle (here : stage = .createStream) (skip : command.first = 0xc3) :
          manager.rtmpCodec.currentRtmpPack.buffer ≠ [] := absurd ⟨here, skip⟩ read
      obtain ⟨opened, -⟩ := ready.openBody compressed command.small
      have chunk := delimits_of_holding ready.sane ready.inHeader
        (by rw [headerSize_basicHeader _ command.small, Message.length_header]) opened
      rw [Command.chunks, Message.chunks]
      rcases Nat.lt_or_ge chunkSize command.sent.message.body.length with longer | fits
      · rw [if_neg (Nat.not_le.mpr longer), chunkPieces, continuationChunks_isEmpty]
        obtain ⟨holding, inHeader⟩ := opened.closeChunk_split longer
        have takes := @takes_split build manager stage _ _ _ _ _ _ status chunk opened longer middle
        have begun : ([] : Bytes) ++ command.sent.message.body.take chunkSize ≠ [] := by
          have some_taken := opened.chunkSize_pos
          rw [List.nil_append, ← List.length_pos_iff, List.length_take]
          omega
        obtain ⟨after, leads, arrived⟩ := @leadsTo_continuation build (stage.store manager _) stage
          _ _ _ _ _ command.small (by simpa using status) (by simpa using holding)
          (by simpa using inHeader) begun
        exact ⟨after, leads.cons takes (CommandStage.store_shakeHandStatus ..), arrived⟩
      · rw [if_pos fits]
        exact leadsTo_last status chunk opened fits middle

/-- The commands of some stages, one after the other. -/
theorem leads_commands {stages : List CommandStage} {command : CommandStage → Command}
    {previous : Option Message} (inOrder : CommandStage.InOrder manager.shakeHandStatus stages)
    (ready : manager.rtmpCodec.toChunkDecoder.Ready chunkSize previous)
    (compressed : WellCompressed previous (stages.map fun stage => (command stage).sent))
    (fixed : (command .createStream).first = 0xc3 →
      ((command .createStream).encode chunkSize).length = createStreamSkip) :
    ∃ after, (handshakeLoop build).LeadsThrough manager
        (stages.map fun stage =>
          (stage.packType, commandPieces build chunkSize stage (command stage))) after ∧
      after.shakeHandStatus = (stages.getLast?.map CommandStage.next).getD
        manager.shakeHandStatus := by
  induction stages generalizing manager previous with
  | nil => exact ⟨manager, .refl _ _, rfl⟩
  | cons stage stages ih =>
      obtain ⟨status, others⟩ := inOrder
      obtain ⟨head, tail⟩ := compressed.head
      obtain ⟨between, passes, status', ready'⟩ := @leadsTo_command build manager stage chunkSize _
        _ status.symm ready head (fun here => by rw [here]; exact fixed)
      rw [← status'] at others
      obtain ⟨after, leads, last⟩ := ih others ready' tail
      refine ⟨after, ?_, ?_⟩
      · rw [List.map_cons, status]
        exact passes.leads leads
      · rw [last, status', List.getLast?_cons]
        cases stages.getLast? <;> rfl

end

end RtmpManager

open RtmpManager

/-! ## Handshakes -/

/-- What a publisher sends until the end of publish: C0C1, C2 and a command for each stage. A
createStream message that starts with `0xc3` has its fixed length. -/
structure Handshake (build : Build) (chunkSize : Nat) where
  c01 : Bytes
  c2 : Bytes
  command : CommandStage → Command
  c01_length : c01.length = 1537
  c2_length : c2.length = 1536
  compressed : WellCompressed none
    ((CommandStage.all build).map fun stage => (command stage).sent)
  createStream_length : (command .createStream).first = 0xc3 →
    ((command .createStream).encode chunkSize).length = createStreamSkip

namespace Handshake

variable {build : Build} {chunkSize : Nat}

/-- The pieces that the calls of `ParseShakeHand` take. -/
def pieces (handshake : Handshake build chunkSize) : List (Piece UInt8 Bytes) :=
  blockPiece build .shakeRtmpC01 handshake.c01 :: blockPiece build .shakeRtmpC2 handshake.c2 ::
    (CommandStage.all build).flatMap fun stage =>
      commandPieces build chunkSize stage (handshake.command stage)

/-- The messages of a handshake, each with the stage that waits for it. -/
def messages (handshake : Handshake build chunkSize) :
    List (EarlyReturn.Waited UInt8 Bytes ShakeHandPackType) :=
  (.shakeRtmpC01, [blockPiece build .shakeRtmpC01 handshake.c01]) ::
    (.shakeRtmpC2, [blockPiece build .shakeRtmpC2 handshake.c2]) ::
      (CommandStage.all build).map fun stage =>
        (stage.packType, commandPieces build chunkSize stage (handshake.command stage))

theorem messages_pieces (handshake : Handshake build chunkSize) :
    handshake.messages.flatMap Prod.snd = handshake.pieces := by
  rw [messages, List.flatMap_cons, List.flatMap_cons, List.flatMap_map]
  rfl

/-- The stage that waits for the first message that is not complete in the first `n` pieces. -/
def stageAt (handshake : Handshake build chunkSize) (n : Nat) : ShakeHandPackType :=
  EarlyReturn.due .shakeSuccess handshake.messages n

/-- The bytes of the first pieces. -/
def bytes (handshake : Handshake build chunkSize) (n : Nat) : Bytes :=
  Piece.inputs (handshake.pieces.take n)

/-- **The calls take the pieces of a handshake one after the other**, message by message. -/
theorem route (handshake : Handshake build chunkSize) {manager : RtmpManager}
    (start : manager.shakeHandStatus = .shakeRtmpC01)
    (ready : manager.rtmpCodec.toChunkDecoder.Ready chunkSize none) :
    ∃ after, (handshakeLoop build).LeadsThrough manager handshake.messages after ∧
      after.shakeHandStatus = .shakeSuccess := by
  have nonempty {block : Bytes} {n : Nat} (length : block.length = n + 1) : block ≠ [] :=
    List.length_pos_iff.mp (by omega)
  have first : (handshakeLoop build).Takes manager
      (blockPiece build .shakeRtmpC01 handshake.c01)
      { manager with shakeHandStatus := .shakeRtmpC2 } := by
    refine takes_block (fun buffer => ?_) (nonempty handshake.c01_length) rfl (by simp [start])
    simp only [parseShakeHand, start, handshake.c01_length]
  have second : (handshakeLoop build).Takes { manager with shakeHandStatus := .shakeRtmpC2 }
      (blockPiece build .shakeRtmpC2 handshake.c2)
      { manager with
        shakeHandStatus :=
          if build.monitorMode then .shakeRtmpConnect else .shakeRtmpSetChunkSize } := by
    refine takes_block (fun buffer => ?_) (nonempty handshake.c2_length) rfl (nomatch ·)
    simp only [parseShakeHand, handshake.c2_length]
  obtain ⟨after, commands, last⟩ := @leads_commands build
    { manager with
      shakeHandStatus :=
        if build.monitorMode then .shakeRtmpConnect else .shakeRtmpSetChunkSize }
    chunkSize (CommandStage.all build) handshake.command none (CommandStage.all_inOrder build)
    ready handshake.compressed handshake.createStream_length
  refine ⟨after, ?_, ?_⟩
  · have leads := first.passes.leads (second.passes.leads commands)
    rw [show (handshakeLoop build).view manager = .shakeRtmpC01 from start] at leads
    exact leads
  · rw [last]
    cases build with
    | mk monitorMode => cases monitorMode <;> rfl

end Handshake

end LiveBroadcast
