import LiveBroadcast.Foundation.Runs
import LiveBroadcast.Live.HandshakeRoute
import LiveBroadcast.Live.RtmpPushServer

/-!
# Handshakes cut into reads

A handshake arrives in reads, and each read hands the unread bytes and the new ones to
`OnConnectionShakeHand`. `ShakeHand` returns early behind releaseStream and behind a chunk
that does not end its message, so what has arrived behind them waits for the next read, and
after the last read for ever. The skip at createStream takes what there is of its 26 bytes.

So a handshake does depend on how it is cut. `handshake_reads_agree_iff` says when two ways
of cutting one handshake agree and leave no complete message waiting: no read makes the skip
take something else than the whole createStream message, and the walks over the pieces end at
the same one, behind every message that is complete.
-/

set_option autoImplicit false

namespace LiveBroadcast

open RtmpManager

/-! ## The handshake never fails -/

namespace RtmpManager

variable {build : Build} {manager : RtmpManager} {buffer : Bytes}

/-- What `ParseHeaderAndBody` returns is never negative. -/
theorem parseHeaderAndBody_nonneg (manager : RtmpManager) (buffer : Bytes) :
    0 ≤ (manager.parseHeaderAndBody buffer).2.2.1 := by
  have counted := (manager.rtmpCodec.decodePack_length buffer).2
  simp only [parseHeaderAndBody]
  split
  · exact counted
  · exact Int.le_refl 0

theorem parseMessage_not_failed {keep : RtmpManager → RtmpPack → RtmpManager}
    {stage next : ShakeHandPackType}
    (kept : ∀ manager pack, (keep manager pack).shakeHandStatus = manager.shakeHandStatus)
    (before : manager.shakeHandStatus ≠ .shakeFailed) (stage_ne : stage ≠ .shakeFailed)
    (next_ne : next ≠ .shakeFailed) :
    (manager.parseMessage buffer keep stage next).result ≠ .shakeFailed ∧
      (manager.parseMessage buffer keep stage next).manager.shakeHandStatus ≠ .shakeFailed := by
  have nonneg := manager.parseHeaderAndBody_nonneg buffer
  simp only [parseMessage]
  by_cases parsed : 0 < (manager.parseHeaderAndBody buffer).2.2.1
  · rw [if_pos parsed]
    exact ⟨stage_ne, next_ne⟩
  · rw [if_neg parsed, if_pos (Int.le_antisymm (Int.not_lt.mp parsed) nonneg)]
    refine ⟨by simp, ?_⟩
    rw [kept]
    exact before

/-- **No call fails.** -/
theorem parseShakeHand_not_failed (before : manager.shakeHandStatus ≠ .shakeFailed) :
    (manager.parseShakeHand build buffer).result ≠ .shakeFailed ∧
      (manager.parseShakeHand build buffer).manager.shakeHandStatus ≠ .shakeFailed := by
  have block (length : Nat) {stage next : ShakeHandPackType} (stage_ne : stage ≠ .shakeFailed)
      (next_ne : next ≠ .shakeFailed) :
      (manager.parseBlock buffer length stage next).result ≠ .shakeFailed ∧
        (manager.parseBlock buffer length stage next).manager.shakeHandStatus ≠ .shakeFailed := by
    rw [parseBlock]
    split
    · exact ⟨by simp, before⟩
    · exact ⟨stage_ne, next_ne⟩
  have message {keep : RtmpManager → RtmpPack → RtmpManager} {stage next : ShakeHandPackType} :=
    @parseMessage_not_failed manager buffer keep stage next
  unfold parseShakeHand
  cases status : manager.shakeHandStatus with
  | shakeRtmpC01 => exact block 1537 (by decide) (by decide)
  | shakeRtmpC2 => exact block 1536 (by decide) (by cases build.monitorMode <;> decide)
  | shakeRtmpSetChunkSize => exact message (fun _ _ => rfl) before (by decide) (by decide)
  | shakeRtmpConnect => exact message (fun _ _ => rfl) before (by decide) (by decide)
  | shakeRtmpReleaseStream => exact message (fun _ _ => rfl) before (by decide) (by decide)
  | shakeRtmpFcPublish => exact message (fun _ _ => rfl) before (by decide) (by decide)
  | shakeRtmpCreateStream =>
      cases buffer with
      | nil => exact ⟨by simp, before⟩
      | cons first rest =>
          simp only
          split
          · exact ⟨by simp, by simp⟩
          · exact message (fun _ _ => rfl) before (by decide) (by decide)
  | shakeRtmpPublish => exact message (fun _ _ => rfl) before (by decide) (by decide)
  | shakeFailed => exact absurd status before
  | shakeSuccess | shakeDataNotEnough => exact ⟨by simp, before⟩

theorem shakeHand_not_failed (before : manager.shakeHandStatus ≠ .shakeFailed) :
    (manager.shakeHand build buffer).result ≠ .shakeFailed ∧
      (manager.shakeHand build buffer).manager.shakeHandStatus ≠ .shakeFailed := by
  refine @shakeHand_induction build
    (fun manager _ outcome => manager.shakeHandStatus ≠ .shakeFailed →
      outcome.result ≠ .shakeFailed ∧ outcome.manager.shakeHandStatus ≠ .shakeFailed)
    (fun manager buffer result returned before => ?_)
    (fun manager buffer goes rest before => ?_) manager buffer before
  · obtain ⟨result_ne, status_ne⟩ := @parseShakeHand_not_failed build manager buffer before
    refine ⟨?_, status_ne⟩
    rintro rfl
    cases report : (manager.parseShakeHand build buffer).result <;> simp_all [shakeHandReturns]
  · rw [shakeHand_goes goes]
    exact rest (parseShakeHand_not_failed before).2

end RtmpManager

/-! ## Reads of a handshake -/

/-- The authentication callback, if there is one, accepts. -/
def ReadEnvironment.Accepts (environment : ReadEnvironment) : Prop :=
  ∀ callback, environment.authenticationCallback = some callback →
    ∀ username password, callback username password = true

namespace Publisher

/-- The replies that were sent. -/
def replies (publisher : Publisher) : List Bytes :=
  publisher.effects.filterMap fun
    | .send data => some data
    | _ => none

/-- Read after read, each handed to `OnConnectionShakeHand` behind the unread bytes. -/
def readHandshake (build : Build) (environment : ReadEnvironment) :
    Publisher → List Bytes → Except Fault Publisher
  | publisher, [] => .ok publisher
  | publisher, data :: reads =>
      match publisher.onConnectionShakeHand build environment (publisher.recvBuffer ++ data) with
      | .error fault => .error fault
      | .ok outcome => outcome.publisher.readHandshake build environment reads

/-- In some read a call of `ParseShakeHand` cuts the skip. -/
def SkipIsCut (build : Build) (environment : ReadEnvironment) : Publisher → List Bytes → Prop
  | _, [] => False
  | publisher, data :: reads =>
      (handshakeLoop build).Meets publisher.pushConnection.rtmpManager
          (publisher.recvBuffer ++ data) ∨
        ∃ outcome, publisher.onConnectionShakeHand build environment
            (publisher.recvBuffer ++ data) = .ok outcome ∧
          outcome.publisher.SkipIsCut build environment reads

/-- A publisher in its handshake, with what its manager, its buffer and its replies are. -/
structure Shaking (publisher : Publisher) (state : RtmpManager × Bytes) (made : List Bytes) :
    Prop where
  rtmpManager : publisher.pushConnection.rtmpManager = state.1
  recvBuffer : publisher.recvBuffer = state.2
  replies : publisher.replies = made
  connected : publisher.connectionStatus = .connected
  not_failed : state.1.shakeHandStatus ≠ .shakeFailed

section

variable {build : Build} {environment : ReadEnvironment} {publisher : Publisher}
  {state : RtmpManager × Bytes} {made : List Bytes}

/-- Asking an accepting callback leaves the connection as it is. -/
theorem authenticate_accepts {asked : Publisher} {answer : Bool}
    (accepts : environment.Accepts)
    (authenticated : publisher.authenticate environment = .ok (asked, answer)) :
    answer = true ∧ asked.pushConnection = publisher.pushConnection ∧
      asked.recvBuffer = publisher.recvBuffer ∧ asked.replies = publisher.replies ∧
      asked.connectionStatus = publisher.connectionStatus := by
  obtain ⟨username, -, ⟨rfl, rfl⟩ | ⟨callback, password, there, rfl, rfl⟩⟩ :=
    authenticate_cases authenticated
  · exact ⟨rfl, rfl, rfl, rfl, rfl⟩
  · refine ⟨accepts callback there username password, rfl, rfl, ?_, rfl⟩
    simp [Publisher.replies]

/-- `ShakeHand` on a publisher whose connection is up. -/
theorem Shaking.shakeHand (shaking : publisher.Shaking state made) (buffer : Bytes) :
    (publisher.shakeHand build buffer).1.Shaking
      ((state.1.shakeHand build buffer).manager, (state.1.shakeHand build buffer).buffer)
      (made ++ (state.1.shakeHand build buffer).replies) := by
  obtain ⟨rtmpManager, -, replies, connected, not_failed⟩ := shaking
  simp only [Publisher.shakeHand, rtmpManager, send, connected, if_true]
  refine ⟨rfl, rfl, ?_, rfl, (shakeHand_not_failed not_failed).2⟩
  rw [← replies]
  simp [Publisher.replies, List.filterMap_map]

/-- **One read of a handshake** is one call of `ShakeHand` on what is unread. -/
theorem Shaking.read (shaking : publisher.Shaking state made) (accepts : environment.Accepts)
    {data : Bytes} {outcome : ReadOutcome}
    (ran : publisher.onConnectionShakeHand build environment (publisher.recvBuffer ++ data) =
      .ok outcome) :
    outcome.publisher.Shaking
      (((handshakeLoop build).consumer.feed state data).1)
      (made ++ ((handshakeLoop build).consumer.feed state data).2) := by
  have shaken := @Shaking.shakeHand build _ _ _ shaking (publisher.recvBuffer ++ data)
  have result : (publisher.shakeHand build (publisher.recvBuffer ++ data)).2 ≠ .shakeFailed := by
    simp only [Publisher.shakeHand, shaking.rtmpManager]
    exact (shakeHand_not_failed shaking.not_failed).1
  have fed : (handshakeLoop build).consumer.feed state data =
      (((state.1.shakeHand build (publisher.recvBuffer ++ data)).manager,
        (state.1.shakeHand build (publisher.recvBuffer ++ data)).buffer),
        (state.1.shakeHand build (publisher.recvBuffer ++ data)).replies) := by
    rw [shaking.recvBuffer]
    rfl
  rw [fed]
  rcases onConnectionShakeHand_cases ran with ⟨-, -, asked, answer, authenticated, after⟩ |
    ⟨-, path, -, after⟩ | ⟨-, -, after | ⟨failed, -⟩⟩
  · obtain ⟨rfl, pushConnection, recvBuffer, replies, connected⟩ :=
      authenticate_accepts accepts authenticated
    rw [after, if_pos rfl]
    exact ⟨pushConnection ▸ shaken.rtmpManager, recvBuffer.trans shaken.recvBuffer,
      replies.trans shaken.replies, connected.trans shaken.connected, shaken.not_failed⟩
  · rw [after]
    refine ⟨shaken.rtmpManager, shaken.recvBuffer, ?_, shaken.connected, shaken.not_failed⟩
    rw [← shaken.replies]
    simp [Publisher.replies]
  · rw [after]
    exact shaken
  · exact absurd failed result

/-- **Read after read.** The reads of a publisher that is accepted are those of its manager. -/
theorem Shaking.readHandshake (shaking : publisher.Shaking state made)
    (accepts : environment.Accepts) {reads : List Bytes} {after : Publisher}
    (ran : publisher.readHandshake build environment reads = .ok after) :
    after.Shaking ((handshakeLoop build).consumer.feedAll state reads).1
        (made ++ ((handshakeLoop build).consumer.feedAll state reads).2) ∧
      (publisher.SkipIsCut build environment reads ↔
        (handshakeLoop build).MeetsAny state reads) := by
  induction reads generalizing publisher state made with
  | nil =>
      obtain rfl := Except.ok.inj ran
      refine ⟨?_, Iff.rfl⟩
      simpa [Consumer.feedAll] using shaking
  | cons data reads ih =>
      rw [Publisher.readHandshake] at ran
      cases read : publisher.onConnectionShakeHand build environment
          (publisher.recvBuffer ++ data) with
      | error fault =>
          rw [read] at ran
          cases ran
      | ok outcome =>
          rw [read] at ran
          obtain ⟨shaken, cuts⟩ := ih (shaking.read accepts read) ran
          refine ⟨?_, ?_⟩
          · simpa [Consumer.feedAll] using shaken
          · rw [SkipIsCut, EarlyReturn.MeetsAny, read, shaking.rtmpManager, shaking.recvBuffer]
            refine or_congr Iff.rfl ⟨?_, fun later => ⟨outcome, rfl, cuts.mpr later⟩⟩
            rintro ⟨other, same, later⟩
            obtain rfl := Except.ok.inj same
            exact cuts.mp later

end

/-- Two publishers are in the same place of their handshake. -/
structure AtSamePoint (first second : Publisher) : Prop where
  status : first.pushConnection.rtmpManager.shakeHandStatus =
    second.pushConnection.rtmpManager.shakeHandStatus
  replies : first.replies = second.replies
  unread : first.recvBuffer = second.recvBuffer

/-- No complete message of the first `n` pieces waits: the publisher is in the stage that waits
for the first one that is not complete. -/
def NoneWaits {build : Build} {chunkSize : Nat} (publisher : Publisher)
    (handshake : Handshake build chunkSize) (n : Nat) : Prop :=
  publisher.pushConnection.rtmpManager.shakeHandStatus = handshake.stageAt n

/-- A publisher that has just connected: its connection with what its manager's constructor
leaves. -/
def connecting (build : Build) (connectionName : Bytes) (unset : UnsetMembers)
    (connectPack releasePack : RtmpPack) : Publisher :=
  .new connectionName (.construct build unset connectPack releasePack)

theorem shaking_connecting (build : Build) (connectionName : Bytes) (unset : UnsetMembers)
    (connectPack releasePack : RtmpPack) :
    (connecting build connectionName unset connectPack releasePack).Shaking
      (.construct build unset connectPack releasePack, []) [] :=
  ⟨rfl, rfl, rfl, rfl, nofun⟩

end Publisher

namespace Handshake

variable {build : Build} {chunkSize : Nat}

/-- The pieces that are left behind reads of the first `n` pieces: each read leads behind the
next piece that makes `ShakeHand` return, if that has arrived, and else behind all pieces that
have. -/
def leftBehind (handshake : Handshake build chunkSize) (n : Nat) (reads : List Bytes) :
    List (Piece UInt8 Bytes) :=
  ((Walk.start (handshake.pieces.take n)).reads (reads.map List.length)).rest

/-- The last piece of some message is left behind reads of the first `n` pieces: those that are
consumed do not reach the first message that is not complete. -/
def leavesMessage (handshake : Handshake build chunkSize) (n : Nat) (reads : List Bytes) : Bool :=
  decide (handshake.stageAt
      ((handshake.pieces.take n).length - (handshake.leftBehind n reads).length) ≠
    handshake.stageAt n)

/-- Some read meets the skip where it is not the whole createStream message. -/
def cutsSkip (handshake : Handshake build chunkSize) (n : Nat) (reads : List Bytes) : Bool :=
  (Walk.start (handshake.pieces.take n)).breaksAny (reads.map List.length)

end Handshake

open Publisher

/-- The stage that a publisher is in behind reads that leave the skip whole. -/
theorem Handshake.stage_eq {build : Build} {chunkSize : Nat}
    (handshake : Handshake build chunkSize) (n : Nat) {manager : RtmpManager}
    {route : List (Piece UInt8 Bytes × RtmpManager)}
    (taken : (handshakeLoop build).Route manager route)
    (pieces : EarlyReturn.pieces route = handshake.pieces)
    (shows : ∀ k, (EarlyReturn.behind manager (route.take k)).shakeHandStatus =
      handshake.stageAt k)
    {reads : List Bytes} (cut : reads.flatten = handshake.bytes n)
    (clean : handshake.cutsSkip n reads = false) :
    ((handshakeLoop build).consumer.feedAll (manager, []) reads).1.1.shakeHandStatus =
      handshake.stageAt
        ((handshake.pieces.take n).length - (handshake.leftBehind n reads).length) := by
  have within : EarlyReturn.pieces (route.take n) = handshake.pieces.take n := by
    rw [EarlyReturn.pieces_take, pieces]
  have length : (route.take n).length = (handshake.pieces.take n).length := by
    rw [← within]
    exact (List.length_map _).symm
  have inputs : reads.flatten = Piece.inputs (EarlyReturn.pieces (route.take n)) := by
    rw [within]
    exact cut
  have viewed := (taken.take n).view_eq inputs (by rw [within]; exact clean)
  rw [within, List.take_take, length, Nat.min_eq_left] at viewed
  · exact viewed.trans (shows _)
  · exact (Nat.sub_le _ _).trans (List.length_take_le _ _)

/-- **When two ways of cutting a handshake agree.** The first pieces of a handshake are read
in two ways, and authentication accepts. The handshake status, the replies and the unread
bytes are the same, no complete message waits and every skip takes the whole createStream
message, if and only if no read meets the skip elsewhere, the same pieces are left behind the
reads, and none of these is the last of a message. -/
theorem handshake_reads_agree_iff {build : Build}
    (handshake : Handshake build (RtmpCodec.initialChunkSize build)) (n : Nat)
    {connectionName : Bytes} {unset : UnsetMembers} {connectPack releasePack : RtmpPack}
    (atStart : unset.readChunkSize = 0) {environment another : ReadEnvironment}
    (accepts : environment.Accepts) (accepts' : another.Accepts) {one other : List Bytes}
    (cutOne : one.flatten = handshake.bytes n) (cutOther : other.flatten = handshake.bytes n)
    {first second : Publisher}
    (ranOne : (connecting build connectionName unset connectPack releasePack).readHandshake build
      environment one = .ok first)
    (ranOther : (connecting build connectionName unset connectPack releasePack).readHandshake
      build another other = .ok second) :
    (first.AtSamePoint second ∧ first.NoneWaits handshake n ∧ second.NoneWaits handshake n ∧
        ¬ (connecting build connectionName unset connectPack releasePack).SkipIsCut build
          environment one ∧
        ¬ (connecting build connectionName unset connectPack releasePack).SkipIsCut build
          another other) ↔
      handshake.cutsSkip n one = false ∧ handshake.cutsSkip n other = false ∧
        (handshake.leftBehind n one).length = (handshake.leftBehind n other).length ∧
        handshake.leavesMessage n one = false := by
  obtain ⟨after, ⟨route, taken, pieces, -, shows⟩, success⟩ :=
    @Handshake.route build _ handshake (.construct build unset connectPack releasePack) rfl
      (RtmpCodec.construct_ready build atStart)
  rw [handshake.messages_pieces] at pieces
  rw [show (handshakeLoop build).view after = .shakeSuccess from success] at shows
  have shaking := shaking_connecting build connectionName unset connectPack releasePack
  obtain ⟨shaken, cuts⟩ := shaking.readHandshake accepts ranOne
  obtain ⟨shaken', cuts'⟩ := shaking.readHandshake accepts' ranOther
  have within : EarlyReturn.pieces (route.take n) = handshake.pieces.take n := by
    rw [EarlyReturn.pieces_take, pieces]
  have inputs : Piece.inputs (EarlyReturn.pieces (route.take n)) = handshake.bytes n := by
    rw [within]
    rfl
  have agree := (taken.take n).agree_iff (cutOne.trans inputs.symm) (cutOther.trans inputs.symm)
  rw [within] at agree
  have made := shaken.replies
  have made' := shaken'.replies
  rw [List.nil_append] at made made'
  have same : (first.AtSamePoint second ∧
        ¬ (connecting build connectionName unset connectPack releasePack).SkipIsCut build
          environment one ∧
        ¬ (connecting build connectionName unset connectPack releasePack).SkipIsCut build
          another other) ↔
      handshake.cutsSkip n one = false ∧ handshake.cutsSkip n other = false ∧
        (handshake.leftBehind n one).length = (handshake.leftBehind n other).length := by
    rw [cuts, cuts', Handshake.cutsSkip, Handshake.cutsSkip, Handshake.leftBehind,
      Handshake.leftBehind, ← agree, ← shaken.recvBuffer, ← shaken'.recvBuffer,
      ← shaken.rtmpManager, ← shaken'.rtmpManager, ← made, ← made']
    constructor
    · rintro ⟨⟨status, replies, unread⟩, harmless⟩
      exact ⟨status, replies, unread, harmless⟩
    · rintro ⟨status, replies, unread, harmless⟩
      exact ⟨⟨status, replies, unread⟩, harmless⟩
  have waits (clean : handshake.cutsSkip n one = false) :
      first.NoneWaits handshake n ↔ handshake.leavesMessage n one = false := by
    have stage := handshake.stage_eq n taken pieces shows cutOne clean
    rw [NoneWaits, shaken.rtmpManager, stage, Handshake.leavesMessage, decide_eq_false_iff_not,
      not_not]
  constructor
  · rintro ⟨agreed, none, -, harmless⟩
    obtain ⟨clean, clean', left⟩ := same.mp ⟨agreed, harmless⟩
    exact ⟨clean, clean', left, (waits clean).mp none⟩
  · rintro ⟨clean, clean', left, all⟩
    obtain ⟨agreed, harmless⟩ := same.mpr ⟨clean, clean', left⟩
    have none := (waits clean).mpr all
    exact ⟨agreed, none, agreed.status.symm.trans none, harmless⟩

/-! ## One handshake, cut in two ways -/

/-- A handshake of short commands on one chunk stream. -/
def plainHandshake : Handshake .standard (RtmpCodec.initialChunkSize .standard) where
  c01 := List.replicate 1537 0
  c2 := List.replicate 1536 0
  command stage :=
    ⟨3, match stage with
      | .setChunkSize => plainSetChunkSize
      | .connect => plainConnect
      | .releaseStream => plainReleaseStream
      | .fcPublish => plainCommand 1
      | .createStream => plainCommand 2
      | .publish => plainCommand 3, by decide⟩
  c01_length := List.length_replicate
  c2_length := List.length_replicate
  compressed := ⟨rfl, trivial, trivial, trivial, trivial, trivial, trivial⟩
  createStream_length same := absurd same (by decide)

theorem plainHandshake_bytes :
    plainHandshake.bytes 8 = handshakeUpToRelease ++ handshakeFromFcPublish := by
  decide +kernel

/-- The publisher that sends it. -/
def plainPublisher : Publisher := connecting .standard [99] ⟨0, false, .zero, .zero⟩ .zero .zero

/-- No authentication. -/
def openEnvironment : ReadEnvironment := ⟨none, fun _ => 0, 0⟩

/-- The reads behind the releaseStream message, and another cut inside C0C1, agree and leave
nothing waiting. -/
theorem handshake_reads_agree_iff_plain :
    ∃ first second,
      plainPublisher.readHandshake .standard openEnvironment
          [handshakeUpToRelease, handshakeFromFcPublish] = .ok first ∧
        plainPublisher.readHandshake .standard openEnvironment
            [handshakeUpToRelease.take 100, handshakeUpToRelease.drop 100,
              handshakeFromFcPublish] = .ok second ∧
          first.AtSamePoint second ∧ first.NoneWaits plainHandshake 8 := by
  have ranOne : (plainPublisher.readHandshake .standard openEnvironment
      [handshakeUpToRelease, handshakeFromFcPublish]).toOption.any (fun _ => true) = true := by
    decide +kernel
  have ranOther : (plainPublisher.readHandshake .standard openEnvironment
      [handshakeUpToRelease.take 100, handshakeUpToRelease.drop 100,
        handshakeFromFcPublish]).toOption.any (fun _ => true) = true := by
    decide +kernel
  obtain ⟨first, ran, -⟩ := Machine.exists_of_any ranOne
  obtain ⟨second, ran', -⟩ := Machine.exists_of_any ranOther
  have accepts : openEnvironment.Accepts := fun callback there => nomatch there
  have cutOne : [handshakeUpToRelease, handshakeFromFcPublish].flatten =
      plainHandshake.bytes 8 := by
    simp [plainHandshake_bytes]
  have cutOther : [handshakeUpToRelease.take 100, handshakeUpToRelease.drop 100,
      handshakeFromFcPublish].flatten = plainHandshake.bytes 8 := by
    rw [plainHandshake_bytes, List.flatten_cons, List.flatten_cons, ← List.append_assoc,
      List.take_append_drop, List.flatten_singleton]
  have agree := handshake_reads_agree_iff plainHandshake 8 rfl accepts accepts cutOne cutOther
    ran ran'
  obtain ⟨same, none, -⟩ := agree.mpr (by decide +kernel)
  exact ⟨first, second, ran, ran', same, none⟩

/-- **The same handshake, read as a whole and cut behind releaseStream.** Read as a whole it
leaves FCPublish, createStream and publish unread; cut it succeeds. -/
theorem handshake_depends_on_reads :
    ∃ first second,
      plainPublisher.readHandshake .standard openEnvironment
          [handshakeUpToRelease ++ handshakeFromFcPublish] = .ok first ∧
        plainPublisher.readHandshake .standard openEnvironment
            [handshakeUpToRelease, handshakeFromFcPublish] = .ok second ∧
          first.pushConnection.rtmpManager.shakeHandStatus = .shakeRtmpFcPublish ∧
            first.recvBuffer = handshakeFromFcPublish ∧
            RtmpServer.start ∉ first.replies ∧
          second.pushConnection.rtmpManager.shakeHandStatus = .shakeSuccess ∧
            second.recvBuffer = [] ∧ RtmpServer.start ∈ second.replies := by
  have whole : (plainPublisher.readHandshake .standard openEnvironment
      [handshakeUpToRelease ++ handshakeFromFcPublish]).toOption.any (fun publisher =>
        decide (publisher.pushConnection.rtmpManager.shakeHandStatus = .shakeRtmpFcPublish ∧
          publisher.recvBuffer = handshakeFromFcPublish ∧
            RtmpServer.start ∉ publisher.replies)) = true := by
    decide +kernel
  have cut : (plainPublisher.readHandshake .standard openEnvironment
      [handshakeUpToRelease, handshakeFromFcPublish]).toOption.any (fun publisher =>
        decide (publisher.pushConnection.rtmpManager.shakeHandStatus = .shakeSuccess ∧
          publisher.recvBuffer = [] ∧ RtmpServer.start ∈ publisher.replies)) = true := by
    decide +kernel
  obtain ⟨first, ran, waits⟩ := Machine.exists_of_any whole
  obtain ⟨second, ran', succeeds⟩ := Machine.exists_of_any cut
  obtain ⟨status, unread, quiet⟩ := of_decide_eq_true waits
  exact ⟨first, second, ran, ran', status, unread, quiet, of_decide_eq_true succeeds⟩

end LiveBroadcast
