import LiveBroadcast.Live.CommandBodies
import LiveBroadcast.Live.ReceiveBuffer

/-!
# The order of the handshake

The status of the handshake is a member of `RtmpManager`, the replies are sent by
`RtmpPushConnection` for what `ParseShakeHand` returns, and the handler is replaced when the
handshake is over. The events here are what an observer of all three sees: each return of
`ParseShakeHand` with the bytes it took, each reply passed to `Send`, and the call of
`shake_hand_success_callback_`.

`Progress` says how the events of a handshake can go on: a stage is completed, then its
replies are passed on one by one, and only then the next stage can be completed. One round of
`ShakeHand` keeps it (`Progress.round`), so the loop does and a run of reads does.

**Main.** In every run whose reads return normally the replies are a prefix of the fixed
sequence, each behind the completion of its stage, the stages are completed in order, and the
callback is invoked once at most, behind all replies (`handshake_inOrder`). The replies among
the events are what the connection sends, until it is shut down (`sends_inOrder`).
-/

set_option autoImplicit false

namespace LiveBroadcast

open RtmpManager

/-! ## What is seen of a handshake -/

/-- What happens in the handshake of a publisher. -/
inductive HandshakeEvent where
  /-- `ParseShakeHand` returns this and has taken so many bytes. -/
  | reported (result : ShakeHandPackType) (consumed : Nat)
  /-- Bytes are passed to `Send`. -/
  | reply (data : Bytes)
  /-- `shake_hand_success_callback_` is invoked, with this path. -/
  | success (path : Bytes)
  deriving DecidableEq, Repr

namespace HandshakeEvent

def replyData : HandshakeEvent → Option Bytes
  | reply data => some data
  | _ => none

def completedStage : HandshakeEvent → Option ShakeHandPackType
  | reported result _ => if 0 < stagesLeft result then some result else none
  | _ => none

def successPath : HandshakeEvent → Option Bytes
  | success path => some path
  | _ => none

end HandshakeEvent

/-- The replies among the events. -/
def repliesOf (events : List HandshakeEvent) : List Bytes :=
  events.filterMap HandshakeEvent.replyData

/-- The stages that `ParseShakeHand` reported complete. -/
def completedOf (events : List HandshakeEvent) : List ShakeHandPackType :=
  events.filterMap HandshakeEvent.completedStage

/-- The paths that the success callback was invoked with. -/
def successesOf (events : List HandshakeEvent) : List Bytes :=
  events.filterMap HandshakeEvent.successPath

/-- The events of at most `fuel` rounds of `ShakeHand`. -/
def RtmpManager.shakeHandEvents (build : Build) : Nat → RtmpManager → Bytes → List HandshakeEvent
  | 0, _, _ => []
  | fuel + 1, manager, buffer =>
      let step := manager.parseShakeHand build buffer
      let report := .reported step.result (buffer.length - step.buffer.length)
      match shakeHandReturns step.result with
      | some _ => [report]
      | none => report :: (replies build step.result).map .reply ++
          shakeHandEvents build fuel step.manager step.buffer

/-- The replies among the events are those that `ShakeHand` sends. -/
theorem RtmpManager.shakeHandEvents_replies (build : Build) (fuel : Nat) (manager : RtmpManager)
    (buffer : Bytes) :
    repliesOf (manager.shakeHandEvents build fuel buffer) =
      (shakeHandLoop build fuel manager buffer).replies := by
  induction fuel generalizing manager buffer with
  | zero => rfl
  | succ fuel ih =>
      rw [shakeHandEvents, shakeHandLoop]
      cases goes : shakeHandReturns (manager.parseShakeHand build buffer).result with
      | some result => rfl
      | none =>
          have sent (answers : List Bytes) : repliesOf (answers.map .reply) = answers := by
            rw [repliesOf, List.filterMap_map]
            exact List.filterMap_some
          dsimp only
          rw [← ih, List.cons_append, repliesOf, List.filterMap_cons, List.filterMap_append]
          exact congrArg (· ++ _) (sent _)

namespace Publisher

/-- The handshake events of a read, apart from the callback. -/
def shakeHandEvents (build : Build) (publisher : Publisher) (data : Bytes) :
    List HandshakeEvent :=
  if publisher.connectionStatus = .disconnected then []
  else
    match publisher.newMessageCallback with
    | .onConnectionShakeHand =>
        let manager := publisher.pushConnection.rtmpManager
        manager.shakeHandEvents build (stagesLeft manager.shakeHandStatus + 1)
          (publisher.recvBuffer ++ data)
    | .onBodyData => []

/-- The handshake events of a read that returns normally. -/
def handshakeEvents (build : Build) (publisher : Publisher) (read : ReadEnvironment × Bytes) :
    List HandshakeEvent :=
  match publisher.onReadable build read.1 read.2 with
  | .error _ => []
  | .ok outcome =>
      publisher.shakeHandEvents build read.2 ++ outcome.registered.toList.map .success

/-- A publisher whose connection reads, one part of its bytes after the other. -/
def reading (build : Build) : Machine (Except Fault Publisher) (ReadEnvironment × Bytes) :=
  .faulting fun publisher read =>
    (publisher.onReadable build read.1 read.2).map ReadOutcome.publisher

/-- The handshake events of a read from what a run left. -/
def readingEvents (build : Build) (state : Except Fault Publisher)
    (read : ReadEnvironment × Bytes) : List HandshakeEvent :=
  match state with
  | .error _ => []
  | .ok publisher => publisher.handshakeEvents build read

end Publisher

/-! ## The order of the protocol -/

/-- The eight stages of the handshake. -/
def handshakeStages : List ShakeHandPackType :=
  [.shakeRtmpC01, .shakeRtmpC2, .shakeRtmpSetChunkSize, .shakeRtmpConnect,
    .shakeRtmpReleaseStream, .shakeRtmpFcPublish, .shakeRtmpCreateStream, .shakeRtmpPublish]

/-- The replies in the order of the protocol, each with the stage that it answers. -/
def replySequence : List (ShakeHandPackType × Bytes) :=
  [(.shakeRtmpC01, RtmpServer.s01), (.shakeRtmpC2, RtmpServer.s2),
    (.shakeRtmpConnect, RtmpServer.acknowledgeSize),
    (.shakeRtmpConnect, RtmpServer.peerBandwidth), (.shakeRtmpConnect, RtmpServer.setChunkSize),
    (.shakeRtmpConnect, RtmpServer.connectResult), (.shakeRtmpCreateStream, RtmpServer.result),
    (.shakeRtmpPublish, RtmpServer.start)]

/-- The events of a handshake that is at a stage now are in the order of the protocol. -/
structure InOrder (events : List HandshakeEvent) (status : ShakeHandPackType) : Prop where
  replies : repliesOf events <+: replySequence.map Prod.snd
  distinct : (repliesOf events).Nodup
  answers : ∀ before data, before ++ [.reply data] <+: events →
    ∃ stage consumed, replySequence[(repliesOf before).length]? = some (stage, data) ∧
      0 < consumed ∧ .reported stage consumed ∈ before
  stages : completedOf events ++ [status] <+: handshakeStages ++ [.shakeSuccess]
  once : (successesOf events).length ≤ 1
  atLast : ∀ before path, before ++ [.success path] <+: events →
    repliesOf before = replySequence.map Prod.snd

/-! ## How a handshake goes on -/

/-- The replies to a stage. -/
def answers (stage : ShakeHandPackType) : List (ShakeHandPackType × Bytes) :=
  (replies .standard stage).map (stage, ·)

/-- The events of a handshake that waits for a stage, with the replies that are still to be
passed on for the stage before. -/
inductive Progress :
    ShakeHandPackType → List (ShakeHandPackType × Bytes) → List HandshakeEvent → Prop where
  | start : Progress .shakeRtmpC01 [] []
  | idles {stage result : ShakeHandPackType} {events : List HandshakeEvent} {consumed : Nat}
      (so_far : Progress stage [] events) (other : stagesLeft result = 0) :
      Progress stage [] (events ++ [.reported result consumed])
  | completes {stage : ShakeHandPackType} {events : List HandshakeEvent} {consumed : Nat}
      (so_far : Progress stage [] events) (pending : 0 < stagesLeft stage)
      (took : 0 < consumed) :
      Progress (nextStage .standard stage) (answers stage) (events ++ [.reported stage consumed])
  | sends {stage : ShakeHandPackType} {answer : ShakeHandPackType × Bytes}
      {left : List (ShakeHandPackType × Bytes)} {events : List HandshakeEvent}
      (so_far : Progress stage (answer :: left) events) :
      Progress stage left (events ++ [.reply answer.2])

/-- The stages in front of one. -/
def stagesBefore (stage : ShakeHandPackType) : List ShakeHandPackType :=
  handshakeStages.take (8 - stagesLeft stage)

/-- The replies to the stages in front of one. -/
def answersBefore (stage : ShakeHandPackType) : List (ShakeHandPackType × Bytes) :=
  (stagesBefore stage).flatMap answers

theorem stagesBefore_next {stage : ShakeHandPackType} (pending : 0 < stagesLeft stage) :
    stagesBefore (nextStage .standard stage) = stagesBefore stage ++ [stage] := by
  cases stage with
  | shakeSuccess => exact absurd pending (Nat.lt_irrefl 0)
  | shakeFailed => exact absurd pending (Nat.lt_irrefl 0)
  | shakeDataNotEnough => exact absurd pending (Nat.lt_irrefl 0)
  | _ => rfl

theorem answersBefore_next {stage : ShakeHandPackType} (pending : 0 < stagesLeft stage) :
    answersBefore (nextStage .standard stage) = answersBefore stage ++ answers stage := by
  rw [answersBefore, stagesBefore_next pending, List.flatMap_append, List.flatMap_singleton]
  rfl

theorem answersBefore_le (stage : ShakeHandPackType) :
    answersBefore stage <+: replySequence := by
  have whole : handshakeStages.flatMap answers = replySequence := rfl
  obtain ⟨later, split⟩ := List.take_prefix (8 - stagesLeft stage) handshakeStages
  rw [← whole, ← split, List.flatMap_append]
  exact List.prefix_append _ _

/-- What the events of a handshake say about each other. -/
structure Ordered (stage : ShakeHandPackType) (left : List (ShakeHandPackType × Bytes))
    (events : List HandshakeEvent) : Prop where
  here : 0 < stagesLeft stage ∨ stage = .shakeSuccess
  completed : completedOf events = stagesBefore stage
  replies : repliesOf events ++ left.map Prod.snd = (answersBefore stage).map Prod.snd
  last : left <:+ answersBefore stage
  reported : ∀ answer ∈ left, ∃ consumed, 0 < consumed ∧ .reported answer.1 consumed ∈ events
  noSuccess : successesOf events = []

theorem filterMap_concat {β : Type} (view : HandshakeEvent → Option β)
    (events : List HandshakeEvent) (event : HandshakeEvent) :
    (events ++ [event]).filterMap view = events.filterMap view ++ (view event).toList := by
  rw [List.filterMap_append]
  cases seen : view event with
  | none => rw [List.filterMap_cons_none seen, List.filterMap_nil, Option.toList_none]
  | some value => rw [List.filterMap_cons_some seen, List.filterMap_nil, Option.toList_some]

/-- **A handshake that goes on by its rules is in order.** -/
theorem Progress.ordered {stage : ShakeHandPackType} {left : List (ShakeHandPackType × Bytes)}
    {events : List HandshakeEvent} (progress : Progress stage left events) :
    Ordered stage left events := by
  induction progress with
  | start =>
      exact ⟨.inl (Nat.succ_pos _), rfl, rfl, List.suffix_rfl, List.forall_mem_nil _, rfl⟩
  | @idles stage result events consumed _ other ih =>
      have quiet : HandshakeEvent.completedStage (.reported result consumed) = none :=
        if_neg (Nat.not_lt.mpr (Nat.le_of_eq other))
      refine ⟨ih.here, ?_, ?_, ih.last, List.forall_mem_nil _, ?_⟩
      · rw [completedOf, filterMap_concat, quiet, ← ih.completed]
        exact List.append_nil _
      · rw [repliesOf, filterMap_concat, ← ih.replies]
        exact congrArg (· ++ _) (List.append_nil _)
      · rw [successesOf, filterMap_concat, ← ih.noSuccess]
        exact List.append_nil _
  | @completes stage events consumed _ pending took ih =>
      have seen : HandshakeEvent.completedStage (.reported stage consumed) = some stage :=
        if_pos pending
      refine ⟨nextStage_pending pending, ?_, ?_, ?_, ?_, ?_⟩
      · rw [completedOf, filterMap_concat, seen, stagesBefore_next pending, ← ih.completed]
        rfl
      · rw [answersBefore_next pending, List.map_append, ← ih.replies, List.map_nil,
          List.append_nil, repliesOf, filterMap_concat]
        exact congrArg (· ++ _) (List.append_nil _)
      · rw [answersBefore_next pending]
        exact List.suffix_append _ _
      · intro answer member
        obtain ⟨data, -, rfl⟩ := List.mem_map.mp member
        exact ⟨consumed, took, List.mem_append_right _ List.mem_cons_self⟩
      · rw [successesOf, filterMap_concat, ← ih.noSuccess]
        exact List.append_nil _
  | @sends stage answer left events _ ih =>
      refine ⟨ih.here, ?_, ?_, (List.suffix_cons _ _).trans ih.last, ?_, ?_⟩
      · rw [completedOf, filterMap_concat, ← ih.completed]
        exact List.append_nil _
      · rw [← ih.replies, repliesOf, filterMap_concat, List.map_cons, List.append_cons]
        rfl
      · intro later member
        obtain ⟨consumed, took, earlier⟩ := ih.reported later (List.mem_cons_of_mem _ member)
        exact ⟨consumed, took, List.mem_append_left _ earlier⟩
      · rw [successesOf, filterMap_concat, ← ih.noSuccess]
        exact List.append_nil _

/-- What came before was a handshake that went on by its rules, too. -/
theorem Progress.before {stage : ShakeHandPackType} {left : List (ShakeHandPackType × Bytes)}
    {events before : List HandshakeEvent} (progress : Progress stage left events)
    (le : before <+: events) : ∃ stage left, Progress stage left before := by
  induction progress with
  | start =>
      obtain rfl := List.prefix_nil.mp le
      exact ⟨_, _, .start⟩
  | idles so_far other ih =>
      rcases List.prefix_concat_iff.mp le with rfl | shorter
      · exact ⟨_, _, .idles so_far other⟩
      · exact ih shorter
  | completes so_far pending took ih =>
      rcases List.prefix_concat_iff.mp le with rfl | shorter
      · exact ⟨_, _, .completes so_far pending took⟩
      · exact ih shorter
  | sends so_far ih =>
      rcases List.prefix_concat_iff.mp le with rfl | shorter
      · exact ⟨_, _, .sends so_far⟩
      · exact ih shorter

/-- A reply is passed on behind the completion of its stage. -/
theorem Progress.answered {stage : ShakeHandPackType} {left : List (ShakeHandPackType × Bytes)}
    {before : List HandshakeEvent} {data : Bytes}
    (progress : Progress stage left (before ++ [.reply data])) :
    ∃ stage consumed, replySequence[(repliesOf before).length]? = some (stage, data) ∧
      0 < consumed ∧ .reported stage consumed ∈ before := by
  generalize whole : before ++ [.reply data] = events at progress
  cases progress with
  | start => exact absurd whole (by simp)
  | idles so_far other => exact absurd (List.append_inj_right' whole rfl) (by simp)
  | completes so_far pending took => exact absurd (List.append_inj_right' whole rfl) (by simp)
  | @sends stage answer left events so_far =>
      obtain rfl := List.append_inj_left' whole rfl
      obtain ⟨rfl⟩ := HandshakeEvent.reply.inj (List.singleton_inj.mp
        (List.append_inj_right' whole rfl))
      have ordered := so_far.ordered
      obtain ⟨consumed, took, earlier⟩ := ordered.reported answer List.mem_cons_self
      refine ⟨answer.1, consumed, ?_, took, earlier⟩
      -- the reply is the first of those that are left
      obtain ⟨passed, split⟩ := ordered.last
      obtain ⟨later, whole⟩ := answersBefore_le stage
      have count : (repliesOf before).length = passed.length := by
        have total := congrArg List.length ordered.replies
        rw [← split] at total
        simp only [List.length_append, List.length_map] at total
        omega
      rw [← whole, ← split, count, List.append_assoc, List.getElem?_append_right (Nat.le_refl _),
        Nat.sub_self]
      rfl

/-- All replies that are left are passed on. -/
theorem Progress.sendsAll {stage : ShakeHandPackType}
    {left : List (ShakeHandPackType × Bytes)} {events : List HandshakeEvent}
    (progress : Progress stage left events) :
    Progress stage [] (events ++ left.map fun answer => .reply answer.2) := by
  induction left generalizing events with
  | nil =>
      rw [List.map_nil, List.append_nil]
      exact progress
  | cons answer left ih =>
      rw [List.map_cons, List.append_cons]
      exact ih progress.sends

/-! ## The code keeps to the rules -/

namespace RtmpManager

variable {build : Build} {manager : RtmpManager} {buffer : Bytes}

theorem parseBlock_took {stage next : ShakeHandPackType} {length : Nat} (positive : 0 < length)
    (other : stage ≠ .shakeDataNotEnough)
    (own : (manager.parseBlock buffer length stage next).result = stage) :
    (manager.parseBlock buffer length stage next).buffer.length < buffer.length := by
  rcases Nat.lt_or_ge buffer.length length with few | enough
  · rw [parseBlock, if_pos few] at own
    exact absurd own.symm other
  · exact parseBlock_shorter positive enough stage next

theorem parseMessage_took {keep : RtmpManager → RtmpPack → RtmpManager}
    {stage next : ShakeHandPackType} (pending : 0 < stagesLeft stage)
    (own : (manager.parseMessage buffer keep stage next).result = stage) :
    (manager.parseMessage buffer keep stage next).buffer.length < buffer.length := by
  rw [parseMessage_buffer]
  refine ChunkDecoder.decodePack_shorter fun nothing => ?_
  have parsed : (manager.parseHeaderAndBody buffer).2.2.1 = 0 := by
    simp only [parseHeaderAndBody, nothing, ite_self]
  simp only [parseMessage, parsed, Int.lt_irrefl, if_false, if_true] at own
  rw [← own] at pending
  exact absurd pending (Nat.lt_irrefl 0)

/-- **A stage that is reported complete took bytes.** -/
theorem parseShakeHand_took (pending : 0 < stagesLeft manager.shakeHandStatus)
    (own : (manager.parseShakeHand build buffer).result = manager.shakeHandStatus) :
    (manager.parseShakeHand build buffer).buffer.length < buffer.length := by
  cases status : manager.shakeHandStatus with
  | shakeRtmpC01 =>
      simp only [parseShakeHand, status] at own ⊢
      exact parseBlock_took (Nat.succ_pos _) ShakeHandPackType.noConfusion own
  | shakeRtmpC2 =>
      simp only [parseShakeHand, status] at own ⊢
      exact parseBlock_took (Nat.succ_pos _) ShakeHandPackType.noConfusion own
  | shakeRtmpCreateStream =>
      simp only [parseShakeHand, status] at own ⊢
      cases buffer with
      | nil => cases own
      | cons first rest =>
          by_cases skip : first = 0xc3
          · simp only [skip, if_true, List.length_drop, List.length_cons]
            omega
          · simp only [skip, if_false] at own ⊢
            exact parseMessage_took (Nat.succ_pos _) own
  | shakeFailed =>
      rw [status] at pending
      exact absurd pending (Nat.lt_irrefl 0)
  | shakeSuccess =>
      rw [status] at pending
      exact absurd pending (Nat.lt_irrefl 0)
  | shakeDataNotEnough =>
      rw [status] at pending
      exact absurd pending (Nat.lt_irrefl 0)
  | _ =>
      simp only [parseShakeHand, status] at own ⊢
      exact parseMessage_took (Nat.succ_pos _) own

end RtmpManager

/-- The events of one round of `ShakeHand`. -/
theorem Progress.round {manager : RtmpManager} {events : List HandshakeEvent}
    (progress : Progress manager.shakeHandStatus [] events) (buffer : Bytes) :
    Progress (manager.parseShakeHand .standard buffer).manager.shakeHandStatus []
      (events ++ .reported (manager.parseShakeHand .standard buffer).result
          (buffer.length - (manager.parseShakeHand .standard buffer).buffer.length) ::
        (replies .standard (manager.parseShakeHand .standard buffer).result).map .reply) := by
  rcases progress.ordered.here with pending | success
  · rcases @parseShakeHand_stage .standard manager pending buffer with
      ⟨waits, same⟩ | ⟨own, next⟩
    · have idle : stagesLeft .shakeDataNotEnough = 0 := rfl
      rw [waits, same]
      exact progress.idles idle
    · have took := parseShakeHand_took pending own
      have all := (progress.completes pending (Nat.sub_pos_of_lt took)).sendsAll
      rw [answers, List.map_map] at all
      rw [own, next, List.append_cons]
      exact all
  · have same : manager.parseShakeHand .standard buffer = ⟨manager, buffer, .shakeSuccess⟩ := by
      simp only [parseShakeHand, success]
    have idle : stagesLeft .shakeSuccess = 0 := rfl
    rw [same]
    exact progress.idles idle

/-- Where the loop of `ShakeHand` returns there are no replies. -/
theorem replies_of_returns {result : ShakeHandPackType} {returned : ShakeHandResult}
    (returns : shakeHandReturns result = some returned) : replies .standard result = [] := by
  cases result with
  | shakeRtmpReleaseStream => rfl
  | shakeSuccess => rfl
  | shakeFailed => rfl
  | shakeDataNotEnough => rfl
  | _ => cases returns

/-- **The loop of `ShakeHand` keeps to the rules.** -/
theorem Progress.loop {manager : RtmpManager} {events : List HandshakeEvent}
    (progress : Progress manager.shakeHandStatus [] events) (fuel : Nat) (buffer : Bytes) :
    Progress (shakeHandLoop .standard fuel manager buffer).manager.shakeHandStatus []
      (events ++ manager.shakeHandEvents .standard fuel buffer) := by
  induction fuel generalizing manager buffer events with
  | zero =>
      rw [shakeHandEvents, List.append_nil]
      exact progress
  | succ fuel ih =>
      have round := progress.round buffer
      rw [shakeHandLoop, shakeHandEvents]
      cases goes : shakeHandReturns (manager.parseShakeHand .standard buffer).result with
      | some returned =>
          rw [replies_of_returns goes] at round
          exact round
      | none =>
          have rest := ih round (manager.parseShakeHand .standard buffer).buffer
          rw [List.append_assoc] at rest
          exact rest

/-! ## Reads of a publisher -/

/-- Where a publisher is after some events: in its handshake, or behind it, with the callback
invoked last. -/
inductive Publisher.Follows (publisher : Publisher) (events : List HandshakeEvent) : Prop where
  | shaking (callback : publisher.newMessageCallback = .onConnectionShakeHand)
      (progress : Progress publisher.pushConnection.rtmpManager.shakeHandStatus [] events)
  | shaken {before : List HandshakeEvent} (path : Bytes)
      (callback : publisher.newMessageCallback = .onBodyData)
      (status : publisher.pushConnection.rtmpManager.shakeHandStatus = .shakeSuccess)
      (progress : Progress .shakeSuccess [] before) (whole : events = before ++ [.success path])

namespace Publisher

variable {publisher : Publisher} {events : List HandshakeEvent}

theorem onBodyData_rtmpManager (build : Build) (environment : ReadEnvironment)
    (publisher : Publisher) (buffer : Bytes) :
    (publisher.onBodyData build environment buffer).publisher.pushConnection.rtmpManager =
      (publisher.pushConnection.rtmpManager.parseData build buffer).manager :=
  RtmpPushConnection.parseData_rtmpManager build environment.unset publisher.pushConnection buffer

/-- A read of the handshake keeps the order. -/
theorem Follows.shakeHand (callback : publisher.newMessageCallback = .onConnectionShakeHand)
    (progress : Progress publisher.pushConnection.rtmpManager.shakeHandStatus [] events)
    {environment : ReadEnvironment} {buffer : Bytes} {outcome : ReadOutcome}
    (shaking : publisher.onConnectionShakeHand .standard environment buffer = .ok outcome) :
    outcome.publisher.Follows (events ++
      (publisher.pushConnection.rtmpManager.shakeHandEvents .standard
          (stagesLeft publisher.pushConnection.rtmpManager.shakeHandStatus + 1) buffer ++
        outcome.registered.toList.map .success)) := by
  have later := progress.loop (stagesLeft publisher.pushConnection.rtmpManager.shakeHandStatus + 1)
    buffer
  rw [← RtmpManager.shakeHand] at later
  have after := onConnectionShakeHand_pushConnection shaking
  by_cases success : (publisher.shakeHand .standard buffer).2 = .shakeSuccess
  · have status := shakeHand_succeeds publisher.pushConnection.rtmpManager buffer success
    obtain ⟨path, registered, same⟩ := onConnectionShakeHand_success shaking success
    rw [status] at later
    refine .shaken path (by rw [same]) (by rw [after]; exact status) later ?_
    rw [registered, List.append_assoc]
    rfl
  · obtain ⟨none, continues⟩ := onConnectionShakeHand_continues shaking success
    refine .shaking ?_ ?_
    · rw [continues.newMessageCallback, (shakeHand_continues _ _ _).newMessageCallback]
      exact callback
    · rw [after, none, Option.toList_none, List.map_nil, List.append_nil]
      exact later

/-- **A read keeps the order.** -/
theorem Follows.read (follows : publisher.Follows events) {read : ReadEnvironment × Bytes}
    {outcome : ReadOutcome}
    (made : publisher.onReadable .standard read.1 read.2 = .ok outcome) :
    outcome.publisher.Follows (events ++ publisher.handshakeEvents .standard read) := by
  simp only [handshakeEvents, made, shakeHandEvents]
  rcases onReadable_cases made with ⟨gone, rfl⟩ | ⟨there, callback, shaking⟩ |
    ⟨there, media, rfl⟩
  · rw [if_pos gone]
    exact (List.append_nil events).symm ▸ follows
  · rw [if_neg there, callback]
    cases follows with
    | shaking _ progress => exact Follows.shakeHand callback progress shaking
    | shaken _ media =>
        rw [media] at callback
        cases callback
  · rw [if_neg there, media]
    cases follows with
    | shaking callback =>
        rw [media] at callback
        cases callback
    | shaken path _ status progress whole =>
        refine .shaken path media ?_ progress ((List.append_nil events).trans whole)
        rw [onBodyData_rtmpManager]
        exact status

theorem reading_error (build : Build) (fault : Fault)
    (reads : List (ReadEnvironment × Bytes)) :
    (reading build).run (.error fault) reads = .error fault := by
  induction reads with
  | nil => rfl
  | cons read reads ih => exact ih

/-- What a read keeps, of a publisher and the events so far, a run of reads keeps. -/
theorem reading_keeps {build : Build} (Kept : Publisher → List HandshakeEvent → Prop)
    (step : ∀ {publisher events}, Kept publisher events → ∀ {read outcome},
      publisher.onReadable build read.1 read.2 = .ok outcome →
        Kept outcome.publisher (events ++ publisher.handshakeEvents build read))
    (start : Kept publisher events) {reads : List (ReadEnvironment × Bytes)} {after : Publisher}
    (made : (reading build).run (.ok publisher) reads = .ok after) :
    Kept after
      (events ++ (reading build).emitted (readingEvents build) (.ok publisher) reads) := by
  induction reads generalizing publisher events with
  | nil =>
      obtain rfl := Except.ok.inj made
      rw [Machine.emitted, List.append_nil]
      exact start
  | cons read reads ih =>
      rw [Machine.run_cons] at made
      rw [Machine.emitted, ← List.append_assoc]
      cases taken : publisher.onReadable build read.1 read.2 with
      | error fault =>
          have failed : (reading build).step (.ok publisher) read = .error fault := by
            simp only [reading, Machine.faulting, Except.bind, taken, Except.map]
          rw [failed, reading_error] at made
          cases made
      | ok outcome =>
          have next : (reading build).step (.ok publisher) read = .ok outcome.publisher := by
            simp only [reading, Machine.faulting, Except.bind, taken, Except.map]
          rw [next] at made ⊢
          exact ih (step start taken) made

end Publisher

/-! ## The order of all events -/

theorem replySequence_nodup : (replySequence.map Prod.snd).Nodup := by decide +kernel

/-- No success is among the events before the callback is invoked. -/
theorem Progress.noSuccess {stage : ShakeHandPackType}
    {left : List (ShakeHandPackType × Bytes)} {events before : List HandshakeEvent} {path : Bytes}
    (progress : Progress stage left events) : ¬ before ++ [.success path] <+: events := by
  intro le
  have here : path ∈ successesOf events :=
    List.mem_filterMap.mpr ⟨.success path, le.subset (by simp), rfl⟩
  rw [progress.ordered.noSuccess] at here
  exact List.not_mem_nil here

theorem Ordered.stages {stage : ShakeHandPackType} {left : List (ShakeHandPackType × Bytes)}
    {events : List HandshakeEvent} (ordered : Ordered stage left events) :
    completedOf events ++ [stage] <+: handshakeStages ++ [.shakeSuccess] := by
  rw [ordered.completed]
  rcases ordered.here with pending | rfl
  · rw [← stagesBefore_next pending]
    exact (List.take_prefix _ _).trans (List.prefix_append _ _)
  · exact List.prefix_rfl

/-- A handshake that waits for a stage is in order. -/
theorem Progress.inOrder {stage : ShakeHandPackType} {events : List HandshakeEvent}
    (progress : Progress stage [] events) : InOrder events stage := by
  have ordered := progress.ordered
  have replies : repliesOf events <+: replySequence.map Prod.snd := by
    have passed := ordered.replies
    rw [List.map_nil, List.append_nil] at passed
    rw [passed]
    exact (answersBefore_le stage).map Prod.snd
  refine ⟨replies, replySequence_nodup.sublist replies.sublist, ?_, ordered.stages, ?_, ?_⟩
  · intro before data le
    obtain ⟨stage, left, earlier⟩ := progress.before le
    exact earlier.answered
  · rw [ordered.noSuccess]
    exact Nat.zero_le 1
  · intro before path le
    exact absurd le progress.noSuccess

/-- The callback is invoked at the end of a handshake that is in order. -/
theorem Progress.inOrder_success {events : List HandshakeEvent}
    (progress : Progress .shakeSuccess [] events) (path : Bytes) :
    InOrder (events ++ [.success path]) .shakeSuccess := by
  have earlier := progress.inOrder
  have same : repliesOf (events ++ [.success path]) = repliesOf events := by
    rw [repliesOf, filterMap_concat]
    exact List.append_nil _
  refine ⟨same ▸ earlier.replies, same ▸ earlier.distinct, ?_, ?_, ?_, ?_⟩
  · intro before data le
    rcases List.prefix_concat_iff.mp le with whole | shorter
    · cases List.append_inj_right' whole rfl
    · exact earlier.answers before data shorter
  · rw [completedOf, filterMap_concat]
    exact (List.append_nil (completedOf events)).symm ▸ earlier.stages
  · rw [successesOf, filterMap_concat, ← successesOf, progress.ordered.noSuccess]
    exact Nat.le_refl 1
  · intro before other le
    rcases List.prefix_concat_iff.mp le with whole | shorter
    · obtain rfl := List.append_inj_left' whole rfl
      have passed := progress.ordered.replies
      rwa [List.map_nil, List.append_nil] at passed
    · exact absurd shorter progress.noSuccess

theorem Publisher.Follows.inOrder {publisher : Publisher} {events : List HandshakeEvent}
    (follows : publisher.Follows events) :
    InOrder events publisher.pushConnection.rtmpManager.shakeHandStatus := by
  cases follows with
  | shaking _ progress => exact progress.inOrder
  | shaken path _ status progress whole =>
      rw [status, whole]
      exact progress.inOrder_success path

/-- **The replies of the handshake come in the order of the protocol.** In every run of reads
that return normally, whatever the bytes and the answers of the authentication callback: the
replies passed to `Send` are a prefix of the fixed sequence; each is passed on once, behind the
completion of its stage, which took bytes; the stages are completed one after the other and
the status is the next; and the success callback is invoked at most once, behind all replies. -/
theorem handshake_inOrder (connectionName : Bytes) (unset : UnsetMembers)
    (connectPack releasePack : RtmpPack) {reads : List (ReadEnvironment × Bytes)}
    {publisher : Publisher}
    (normally : (Publisher.reading .standard).run
      (.ok (.new connectionName (.construct .standard unset connectPack releasePack))) reads =
        .ok publisher) :
    InOrder
      ((Publisher.reading .standard).emitted (Publisher.readingEvents .standard)
        (.ok (.new connectionName (.construct .standard unset connectPack releasePack))) reads)
      publisher.pushConnection.rtmpManager.shakeHandStatus :=
  (Publisher.reading_keeps Publisher.Follows Publisher.Follows.read (.shaking rfl .start)
    normally).inOrder

/-! ## The replies that are sent -/

/-- The connection sent these replies: all of them while it is up, and the first of them from its
shutdown on. -/
structure Publisher.SendsReplies (publisher : Publisher) (made : List Bytes) : Prop where
  le : publisher.replies <+: made
  up : publisher.connectionStatus = .connected → publisher.replies = made

namespace Publisher

variable {build : Build} {publisher after : Publisher} {made : List Bytes}

/-- Nothing more is sent, and a connection that is down stays down. -/
theorem SendsReplies.quiet (sends : publisher.SendsReplies made)
    (replies : after.replies = publisher.replies)
    (up : after.connectionStatus = .connected → publisher.connectionStatus = .connected) :
    after.SendsReplies made :=
  ⟨replies ▸ sends.le, fun connected => replies.trans (sends.up (up connected))⟩

theorem SendsReplies.record (sends : publisher.SendsReplies made)
    {effects : List PublisherEffect} (quiet : ∀ data, .send data ∉ effects) :
    (publisher.record effects).SendsReplies made := by
  refine sends.quiet ?_ id
  rw [replies, record_effects, List.filterMap_append]
  refine (congrArg (_ ++ ·) (List.filterMap_eq_nil_iff.mpr fun effect member => ?_)).trans
    (List.append_nil _)
  cases effect with
  | send data => exact absurd member (quiet data)
  | authenticated username password answer => rfl
  | shakeHandSuccess path => rfl
  | shutdown => rfl

theorem SendsReplies.shutdown (sends : publisher.SendsReplies made) :
    publisher.shutdown.SendsReplies made := by
  rw [Publisher.shutdown]
  split
  · have recorded : (publisher.record [.shutdown]).SendsReplies made := sends.record (by simp)
    exact recorded.quiet rfl (by simp)
  · exact sends

/-- The replies of `ShakeHand` are sent while the connection is up. -/
theorem SendsReplies.shakeHand (sends : publisher.SendsReplies made) (buffer : Bytes) :
    (publisher.shakeHand build buffer).1.SendsReplies
      (made ++ (publisher.pushConnection.rtmpManager.shakeHand build buffer).replies) := by
  by_cases up : publisher.connectionStatus = .connected
  · have sent : (publisher.shakeHand build buffer).1.replies = publisher.replies ++
        (publisher.pushConnection.rtmpManager.shakeHand build buffer).replies := by
      simp [Publisher.shakeHand, send, up, replies, List.filterMap_map]
    rw [sends.up up] at sent
    exact ⟨sent ▸ List.prefix_rfl, fun _ => sent⟩
  · have same : (publisher.shakeHand build buffer).1.replies = publisher.replies ∧
        (publisher.shakeHand build buffer).1.connectionStatus ≠ .connected := by
      simp [Publisher.shakeHand, send, up, replies]
    refine ⟨?_, fun connected => absurd connected same.2⟩
    rw [same.1]
    exact sends.le.trans (List.prefix_append _ _)

/-- `OnConnectionShakeHand` sends what `ShakeHand` does. -/
theorem SendsReplies.onConnectionShakeHand (sends : publisher.SendsReplies made)
    {environment : ReadEnvironment} {buffer : Bytes} {outcome : ReadOutcome}
    (shaking : publisher.onConnectionShakeHand build environment buffer = .ok outcome) :
    outcome.publisher.SendsReplies
      (made ++ (publisher.pushConnection.rtmpManager.shakeHand build buffer).replies) := by
  have shaken := @SendsReplies.shakeHand build _ _ sends buffer
  rcases onConnectionShakeHand_cases shaking with ⟨-, -, asked, answer, authenticated, left⟩ |
    ⟨-, path, -, left⟩ | ⟨-, -, left | ⟨-, left⟩⟩
  · have recorded : asked.SendsReplies (made ++
        (publisher.pushConnection.rtmpManager.shakeHand build buffer).replies) := by
      obtain ⟨username, -, ⟨rfl, -⟩ | ⟨-, password, -, -, rfl⟩⟩ :=
        authenticate_cases authenticated
      · exact shaken
      · exact shaken.record (by simp)
    rw [left]
    cases answer with
    | true => exact recorded
    | false => exact recorded.shutdown
  · rw [left]
    exact (shaken.record (by simp)).quiet rfl id
  · rw [left]
    exact shaken
  · rw [left]
    exact shaken.shutdown

/-- **A read sends the replies among its events.** -/
theorem SendsReplies.read {events : List HandshakeEvent}
    (sends : publisher.SendsReplies (repliesOf events)) {read : ReadEnvironment × Bytes}
    {outcome : ReadOutcome} (made : publisher.onReadable build read.1 read.2 = .ok outcome) :
    outcome.publisher.SendsReplies
      (repliesOf (events ++ publisher.handshakeEvents build read)) := by
  simp only [handshakeEvents, made, shakeHandEvents]
  rcases onReadable_cases made with ⟨gone, rfl⟩ | ⟨there, callback, shaking⟩ |
    ⟨there, media, rfl⟩
  · rw [if_pos gone]
    exact (List.append_nil events).symm ▸ sends
  · have noReply : repliesOf (outcome.registered.toList.map .success) = [] := by
      cases outcome.registered with
      | none => rfl
      | some path => rfl
    have shaken := sends.onConnectionShakeHand shaking
    rw [RtmpManager.shakeHand, ← shakeHandEvents_replies] at shaken
    rw [if_neg there, callback]
    simp only [repliesOf, List.filterMap_append] at noReply shaken ⊢
    rwa [noReply, List.append_nil]
  · rw [if_neg there, media]
    exact (List.append_nil events).symm ▸ sends.quiet rfl id

end Publisher

/-- **What a publisher is sent is in the order of the protocol.** In every run of reads that
return normally the connection sends the replies of its handshake, a prefix of the fixed
sequence, until it is shut down. -/
theorem sends_inOrder (connectionName : Bytes) (unset : UnsetMembers)
    (connectPack releasePack : RtmpPack) {reads : List (ReadEnvironment × Bytes)}
    {publisher : Publisher}
    (normally : (Publisher.reading .standard).run
      (.ok (.new connectionName (.construct .standard unset connectPack releasePack))) reads =
        .ok publisher) :
    publisher.SendsReplies (repliesOf
        ((Publisher.reading .standard).emitted (Publisher.readingEvents .standard)
          (.ok (.new connectionName (.construct .standard unset connectPack releasePack)))
          reads)) ∧
      publisher.replies <+: replySequence.map Prod.snd := by
  have start : (Publisher.new connectionName (.construct .standard unset connectPack
      releasePack)).SendsReplies (repliesOf []) := ⟨List.prefix_rfl, fun _ => rfl⟩
  have sends := Publisher.reading_keeps
    (fun publisher events => publisher.SendsReplies (repliesOf events))
    Publisher.SendsReplies.read start normally
  have follows := Publisher.reading_keeps Publisher.Follows Publisher.Follows.read
    (.shaking rfl .start) normally
  exact ⟨sends, sends.le.trans follows.inOrder.replies⟩

/-- The reads of a short handshake, under a callback that refuses the publisher. -/
def refusedReads : List (ReadEnvironment × Bytes) :=
  [(⟨some fun _ _ => false, fun _ => 0, 0⟩, handshakeUpToRelease),
    (⟨some fun _ _ => false, fun _ => 0, 0⟩, handshakeFromFcPublish)]

/-- Even a publisher that is refused can complete its handshake, and in order. -/
theorem handshake_inOrder_refused :
    ∃ publisher, (Publisher.reading .standard).run
        (.ok (.new [] (.construct .standard ⟨0, false, .zero, .zero⟩ .zero .zero)))
        refusedReads = .ok publisher ∧
      publisher.pushConnection.rtmpManager.shakeHandStatus = .shakeSuccess ∧
      InOrder
        ((Publisher.reading .standard).emitted (Publisher.readingEvents .standard)
          (.ok (.new [] (.construct .standard ⟨0, false, .zero, .zero⟩ .zero .zero)))
          refusedReads)
        publisher.pushConnection.rtmpManager.shakeHandStatus := by
  have ran : ((Publisher.reading .standard).run
      (.ok (.new [] (.construct .standard ⟨0, false, .zero, .zero⟩ .zero .zero)))
      refusedReads).toOption.any (fun publisher =>
        decide (publisher.pushConnection.rtmpManager.shakeHandStatus = .shakeSuccess)) = true := by
    decide +kernel
  obtain ⟨publisher, normally, status⟩ := Machine.exists_of_any ran
  exact ⟨publisher, normally, of_decide_eq_true status,
    handshake_inOrder [] ⟨0, false, .zero, .zero⟩ .zero .zero normally⟩

end LiveBroadcast
