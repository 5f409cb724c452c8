import LiveBroadcast.Live.PublisherRuns
import LiveBroadcast.Utils.Buffer

/-!
# The receive buffer of a publisher

`OnReadable` takes a result of 0 from `ReadFromSockfd` for the end of the stream. The result is
also 0 when the receive buffer is full, since it never grows. So a handler that returned from
a full buffer without taking a byte would close a connection that is open.

No handler of a publisher does. Each takes bytes from the front of the buffer
(`shakeHand_leads`, `decodeData_leads`). The handshake waits for at most 1537 bytes, and a call
of `DecodePack` waits for a chunk header only (`shakeHand_shorter`); the media phase waits for
1000 bytes at first and for a chunk header later (`decodeData_unread`).

`BufferedServer` is the servers with a `Buffer` for each publisher. In all its runs every buffer
has room for a byte (`receive_buffer_not_full`).
-/

set_option autoImplicit false

namespace LiveBroadcast

open RtmpManager

/-! ## Handlers take bytes from the front -/

namespace ChunkDecoder

theorem decodePackBody_suffix (decoder : ChunkDecoder) (buffer : Bytes) (readLength : Int) :
    (decoder.decodePackBody buffer readLength).buffer <:+ buffer := by
  cases status : decoder.decodePackStatus with
  | parseRtmpHeader =>
      exact (decodePackBody_inHeader buffer readLength status) ▸ List.suffix_rfl
  | parseRtmpBody =>
      rcases Nat.lt_or_ge buffer.length decoder.chunkNeed with short | enough
      · rw [decodePackBody_short _ status short]
        exact List.nil_suffix
      · rw [decodePackBody_enough _ status enough]
        exact List.drop_suffix _ _

theorem decodePack_suffix (decoder : ChunkDecoder) (buffer : Bytes) :
    (decoder.decodePack buffer).buffer <:+ buffer := by
  cases buffer with
  | nil => exact List.suffix_rfl
  | cons first rest =>
      cases status : decoder.decodePackStatus with
      | parseRtmpBody =>
          rw [decodePack_inBody status (List.cons_ne_nil _ _)]
          exact decodePackBody_suffix _ _ _
      | parseRtmpHeader =>
          by_cases whole : RtmpPack.HeaderComplete (first :: rest)
          · rw [decodePack_header status whole]
            exact (decodePackBody_suffix _ _ _).trans (List.drop_suffix _ _)
          · exact (decodePack_cut status whole) ▸ List.suffix_rfl

end ChunkDecoder

/-- What a handler leaves unread is a suffix of what it found. -/
theorem suffix_of_leads {state after : ChunkDecoder × Bytes}
    (leads : decoding.LeadsBy BufferEvent.Takes state after) : after.2 <:+ state.2 := by
  refine @Machine.LeadsBy.keeps _ _ decoding (fun later => later.2 <:+ state.2) _ ?_ _ _ leads
    List.suffix_rfl
  intro between event takes suffix
  cases event with
  | readFromSockfd data => exact takes.elim
  | addReadIndex length => exact (List.drop_suffix _ _).trans suffix
  | decodePack => exact (ChunkDecoder.decodePack_suffix _ _).trans suffix

namespace RtmpManager

variable {build : Build} {manager : RtmpManager}

theorem shakeHand_suffix (manager : RtmpManager) (buffer : Bytes) :
    (manager.shakeHand build buffer).buffer <:+ buffer :=
  suffix_of_leads (shakeHand_leads manager buffer)

/-! ## The stages of the handshake -/

/-- The stage behind one of the eight stages of the handshake. -/
def nextStage (build : Build) : ShakeHandPackType → ShakeHandPackType
  | .shakeRtmpC01 => .shakeRtmpC2
  | .shakeRtmpC2 => if build.monitorMode then .shakeRtmpConnect else .shakeRtmpSetChunkSize
  | .shakeRtmpSetChunkSize => .shakeRtmpConnect
  | .shakeRtmpConnect => .shakeRtmpReleaseStream
  | .shakeRtmpReleaseStream => .shakeRtmpFcPublish
  | .shakeRtmpFcPublish => .shakeRtmpCreateStream
  | .shakeRtmpCreateStream => .shakeRtmpPublish
  | .shakeRtmpPublish => .shakeSuccess
  | stage => stage

theorem nextStage_pending {stage : ShakeHandPackType} (pending : 0 < stagesLeft stage) :
    0 < stagesLeft (nextStage build stage) ∨ nextStage build stage = .shakeSuccess := by
  cases stage with
  | shakeRtmpC2 =>
      refine .inl ?_
      rw [nextStage]
      split
      · exact Nat.succ_pos _
      · exact Nat.succ_pos _
  | shakeRtmpPublish => exact .inr rfl
  | shakeSuccess => exact .inr rfl
  | shakeFailed => exact absurd pending (Nat.lt_irrefl 0)
  | shakeDataNotEnough => exact absurd pending (Nat.lt_irrefl 0)
  | _ => exact .inl (Nat.succ_pos _)

/-- The one stage that `ShakeHand` returns behind is not the last. -/
theorem nextStage_of_returns {stage : ShakeHandPackType} {result : ShakeHandResult}
    (pending : 0 < stagesLeft stage) (returns : shakeHandReturns stage = some result) :
    0 < stagesLeft (nextStage build stage) := by
  cases stage with
  | shakeRtmpReleaseStream => exact Nat.succ_pos _
  | shakeSuccess => exact absurd pending (Nat.lt_irrefl 0)
  | shakeFailed => exact absurd pending (Nat.lt_irrefl 0)
  | shakeDataNotEnough => exact absurd pending (Nat.lt_irrefl 0)
  | _ => cases returns

/-- A call at a stage waits there, or finishes it. -/
def StageCall (stage next : ShakeHandPackType) (call : ParseShakeHandResult) : Prop :=
  call.result = .shakeDataNotEnough ∧ call.manager.shakeHandStatus = stage ∨
    call.result = stage ∧ call.manager.shakeHandStatus = next

theorem parseBlock_stage {stage : ShakeHandPackType} (here : manager.shakeHandStatus = stage)
    (buffer : Bytes) (length : Nat) (next : ShakeHandPackType) :
    StageCall stage next (manager.parseBlock buffer length stage next) := by
  rw [parseBlock]
  split
  · exact .inl ⟨rfl, here⟩
  · exact .inr ⟨rfl, rfl⟩

/-- A message is finished, or more bytes are needed: `DecodePack` reports no errors. -/
theorem parseMessage_stage {stage : ShakeHandPackType} (here : manager.shakeHandStatus = stage)
    (buffer : Bytes) {keep : RtmpManager → RtmpPack → RtmpManager} (next : ShakeHandPackType)
    (kept : ∀ manager pack, (keep manager pack).shakeHandStatus = manager.shakeHandStatus) :
    StageCall stage next (manager.parseMessage buffer keep stage next) := by
  have returned := (ChunkDecoder.decodePack_length manager.rtmpCodec.toChunkDecoder buffer).2
  have parsed : 0 ≤ (manager.parseHeaderAndBody buffer).2.2.1 := by
    rw [parseHeaderAndBody]
    dsimp only
    split
    · exact returned
    · exact Int.le_refl _
  simp only [parseMessage]
  split
  · exact .inr ⟨rfl, rfl⟩
  · next not_positive =>
      rw [if_pos (Int.le_antisymm (Int.not_lt.mp not_positive) parsed)]
      refine .inl ⟨rfl, ?_⟩
      exact (kept _ _).trans here

/-- **A call of `ParseShakeHand`** finishes its stage or waits. -/
theorem parseShakeHand_stage (pending : 0 < stagesLeft manager.shakeHandStatus) (buffer : Bytes) :
    StageCall manager.shakeHandStatus (nextStage build manager.shakeHandStatus)
      (manager.parseShakeHand build buffer) := by
  cases status : manager.shakeHandStatus with
  | shakeRtmpC01 =>
      simp only [parseShakeHand, status]
      exact parseBlock_stage status buffer _ _
  | shakeRtmpC2 =>
      simp only [parseShakeHand, status]
      exact parseBlock_stage status buffer _ _
  | shakeRtmpCreateStream =>
      simp only [parseShakeHand, status]
      cases buffer with
      | nil => exact .inl ⟨rfl, status⟩
      | cons first rest =>
          dsimp only
          by_cases skip : first = 0xc3
          · rw [if_pos skip]
            exact .inr ⟨rfl, rfl⟩
          · rw [if_neg skip]
            exact parseMessage_stage status (first :: rest) _ fun _ _ => rfl
  | shakeFailed =>
      rw [status] at pending
      exact absurd pending (Nat.lt_irrefl 0)
  | shakeSuccess =>
      rw [status] at pending
      exact absurd pending (Nat.lt_irrefl 0)
  | shakeDataNotEnough =>
      rw [status] at pending
      exact absurd pending (Nat.lt_irrefl 0)
  | _ =>
      simp only [parseShakeHand, status]
      exact parseMessage_stage status buffer _ fun _ _ => rfl

/-- **`ShakeHand` returns at a stage of the handshake**, or with a success. -/
theorem shakeHand_pending (build : Build) (manager : RtmpManager) (buffer : Bytes)
    (pending : 0 < stagesLeft manager.shakeHandStatus ∨ manager.shakeHandStatus = .shakeSuccess) :
    (manager.shakeHand build buffer).result = .shakeSuccess ∨
      0 < stagesLeft (manager.shakeHand build buffer).manager.shakeHandStatus := by
  revert pending
  refine @shakeHand_induction build (fun manager _ outcome =>
    0 < stagesLeft manager.shakeHandStatus ∨ manager.shakeHandStatus = .shakeSuccess →
      outcome.result = .shakeSuccess ∨ 0 < stagesLeft outcome.manager.shakeHandStatus)
    ?_ ?_ manager buffer
  · intro manager buffer result returns pending
    rcases pending with pending | success
    · rcases @parseShakeHand_stage build manager pending buffer with ⟨-, same⟩ | ⟨own, next⟩
      · exact .inr (same ▸ pending)
      · rw [own] at returns
        exact .inr (next ▸ nextStage_of_returns pending returns)
    · simp only [parseShakeHand, success] at returns
      exact .inl (Option.some.inj returns).symm
  · intro manager buffer goes rest pending
    rw [shakeHand_goes goes]
    refine rest ?_
    rcases pending with pending | success
    · rcases @parseShakeHand_stage build manager pending buffer with ⟨waits, -⟩ | ⟨-, next⟩
      · rw [waits] at goes
        cases goes
      · exact next ▸ nextStage_pending pending
    · simp only [parseShakeHand, success] at goes
      cases goes

/-! ## A long buffer becomes shorter -/

theorem parseBlock_shorter {buffer : Bytes} {length : Nat} (positive : 0 < length)
    (enough : length ≤ buffer.length) (stage next : ShakeHandPackType) :
    (manager.parseBlock buffer length stage next).buffer.length < buffer.length := by
  rw [parseBlock, if_neg (Nat.not_lt.mpr enough), List.length_drop]
  omega

theorem parseMessage_buffer (manager : RtmpManager) (buffer : Bytes)
    (keep : RtmpManager → RtmpPack → RtmpManager) (stage next : ShakeHandPackType) :
    (manager.parseMessage buffer keep stage next).buffer =
      (manager.rtmpCodec.decodePack buffer).buffer := by
  simp only [parseMessage]
  split
  · rfl
  · split
    · rfl
    · rfl

theorem parseMessage_shorter (sane : manager.rtmpCodec.toChunkDecoder.Sane) {buffer : Bytes}
    (enough : 12 ≤ buffer.length) (keep : RtmpManager → RtmpPack → RtmpManager)
    (stage next : ShakeHandPackType) :
    (manager.parseMessage buffer keep stage next).buffer.length < buffer.length := by
  rw [parseMessage_buffer]
  refine ChunkDecoder.decodePack_shorter fun stops => ?_
  have few := (sane.call_stops stops).2.2.length_lt
  omega

/-- **A call of `ParseShakeHand` with 1537 bytes** takes some of them. -/
theorem parseShakeHand_shorter (sane : manager.rtmpCodec.toChunkDecoder.Sane)
    (pending : 0 < stagesLeft manager.shakeHandStatus) {buffer : Bytes}
    (enough : 1537 ≤ buffer.length) :
    (manager.parseShakeHand build buffer).buffer.length < buffer.length := by
  cases status : manager.shakeHandStatus with
  | shakeRtmpC01 =>
      simp only [parseShakeHand, status]
      exact parseBlock_shorter (by decide) enough _ _
  | shakeRtmpC2 =>
      simp only [parseShakeHand, status]
      exact parseBlock_shorter (by decide) (Nat.le_of_succ_le enough) _ _
  | shakeRtmpCreateStream =>
      simp only [parseShakeHand, status]
      cases buffer with
      | nil => exact absurd enough (Nat.not_succ_le_zero _)
      | cons first rest =>
          by_cases skip : first = 0xc3
          · simp only [skip, if_true, List.length_drop, List.length_cons]
            omega
          · simp only [skip, if_false]
            exact parseMessage_shorter sane (Nat.le_trans (by decide) enough) _ _ _
  | shakeFailed =>
      rw [status] at pending
      exact absurd pending (Nat.lt_irrefl 0)
  | shakeSuccess =>
      rw [status] at pending
      exact absurd pending (Nat.lt_irrefl 0)
  | shakeDataNotEnough =>
      rw [status] at pending
      exact absurd pending (Nat.lt_irrefl 0)
  | _ =>
      simp only [parseShakeHand, status]
      exact parseMessage_shorter sane (Nat.le_trans (by decide) enough) _ _ _

/-- **`ShakeHand` with 1537 bytes** takes some of them. -/
theorem shakeHand_shorter (sane : manager.rtmpCodec.toChunkDecoder.Sane)
    (pending : 0 < stagesLeft manager.shakeHandStatus) {buffer : Bytes}
    (enough : 1537 ≤ buffer.length) :
    (manager.shakeHand build buffer).buffer.length < buffer.length := by
  have first := @parseShakeHand_shorter build manager sane pending buffer enough
  cases goes : shakeHandReturns (manager.parseShakeHand build buffer).result with
  | some result =>
      rw [shakeHand_returns goes]
      exact first
  | none =>
      rw [shakeHand_goes goes]
      exact Nat.lt_of_le_of_lt (shakeHand_suffix _ _).length_le first

end RtmpManager

/-- **What the media phase leaves unread**: the bytes of a first phase that waits for more, or
nothing that could be decoded. -/
theorem RtmpCodec.decodeData_left {build : Build} {codec : RtmpCodec}
    (sane : codec.toChunkDecoder.Sane) (settled : codec.toHeaderPhase.Settled build)
    (buffer : Bytes) :
    (codec.decodeData build buffer).codec.decodeDataStatus = .parseFirstHeader ∧
        (codec.decodeData build buffer).buffer.length < startParseLength ∨
      (codec.decodeData build buffer).codec.toChunkDecoder.Starved
        (codec.decodeData build buffer).buffer := by
  cases status : codec.decodeDataStatus with
  | parseDataPack =>
      obtain ⟨drained, unread, -⟩ := @decodeData_data build codec status buffer
      rw [drained, unread]
      exact .inr (sane.drain_starved buffer)
  | parseFirstHeader =>
      rcases Nat.lt_or_ge buffer.length startParseLength with few | enough
      · obtain ⟨same, unread, -⟩ := @decodeData_waits build codec status buffer few
        rw [same, unread]
        exact .inl ⟨status, few⟩
      · obtain ⟨drained, unread, -⟩ :=
          @decodeData_headers build codec sane status (settled.missing status) buffer enough
        rw [drained, unread]
        exact .inr (sane.drain_starved buffer)

/-- That is fewer than 1000 bytes. -/
theorem RtmpCodec.decodeData_unread {build : Build} {codec : RtmpCodec}
    (sane : codec.toChunkDecoder.Sane) (settled : codec.toHeaderPhase.Settled build)
    (buffer : Bytes) :
    (codec.decodeData build buffer).buffer.length < startParseLength := by
  rcases decodeData_left sane settled buffer with ⟨-, few⟩ | starved
  · exact few
  · exact Nat.lt_trans starved.length_lt (by decide)

/-! ## Reads of a publisher -/

namespace Publisher

variable {build : Build} {environment : ReadEnvironment} {publisher : Publisher}

/-- What a handler finds: a decoder in range, a phase that says which headers are missing, and a
stage of the handshake until the media phase. -/
structure Receiving (build : Build) (publisher : Publisher) : Prop where
  sane : publisher.codec.toChunkDecoder.Sane
  settled : publisher.codec.toHeaderPhase.Settled build
  pending : publisher.newMessageCallback = .onConnectionShakeHand →
    0 < stagesLeft publisher.pushConnection.rtmpManager.shakeHandStatus

/-- What `newmessage_callback_` leaves unread. -/
def leaves (build : Build) (publisher : Publisher) (buffer : Bytes) : Bytes :=
  match publisher.newMessageCallback with
  | .onConnectionShakeHand => (publisher.pushConnection.rtmpManager.shakeHand build buffer).buffer
  | .onBodyData => (publisher.codec.decodeData build buffer).buffer

theorem onReadable_recvBuffer {data : Bytes} {outcome : ReadOutcome}
    (there : publisher.connectionStatus ≠ .disconnected)
    (read : publisher.onReadable build environment data = .ok outcome) :
    outcome.publisher.recvBuffer = publisher.leaves build (publisher.recvBuffer ++ data) := by
  rcases onReadable_cases read with ⟨gone, -⟩ | ⟨-, callback, shaking⟩ | ⟨-, media, rfl⟩
  · exact absurd gone there
  · have state := (onConnectionShakeHand_decoderState shaking).trans
      (shakeHand_decoderState build publisher _)
    simp only [leaves, callback]
    exact congrArg Prod.snd state
  · simp only [leaves, media, onBodyData, RtmpPushConnection.parseData]
    cases (publisher.pushConnection.rtmpManager.parseData build
      (publisher.recvBuffer ++ data)).newRtmpPack <;> rfl

theorem leaves_suffix (publisher : Publisher) (buffer : Bytes) :
    publisher.leaves build buffer <:+ buffer := by
  rw [leaves]
  cases publisher.newMessageCallback with
  | onConnectionShakeHand => exact shakeHand_suffix _ _
  | onBodyData => exact suffix_of_leads (RtmpCodec.decodeData_leads build publisher.codec buffer)

/-- **No handler leaves a full buffer.** -/
theorem Receiving.leaves_lt (receiving : publisher.Receiving build) {buffer : Bytes}
    (fits : buffer.length ≤ defaultBufferSize) :
    (publisher.leaves build buffer).length < defaultBufferSize := by
  rw [leaves]
  cases callback : publisher.newMessageCallback with
  | onConnectionShakeHand =>
      rcases Nat.lt_or_eq_of_le fits with less | full
      · exact Nat.lt_of_le_of_lt (shakeHand_suffix _ _).length_le less
      · rw [← full]
        refine shakeHand_shorter receiving.sane (receiving.pending callback) ?_
        rw [full]
        decide
  | onBodyData =>
      have few := RtmpCodec.decodeData_unread receiving.sane receiving.settled buffer
      exact Nat.lt_trans few (by decide)

/-- A read leaves the handshake at one of its stages, or ends it. -/
theorem onReadable_pending {data : Bytes} {outcome : ReadOutcome}
    (pending : publisher.newMessageCallback = .onConnectionShakeHand →
      0 < stagesLeft publisher.pushConnection.rtmpManager.shakeHandStatus)
    (read : publisher.onReadable build environment data = .ok outcome) :
    outcome.publisher.newMessageCallback = .onConnectionShakeHand →
      0 < stagesLeft outcome.publisher.pushConnection.rtmpManager.shakeHandStatus := by
  rcases onReadable_cases read with ⟨-, rfl⟩ | ⟨-, callback, shaking⟩ | ⟨-, media, rfl⟩
  · exact pending
  · intro still
    rw [onConnectionShakeHand_pushConnection shaking]
    have returned := shakeHand_pending build publisher.pushConnection.rtmpManager
      (publisher.recvBuffer ++ data) (.inl (pending callback))
    refine returned.resolve_left fun success => ?_
    obtain ⟨path, -, after⟩ := onConnectionShakeHand_success shaking success
    rw [after] at still
    cases still
  · intro still
    exact absurd (media.symm.trans still) (by simp)

end Publisher

/-! ## The servers with their buffers -/

/-- The bytes that a publisher has received and not read. -/
def LiveServer.unread (server : LiveServer) (id : Nat) : Bytes :=
  match server.publishers id with
  | none => []
  | some publisher => publisher.recvBuffer

theorem LiveServer.unread_of_publisher {server : LiveServer} {id : Nat} {publisher : Publisher}
    (known : server.publishers id = some publisher) : server.unread id = publisher.recvBuffer := by
  rw [unread, known]

/-- Only a read changes what is unread. -/
theorem LiveServer.unread_of_other {build : Build} {server next : LiveServer} {event : LiveEvent}
    (other : ∀ id arrived environment, event ≠ .readable id arrived environment)
    (made : server.step build event = .ok next) (id : Nat) : next.unread id = server.unread id := by
  cases known : server.publishers id with
  | some publisher =>
      obtain ⟨later, there, changes⟩ := step_changes made known
      rw [unread_of_publisher there, unread_of_publisher known]
      cases changes with
      | reads read => exact absurd rfl (other _ _ _)
      | _ => rfl
  | none =>
      cases there : next.publishers id with
      | none => rw [unread, unread, known, there]
      | some later =>
          rcases step_publisher made there with
            ⟨-, name, unset, connect, release, -, rfl⟩ | ⟨earlier, found, -⟩
          · rw [unread, unread, known, there]
            rfl
          · rw [known] at found
            cases found

/-- The servers, with the receive buffer of each publisher's connection. A buffer is new until
its connection is made. -/
structure BufferedServer where
  server : LiveServer
  recvBuffer : Nat → Buffer

namespace BufferedServer

def empty : BufferedServer := ⟨.empty, fun _ => .new⟩

/-- `TcpConnection::OnReadable` for a publisher whose socket holds the bytes `arrived`. The
callback gets what was read and moves the read index to what it leaves unread. A result of 0
closes the connection. -/
def onReadable (build : Build) (state : BufferedServer) (id : Nat) (arrived : Bytes)
    (environment : ReadEnvironment) : Except Fault BufferedServer :=
  match state.server.publishers id with
  | none => .ok state
  | some publisher =>
      if publisher.connectionStatus = .disconnected then .ok state
      else
        let read := (state.recvBuffer id).readFromSockfd arrived
        if 0 < read.2 then do
          let server ← state.server.onReadable build id (arrived.take read.2) environment
          let taken := read.1.readableLength - (server.unread id).length
          return ⟨server, Function.update state.recvBuffer id (read.1.addReadIndex taken)⟩
        else .ok ⟨state.server.onClose id, Function.update state.recvBuffer id read.1⟩

/-- One call from a loop; the bytes of a `readable` event are those that have arrived. -/
def step (build : Build) (state : BufferedServer) (event : LiveEvent) :
    Except Fault BufferedServer :=
  match event with
  | .readable id arrived environment => state.onReadable build id arrived environment
  | event => (state.server.step build event).map fun server => { state with server := server }

def machine (build : Build) : Machine (Except Fault BufferedServer) LiveEvent :=
  .faulting (step build)

variable {build : Build} {state next : BufferedServer}

theorem step_other {event : LiveEvent}
    (other : ∀ id arrived environment, event ≠ .readable id arrived environment)
    (made : state.step build event = .ok next) :
    ∃ server, state.server.step build event = .ok server ∧
      next = { state with server := server } := by
  have passed : (state.server.step build event).map (fun server =>
      { state with server := server }) = .ok next := by
    cases event with
    | readable id arrived environment => exact absurd rfl (other id arrived environment)
    | _ => exact made
  cases reached : state.server.step build event with
  | error fault =>
      rw [reached] at passed
      cases passed
  | ok server =>
      rw [reached] at passed
      exact ⟨server, rfl, (Except.ok.inj passed).symm⟩

/-- **What `OnReadable` does**: nothing, or the callback gets what was read, or it closes. -/
theorem onReadable_cases {id : Nat} {arrived : Bytes} {environment : ReadEnvironment}
    (made : state.onReadable build id arrived environment = .ok next) :
    next = state ∨ ∃ publisher, state.server.publishers id = some publisher ∧
      publisher.connectionStatus ≠ .disconnected ∧
        ((∃ server, state.server.onReadable build id
              (arrived.take ((state.recvBuffer id).readFromSockfd arrived).2) environment =
                .ok server ∧
            next = ⟨server, Function.update state.recvBuffer id
              (((state.recvBuffer id).readFromSockfd arrived).1.addReadIndex
                (((state.recvBuffer id).readFromSockfd arrived).1.readableLength -
                  (server.unread id).length))⟩) ∨
          ((state.recvBuffer id).readFromSockfd arrived).2 = 0 ∧
            next = ⟨state.server.onClose id, Function.update state.recvBuffer id
              ((state.recvBuffer id).readFromSockfd arrived).1⟩) := by
  rw [onReadable] at made
  cases known : state.server.publishers id with
  | none =>
      rw [known] at made
      exact .inl (Except.ok.inj made).symm
  | some publisher =>
      simp only [known] at made
      split at made
      · exact .inl (Except.ok.inj made).symm
      · next there =>
          refine .inr ⟨publisher, rfl, there, ?_⟩
          split at made
          · cases read : state.server.onReadable build id
                (arrived.take ((state.recvBuffer id).readFromSockfd arrived).2) environment with
            | error fault =>
                rw [read] at made
                cases made
            | ok server =>
                rw [read] at made
                exact .inl ⟨server, rfl, (Except.ok.inj made).symm⟩
          · next none_read =>
              exact .inr ⟨Nat.eq_zero_of_not_pos none_read, (Except.ok.inj made).symm⟩

/-- **Every run with buffers is one of the servers.** -/
theorem simulates_run {events : List LiveEvent}
    (reached : (machine build).run (.ok .empty) (events.map LiveEvent.zeroed) = .ok state) :
    ∃ served : List LiveEvent,
      (LiveServer.machine build).run (.ok .empty) (served.map LiveEvent.zeroed) =
        .ok state.server := by
  induction events using List.reverseRecOn generalizing state with
  | nil =>
      obtain rfl := Except.ok.inj reached
      exact ⟨[], rfl⟩
  | append_singleton events event ih =>
      rw [List.map_append, List.map_cons, List.map_nil, machine, Machine.faulting_run_concat]
        at reached
      cases earlier : (Machine.faulting (step build)).run (.ok .empty)
          (events.map LiveEvent.zeroed) with
      | error fault =>
          rw [earlier] at reached
          cases reached
      | ok before =>
          rw [earlier] at reached
          obtain ⟨served, behind⟩ := ih earlier
          have extend {last : LiveEvent}
              (made : before.server.step build last.zeroed = .ok state.server) :
              ∃ served : List LiveEvent,
                (LiveServer.machine build).run (.ok .empty) (served.map LiveEvent.zeroed) =
                  .ok state.server := by
            refine ⟨served ++ [last], ?_⟩
            rw [LiveServer.machine] at behind
            rw [List.map_append, List.map_cons, List.map_nil, LiveServer.machine,
              Machine.faulting_run_concat, behind]
            exact made
          by_cases reads : ∃ id arrived environment, event = .readable id arrived environment
          · obtain ⟨id, arrived, environment, rfl⟩ := reads
            rcases onReadable_cases reached with
              rfl | ⟨publisher, -, -, ⟨server, read, rfl⟩ | ⟨-, rfl⟩⟩
            · exact ⟨served, behind⟩
            · exact @extend (.readable id _ environment) read
            · exact @extend (.close id) rfl
          · have other (id arrived environment) :
                event.zeroed ≠ .readable id arrived environment := by
              intro same
              cases event with
              | readable id arrived environment => exact reads ⟨_, _, _, rfl⟩
              | _ => cases same
            obtain ⟨server, made, rfl⟩ := step_other other reached
            exact extend made

/-- The buffers hold what the servers have not read, and none is full. -/
structure Matches (state : BufferedServer) : Prop where
  capacity : ∀ id, (state.recvBuffer id).capacity = defaultBufferSize
  readable : ∀ id, (state.recvBuffer id).readable = state.server.unread id
  room : ∀ id, (state.server.unread id).length < defaultBufferSize
  pending : ∀ id publisher, state.server.publishers id = some publisher →
    publisher.newMessageCallback = .onConnectionShakeHand →
      0 < stagesLeft publisher.pushConnection.rtmpManager.shakeHandStatus

theorem matches_empty : empty.Matches where
  capacity _ := Buffer.new_capacity
  readable _ := Buffer.new_readable
  room _ := Nat.succ_pos _
  pending _ _ there := by cases there

/-- An event without a read keeps the buffers. -/
theorem Matches.other (matches_ : state.Matches) {event : LiveEvent}
    (other : ∀ id arrived environment, event ≠ .readable id arrived environment)
    {server : LiveServer} (made : state.server.step build event = .ok server) :
    Matches { state with server := server } where
  capacity := matches_.capacity
  readable id := by
    rw [LiveServer.unread_of_other other made]
    exact matches_.readable id
  room id := by
    rw [LiveServer.unread_of_other other made]
    exact matches_.room id
  pending id publisher there := by
    rcases LiveServer.step_publisher made there with
      ⟨-, name, unset, connect, release, -, rfl⟩ | ⟨earlier, known, changes⟩
    · exact fun _ => Nat.succ_pos _
    · have before := matches_.pending id earlier known
      cases changes with
      | stays => exact before
      | reads read => exact absurd rfl (other _ _ _)
      | closes => exact before
      | attaches found added =>
          rw [RtmpPushConnection.addClientConnection_rtmpManager added]
          exact before
      | detaches => exact before

/-- The callback has got what was read, and moves the read index. -/
theorem Matches.reads (matches_ : state.Matches) {id : Nat} {publisher : Publisher}
    (known : state.server.publishers id = some publisher)
    (there : publisher.connectionStatus ≠ .disconnected) (receiving : publisher.Receiving build)
    {arrived : Bytes} {environment : ReadEnvironment} {server : LiveServer}
    (read : state.server.onReadable build id
      (arrived.take ((state.recvBuffer id).readFromSockfd arrived).2) environment = .ok server) :
    Matches ⟨server, Function.update state.recvBuffer id
      (((state.recvBuffer id).readFromSockfd arrived).1.addReadIndex
        (((state.recvBuffer id).readFromSockfd arrived).1.readableLength -
          (server.unread id).length))⟩ := by
  have found := (state.recvBuffer id).readFromSockfd_readable arrived
  have capacity := (state.recvBuffer id).readFromSockfd_capacity arrived
  rw [matches_.readable, LiveServer.unread_of_publisher known] at found
  rw [matches_.capacity] at capacity
  generalize ((state.recvBuffer id).readFromSockfd arrived).2 = result at found read ⊢
  generalize ((state.recvBuffer id).readFromSockfd arrived).1 = buffer at found capacity ⊢
  obtain ⟨other, outcome, same, made, publishers, -⟩ :=
    (LiveServer.onReadable_publishers read).resolve_left
      fun left => Option.some_ne_none _ (known.symm.trans left.2)
  obtain rfl := Option.some.inj (known.symm.trans same)
  have leaves := Publisher.onReadable_recvBuffer there made
  rw [← found] at leaves
  have fits : buffer.readable.length ≤ defaultBufferSize := by
    rw [← capacity, buffer.readable_length]
    exact buffer.readableLength_le_capacity
  have own : server.unread id = publisher.leaves build buffer.readable := by
    rw [← leaves]
    exact LiveServer.unread_of_publisher (by rw [publishers, Function.update_self])
  have others {other : Nat} (differ : other ≠ id) :
      server.unread other = state.server.unread other := by
    rw [LiveServer.unread, publishers, Function.update_of_ne differ, LiveServer.unread]
  have kept : buffer.readable.drop (buffer.readableLength - (server.unread id).length) =
      server.unread id := by
    rw [own, ← buffer.readable_length]
    exact (List.suffix_iff_eq_drop.mp (publisher.leaves_suffix buffer.readable)).symm
  refine ⟨fun other => ?_, fun other => ?_, fun other => ?_, fun other later after => ?_⟩
  · dsimp only
    by_cases same : other = id
    · subst same
      rw [Function.update_self, Buffer.addReadIndex_capacity, capacity]
    · rw [Function.update_of_ne same, matches_.capacity]
  · dsimp only
    by_cases same : other = id
    · subst same
      rw [Function.update_self, Buffer.addReadIndex_readable, kept]
    · rw [Function.update_of_ne same, matches_.readable, others same]
  · by_cases same : other = id
    · subst same
      rw [own]
      exact receiving.leaves_lt fits
    · rw [others same]
      exact matches_.room other
  · by_cases same : other = id
    · subst same
      rw [publishers, Function.update_self] at after
      obtain rfl := Option.some.inj after
      exact Publisher.onReadable_pending receiving.pending made
    · rw [publishers, Function.update_of_ne same] at after
      exact matches_.pending other later after

/-- A close keeps the buffers. -/
theorem Matches.closes (matches_ : state.Matches) {id : Nat} {arrived : Bytes}
    (ended : ((state.recvBuffer id).readFromSockfd arrived).2 = 0) :
    Matches ⟨state.server.onClose id, Function.update state.recvBuffer id
      ((state.recvBuffer id).readFromSockfd arrived).1⟩ := by
  have closed : Matches { state with server := state.server.onClose id } :=
    @Matches.other .standard state matches_ (.close id) (by simp) _ rfl
  have found := (state.recvBuffer id).readFromSockfd_readable arrived
  rw [ended, List.take_zero, List.append_nil] at found
  refine ⟨fun other => ?_, fun other => ?_, closed.room, closed.pending⟩
  · dsimp only
    by_cases same : other = id
    · subst same
      rw [Function.update_self, Buffer.readFromSockfd_capacity, matches_.capacity]
    · rw [Function.update_of_ne same, matches_.capacity]
  · dsimp only
    by_cases same : other = id
    · subst same
      rw [Function.update_self, found]
      exact closed.readable other
    · rw [Function.update_of_ne same]
      exact closed.readable other

/-- **The buffers match in every run.** -/
theorem matches_run {events : List LiveEvent}
    (reached : (machine build).run (.ok .empty) (events.map LiveEvent.zeroed) = .ok state) :
    state.Matches := by
  induction events using List.reverseRecOn generalizing state with
  | nil =>
      obtain rfl := Except.ok.inj reached
      exact matches_empty
  | append_singleton events event ih =>
      rw [List.map_append, List.map_cons, List.map_nil, machine, Machine.faulting_run_concat]
        at reached
      cases earlier : (Machine.faulting (step build)).run (.ok .empty)
          (events.map LiveEvent.zeroed) with
      | error fault =>
          rw [earlier] at reached
          cases reached
      | ok before =>
          rw [earlier] at reached
          have matches_ := ih earlier
          obtain ⟨served, behind⟩ := simulates_run earlier
          by_cases reads : ∃ id arrived environment, event = .readable id arrived environment
          · obtain ⟨id, arrived, environment, rfl⟩ := reads
            rcases onReadable_cases reached with
              rfl | ⟨publisher, known, there, ⟨server, read, rfl⟩ | ⟨ended, rfl⟩⟩
            · exact matches_
            · refine matches_.reads known there ⟨LiveServer.publisher_sane behind known, ?_,
                matches_.pending id publisher known⟩ read
              have settled : before.server.Settled build :=
                Machine.faulting_invariant (fun _ _ _ settled made => settled.step made)
                  LiveServer.settled_empty behind
              exact settled id publisher known
            · exact matches_.closes ended
          · have other (id arrived environment) :
                event.zeroed ≠ .readable id arrived environment := by
              intro same
              cases event with
              | readable id arrived environment => exact reads ⟨_, _, _, rfl⟩
              | _ => cases same
            obtain ⟨server, made, rfl⟩ := step_other other reached
            exact matches_.other other made

end BufferedServer

open BufferedServer

/-- **The receive buffer of a publisher is never full.** In every run of the servers in which
`read_chunk_size_` is 0 at first, whatever arrives at the sockets and in whatever pieces: the
buffer of a publisher holds the bytes that its handlers have left unread, fewer than 4096, so
the next read has room for a byte, and it returns 0 at the end of the stream only. -/
theorem receive_buffer_not_full (build : Build) {events : List LiveEvent} {state : BufferedServer}
    (reached : (BufferedServer.machine build).run (.ok .empty) (events.map LiveEvent.zeroed) =
      .ok state) (id : Nat) :
    (state.recvBuffer id).readable = state.server.unread id ∧
      (state.recvBuffer id).readableLength < 4096 ∧
      0 < (state.recvBuffer id).adjustBuffer.writableLength ∧
      ∀ arrived, ((state.recvBuffer id).readFromSockfd arrived).2 = 0 ↔ arrived = [] := by
  have matches_ := matches_run reached
  have few : (state.recvBuffer id).readableLength < defaultBufferSize := by
    rw [← Buffer.readable_length, matches_.readable]
    exact matches_.room id
  have size := matches_.capacity id
  refine ⟨matches_.readable id, few, ?_, fun arrived => ?_⟩
  · rw [Buffer.adjustBuffer_writableLength]
    omega
  · rw [Buffer.readFromSockfd_eq_zero]
    exact or_iff_left (by omega)

/-- A publisher whose first three bytes arrive in two pieces. -/
def firstBytes : List LiveEvent :=
  [.connect 5 [112, 53] ⟨0, false, .zero, .zero⟩ .zero .zero,
    .readable 5 [3] ⟨none, fun _ => 0, 0⟩, .readable 5 [0, 17] ⟨none, fun _ => 0, 0⟩]

theorem receive_buffer_not_full_firstBytes :
    ∃ state, (BufferedServer.machine .standard).run (.ok .empty)
        (firstBytes.map LiveEvent.zeroed) = .ok state ∧
      (state.recvBuffer 5).readable = [3, 0, 17] ∧
      ∀ arrived, ((state.recvBuffer 5).readFromSockfd arrived).2 = 0 ↔ arrived = [] := by
  obtain ⟨state, reached, kept⟩ := @Machine.exists_of_any _ _
    ((BufferedServer.machine .standard).run (.ok .empty) (firstBytes.map LiveEvent.zeroed))
    (fun state => decide (state.server.unread 5 = [3, 0, 17])) (by decide +kernel)
  obtain ⟨readable, -, -, result⟩ := receive_buffer_not_full .standard reached 5
  exact ⟨state, reached, readable.trans (of_decide_eq_true kept), result⟩

end LiveBroadcast
