import LiveBroadcast.Live.CommandRoute
import LiveBroadcast.Live.Credentials
import LiveBroadcast.Live.LoggedServers

/-!
# Handshakes that are completed

A publisher that performs the handshake is to become the publisher of its path. Its bytes arrive
in reads, and other publishers and viewers do what they like in between.

Along the route of the handshake the manager keeps the body of connect and the body of
releaseStream (`Keeps`). A manager that stands between two nodes of the route may have written its
packs meanwhile, so what is compared is what is recorded of finished commands (`recorded`). So
path and password can be taken whenever they are asked for, and every read returns
(`InHandshake.read`), the last one if there is room for the path where it is logged. Behind each
read the publisher is registered under its path exactly if the reads have left nothing behind
(`handshake_registers_iff`).
-/

set_option autoImplicit false

namespace LiveBroadcast

open RtmpManager

namespace RtmpManager

variable {build : Build} {manager other : RtmpManager} {buffer : Bytes}
  {command : CommandStage → Command}

/-! ## What is recorded of the commands -/

/-- What is recorded of the commands that are finished, and behind the last of them of the
decoder. -/
structure Recorded where
  shakeHandStatus : ShakeHandPackType
  connect : Bytes
  releaseStream : Bytes
  decoder : Option ChunkDecoder

def recorded (manager : RtmpManager) : Recorded where
  shakeHandStatus := manager.shakeHandStatus
  connect :=
    if stagesLeft manager.shakeHandStatus < stagesLeft .shakeRtmpConnect then
      manager.connectPack.buffer
    else []
  releaseStream :=
    if stagesLeft manager.shakeHandStatus < stagesLeft .shakeRtmpReleaseStream then
      manager.releasePack.buffer
    else []
  decoder :=
    if manager.shakeHandStatus = .shakeSuccess then some manager.rtmpCodec.toChunkDecoder else none

theorem recorded_status (same : other.recorded = manager.recorded) :
    other.shakeHandStatus = manager.shakeHandStatus := congrArg Recorded.shakeHandStatus same

/-- Managers with one record keep the same. -/
theorem Keeps.congr (keeps : manager.Keeps command) (same : other.recorded = manager.recorded) :
    other.Keeps command := by
  have status := recorded_status same
  refine ⟨fun behind => ?_, fun behind => ?_⟩
  · have connect := congrArg Recorded.connect same
    simp only [recorded, if_pos behind, if_pos (status ▸ behind)] at connect
    exact connect.trans (keeps.connect (status ▸ behind))
  · have releaseStream := congrArg Recorded.releaseStream same
    simp only [recorded, if_pos behind, if_pos (status ▸ behind)] at releaseStream
    exact releaseStream.trans (keeps.releaseStream (status ▸ behind))

/-- A stage with a pack of its own leaves the packs of the manager. -/
theorem parseMessage_dropPack {stage next : ShakeHandPackType} :
    (manager.parseMessage buffer dropPack stage next).manager.connectPack = manager.connectPack ∧
      (manager.parseMessage buffer dropPack stage next).manager.releasePack =
        manager.releasePack := by
  simp only [parseMessage]
  split
  · exact ⟨rfl, rfl⟩
  · split <;> exact ⟨rfl, rfl⟩

/-- A call writes the pack of its own stage. -/
theorem parseShakeHand_packs (manager : RtmpManager) (buffer : Bytes) :
    (manager.shakeHandStatus ≠ .shakeRtmpConnect →
      (manager.parseShakeHand build buffer).manager.connectPack = manager.connectPack) ∧
    (manager.shakeHandStatus ≠ .shakeRtmpConnect →
      manager.shakeHandStatus ≠ .shakeRtmpReleaseStream →
        (manager.parseShakeHand build buffer).manager.releasePack = manager.releasePack) := by
  have block (length : Nat) (stage next : ShakeHandPackType) :
      (manager.parseBlock buffer length stage next).manager.connectPack = manager.connectPack ∧
        (manager.parseBlock buffer length stage next).manager.releasePack =
          manager.releasePack := by
    rw [parseBlock]
    split <;> exact ⟨rfl, rfl⟩
  unfold parseShakeHand
  cases status : manager.shakeHandStatus with
  | shakeRtmpC01 =>
      exact ⟨fun _ => (block _ _ _).1, fun _ _ => (block _ _ _).2⟩
  | shakeRtmpC2 =>
      exact ⟨fun _ => (block _ _ _).1, fun _ _ => (block _ _ _).2⟩
  | shakeRtmpConnect => exact ⟨fun other => absurd rfl other, fun other => absurd rfl other⟩
  | shakeRtmpReleaseStream =>
      exact ⟨fun _ => parseMessage_keeps_connectPack, fun _ other => absurd rfl other⟩
  | shakeRtmpCreateStream =>
      cases buffer with
      | nil => exact ⟨fun _ => rfl, fun _ _ => rfl⟩
      | cons first rest =>
          dsimp only
          split
          · exact ⟨fun _ => rfl, fun _ _ => rfl⟩
          · exact ⟨fun _ => parseMessage_dropPack.1, fun _ _ => parseMessage_dropPack.2⟩
  | shakeRtmpSetChunkSize | shakeRtmpFcPublish | shakeRtmpPublish =>
      exact ⟨fun _ => parseMessage_dropPack.1, fun _ _ => parseMessage_dropPack.2⟩
  | shakeFailed | shakeSuccess | shakeDataNotEnough => exact ⟨fun _ => rfl, fun _ _ => rfl⟩

/-- **A call that stays in its stage leaves the record.** -/
theorem parseShakeHand_recorded
    (same : (manager.parseShakeHand build buffer).manager.shakeHandStatus =
      manager.shakeHandStatus) :
    (manager.parseShakeHand build buffer).manager.recorded = manager.recorded := by
  obtain ⟨connect, releaseStream⟩ := @parseShakeHand_packs build manager buffer
  simp only [recorded, same, Recorded.mk.injEq, true_and]
  refine ⟨?_, ?_, ?_⟩
  · split
    · next behind =>
        rw [connect fun status => absurd behind (by rw [status]; decide)]
    · rfl
  · split
    · next behind =>
        rw [releaseStream (fun status => absurd behind (by rw [status]; decide))
          fun status => absurd behind (by rw [status]; decide)]
    · rfl
  · split
    · next success => simp only [parseShakeHand, success]
    · rfl

/-- The loop of `ShakeHand`, of which the record is seen. -/
def recordingLoop (build : Build) :
    EarlyReturn RtmpManager UInt8 ShakeHandPackType Bytes Recorded :=
  (handshakeLoop build).withView recorded fun manager =>
    parseShakeHand_recorded (parseShakeHand_nil build manager).2.2

/-! ## Along the route -/

/-- A route of the handshake, past managers that keep what is sent. -/
structure KeptRoute (build : Build) {chunkSize : Nat} (handshake : Handshake build chunkSize)
    (manager : RtmpManager) (route : List (Piece UInt8 Bytes × RtmpManager)) : Prop where
  taken : (recordingLoop build).Route manager route
  pieces : EarlyReturn.pieces route = handshake.pieces
  along : KeepsAlong handshake.command manager route
  starts : manager.Keeps handshake.command
  ends : (EarlyReturn.behind manager route).shakeHandStatus = .shakeSuccess
  ready : (EarlyReturn.behind manager route).rtmpCodec.toChunkDecoder.Ready chunkSize none

section

variable {chunkSize : Nat} {handshake : Handshake build chunkSize}
  {route : List (Piece UInt8 Bytes × RtmpManager)} {walk : Walk UInt8 Bytes} {input : Bytes}
  {state : RtmpManager × Bytes} {made : List Bytes}

/-- There is one from the beginning. -/
theorem exists_keptRoute (handshake : Handshake build chunkSize)
    (start : manager.shakeHandStatus = .shakeRtmpC01)
    (ready : manager.rtmpCodec.toChunkDecoder.Ready chunkSize none) :
    ∃ route, KeptRoute build handshake manager route := by
  obtain ⟨after, ⟨route, taken, pieces, behind, along⟩, settled, ends⟩ :=
    handshake.route_keeps start ready
  refine ⟨route, taken.withView _ _ fun _ _ => parseShakeHand_recorded, pieces, along, ?_,
    behind ▸ ends, behind ▸ settled⟩
  exact ⟨fun later => absurd later (by rw [start]; decide),
    fun later => absurd later (by rw [start]; decide)⟩

/-- **A manager on the route keeps what was sent**, and has succeeded when no piece is left. -/
theorem KeptRoute.reached (kept : KeptRoute build handshake manager route)
    (reached : (recordingLoop build).At manager route input walk state made) :
    state.1.Keeps handshake.command ∧
      (state.1.shakeHandStatus = .shakeSuccess ↔ walk.rest = []) := by
  obtain ⟨consumed, left, pending, stage⟩ := reached
  have same : state.1.recorded = (EarlyReturn.behind manager consumed).recorded :=
    stage.stands.view_eq
  have along := kept.along
  rw [stage.split, KeepsAlong.append] at along
  refine ⟨(along.1.behind kept.starts).congr same, ?_⟩
  rw [recorded_status same, stage.rest]
  cases left with
  | nil =>
      have ends := kept.ends
      rw [stage.split, List.append_nil] at ends
      exact iff_of_true ends rfl
  | cons one left => exact iff_of_false along.2.1 nofun

/-- **Behind the last piece** the decoder is ready, and nothing is unread. -/
theorem KeptRoute.finished (kept : KeptRoute build handshake manager route)
    (reached : (recordingLoop build).At manager route input walk state made)
    (nothing : walk.rest = []) :
    state.1.rtmpCodec.toChunkDecoder.Ready chunkSize none ∧ state.2 = [] := by
  have success := (kept.reached reached).2.mpr nothing
  obtain ⟨consumed, left, pending, stage⟩ := reached
  rw [stage.rest] at nothing
  obtain rfl : left = [] := List.map_eq_nil_iff.mp nothing
  obtain ⟨same, -, unread⟩ := stage.stands
  have ends := kept.ends
  have ready := kept.ready
  rw [stage.split, List.append_nil] at ends ready
  have decoder := congrArg Recorded.decoder same
  change (recorded _).decoder = (recorded _).decoder at decoder
  simp only [recorded, success, ends, if_true, Option.some.injEq] at decoder
  exact ⟨decoder ▸ ready, unread⟩

/-- While something of the handshake is to come, a piece is left. -/
theorem rest_ne_nil
    (reached : (recordingLoop build).At manager route input walk state made) {data : Bytes}
    (nonempty : data ≠ [])
    (le : input ++ data <+: Piece.inputs (EarlyReturn.pieces route)) : walk.rest ≠ [] := by
  obtain ⟨consumed, left, pending, stage⟩ := reached
  intro nothing
  rw [stage.rest] at nothing
  obtain rfl : left = [] := List.map_eq_nil_iff.mp nothing
  obtain ⟨-, rfl, -⟩ := stage.stands
  have shorter := le.length_le
  rw [stage.input_eq, stage.split, List.append_nil, List.append_nil, List.length_append] at shorter
  exact nonempty (List.length_eq_zero_iff.mp (by omega))

end

end RtmpManager

/-! ## Commands that are understood -/

/-- The connect command and the releaseStream command of a handshake, from which the path and
the password can be taken. -/
structure Handshake.Sends {build : Build} {chunkSize : Nat} (handshake : Handshake build chunkSize)
    (connect : ConnectCommand) (release : ReleaseCommand) : Prop where
  connected : (handshake.command .connect).sent.message.body = connect.body
  released : (handshake.command .releaseStream).sent.message.body = release.body
  findsUrl : connect.FindsUrl
  positive : release.key.bytes.length % 256 < 128

namespace Publisher

variable {build : Build} {environment : ReadEnvironment} {publisher : Publisher} {chunkSize : Nat}
  {handshake : Handshake build chunkSize} {connect : ConnectCommand} {release : ReleaseCommand}
  {buffer : Bytes}

/-- The path is that of `tcUrl`. -/
theorem getRtmpPath_sent (sends : handshake.Sends connect release)
    (keeps : publisher.pushConnection.rtmpManager.Keeps handshake.command)
    (behind : stagesLeft publisher.pushConnection.rtmpManager.shakeHandStatus ≤ 3) :
    publisher.pushConnection.getRtmpPath = .ok (Format.withoutSlash connect.tcUrl.path) := by
  have connected := (keeps.connect (Nat.lt_of_le_of_lt behind (by decide))).trans sends.connected
  rw [connect.getRtmpPath_eq connected]
  exact connect.getPathFromUrl_urlOfBody_iff.mpr sends.findsUrl

/-- Behind releaseStream the publisher can be authenticated. -/
theorem authenticate_sent (sends : handshake.Sends connect release)
    (keeps : publisher.pushConnection.rtmpManager.Keeps handshake.command)
    (behind : stagesLeft publisher.pushConnection.rtmpManager.shakeHandStatus ≤ 3)
    (environment : ReadEnvironment) :
    ∃ asked answer, publisher.authenticate environment = .ok (asked, answer) := by
  have released := (keeps.releaseStream (Nat.lt_of_le_of_lt behind (by decide))).trans
    sends.released
  have password := release.getPasswordFromReleasePack_body released environment.behind
  rw [if_neg (Nat.not_le.mpr sends.positive)] at password
  rw [authenticate, getRtmpPath_sent sends keeps behind, password]
  cases environment.authenticationCallback with
  | none => exact ⟨_, _, rfl⟩
  | some callback => exact ⟨_, _, rfl⟩

/-- **A read of the handshake returns**, and registers the path if it completes publish. -/
theorem onConnectionShakeHand_sent (sends : handshake.Sends connect release)
    (keeps : (publisher.pushConnection.rtmpManager.shakeHand build buffer).manager.Keeps
      handshake.command) (environment : ReadEnvironment) :
    ∃ outcome, publisher.onConnectionShakeHand build environment buffer = .ok outcome ∧
      outcome.registered =
        if (publisher.shakeHand build buffer).2 = .shakeSuccess then
          some (Format.withoutSlash connect.tcUrl.path)
        else none := by
  have result : (publisher.shakeHand build buffer).2 =
      (publisher.pushConnection.rtmpManager.shakeHand build buffer).result := rfl
  rw [← shakeHand_rtmpManager] at keeps
  rw [onConnectionShakeHand]
  cases returned : (publisher.shakeHand build buffer).2 with
  | shakeAuthenticate =>
      have late := shakeHand_authenticate publisher.pushConnection.rtmpManager buffer
        (result ▸ returned)
      rw [← shakeHand_rtmpManager] at late
      obtain ⟨asked, answer, authenticated⟩ := authenticate_sent sends keeps late environment
      simp only [returned, authenticated]
      exact ⟨_, rfl, rfl⟩
  | shakeSuccess =>
      have success := @shakeHand_succeeds build publisher.pushConnection.rtmpManager buffer
        (result ▸ returned)
      rw [← shakeHand_rtmpManager] at success
      have path := getRtmpPath_sent sends keeps (by rw [success]; decide)
      simp only [returned, path]
      exact ⟨_, rfl, rfl⟩
  | shakeFailed =>
      simp only [returned]
      exact ⟨_, rfl, rfl⟩
  | shakeDataNotEnough =>
      simp only [returned]
      exact ⟨_, rfl, rfl⟩

/-! ## One read -/

/-- A publisher that has sent some bytes of its handshake: its manager stands on the route, and
it is in its media phase when no piece is left. -/
structure InHandshake (build : Build) (manager : RtmpManager)
    (route : List (Piece UInt8 Bytes × RtmpManager)) (walk : Walk UInt8 Bytes) (input : Bytes)
    (publisher : Publisher) : Prop where
  connected : publisher.connectionStatus = .connected
  not_failed : publisher.pushConnection.rtmpManager.shakeHandStatus ≠ .shakeFailed
  reached : (recordingLoop build).At manager route input walk
    (publisher.pushConnection.rtmpManager, publisher.recvBuffer) publisher.replies
  media : publisher.newMessageCallback = .onBodyData ↔ walk.rest = []

variable {manager : RtmpManager} {route : List (Piece UInt8 Bytes × RtmpManager)}
  {walk : Walk UInt8 Bytes} {input data : Bytes}

/-- While something of the handshake is to come, it is handed to `OnConnectionShakeHand`. -/
theorem InHandshake.callback (inHandshake : publisher.InHandshake build manager route walk input)
    (nonempty : data ≠ [])
    (le : input ++ data <+: Piece.inputs (EarlyReturn.pieces route)) :
    publisher.newMessageCallback = .onConnectionShakeHand := by
  have left := rest_ne_nil inHandshake.reached nonempty le
  cases callback : publisher.newMessageCallback with
  | onConnectionShakeHand => rfl
  | onBodyData => exact absurd (inHandshake.media.mp callback) left

/-- **One read of a handshake** returns and leads along the route. The read that takes the last
piece registers the publisher under its path. -/
theorem InHandshake.read (inHandshake : publisher.InHandshake build manager route walk input)
    (kept : KeptRoute build handshake manager route) (sends : handshake.Sends connect release)
    (accepts : environment.Accepts) (nonempty : data ≠ [])
    (le : input ++ data <+: Piece.inputs (EarlyReturn.pieces route))
    (clean : Walk.breaks walk.rest walk.seen (walk.arrived + data.length) = false) :
    ∃ outcome, publisher.onReadable build environment data = .ok outcome ∧
      outcome.publisher.InHandshake build manager route (walk.read data.length) (input ++ data) ∧
      outcome.registered =
        if (walk.read data.length).rest = [] then some (Format.withoutSlash connect.tcUrl.path)
        else none := by
  have callback := inHandshake.callback nonempty le
  obtain ⟨connected, not_failed, reached, -⟩ := inHandshake
  have left := rest_ne_nil reached nonempty le
  have reads : publisher.onReadable build environment data =
      publisher.onConnectionShakeHand build environment (publisher.recvBuffer ++ data) := by
    rw [onReadable, if_neg (by simp [connected])]
    simp only [callback]
  -- where the loop of `ShakeHand` leads
  obtain ⟨breaks, -⟩ | ⟨-, -, now⟩ := reached.read le
  · rw [clean] at breaks
    cases breaks
  obtain ⟨keeps, succeeded⟩ := kept.reached now
  have running : publisher.pushConnection.rtmpManager.shakeHandStatus ≠ .shakeSuccess :=
    fun success => left ((kept.reached reached).2.mp success)
  have success : (publisher.shakeHand build (publisher.recvBuffer ++ data)).2 = .shakeSuccess ↔
      (walk.read data.length).rest = [] := by
    refine Iff.trans ⟨shakeHand_succeeds _ _, fun status => ?_⟩ succeeded
    by_contra other
    exact (shakeHand_success_iff _ _ running).2 other status
  -- the read returns
  obtain ⟨outcome, made, registered⟩ := onConnectionShakeHand_sent sends keeps environment
  have shaking : publisher.Shaking
      (publisher.pushConnection.rtmpManager, publisher.recvBuffer) publisher.replies :=
    ⟨rfl, rfl, rfl, connected, not_failed⟩
  have shaken := shaking.read accepts made
  refine ⟨outcome, reads.trans made, ⟨shaken.connected, ?_, ?_, ?_⟩, ?_⟩
  · rw [shaken.rtmpManager]
    exact shaken.not_failed
  · rw [shaken.rtmpManager, shaken.recvBuffer, shaken.replies]
    exact now
  · rw [← success]
    by_cases succeeds : (publisher.shakeHand build (publisher.recvBuffer ++ data)).2 = .shakeSuccess
    · obtain ⟨path, -, after⟩ := onConnectionShakeHand_success made succeeds
      exact iff_of_true (by rw [after]) succeeds
    · have continues := (onConnectionShakeHand_continues made succeeds).2
      refine iff_of_false ?_ succeeds
      rw [continues.newMessageCallback,
        (shakeHand_continues build publisher _).newMessageCallback, callback]
      simp
  · simp only [registered, success]

/-- What a publisher keeps of its handshake while others do something. -/
theorem InHandshake.congr {later : Publisher}
    (inHandshake : publisher.InHandshake build manager route walk input)
    (rtmpManager : later.pushConnection.rtmpManager = publisher.pushConnection.rtmpManager)
    (recvBuffer : later.recvBuffer = publisher.recvBuffer)
    (effects : later.effects = publisher.effects)
    (connectionStatus : later.connectionStatus = publisher.connectionStatus)
    (callback : later.newMessageCallback = publisher.newMessageCallback) :
    later.InHandshake build manager route walk input := by
  obtain ⟨connected, not_failed, reached, media⟩ := inHandshake
  refine ⟨connectionStatus.trans connected, rtmpManager ▸ not_failed, ?_, callback ▸ media⟩
  rw [rtmpManager, recvBuffer, replies, effects]
  exact reached

end Publisher

/-! ## Runs of the servers -/

namespace LiveServer

variable {build : Build} {server next : LiveServer} {id : Nat}

/-- The reads of one publisher. -/
def readsOf (id : Nat) (events : List LiveEvent) : List (Bytes × ReadEnvironment) :=
  events.filterMap fun
    | .readable reader data environment =>
        if reader = id then some (data, environment) else none
    | _ => none

/-- An event is a read of the publisher, or no read of its. -/
theorem readsOf_concat (id : Nat) (events : List LiveEvent) (event : LiveEvent) :
    (∃ data environment, event = .readable id data environment ∧
        readsOf id (events ++ [event]) = readsOf id events ++ [(data, environment)]) ∨
      (∀ data environment, event ≠ .readable id data environment) ∧
        readsOf id (events ++ [event]) = readsOf id events := by
  simp only [readsOf, List.filterMap_append]
  cases event with
  | readable reader data environment =>
      by_cases same : reader = id
      · subst same
        exact .inl ⟨data, environment, rfl, by simp⟩
      · refine .inr ⟨fun _ _ is => same (LiveEvent.readable.inj is).1, by simp [same]⟩
  | connect | close | clientMessage | clientClose => exact .inr ⟨nofun, by simp⟩

variable {chunkSize : Nat} {handshake : Handshake build chunkSize} {connect : ConnectCommand}
  {release : ReleaseCommand} {manager : RtmpManager}
  {route : List (Piece UInt8 Bytes × RtmpManager)} {walk : Walk UInt8 Bytes} {input : Bytes}
  {publisher : Publisher}

/-- What is no read of the publisher, and does not close it, leaves it in its handshake. -/
theorem step_inHandshake {event : LiveEvent}
    (known : server.publishers id = some publisher)
    (inHandshake : publisher.InHandshake build manager route walk input)
    (other : ∀ data environment, event ≠ .readable id data environment) (stays : event ≠ .close id)
    (made : server.step build event = .ok next) :
    ∃ later, next.publishers id = some later ∧
      later.InHandshake build manager route walk input := by
  obtain ⟨later, there, changes⟩ := step_changes made known
  refine ⟨later, there, ?_⟩
  cases changes with
  | stays => exact inHandshake
  | reads => exact absurd rfl (other _ _)
  | closes => exact absurd rfl stays
  | attaches found added =>
      exact inHandshake.congr (RtmpPushConnection.addClientConnection_rtmpManager added) rfl rfl rfl
        rfl
  | detaches => exact inHandshake.congr rfl rfl rfl rfl rfl

end LiveServer

/-! ## The reads of a handshake -/

/-- The bytes of some reads. -/
def received (reads : List (Bytes × ReadEnvironment)) : Bytes := (reads.map Prod.fst).flatten

/-- The reads are the first bytes of a handshake, the skip of which they do not cut, with
authentication that accepts. -/
structure Handshake.CutInto {build : Build} {chunkSize : Nat}
    (handshake : Handshake build chunkSize) (reads : List (Bytes × ReadEnvironment)) : Prop where
  nonempty : ∀ read ∈ reads, read.1 ≠ []
  accepts : ∀ read ∈ reads, read.2.Accepts
  le : received reads <+: handshake.bytes handshake.pieces.length
  clean : handshake.cutsSkip handshake.pieces.length (reads.map Prod.fst) = false

namespace Handshake

variable {build : Build} {chunkSize : Nat} {handshake : Handshake build chunkSize}
  {reads : List (Bytes × ReadEnvironment)} {read : Bytes × ReadEnvironment}

/-- The walk over the reads. -/
def walk (handshake : Handshake build chunkSize) (reads : List (Bytes × ReadEnvironment)) :
    Walk UInt8 Bytes :=
  (Walk.start handshake.pieces).reads ((reads.map Prod.fst).map List.length)

theorem walk_concat :
    handshake.walk (reads ++ [read]) = (handshake.walk reads).read read.1.length := by
  rw [walk, List.map_append, List.map_append]
  exact Walk.reads_concat _ _ _

theorem leftBehind_eq :
    handshake.leftBehind handshake.pieces.length (reads.map Prod.fst) =
      (handshake.walk reads).rest := by
  rw [leftBehind, List.take_length, walk]

theorem bytes_eq : handshake.bytes handshake.pieces.length = Piece.inputs handshake.pieces := by
  rw [bytes, List.take_length]

theorem received_concat : received (reads ++ [read]) = received reads ++ read.1 := by
  simp [received]

theorem cutsSkip_concat :
    handshake.cutsSkip handshake.pieces.length ((reads ++ [read]).map Prod.fst) =
      (handshake.cutsSkip handshake.pieces.length (reads.map Prod.fst) ||
        Walk.breaks (handshake.walk reads).rest (handshake.walk reads).seen
          ((handshake.walk reads).arrived + read.1.length)) := by
  rw [cutsSkip, cutsSkip, List.take_length, List.map_append, List.map_append]
  exact Walk.breaksAny_concat _ _ _

theorem CutInto.init (cutInto : handshake.CutInto (reads ++ [read])) :
    handshake.CutInto reads := by
  obtain ⟨nonempty, accepts, le, clean⟩ := cutInto
  rw [received_concat] at le
  rw [cutsSkip_concat, Bool.or_eq_false_iff] at clean
  exact ⟨fun one there => nonempty one (List.mem_append_left _ there),
    fun one there => accepts one (List.mem_append_left _ there),
    (List.prefix_append _ _).trans le, clean.1⟩

end Handshake

namespace LiveServer

variable {build : Build} {server : LiveServer} {id : Nat} {chunkSize : Nat}
  {handshake : Handshake build chunkSize} {connect : ConnectCommand} {release : ReleaseCommand}
  {manager : RtmpManager} {route : List (Piece UInt8 Bytes × RtmpManager)} {publisher : Publisher}
  {reads : List (Bytes × ReadEnvironment)} {data : Bytes} {environment : ReadEnvironment}

/-- The read goes to the handshake. -/
theorem callback_inHandshake
    (inHandshake : publisher.InHandshake build manager route (handshake.walk reads)
      (received reads))
    (kept : KeptRoute build handshake manager route)
    (cutInto : handshake.CutInto (reads ++ [(data, environment)])) :
    publisher.newMessageCallback = .onConnectionShakeHand := by
  obtain ⟨nonempty, -, le, -⟩ := cutInto
  rw [Handshake.received_concat, Handshake.bytes_eq, ← kept.pieces] at le
  exact inHandshake.callback (nonempty (data, environment) (by simp)) le

/-- **One more read of the handshake.** -/
theorem read_inHandshake
    (inHandshake : publisher.InHandshake build manager route (handshake.walk reads)
      (received reads))
    (kept : KeptRoute build handshake manager route) (sends : handshake.Sends connect release)
    (cutInto : handshake.CutInto (reads ++ [(data, environment)])) :
    ∃ outcome, publisher.onReadable build environment data = .ok outcome ∧
      outcome.publisher.InHandshake build manager route
        (handshake.walk (reads ++ [(data, environment)]))
        (received (reads ++ [(data, environment)])) ∧
      outcome.registered =
        if (handshake.walk (reads ++ [(data, environment)])).rest = [] then
          some (Format.withoutSlash connect.tcUrl.path)
        else none := by
  obtain ⟨nonempty, accepts, le, clean⟩ := cutInto
  rw [Handshake.received_concat, Handshake.bytes_eq, ← kept.pieces] at le
  rw [Handshake.cutsSkip_concat, Bool.or_eq_false_iff] at clean
  rw [Handshake.walk_concat, Handshake.received_concat]
  exact inHandshake.read kept sends (accepts (data, environment) (by simp))
    (nonempty (data, environment) (by simp)) le clean.2

/-- **A run in which a publisher performs its handshake**, whatever the others do. -/
theorem run_inHandshake {start : LiveServer} (known : start.publishers id = some publisher)
    (begins : publisher.InHandshake build manager route (handshake.walk []) [])
    (kept : KeptRoute build handshake manager route) (sends : handshake.Sends connect release)
    {events : List LiveEvent} (stays : .close id ∉ events)
    (cutInto : handshake.CutInto (readsOf id events))
    (ran : (LiveServer.machine build).run (.ok start) events = .ok server) :
    ∃ later, server.publishers id = some later ∧
      later.InHandshake build manager route (handshake.walk (readsOf id events))
        (received (readsOf id events)) := by
  induction events using List.reverseRecOn generalizing server with
  | nil =>
      obtain rfl := Except.ok.inj ran
      exact ⟨publisher, known, begins⟩
  | append_singleton events event ih =>
      rw [machine, Machine.faulting_run_concat] at ran
      cases earlier : (Machine.faulting (step build)).run (.ok start) events with
      | error fault =>
          rw [earlier] at ran
          cases ran
      | ok before =>
          rw [earlier] at ran
          have here : event ≠ .close id := fun same => stays (by simp [same])
          have opened : .close id ∉ events := fun there => stays (List.mem_append_left _ there)
          rcases readsOf_concat id events event with
            ⟨data, environment, rfl, split⟩ | ⟨other, same⟩
          · rw [split] at cutInto ⊢
            obtain ⟨between, there, inHandshake⟩ := ih opened cutInto.init earlier
            obtain ⟨outcome, read, further, -⟩ :=
              read_inHandshake inHandshake kept sends cutInto
            obtain ⟨after, made, found⟩ := step_reads there read
            obtain rfl := Except.ok.inj (made.symm.trans ran)
            exact ⟨outcome.publisher, found, further⟩
          · rw [same] at cutInto ⊢
            obtain ⟨between, there, inHandshake⟩ := ih opened cutInto earlier
            exact step_inHandshake there inHandshake other here ran

/-- A publisher keeps its name. -/
theorem Changes.connectionName {event : LiveEvent} {later : Publisher}
    (changes : Changes build server id publisher event later) :
    later.pushConnection.connectionName = publisher.pushConnection.connectionName := by
  cases changes with
  | reads read => exact (Publisher.onReadable_slot read).connectionName
  | attaches found added => exact RtmpPushConnection.addClientConnection_connectionName added
  | _ => rfl

theorem run_connectionName {start : LiveServer} (known : start.publishers id = some publisher)
    {events : List LiveEvent}
    (ran : (LiveServer.machine build).run (.ok start) events = .ok server) :
    ∃ later, server.publishers id = some later ∧
      later.pushConnection.connectionName = publisher.pushConnection.connectionName := by
  refine @Machine.faulting_invariant _ _ (fun server : LiveServer => ∃ later,
    server.publishers id = some later ∧
      later.pushConnection.connectionName = publisher.pushConnection.connectionName)
    _ _ ?_ _ _ ⟨publisher, known, rfl⟩ _ ran
  rintro before event after ⟨between, found, name⟩ made
  obtain ⟨later, there, changes⟩ := step_changes made found
  exact ⟨later, there, changes.connectionName.trans name⟩

/-- **From its connection on** a publisher is in its handshake. -/
theorem connect_inHandshake {handshake : Handshake build (RtmpCodec.initialChunkSize build)}
    (sends : handshake.Sends connect release) {connectionName : Bytes} {unset : UnsetMembers}
    {connectPack releasePack : RtmpPack} (atStart : unset.readChunkSize = 0) {earlier : LiveServer}
    {between : List LiveEvent} (free : earlier.publishers id = none)
    (ran : (LiveServer.machine build).run (.ok earlier)
      (.connect id connectionName unset connectPack releasePack :: between) = .ok server)
    (stays : .close id ∉ between) (cutInto : handshake.CutInto (readsOf id between)) :
    ∃ manager route publisher, publisher.pushConnection.connectionName = connectionName ∧
      KeptRoute build handshake manager route ∧ server.publishers id = some publisher ∧
      publisher.InHandshake build manager route (handshake.walk (readsOf id between))
        (received (readsOf id between)) := by
  obtain ⟨route, kept⟩ := @exists_keptRoute build (.construct build unset connectPack releasePack) _
    handshake rfl (RtmpCodec.construct_ready build atStart)
  have begins :
      (Publisher.connecting build connectionName unset connectPack releasePack).InHandshake build
        (.construct build unset connectPack releasePack) route (handshake.walk []) [] := by
    refine ⟨rfl, nofun, ?_, iff_of_false nofun (List.cons_ne_nil _ _)⟩
    have start := kept.taken.start
    rwa [kept.pieces] at start
  have there : (earlier.onConnect build id connectionName unset connectPack
      releasePack).publishers id =
        some (.connecting build connectionName unset connectPack releasePack) := by
    rw [onConnect, free]
    exact Function.update_self _ _ _
  obtain ⟨publisher, known, inHandshake⟩ :=
    run_inHandshake there begins kept sends stays cutInto ran
  obtain ⟨same, found, name⟩ := run_connectionName there ran
  obtain rfl := Option.some.inj (known.symm.trans found)
  exact ⟨_, route, publisher, name, kept, known, inHandshake⟩

end LiveServer

open LiveServer

/-- What was answered, by the pieces that are left. -/
theorem Publisher.InHandshake.replies_eq {build : Build} {chunkSize : Nat}
    {handshake : Handshake build chunkSize} {manager : RtmpManager}
    {route : List (Piece UInt8 Bytes × RtmpManager)} {walk : Walk UInt8 Bytes} {input : Bytes}
    {publisher : Publisher} (inHandshake : publisher.InHandshake build manager route walk input)
    (kept : KeptRoute build handshake manager route) :
    publisher.replies =
      (handshake.pieces.take (handshake.pieces.length - walk.rest.length)).flatMap
        Piece.replies := by
  obtain ⟨consumed, left, pending, stage⟩ := inHandshake.reached
  rw [stage.made_eq, stage.rest, ← kept.pieces, stage.split, EarlyReturn.pieces_append,
    List.length_append, Nat.add_sub_cancel, List.take_left]

/-- **A handshake registers its publisher** as soon as nothing of it is left behind. A publisher
connects to the servers in any state that they reach, and its reads are the bytes of a handshake
with commands that are understood, while other publishers and viewers do what they like. Each of
its reads returns, if the path has room where it is logged when nothing is left behind; the
publisher has been answered up to the pieces that are left then, and it is found under the path
of `tcUrl` if and only if none are. -/
theorem handshake_registers_iff {build : Build}
    (handshake : Handshake build (RtmpCodec.initialChunkSize build)) {connect : ConnectCommand}
    {release : ReleaseCommand} (sends : handshake.Sends connect release) {id : Nat}
    {connectionName : Bytes} {unset : UnsetMembers} {connectPack releasePack : RtmpPack}
    (atStart : unset.readChunkSize = 0) {before between : List (LiveEvent × LogMoment)}
    {earlier server : LiveServer}
    (arrived : (loggedMachine build).run (.ok .empty) before = .ok earlier)
    (free : earlier.publishers id = none) {now : LogMoment}
    (ran : (loggedMachine build).run (.ok earlier)
      ((.connect id connectionName unset connectPack releasePack, now) :: between) = .ok server)
    (stays : .close id ∉ between.map Prod.fst) {data : Bytes} {environment : ReadEnvironment}
    (cutInto : handshake.CutInto (readsOf id (between.map Prod.fst) ++ [(data, environment)]))
    {moment : LogMoment}
    (room : handshake.leftBehind handshake.pieces.length
        ((readsOf id (between.map Prod.fst) ++ [(data, environment)]).map Prod.fst) = [] →
      moment.HasRoom .info
        (74 + connectionName.length + (Format.withoutSlash connect.tcUrl.path).length)) :
    ∃ next publisher, server.loggedStep build (.readable id data environment, moment) = .ok next ∧
      next.publishers id = some publisher ∧
      publisher.replies =
        (handshake.pieces.take (handshake.pieces.length -
          (handshake.leftBehind handshake.pieces.length
            ((readsOf id (between.map Prod.fst) ++ [(data, environment)]).map Prod.fst)).length)
              ).flatMap Piece.replies ∧
      (next.registry.getPushConnByUrl (Format.withoutSlash connect.tcUrl.path) = some id ↔
        handshake.leftBehind handshake.pieces.length
          ((readsOf id (between.map Prod.fst) ++ [(data, environment)]).map Prod.fst) = []) := by
  have arrived := (loggedMachine_run_iff.mp arrived).1
  have ran := (loggedMachine_run_iff.mp ran).1
  rw [List.map_cons] at ran
  have inPhase : server.InPhase := by
    refine Machine.faulting_invariant (fun _ _ _ inPhase made => InPhase.step inPhase made)
      ?_ ran
    exact Machine.faulting_invariant (fun _ _ _ inPhase made => InPhase.step inPhase made)
      inPhase_empty arrived
  obtain ⟨manager, route, publisher, name, kept, known, inHandshake⟩ := connect_inHandshake sends
    atStart free ran stays cutInto.init
  obtain ⟨outcome, read, further, registered⟩ := read_inHandshake inHandshake kept sends cutInto
  obtain ⟨next, made, found⟩ := step_reads known read
  rw [Handshake.leftBehind_eq] at room ⊢
  have logs : server.LogsWithRoom build (.readable id data environment, moment) := by
    intro other same result again path there
    obtain rfl := Option.some.inj (known.symm.trans same)
    obtain rfl := Except.ok.inj (read.symm.trans again)
    rw [registered] at there
    split at there
    · next nothing =>
        obtain rfl := Option.some.inj there
        rw [Publisher.HasRoomFor, name]
        exact room nothing
    · cases there
  refine ⟨next, outcome.publisher, (loggedStep_ok_iff _ _ _).mpr ⟨logs, made⟩, found,
    further.replies_eq kept, ?_, ?_⟩
  · intro listed
    obtain ⟨other, same, media⟩ := (inPhase.step made).registry _ _ listed
    rw [found] at same
    obtain rfl := Option.some.inj same
    exact further.media.mp media
  · intro nothing
    rcases onReadable_publishers made with ⟨-, absent⟩ | ⟨same, again, known', read', -, registry⟩
    · rw [known] at absent
      cases absent
    · rw [known] at known'
      obtain rfl := Option.some.inj known'
      obtain rfl := Except.ok.inj (read.symm.trans read')
      rw [registry, registered, if_pos nothing]
      simp only [StreamRegistry.getPushConnByUrl_onShakeHandSuccess, if_true]

/-! ## A handshake in two reads -/

/-- A handshake for `rtmp://h/b` and a key of one byte. -/
def appHandshake : Handshake .standard (RtmpCodec.initialChunkSize .standard) where
  c01 := plainHandshake.c01
  c2 := plainHandshake.c2
  command stage :=
    { plainHandshake.command stage with
      sent :=
        match stage with
        | .connect => plainMessage 20 appConnect.body appConnect.fits
        | .releaseStream => plainMessage 20 (keyOfLength 1 (by decide)).body (by decide)
        | other => (plainHandshake.command other).sent }
  c01_length := plainHandshake.c01_length
  c2_length := plainHandshake.c2_length
  compressed := ⟨rfl, trivial, trivial, trivial, trivial, trivial, trivial⟩
  createStream_length := plainHandshake.createStream_length

theorem appHandshake_sends : appHandshake.Sends appConnect (keyOfLength 1 (by decide)) := by
  refine ⟨rfl, rfl, ?_, by decide⟩
  rw [ConnectCommand.FindsUrl, if_neg (by decide +kernel)]
  refine ⟨by decide, ?_⟩
  intro behind last
  cases last

/-- C0, C1, C2 and the commands up to releaseStream. -/
def appUpToRelease : Bytes := appHandshake.bytes 5

/-- FCPublish, createStream and publish. -/
def appFromFcPublish : Bytes := (appHandshake.bytes 8).drop appUpToRelease.length

/-- Behind releaseStream another publisher connects. -/
def appReads : List LiveEvent :=
  [.readable 0 appUpToRelease openEnvironment,
    .connect 1 [100] ⟨0, false, .zero, .zero⟩ .zero .zero]

theorem openEnvironment_accepts : openEnvironment.Accepts := fun _ there => nomatch there

/-- The two reads make up the handshake. -/
theorem appReads_cutInto : appHandshake.CutInto
    [(appUpToRelease, openEnvironment), (appFromFcPublish, openEnvironment)] := by
  have whole : appUpToRelease ++ appFromFcPublish = appHandshake.bytes 8 := by decide +kernel
  refine ⟨?_, ?_, ?_, by decide +kernel⟩
  · exact List.forall_mem_cons.mpr ⟨by decide +kernel,
      List.forall_mem_singleton.mpr (by decide +kernel)⟩
  · exact List.forall_mem_cons.mpr ⟨openEnvironment_accepts,
      List.forall_mem_singleton.mpr openEnvironment_accepts⟩
  · have pieces : appHandshake.pieces.length = 8 := by decide +kernel
    rw [pieces, ← whole, received, List.map_cons, List.map_singleton, List.flatten_cons,
      List.flatten_singleton]

theorem handshake_registers_iff_app :
    ∃ server next, (loggedMachine .standard).run (.ok .empty)
          ((.connect 0 [99] ⟨0, false, .zero, .zero⟩ .zero .zero, infoMoment) ::
            appReads.map (·, infoMoment)) = .ok server ∧
        server.loggedStep .standard (.readable 0 appFromFcPublish openEnvironment, infoMoment) =
          .ok next ∧
        next.registry.getPushConnByUrl [98] = some 0 := by
  have returns : ((loggedMachine .standard).run (.ok .empty)
      ((.connect 0 [99] ⟨0, false, .zero, .zero⟩ .zero .zero, infoMoment) ::
        appReads.map (·, infoMoment))).toOption.any (fun _ => true) = true := by
    decide +kernel
  obtain ⟨server, ran, -⟩ := Machine.exists_of_any returns
  obtain ⟨next, publisher, made, -, -, found⟩ := @handshake_registers_iff _ appHandshake _ _
    appHandshake_sends 0 _ _ _ _ rfl [] (appReads.map (·, infoMoment)) _ _ rfl rfl infoMoment ran
    nofun _ _ appReads_cutInto infoMoment fun _ => .inr (by decide)
  exact ⟨server, next, ran, made, found.mpr (by decide +kernel)⟩

end LiveBroadcast
