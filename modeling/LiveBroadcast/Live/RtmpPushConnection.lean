import LiveBroadcast.Codec.RtmpManager
import LiveBroadcast.Codec.RtmpReplies
import LiveBroadcast.Live.HttpPullConnection

/-!
# Publishers

An `RtmpPushConnection` answers the handshake of a publisher, and then passes its media on to
the viewers attached to it. A viewer is sent the header buffer when it is attached; the
buffer is built from the sequence headers for the first viewer and kept.

`shakeHand` is the loop around `ParseShakeHand`. Every call that lets the loop go on moves
to a later stage (`parseShakeHand_advances`), so the loop ends within as many rounds as
there are stages left, and `shakeHand_eq` unfolds it without fuel.

Bytes handed to `TcpConnection::Send` are returned: replies to the publisher as they are, and
what is sent to viewers with the name of the viewer's connection.
-/

set_option autoImplicit false

namespace LiveBroadcast

/-- The viewers of a publisher by connection name. The `std::map` iterates in the order of
the names; here the order is that of joining, and no viewer sees the difference. -/
abbrev PullConnectionMap := List (Bytes × HttpPullConnection)

namespace PullConnectionMap

def erase (map : PullConnectionMap) (connectionName : Bytes) : PullConnectionMap :=
  map.filter fun entry => entry.1 ≠ connectionName

/-- `map[name] = connection`. -/
def insert (map : PullConnectionMap) (connectionName : Bytes) (connection : HttpPullConnection) :
    PullConnectionMap :=
  map.erase connectionName ++ [(connectionName, connection)]

variable (map : PullConnectionMap)

theorem lookup_erase (erased name : Bytes) :
    (map.erase erased).lookup name = if name = erased then none else map.lookup name := by
  induction map with
  | nil => simp [erase]
  | cons entry map ih =>
      rw [erase] at ih ⊢
      by_cases gone : entry.1 = erased
      · rw [List.filter_cons_of_neg (by simp [gone]), ih, List.lookup_cons]
        by_cases same : name = erased
        · simp [same]
        · have other : (name == entry.1) = false := by simp [gone, same]
          rw [other]
      · rw [List.filter_cons_of_pos (by simp [gone]), List.lookup_cons, List.lookup_cons, ih]
        by_cases same : name = entry.1
        · simp [same, gone]
        · have other : (name == entry.1) = false := by simp [same]
          rw [other]

theorem lookup_insert (inserted name : Bytes) (connection : HttpPullConnection) :
    (map.insert inserted connection).lookup name =
      if name = inserted then some connection else map.lookup name := by
  rw [insert, List.lookup_append, lookup_erase, List.lookup_cons, List.lookup_nil]
  by_cases same : name = inserted
  · simp [same]
  · have other : (name == inserted) = false := by simp [same]
    rw [other]
    simp [same]

end PullConnectionMap

/-- Looking up what was computed from the entries. -/
theorem lookup_map_snd {α β : Type} (f : α → β) (name : Bytes) (entries : List (Bytes × α)) :
    (entries.map fun entry => (entry.1, f entry.2)).lookup name = (entries.lookup name).map f := by
  induction entries with
  | nil => rfl
  | cons entry entries ih =>
      rw [List.map_cons, List.lookup_cons, List.lookup_cons]
      cases name == entry.1 with
      | true => rfl
      | false => exact ih

/-- `enum ShakeHandResult`. -/
inductive ShakeHandResult where
  | shakeAuthenticate
  | shakeSuccess
  | shakeFailed
  | shakeDataNotEnough
  deriving DecidableEq, Repr

/-- `class RtmpPushConnection`. -/
structure RtmpPushConnection where
  connectionName : Bytes
  clientConnectionMap : PullConnectionMap
  rtmpManager : RtmpManager
  rtmpToFlvCodec : Rtmp2FlvCodec
  headerBuffer : Bytes
  deriving DecidableEq, Repr

/-- The values that the highest timestamp byte happens to have in the calls of `Transform`
for the three tags of the header. -/
structure HeaderUnset where
  script : UInt8
  video : UInt8
  audio : UInt8
  deriving DecidableEq, Repr

/-- What the loop of `ShakeHand` leaves: the manager, the unread bytes, the replies sent and
the result. -/
structure ShakeHandOutcome where
  manager : RtmpManager
  buffer : Bytes
  replies : List Bytes
  result : ShakeHandResult
  deriving DecidableEq, Repr

/-! ## The handshake -/

namespace RtmpManager

/-- The replies of `ShakeHand` to what `ParseShakeHand` reports. -/
def replies (build : Build) : ShakeHandPackType → List Bytes
  | .shakeRtmpC01 => [RtmpServer.s01]
  | .shakeRtmpC2 => [RtmpServer.s2]
  | .shakeRtmpConnect =>
      [RtmpServer.acknowledgeSize, RtmpServer.peerBandwidth, RtmpServer.setChunkSize,
        RtmpServer.connectResult] ++ if build.monitorMode then [RtmpServer.result] else []
  | .shakeRtmpCreateStream => if build.monitorMode then [] else [RtmpServer.result]
  | .shakeRtmpPublish => [RtmpServer.start]
  | _ => []

/-- What `ShakeHand` returns at once when `ParseShakeHand` reports this. -/
def shakeHandReturns : ShakeHandPackType → Option ShakeHandResult
  | .shakeRtmpReleaseStream => some .shakeAuthenticate
  | .shakeSuccess => some .shakeSuccess
  | .shakeFailed => some .shakeFailed
  | .shakeDataNotEnough => some .shakeDataNotEnough
  | _ => none

/-- The stages that are still to come. -/
def stagesLeft : ShakeHandPackType → Nat
  | .shakeRtmpC01 => 8
  | .shakeRtmpC2 => 7
  | .shakeRtmpSetChunkSize => 6
  | .shakeRtmpConnect => 5
  | .shakeRtmpReleaseStream => 4
  | .shakeRtmpFcPublish => 3
  | .shakeRtmpCreateStream => 2
  | .shakeRtmpPublish => 1
  | _ => 0

/-- The `while (true)` of `ShakeHand`, at most `fuel` rounds of it. -/
def shakeHandLoop (build : Build) : Nat → RtmpManager → Bytes → ShakeHandOutcome
  | 0, manager, buffer => ⟨manager, buffer, [], .shakeDataNotEnough⟩
  | fuel + 1, manager, buffer =>
      let step := manager.parseShakeHand build buffer
      match shakeHandReturns step.result with
      | some result => ⟨step.manager, step.buffer, [], result⟩
      | none =>
          let rest := shakeHandLoop build fuel step.manager step.buffer
          { rest with replies := replies build step.result ++ rest.replies }

/-- `RtmpPushConnection::ShakeHand`: one round for each stage left and one that returns. -/
def shakeHand (build : Build) (manager : RtmpManager) (buffer : Bytes) : ShakeHandOutcome :=
  shakeHandLoop build (stagesLeft manager.shakeHandStatus + 1) manager buffer

/-! ### The loop ends -/

theorem parseMessage_advances {manager : RtmpManager} {buffer : Bytes}
    {keep : RtmpManager → RtmpPack → RtmpManager} {stage next : ShakeHandPackType}
    (goes : shakeHandReturns (manager.parseMessage buffer keep stage next).result = none) :
    (manager.parseMessage buffer keep stage next).manager.shakeHandStatus = next := by
  unfold parseMessage at goes ⊢
  dsimp only at goes ⊢
  split
  · rfl
  · rw [if_neg (by assumption)] at goes
    split at goes <;> cases goes

theorem parseBlock_advances {manager : RtmpManager} {buffer : Bytes} {length : Nat}
    {stage next : ShakeHandPackType}
    (goes : shakeHandReturns (manager.parseBlock buffer length stage next).result = none) :
    (manager.parseBlock buffer length stage next).manager.shakeHandStatus = next := by
  unfold parseBlock at goes ⊢
  split
  · rw [if_pos (by assumption)] at goes
    cases goes
  · rfl

/-- **A call that lets the loop go on moves to a later stage.** -/
theorem parseShakeHand_advances {build : Build} {manager : RtmpManager} {buffer : Bytes}
    (goes : shakeHandReturns (manager.parseShakeHand build buffer).result = none) :
    stagesLeft (manager.parseShakeHand build buffer).manager.shakeHandStatus <
      stagesLeft manager.shakeHandStatus := by
  unfold parseShakeHand at goes ⊢
  cases status : manager.shakeHandStatus with
  | shakeRtmpC01 =>
      simp only [status] at goes ⊢
      rw [parseBlock_advances goes]
      decide
  | shakeRtmpC2 =>
      simp only [status] at goes ⊢
      rw [parseBlock_advances goes]
      cases build.monitorMode <;> decide
  | shakeRtmpSetChunkSize =>
      simp only [status] at goes ⊢
      rw [parseMessage_advances goes]
      decide
  | shakeRtmpConnect =>
      simp only [status] at goes ⊢
      rw [parseMessage_advances goes]
      decide
  | shakeRtmpReleaseStream =>
      simp only [status] at goes ⊢
      rw [parseMessage_advances goes]
      decide
  | shakeRtmpFcPublish =>
      simp only [status] at goes ⊢
      rw [parseMessage_advances goes]
      decide
  | shakeRtmpCreateStream =>
      simp only [status] at goes ⊢
      cases buffer with
      | nil => cases goes
      | cons first rest =>
          by_cases skip : first = 0xc3
          · simp only [skip, if_true]
            decide
          · simp only [skip, if_false] at goes ⊢
            rw [parseMessage_advances goes]
            decide
  | shakeRtmpPublish =>
      simp only [status] at goes ⊢
      rw [parseMessage_advances goes]
      decide
  | shakeFailed =>
      simp only [status] at goes
      cases goes
  | shakeSuccess =>
      simp only [status] at goes
      cases goes
  | shakeDataNotEnough =>
      simp only [status] at goes
      cases goes

/-- More rounds than stages left make no difference. -/
theorem shakeHandLoop_eq (build : Build) (fuel : Nat) (manager : RtmpManager) (buffer : Bytes)
    (enough : stagesLeft manager.shakeHandStatus < fuel) :
    shakeHandLoop build fuel manager buffer = manager.shakeHand build buffer := by
  induction fuel using Nat.strongRecOn generalizing manager buffer with
  | ind fuel ih =>
      obtain ⟨fuel, rfl⟩ : ∃ n, fuel = n + 1 := ⟨fuel - 1, by omega⟩
      rw [shakeHand, shakeHandLoop, shakeHandLoop]
      cases goes : shakeHandReturns (manager.parseShakeHand build buffer).result with
      | some result => rfl
      | none =>
          have later := parseShakeHand_advances goes
          simp only
          rw [ih fuel (Nat.lt_succ_self _) _ _ (by omega)]
          rcases Nat.lt_or_ge (stagesLeft manager.shakeHandStatus) fuel with less | full
          · rw [ih _ (by omega) _ _ later]
          · obtain rfl : stagesLeft manager.shakeHandStatus = fuel := by omega
            rw [ih _ (Nat.lt_succ_self _) _ _ later]

/-- **One round of the loop.** -/
theorem shakeHand_eq (build : Build) (manager : RtmpManager) (buffer : Bytes) :
    manager.shakeHand build buffer =
      match shakeHandReturns (manager.parseShakeHand build buffer).result with
      | some result => ⟨(manager.parseShakeHand build buffer).manager,
          (manager.parseShakeHand build buffer).buffer, [], result⟩
      | none =>
          let rest := (manager.parseShakeHand build buffer).manager.shakeHand build
            (manager.parseShakeHand build buffer).buffer
          { rest with
            replies := replies build (manager.parseShakeHand build buffer).result ++
              rest.replies } := by
  rw [shakeHand, shakeHandLoop]
  cases goes : shakeHandReturns (manager.parseShakeHand build buffer).result with
  | some result => rfl
  | none =>
      simp only
      rw [shakeHandLoop_eq _ _ _ _ (parseShakeHand_advances goes)]

/-- **The loop by its rounds.** What holds of a round that returns, and of a round that goes
on when it holds of the rest, holds of `ShakeHand`. -/
theorem shakeHand_induction {build : Build} {Holds : RtmpManager → Bytes → ShakeHandOutcome → Prop}
    (returns : ∀ manager buffer result,
      shakeHandReturns (parseShakeHand build manager buffer).result = some result →
      Holds manager buffer ⟨(manager.parseShakeHand build buffer).manager,
        (manager.parseShakeHand build buffer).buffer, [], result⟩)
    (goes : ∀ manager buffer,
      shakeHandReturns (parseShakeHand build manager buffer).result = none →
      Holds (manager.parseShakeHand build buffer).manager
        (manager.parseShakeHand build buffer).buffer
        ((manager.parseShakeHand build buffer).manager.shakeHand build
          (manager.parseShakeHand build buffer).buffer) →
      Holds manager buffer (manager.shakeHand build buffer))
    (manager : RtmpManager) (buffer : Bytes) :
    Holds manager buffer (manager.shakeHand build buffer) := by
  induction stages : stagesLeft manager.shakeHandStatus using Nat.strongRecOn
    generalizing manager buffer with
  | ind n ih =>
      subst stages
      cases round : shakeHandReturns (manager.parseShakeHand build buffer).result with
      | some result =>
          have returned := returns manager buffer result round
          rwa [shakeHand_eq, round]
      | none => exact goes manager buffer round (ih _ (parseShakeHand_advances round) _ _ rfl)

/-- A round that returns. -/
theorem shakeHand_returns {build : Build} {manager : RtmpManager} {buffer : Bytes}
    {result : ShakeHandResult}
    (returns : shakeHandReturns (manager.parseShakeHand build buffer).result = some result) :
    manager.shakeHand build buffer = ⟨(manager.parseShakeHand build buffer).manager,
      (manager.parseShakeHand build buffer).buffer, [], result⟩ := by
  rw [shakeHand_eq, returns]

/-- A round that goes on. -/
theorem shakeHand_goes {build : Build} {manager : RtmpManager} {buffer : Bytes}
    (goes : shakeHandReturns (manager.parseShakeHand build buffer).result = none) :
    manager.shakeHand build buffer =
      { (manager.parseShakeHand build buffer).manager.shakeHand build
          (manager.parseShakeHand build buffer).buffer with
        replies := replies build (manager.parseShakeHand build buffer).result ++
          ((manager.parseShakeHand build buffer).manager.shakeHand build
            (manager.parseShakeHand build buffer).buffer).replies } := by
  rw [shakeHand_eq, goes]

end RtmpManager

namespace RtmpPushConnection

/-- The constructor. -/
def new (connectionName : Bytes) (rtmpManager : RtmpManager) : RtmpPushConnection :=
  ⟨connectionName, [], rtmpManager, .new, []⟩

/-- `GetRtmpPath`. -/
def getRtmpPath (connection : RtmpPushConnection) : Except Fault Bytes := do
  let url ← connection.rtmpManager.getUrlFromConnectPack
  Format.getPathFromUrl url

/-! ## Media and viewers -/

/-- `Transform` with a pointer to the pack. -/
def transformPack (build : Build) (unset : UInt8) (codec : Rtmp2FlvCodec) :
    Option RtmpPack → Except Fault (Rtmp2FlvCodec × FlvTag)
  | none => .error .nullPointer
  | some pack => .ok (codec.transform build unset pack .new)

/-- The three tags of `GetHeaderDataBuffer`; without an audio pack there is no audio tag. -/
structure HeaderTags where
  script : FlvTag
  video : FlvTag
  audio : Option FlvTag
  deriving DecidableEq, Repr

/-- `Transform` of the header packs, in the order of the header. -/
def transformHeaderPacks (build : Build) (unset : HeaderUnset) (connection : RtmpPushConnection) :
    Except Fault (Rtmp2FlvCodec × HeaderTags) := do
  let codec := connection.rtmpManager.rtmpCodec
  let script ← transformPack build unset.script connection.rtmpToFlvCodec codec.firstScriptPack
  let video ← transformPack build unset.video script.1 codec.firstVideoPack
  match codec.firstAudioPack with
  | none => return (video.1, ⟨script.2, video.2, none⟩)
  | some pack =>
      let audio := video.1.transform build unset.audio pack .new
      return (audio.1, ⟨script.2, video.2, some audio.2⟩)

/-- What is appended to the header buffer for its tags. -/
def HeaderTags.bytes (tags : HeaderTags) : Bytes :=
  FlvHeader.defaultHeader ++
    ((ByteQuad.htonl 0).bytes ++ tags.script.header ++ tags.script.body) ++
    ((ByteQuad.htonl tags.script.getCurrentTagSize).bytes ++ tags.video.header ++
      tags.video.body) ++
    match tags.audio with
    | none => []
    | some audio =>
        (ByteQuad.htonl tags.video.getCurrentTagSize).bytes ++ audio.header ++ audio.body

/-- `GetHeaderDataBuffer`: the buffer is built when it is empty. -/
def getHeaderDataBuffer (build : Build) (unset : HeaderUnset) (connection : RtmpPushConnection) :
    Except Fault RtmpPushConnection :=
  if connection.headerBuffer = [] then do
    let (codec, tags) ← connection.transformHeaderPacks build unset
    return { connection with rtmpToFlvCodec := codec, headerBuffer := tags.bytes }
  else return connection

/-- `AddClientConnection`, with what it sends to the viewer. -/
def addClientConnection (build : Build) (unset : HeaderUnset) (connection : RtmpPushConnection)
    (client : HttpPullConnection) : Except Fault (RtmpPushConnection × Bytes) := do
  let connection := { connection with
    clientConnectionMap := connection.clientConnectionMap.insert client.connectionName client }
  let connection ← connection.getHeaderDataBuffer build unset
  return (connection, client.sendHeaderOnConnection connection.headerBuffer)

/-- `OnNewFlvTag`, with what it sends to each viewer. -/
def onNewFlvTag (connection : RtmpPushConnection) (tag : FlvTag) :
    RtmpPushConnection × List (Bytes × Bytes) :=
  ({ connection with
      clientConnectionMap :=
        connection.clientConnectionMap.map fun entry => (entry.1, (entry.2.addFlvTag tag).1) },
    connection.clientConnectionMap.map fun entry => (entry.1, (entry.2.addFlvTag tag).2))

/-- `OnNewRtmpPack`. -/
def onNewRtmpPack (build : Build) (unset : UInt8) (connection : RtmpPushConnection)
    (pack : RtmpPack) : RtmpPushConnection × List (Bytes × Bytes) :=
  let step := connection.rtmpToFlvCodec.transform build unset pack .new
  { connection with rtmpToFlvCodec := step.1 }.onNewFlvTag step.2

/-- `OnConnectionClose` for a viewer. -/
def onConnectionClose (connection : RtmpPushConnection) (connectionName : Bytes) :
    RtmpPushConnection :=
  { connection with clientConnectionMap := connection.clientConnectionMap.erase connectionName }

/-- `ParseData`, with the callback of the manager. -/
def parseData (build : Build) (unset : UInt8) (connection : RtmpPushConnection)
    (buffer : Bytes) : RtmpPushConnection × Bytes × List (Bytes × Bytes) :=
  let step := connection.rtmpManager.parseData build buffer
  let connection := { connection with rtmpManager := step.manager }
  match step.newRtmpPack with
  | none => (connection, step.buffer, [])
  | some pack =>
      let passed := connection.onNewRtmpPack build unset pack
      (passed.1, step.buffer, passed.2)

/-! ## What the operations leave -/

section

variable {build : Build} {unset : HeaderUnset} {connection : RtmpPushConnection}

theorem getHeaderDataBuffer_empty (empty : connection.headerBuffer = []) :
    connection.getHeaderDataBuffer build unset =
      (connection.transformHeaderPacks build unset).map fun transformed =>
        { connection with
          rtmpToFlvCodec := transformed.1, headerBuffer := transformed.2.bytes } := by
  rw [getHeaderDataBuffer, if_pos empty]
  cases connection.transformHeaderPacks build unset <;> rfl

theorem getHeaderDataBuffer_kept (kept : connection.headerBuffer ≠ []) :
    connection.getHeaderDataBuffer build unset = .ok connection := by
  rw [getHeaderDataBuffer, if_neg kept]
  rfl

/-- `AddClientConnection` serves a viewer exactly when there is a header buffer. -/
theorem addClientConnection_eq {client : HttpPullConnection} :
    connection.addClientConnection build unset client =
      (connection.getHeaderDataBuffer build unset).map fun served =>
        ({ served with clientConnectionMap :=
            connection.clientConnectionMap.insert client.connectionName client },
          client.sendHeaderOnConnection served.headerBuffer) := by
  have same (map : PullConnectionMap) :
      { connection with clientConnectionMap := map }.transformHeaderPacks build unset =
        connection.transformHeaderPacks build unset := rfl
  by_cases empty : connection.headerBuffer = []
  · rw [addClientConnection, getHeaderDataBuffer_empty (by exact empty),
      getHeaderDataBuffer_empty empty, same]
    cases connection.transformHeaderPacks build unset <;> rfl
  · rw [addClientConnection, getHeaderDataBuffer_kept (by exact empty),
      getHeaderDataBuffer_kept empty]
    rfl

/-- `AddClientConnection` for the first viewer. -/
theorem addClientConnection_empty {client : HttpPullConnection}
    (empty : connection.headerBuffer = []) :
    connection.addClientConnection build unset client =
      (connection.transformHeaderPacks build unset).map fun transformed =>
        ({ connection with
            clientConnectionMap :=
              connection.clientConnectionMap.insert client.connectionName client
            rtmpToFlvCodec := transformed.1
            headerBuffer := transformed.2.bytes },
          client.sendHeaderOnConnection transformed.2.bytes) := by
  rw [addClientConnection_eq, getHeaderDataBuffer_empty empty]
  cases connection.transformHeaderPacks build unset <;> rfl

/-- `AddClientConnection` for a later one. -/
theorem addClientConnection_kept {client : HttpPullConnection}
    (kept : connection.headerBuffer ≠ []) :
    connection.addClientConnection build unset client =
      .ok ({ connection with
          clientConnectionMap :=
            connection.clientConnectionMap.insert client.connectionName client },
        client.sendHeaderOnConnection connection.headerBuffer) := by
  rw [addClientConnection_eq, getHeaderDataBuffer_kept kept]
  rfl

/-- `GetHeaderDataBuffer` leaves all but the codec and the buffer. -/
theorem getHeaderDataBuffer_cases {served : RtmpPushConnection}
    (made : connection.getHeaderDataBuffer build unset = .ok served) :
    served = connection ∧ connection.headerBuffer ≠ [] ∨
      ∃ transformed, connection.transformHeaderPacks build unset = .ok transformed ∧
        served = { connection with
          rtmpToFlvCodec := transformed.1, headerBuffer := transformed.2.bytes } := by
  by_cases empty : connection.headerBuffer = []
  · rw [getHeaderDataBuffer_empty empty] at made
    cases transformed : connection.transformHeaderPacks build unset with
    | error fault =>
        rw [transformed] at made
        cases made
    | ok tags =>
        rw [transformed] at made
        exact .inr ⟨tags, rfl, (Except.ok.inj made).symm⟩
  · rw [getHeaderDataBuffer_kept empty] at made
    exact .inl ⟨(Except.ok.inj made).symm, empty⟩

/-- A viewer is served by what `GetHeaderDataBuffer` leaves. -/
theorem addClientConnection_served {client : HttpPullConnection} {after : RtmpPushConnection}
    {sent : Bytes} (added : connection.addClientConnection build unset client = .ok (after, sent)) :
    ∃ served, connection.getHeaderDataBuffer build unset = .ok served ∧
      after = { served with clientConnectionMap :=
        connection.clientConnectionMap.insert client.connectionName client } ∧
      sent = client.sendHeaderOnConnection served.headerBuffer := by
  rw [addClientConnection_eq] at added
  cases made : connection.getHeaderDataBuffer build unset with
  | error fault =>
      rw [made] at added
      cases added
  | ok served =>
      rw [made] at added
      obtain ⟨rfl, rfl⟩ := Prod.mk.inj (Except.ok.inj added)
      exact ⟨served, rfl, rfl, rfl⟩

/-- Attaching a viewer leaves the manager. -/
theorem addClientConnection_rtmpManager {client : HttpPullConnection}
    {after : RtmpPushConnection} {sent : Bytes}
    (added : connection.addClientConnection build unset client = .ok (after, sent)) :
    after.rtmpManager = connection.rtmpManager := by
  obtain ⟨served, made, rfl, -⟩ := addClientConnection_served added
  rcases getHeaderDataBuffer_cases made with ⟨rfl, -⟩ | ⟨_, -, rfl⟩ <;> rfl

/-- Attaching a viewer leaves the name. -/
theorem addClientConnection_connectionName {client : HttpPullConnection}
    {after : RtmpPushConnection} {sent : Bytes}
    (added : connection.addClientConnection build unset client = .ok (after, sent)) :
    after.connectionName = connection.connectionName := by
  obtain ⟨served, made, rfl, -⟩ := addClientConnection_served added
  rcases getHeaderDataBuffer_cases made with ⟨rfl, -⟩ | ⟨_, -, rfl⟩ <;> rfl

end

theorem parseData_headerBuffer (build : Build) (unset : UInt8) (connection : RtmpPushConnection)
    (buffer : Bytes) :
    (connection.parseData build unset buffer).1.headerBuffer = connection.headerBuffer := by
  rw [parseData]
  cases (connection.rtmpManager.parseData build buffer).newRtmpPack <;> rfl

theorem parseData_rtmpManager (build : Build) (unset : UInt8) (connection : RtmpPushConnection)
    (buffer : Bytes) :
    (connection.parseData build unset buffer).1.rtmpManager =
      (connection.rtmpManager.parseData build buffer).manager := by
  rw [parseData]
  cases (connection.rtmpManager.parseData build buffer).newRtmpPack <;> rfl

end RtmpPushConnection

end LiveBroadcast
