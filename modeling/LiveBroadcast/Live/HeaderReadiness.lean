import LiveBroadcast.Codec.DataDecoding
import LiveBroadcast.Live.RtmpPushServer
import LiveBroadcast.Live.ViewerStream

/-!
# Viewers and sequence headers

The header buffer of a publisher is built for its first viewer, from the sequence headers
that are there, and kept. A publisher is in the registry from the end of its handshake on,
and its sequence headers arrive later.

The codec is in its data phase exactly when no sequence header is missing (`Settled`), in
every state that is reached, and in the data phase the sequence headers stay as they are. So
viewers find complete headers, no pack that is missing is transformed, and no header buffer
lacks the audio header of its stream, exactly as long as every viewer finds its publisher in
the data phase (`viewers_find_headers_iff`).
-/

set_option autoImplicit false

namespace LiveBroadcast

/-! ## The phase of the codec -/

namespace HeaderPhase

/-- The codec is in its data phase exactly when no sequence header is missing. -/
def Settled (build : Build) (phase : HeaderPhase) : Prop :=
  phase.decodeDataStatus = .parseDataPack ↔ phase.headerMissing build = false

theorem Settled.missing {build : Build} {phase : HeaderPhase} (settled : phase.Settled build)
    (first : phase.decodeDataStatus = .parseFirstHeader) : phase.headerMissing build = true := by
  by_contra complete
  rw [Bool.not_eq_true] at complete
  rw [settled.mpr complete] at first
  cases first

end HeaderPhase

namespace RtmpCodec

variable {build : Build}

/-- The loop keeps the phase, and reports that the headers are finished when none is
missing. -/
theorem parseFirstHeaderLoop_phase (fuel : Nat) (codec : RtmpCodec) (buffer : Bytes) (sum : Int) :
    (codec.parseFirstHeaderLoop build fuel buffer sum).codec.decodeDataStatus =
        codec.decodeDataStatus ∧
      (codec.parseFirstHeaderLoop build fuel buffer sum).packFinish =
        !(codec.parseFirstHeaderLoop build fuel buffer sum).codec.headerMissing build := by
  induction fuel generalizing codec buffer sum with
  | zero => exact ⟨rfl, rfl⟩
  | succ fuel ih =>
      by_cases missing : codec.headerMissing build = true
      · have nonneg := (ChunkDecoder.decodePack_length codec.toChunkDecoder buffer).2
        simp only [parseFirstHeaderLoop, missing, if_true]
        rw [if_neg (by omega)]
        by_cases stops : (codec.decodePack buffer).result = 0
        · rw [if_pos stops]
          refine ⟨?_, rfl⟩
          cases (codec.decodePack buffer).packFinish with
          | true => exact HeaderPhase.keepFirstPack_status _ _
          | false => rfl
        · rw [if_neg stops]
          obtain ⟨status, finish⟩ := ih _ (codec.decodePack buffer).buffer
            (sum + (codec.decodePack buffer).result)
          refine ⟨status.trans ?_, finish⟩
          cases (codec.decodePack buffer).packFinish with
          | true => exact HeaderPhase.keepFirstPack_status _ _
          | false => rfl
      · rw [Bool.not_eq_true] at missing
        simp [parseFirstHeaderLoop, missing]

/-- What a call of `DecodeData` does to the phase: it stays settled, and once in the data
phase the sequence headers stay. -/
structure KeepsPhase (build : Build) (codec after : RtmpCodec) : Prop where
  settled : codec.Settled build → after.Settled build
  data : codec.decodeDataStatus = .parseDataPack → after.toHeaderPhase = codec.toHeaderPhase

theorem KeepsPhase.of_phase {codec after : RtmpCodec}
    (same : after.toHeaderPhase = codec.toHeaderPhase) :
    KeepsPhase build codec after := ⟨fun settled => by rw [same]; exact settled, fun _ => same⟩

theorem KeepsPhase.trans {codec between after : RtmpCodec} (first : KeepsPhase build codec between)
    (second : KeepsPhase build between after) : KeepsPhase build codec after where
  settled settled := second.settled (first.settled settled)
  data inData := by
    have same := first.data inData
    rw [second.data (by rw [same]; exact inData), same]

/-- One round of `DecodeData` in the header phase. -/
theorem parseFirstHeader_phase {codec : RtmpCodec} (buffer : Bytes)
    (first : codec.decodeDataStatus = .parseFirstHeader) :
    KeepsPhase build codec
      (if (codec.parseFirstHeader build buffer).packFinish then
        { (codec.parseFirstHeader build buffer).codec with decodeDataStatus := .parseDataPack }
      else (codec.parseFirstHeader build buffer).codec) := by
  refine ⟨fun settled => ?_, fun inData => by rw [first] at inData; cases inData⟩
  have missing := settled.missing first
  rw [parseFirstHeader]
  by_cases few : buffer.length < startParseLength
  · rw [if_pos few]
    exact settled
  · rw [if_neg few]
    obtain ⟨status, finish⟩ :=
      @parseFirstHeaderLoop_phase build (buffer.length + 1) codec buffer 0
    cases finished : (codec.parseFirstHeaderLoop build (buffer.length + 1) buffer 0).packFinish with
    | true =>
        rw [finished, Eq.comm, Bool.not_eq_true'] at finish
        exact iff_of_true rfl finish
    | false =>
        rw [finished, Eq.comm, Bool.not_eq_false'] at finish
        refine iff_of_false ?_ ?_
        · simp [status, first]
        · simp [finish]

/-- The loop of `DecodeData`. -/
theorem decodeDataLoop_phase (fuel : Nat) (codec : RtmpCodec) (buffer : Bytes)
    (packFinish : Bool) :
    KeepsPhase build codec (codec.decodeDataLoop build fuel buffer packFinish).codec := by
  induction fuel generalizing codec buffer packFinish with
  | zero => exact .of_phase rfl
  | succ fuel ih =>
      cases status : codec.decodeDataStatus with
      | parseFirstHeader =>
          have round := @parseFirstHeader_phase build _ buffer status
          simp only [decodeDataLoop, status]
          split
          · exact round
          · split
            · exact round
            · exact round.trans (ih _ _ _)
      | parseDataPack =>
          have round : KeepsPhase build codec
              { codec with toChunkDecoder := (codec.decodePack buffer).decoder } := .of_phase rfl
          simp only [decodeDataLoop, status]
          split
          · exact .of_phase rfl
          · split
            · exact .of_phase rfl
            · exact round.trans (ih _ _ _)

theorem decodeData_phase (codec : RtmpCodec) (buffer : Bytes) :
    KeepsPhase build codec (codec.decodeData build buffer).codec := by
  have loop := @decodeDataLoop_phase build (buffer.length + 1) codec buffer false
  rw [decodeData]
  split
  · exact loop
  · exact loop

end RtmpCodec

namespace RtmpManager

theorem parseMessage_phase {manager : RtmpManager} {buffer : Bytes}
    {keep : RtmpManager → RtmpPack → RtmpManager} {stage next : ShakeHandPackType}
    (kept : ∀ manager pack, (keep manager pack).rtmpCodec = manager.rtmpCodec) :
    (manager.parseMessage buffer keep stage next).manager.rtmpCodec.toHeaderPhase =
      manager.rtmpCodec.toHeaderPhase := by
  have codec := kept (manager.parseHeaderAndBody buffer).1 (manager.parseHeaderAndBody buffer).2.2.2
  have phase : (keep (manager.parseHeaderAndBody buffer).1
      (manager.parseHeaderAndBody buffer).2.2.2).rtmpCodec.toHeaderPhase =
        manager.rtmpCodec.toHeaderPhase := by rw [codec]; rfl
  simp only [parseMessage]
  split
  · exact phase
  · split <;> exact phase

theorem parseBlock_phase {manager : RtmpManager} {buffer : Bytes} {length : Nat}
    {stage next : ShakeHandPackType} :
    (manager.parseBlock buffer length stage next).manager.rtmpCodec.toHeaderPhase =
      manager.rtmpCodec.toHeaderPhase := by
  rw [parseBlock]
  split <;> rfl

theorem parseShakeHand_phase (build : Build) (manager : RtmpManager) (buffer : Bytes) :
    (manager.parseShakeHand build buffer).manager.rtmpCodec.toHeaderPhase =
      manager.rtmpCodec.toHeaderPhase := by
  cases status : manager.shakeHandStatus with
  | shakeRtmpC01 =>
      simp only [parseShakeHand, status]
      exact parseBlock_phase
  | shakeRtmpC2 =>
      simp only [parseShakeHand, status]
      exact parseBlock_phase
  | shakeRtmpCreateStream =>
      simp only [parseShakeHand, status]
      cases buffer with
      | nil => rfl
      | cons first rest =>
          by_cases skip : first = 0xc3
          · simp only [skip, if_true]
          · simp only [skip, if_false]
            exact parseMessage_phase fun _ _ => rfl
  | shakeFailed => simp only [parseShakeHand, status]
  | shakeSuccess => simp only [parseShakeHand, status]
  | shakeDataNotEnough => simp only [parseShakeHand, status]
  | _ =>
      simp only [parseShakeHand, status]
      exact parseMessage_phase fun _ _ => rfl

/-- The handshake does not touch the phase. -/
theorem shakeHand_phase (build : Build) (manager : RtmpManager) (buffer : Bytes) :
    (manager.shakeHand build buffer).manager.rtmpCodec.toHeaderPhase =
      manager.rtmpCodec.toHeaderPhase := by
  refine @shakeHand_induction build (fun manager _ outcome =>
    outcome.manager.rtmpCodec.toHeaderPhase = manager.rtmpCodec.toHeaderPhase) ?_ ?_ manager buffer
  · intro manager buffer _ _
    exact parseShakeHand_phase build manager buffer
  · intro manager buffer goes rest
    rw [shakeHand_goes goes]
    exact rest.trans (parseShakeHand_phase build manager buffer)

end RtmpManager

/-- The header has an audio tag when there is an audio pack. -/
theorem RtmpPushConnection.transformHeaderPacks_audio {build : Build} {unset : HeaderUnset}
    {connection : RtmpPushConnection} {transformed : Rtmp2FlvCodec × HeaderTags}
    (made : connection.transformHeaderPacks build unset = .ok transformed) :
    transformed.2.audio.isSome = connection.rtmpManager.rtmpCodec.firstAudioPack.isSome := by
  rw [transformHeaderPacks] at made
  cases script : transformPack build unset.script connection.rtmpToFlvCodec
      connection.rtmpManager.rtmpCodec.firstScriptPack with
  | error fault =>
      simp only [script, bind, Except.bind] at made
      cases made
  | ok first =>
      cases video : transformPack build unset.video first.1
          connection.rtmpManager.rtmpCodec.firstVideoPack with
      | error fault =>
          simp only [script, video, bind, Except.bind] at made
          cases made
      | ok second =>
          simp only [script, video, bind, Except.bind] at made
          cases audio : connection.rtmpManager.rtmpCodec.firstAudioPack with
          | none =>
              rw [audio] at made
              obtain rfl := Except.ok.inj made
              rfl
          | some pack =>
              rw [audio] at made
              obtain rfl := Except.ok.inj made
              rfl

/-! ## One publisher -/

namespace Publisher

/-- The codec of a publisher. -/
def codec (publisher : Publisher) : RtmpCodec := publisher.pushConnection.rtmpManager.rtmpCodec

/-- What an event leaves of the phase and the header buffer. -/
structure KeepsHeader (build : Build) (earlier later : Publisher) : Prop where
  phase : RtmpCodec.KeepsPhase build earlier.codec later.codec
  header : later.pushConnection.headerBuffer = earlier.pushConnection.headerBuffer

theorem KeepsHeader.refl {build : Build} (publisher : Publisher) :
    KeepsHeader build publisher publisher := ⟨.of_phase rfl, rfl⟩

variable {build : Build} {environment : ReadEnvironment} {publisher : Publisher}

/-- **A read keeps the header buffer**, and does to the phase what the decoder does. -/
theorem onReadable_keepsHeader {data : Bytes} {outcome : ReadOutcome}
    (read : publisher.onReadable build environment data = .ok outcome) :
    KeepsHeader build publisher outcome.publisher := by
  rcases onReadable_cases read with ⟨-, rfl⟩ | ⟨-, -, shaking⟩ | ⟨-, -, rfl⟩
  · exact .refl publisher
  · have connection := onConnectionShakeHand_pushConnection shaking
    refine ⟨.of_phase ?_, ?_⟩
    · rw [codec, codec, connection]
      exact RtmpManager.shakeHand_phase build _ _
    · rw [connection]
  · refine ⟨?_, RtmpPushConnection.parseData_headerBuffer _ _ _ _⟩
    rw [codec, codec, onBodyData, RtmpPushConnection.parseData_rtmpManager]
    exact RtmpCodec.decodeData_phase _ _

/-- The header buffer is there in the data phase only, and has the audio header of the
stream. -/
def HeaderCached (publisher : Publisher) : Prop :=
  publisher.pushConnection.headerBuffer ≠ [] →
    publisher.codec.decodeDataStatus = .parseDataPack ∧
      ∃ tags : RtmpPushConnection.HeaderTags,
        publisher.pushConnection.headerBuffer = tags.bytes ∧
          tags.audio.isSome = publisher.codec.firstAudioPack.isSome

theorem KeepsHeader.headerCached {earlier later : Publisher}
    (keeps : KeepsHeader build earlier later) (cached : earlier.HeaderCached) :
    later.HeaderCached := by
  intro filled
  rw [keeps.header] at filled ⊢
  obtain ⟨inData, tags, bytes, audio⟩ := cached filled
  have same := keeps.phase.data inData
  exact ⟨by rw [same]; exact inData, tags, bytes, by rw [same]; exact audio⟩

/-- **Attaching a viewer to a publisher in its data phase** builds a header buffer with the
audio header of the stream. -/
theorem headerCached_attach {client : HttpPullConnection} {unset : HeaderUnset}
    {connection : RtmpPushConnection} {sent : Bytes} (cached : publisher.HeaderCached)
    (inData : publisher.codec.decodeDataStatus = .parseDataPack)
    (added : publisher.pushConnection.addClientConnection build unset client =
      .ok (connection, sent)) :
    HeaderCached { publisher with pushConnection := connection } := by
  by_cases empty : publisher.pushConnection.headerBuffer = []
  · rw [RtmpPushConnection.addClientConnection_empty empty] at added
    cases transformed : publisher.pushConnection.transformHeaderPacks build unset with
    | error fault =>
        rw [transformed] at added
        cases added
    | ok tags =>
        rw [transformed] at added
        obtain rfl := (Prod.mk.inj (Except.ok.inj added)).1
        have audio := RtmpPushConnection.transformHeaderPacks_audio transformed
        exact fun _ => ⟨inData, tags.2, rfl, audio⟩
  · rw [RtmpPushConnection.addClientConnection_kept empty] at added
    obtain rfl := (Prod.mk.inj (Except.ok.inj added)).1
    exact cached

end Publisher

/-! ## Runs of the servers -/

namespace LiveServer

/-- Every codec is settled. -/
def Settled (build : Build) (server : LiveServer) : Prop :=
  ∀ id publisher, server.publishers id = some publisher → publisher.codec.Settled build

/-- Every header buffer has the audio header of its stream. -/
def HeadersCached (server : LiveServer) : Prop :=
  ∀ id publisher, server.publishers id = some publisher → publisher.HeaderCached

/-- A viewer that the event attaches finds its publisher in the data phase. -/
def FindsData (server : LiveServer) (event : LiveEvent) : Prop :=
  ∀ publisher unset, server.attached event = some (publisher, unset) →
    publisher.codec.decodeDataStatus = .parseDataPack

/-- A viewer that the event attaches finds a publisher whose sequence headers are complete,
and a header buffer, built now or before. -/
def FindsHeaders (build : Build) (server : LiveServer) (event : LiveEvent) : Prop :=
  ∀ publisher unset, server.attached event = some (publisher, unset) →
    publisher.codec.headerMissing build = false ∧
      ∃ served, publisher.pushConnection.getHeaderDataBuffer build unset = .ok served

variable {build : Build} {server next : LiveServer}

/-- What an event does to the phase of a publisher. -/
theorem Changes.keepsPhase {id : Nat} {event : LiveEvent} {earlier later : Publisher}
    (changes : Changes build server id earlier event later) :
    RtmpCodec.KeepsPhase build earlier.codec later.codec := by
  cases changes with
  | stays => exact .of_phase rfl
  | reads read => exact (Publisher.onReadable_keepsHeader read).phase
  | closes => exact .of_phase rfl
  | attaches found added =>
      refine .of_phase ?_
      rw [Publisher.codec, RtmpPushConnection.addClientConnection_rtmpManager added]
      rfl
  | detaches => exact .of_phase rfl

/-- A new codec is settled: it waits for every sequence header. -/
theorem settled_construct (unset : UnsetMembers) :
    (RtmpCodec.construct build unset).Settled build := by
  refine iff_of_false nofun ?_
  simp [RtmpCodec.construct, HeaderPhase.headerMissing]

theorem settled_empty : Settled build .empty := by
  intro id publisher there
  cases there

theorem headersCached_empty : HeadersCached .empty := by
  intro id publisher there
  cases there

/-- **Every event keeps the codecs settled.** -/
theorem Settled.step (settled : server.Settled build) {event : LiveEvent}
    (made : server.step build event = .ok next) : next.Settled build := by
  intro id publisher there
  rcases step_publisher made there with ⟨-, name, unset, connect, release, -, rfl⟩ |
    ⟨earlier, known, changes⟩
  · exact settled_construct unset
  · exact changes.keepsPhase.settled (settled id earlier known)

/-- **Attaching viewers in the data phase only keeps the header buffers right.** -/
theorem HeadersCached.step (cached : server.HeadersCached) {event : LiveEvent}
    (finds : server.FindsData event) (made : server.step build event = .ok next) :
    next.HeadersCached := by
  intro id publisher there
  rcases step_publisher made there with ⟨-, name, unset, connect, release, -, rfl⟩ |
    ⟨earlier, known, changes⟩
  · exact fun filled => absurd rfl filled
  · have before := cached id earlier known
    cases changes with
    | stays => exact before
    | reads read => exact (Publisher.onReadable_keepsHeader read).headerCached before
    | closes => exact before
    | attaches found added => exact Publisher.headerCached_attach before (finds _ _ found) added
    | detaches => exact before

/-- In a settled state a viewer finds the headers when it finds the data phase. -/
theorem Settled.findsHeaders_iff (settled : server.Settled build) (event : LiveEvent) :
    server.FindsHeaders build event ↔ server.FindsData event := by
  have known (publisher : Publisher) (unset : HeaderUnset)
      (found : server.attached event = some (publisher, unset)) :
      publisher.codec.Settled build := by
    obtain ⟨id, there⟩ := attached_publisher found
    exact settled id publisher there
  constructor
  · intro finds publisher unset found
    exact (known publisher unset found).mpr (finds publisher unset found).1
  · intro finds publisher unset found
    have complete := (known publisher unset found).mp (finds publisher unset found)
    refine ⟨complete, ?_⟩
    by_cases empty : publisher.pushConnection.headerBuffer = []
    · obtain ⟨script, video, -⟩ := (HeaderPhase.headerMissing_eq_false _).mp complete
      obtain ⟨_, hasScript⟩ := Option.isSome_iff_exists.mp script
      obtain ⟨_, hasVideo⟩ := Option.isSome_iff_exists.mp video
      obtain ⟨transformed, made, -⟩ :=
        @RtmpPushConnection.transformHeaderPacks_present build unset publisher.pushConnection _ _ _
          hasScript hasVideo rfl
      rw [RtmpPushConnection.getHeaderDataBuffer_empty empty, made]
      exact ⟨_, rfl⟩
    · exact ⟨_, RtmpPushConnection.getHeaderDataBuffer_kept empty⟩

end LiveServer

open LiveServer

/-- **Viewers find complete headers exactly as long as they find the data phase.** In every
run of the servers: every viewer that is attached finds the sequence headers complete and is
served a header buffer, and every header buffer has an audio header if its publisher ever
has one, if and only if every viewer that is attached finds its publisher in the data
phase. -/
theorem viewers_find_headers_iff (build : Build) (events : List LiveEvent) :
    ((∀ before event, before ++ [event] <+: events → ∀ server,
          (LiveServer.machine build).run (.ok .empty) before = .ok server →
            server.FindsHeaders build event) ∧
        ∀ before, before <+: events → ∀ server,
          (LiveServer.machine build).run (.ok .empty) before = .ok server →
            ∀ id publisher, server.publishers id = some publisher →
              publisher.pushConnection.headerBuffer ≠ [] →
                ∃ tags : RtmpPushConnection.HeaderTags,
                  publisher.pushConnection.headerBuffer = tags.bytes ∧
                    tags.audio.isSome = publisher.codec.firstAudioPack.isSome) ↔
      ∀ before event, before ++ [event] <+: events → ∀ server,
        (LiveServer.machine build).run (.ok .empty) before = .ok server →
          server.FindsData event := by
  have settled (before : List LiveEvent) (server : LiveServer)
      (reached : (LiveServer.machine build).run (.ok .empty) before = .ok server) :
      server.Settled build :=
    Machine.faulting_invariant (fun _ _ _ settled made => Settled.step settled made)
      settled_empty reached
  constructor
  · rintro ⟨headers, -⟩ before event le server reached
    exact ((settled before server reached).findsHeaders_iff event).mp
      (headers before event le server reached)
  · intro data
    refine ⟨fun before event le server reached => ?_, fun before le server reached => ?_⟩
    · exact ((settled before server reached).findsHeaders_iff event).mpr
        (data before event le server reached)
    · have cached : server.HeadersCached :=
        Machine.faulting_guarded
          (fun _ _ _ cached finds made => HeadersCached.step cached finds made)
          headersCached_empty (fun part event shorter => data part event (shorter.trans le)) reached
      intro id publisher there filled
      exact (cached id publisher there filled).2

/-- A publisher completes its handshake and sends no media. -/
def shakenHands : List LiveEvent :=
  let environment : ReadEnvironment := ⟨none, fun _ => 0, 0⟩
  [.connect 0 [99] ⟨0, false, .zero, .zero⟩ .zero .zero,
    .readable 0 handshakeUpToRelease environment, .readable 0 handshakeFromFcPublish environment]

/-- The request `GET /p `. -/
def requestForP : LiveEvent := .clientMessage [118] [71, 69, 84, 32, 47, 112, 32] ⟨0, 0, 0⟩

/-- **A viewer that comes before the media faults.** The publisher is found and has no
sequence header, and a null pack is transformed. -/
theorem viewer_before_media_faults :
    ∃ server, (LiveServer.machine .standard).run (.ok .empty) shakenHands = .ok server ∧
      ¬ server.FindsHeaders .standard requestForP ∧
      server.step .standard requestForP = .error .nullPointer := by
  have early : ((LiveServer.machine .standard).run (.ok .empty) shakenHands).toOption.any
      (fun server => (server.attached requestForP).any (fun found =>
          found.1.codec.headerMissing .standard) &&
        (match server.step .standard requestForP with
        | .error .nullPointer => true
        | _ => false)) = true := by
    decide +kernel
  obtain ⟨server, reached, checked⟩ := Machine.exists_of_any early
  rw [Bool.and_eq_true] at checked
  obtain ⟨⟨publisher, unset⟩, found, missing⟩ := (Option.any_eq_true _ _).mp checked.1
  refine ⟨server, reached, fun finds => ?_, ?_⟩
  · rw [(finds publisher unset found).1] at missing
    cases missing
  · have faults := checked.2
    split at faults
    · assumption
    · cases faults

end LiveBroadcast
