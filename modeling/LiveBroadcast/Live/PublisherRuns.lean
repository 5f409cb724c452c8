import LiveBroadcast.Codec.StoredBody
import LiveBroadcast.Live.HeaderReadiness

/-!
# The decoder of a publisher

Whatever the servers do to a publisher, its decoder and its unread bytes only ever change by
reads, by bytes that the handshake skips and by calls of `DecodePack`. So every publisher is
at the end of a run of `decoding` that starts at its constructor, and what all calls of
`DecodePack` keep holds of every publisher.

`read_chunk_size_` is not set by the constructor. Statements about all publishers are about
runs whose constructors find 0 there (`LiveEvent.zeroed`).
-/

set_option autoImplicit false

namespace LiveBroadcast

open RtmpManager

/-- The events by which a handler takes bytes from its buffer. -/
def BufferEvent.Takes : BufferEvent → Prop
  | .readFromSockfd _ => False
  | .addReadIndex _ => True
  | .decodePack => True

/-! ## The handshake -/

namespace RtmpManager

variable {build : Build}

/-- A call of `DecodePack` takes bytes. -/
theorem decodePack_leads (state : ChunkDecoder × Bytes) :
    decoding.LeadsBy BufferEvent.Takes state (decoding.step state .decodePack) :=
  .step state trivial

theorem addReadIndex_leads (state : ChunkDecoder × Bytes) (length : Nat) :
    decoding.LeadsBy BufferEvent.Takes state (decoding.step state (.addReadIndex length)) :=
  .step state trivial

/-- The decoder of a manager, and a buffer. -/
def decoderAt (manager : RtmpManager) (buffer : Bytes) : ChunkDecoder × Bytes :=
  (manager.rtmpCodec.toChunkDecoder, buffer)

theorem parseBlock_leads (manager : RtmpManager) (buffer : Bytes) (length : Nat)
    (stage next : ShakeHandPackType) :
    decoding.LeadsBy BufferEvent.Takes (manager.decoderAt buffer)
      ((manager.parseBlock buffer length stage next).manager.decoderAt
        (manager.parseBlock buffer length stage next).buffer) := by
  rw [parseBlock]
  split
  · exact .refl _
  · exact addReadIndex_leads (manager.decoderAt buffer) length

theorem parseMessage_leads (manager : RtmpManager) (buffer : Bytes)
    {keep : RtmpManager → RtmpPack → RtmpManager} (stage next : ShakeHandPackType)
    (kept : ∀ manager pack, (keep manager pack).rtmpCodec = manager.rtmpCodec) :
    decoding.LeadsBy BufferEvent.Takes (manager.decoderAt buffer)
      ((manager.parseMessage buffer keep stage next).manager.decoderAt
        (manager.parseMessage buffer keep stage next).buffer) := by
  have call : decoding.LeadsBy BufferEvent.Takes (manager.decoderAt buffer)
      ((keep (manager.parseHeaderAndBody buffer).1
        (manager.parseHeaderAndBody buffer).2.2.2).decoderAt
          (manager.parseHeaderAndBody buffer).2.1) := by
    rw [decoderAt, decoderAt, kept]
    exact decodePack_leads (manager.decoderAt buffer)
  simp only [parseMessage]
  split
  · exact call
  · split
    · exact call
    · exact call

/-- **A call of `ParseShakeHand`** skips bytes or calls `DecodePack`. -/
theorem parseShakeHand_leads (manager : RtmpManager) (buffer : Bytes) :
    decoding.LeadsBy BufferEvent.Takes (manager.decoderAt buffer)
      ((manager.parseShakeHand build buffer).manager.decoderAt
        (manager.parseShakeHand build buffer).buffer) := by
  cases status : manager.shakeHandStatus with
  | shakeRtmpC01 =>
      simp only [parseShakeHand, status]
      exact parseBlock_leads manager buffer _ _ _
  | shakeRtmpC2 =>
      simp only [parseShakeHand, status]
      exact parseBlock_leads manager buffer _ _ _
  | shakeRtmpCreateStream =>
      simp only [parseShakeHand, status]
      cases buffer with
      | nil => exact .refl _
      | cons first rest =>
          by_cases skip : first = 0xc3
          · simp only [skip, if_true]
            exact addReadIndex_leads (manager.decoderAt (0xc3 :: rest)) 26
          · simp only [skip, if_false]
            exact parseMessage_leads manager (first :: rest) _ _ fun _ _ => rfl
  | shakeFailed =>
      simp only [parseShakeHand, status]
      exact .refl _
  | shakeSuccess =>
      simp only [parseShakeHand, status]
      exact .refl _
  | shakeDataNotEnough =>
      simp only [parseShakeHand, status]
      exact .refl _
  | _ =>
      simp only [parseShakeHand, status]
      exact parseMessage_leads manager buffer _ _ fun _ _ => rfl

theorem shakeHand_leads (manager : RtmpManager) (buffer : Bytes) :
    decoding.LeadsBy BufferEvent.Takes (manager.decoderAt buffer)
      ((manager.shakeHand build buffer).manager.decoderAt
        (manager.shakeHand build buffer).buffer) := by
  refine @shakeHand_induction build (fun manager buffer outcome =>
    decoding.LeadsBy BufferEvent.Takes (manager.decoderAt buffer)
      (outcome.manager.decoderAt outcome.buffer))
    ?_ ?_ manager buffer
  · intro manager buffer _ _
    exact parseShakeHand_leads manager buffer
  · intro manager buffer goes rest
    rw [shakeHand_goes goes]
    exact (parseShakeHand_leads manager buffer).trans rest

end RtmpManager

/-! ## The media -/

namespace RtmpCodec

variable {build : Build}

/-- The loop of `ParseFirstHeader` calls `DecodePack` only. -/
theorem parseFirstHeaderLoop_leads (fuel : Nat) (codec : RtmpCodec) (buffer : Bytes) (sum : Int) :
    decoding.LeadsBy BufferEvent.Takes (codec.toChunkDecoder, buffer)
      ((codec.parseFirstHeaderLoop build fuel buffer sum).codec.toChunkDecoder,
        (codec.parseFirstHeaderLoop build fuel buffer sum).buffer) := by
  induction fuel generalizing codec buffer sum with
  | zero => exact .refl _
  | succ fuel ih =>
      have call : decoding.LeadsBy BufferEvent.Takes (codec.toChunkDecoder, buffer)
          ((codec.decodePack buffer).decoder, (codec.decodePack buffer).buffer) :=
        RtmpManager.decodePack_leads (codec.toChunkDecoder, buffer)
      rw [parseFirstHeaderLoop]
      split
      · have kept : (if (codec.decodePack buffer).packFinish then
            { { codec with toChunkDecoder := (codec.decodePack buffer).decoder } with
              toHeaderPhase := codec.keepFirstPack
                (codec.decodePack buffer).decoder.lastRtmpPack }
          else { codec with toChunkDecoder := (codec.decodePack buffer).decoder }).toChunkDecoder =
            (codec.decodePack buffer).decoder := by split <;> rfl
        dsimp only
        split
        · rw [kept]
          exact call
        · split
          · rw [kept]
            exact call
          · have rest := ih (if (codec.decodePack buffer).packFinish then
                { { codec with toChunkDecoder := (codec.decodePack buffer).decoder } with
                  toHeaderPhase := codec.keepFirstPack
                    (codec.decodePack buffer).decoder.lastRtmpPack }
              else { codec with toChunkDecoder := (codec.decodePack buffer).decoder })
              (codec.decodePack buffer).buffer (sum + (codec.decodePack buffer).result)
            rw [kept] at rest
            exact call.trans rest
      · exact .refl _

theorem parseFirstHeader_leads (codec : RtmpCodec) (buffer : Bytes) :
    decoding.LeadsBy BufferEvent.Takes (codec.toChunkDecoder, buffer)
      ((codec.parseFirstHeader build buffer).codec.toChunkDecoder,
        (codec.parseFirstHeader build buffer).buffer) := by
  rw [parseFirstHeader]
  split
  · exact .refl _
  · exact parseFirstHeaderLoop_leads _ codec buffer 0

/-- The loop of `DecodeData` as well. -/
theorem decodeDataLoop_leads (fuel : Nat) (codec : RtmpCodec) (buffer : Bytes)
    (packFinish : Bool) :
    decoding.LeadsBy BufferEvent.Takes (codec.toChunkDecoder, buffer)
      ((codec.decodeDataLoop build fuel buffer packFinish).codec.toChunkDecoder,
        (codec.decodeDataLoop build fuel buffer packFinish).buffer) := by
  induction fuel generalizing codec buffer packFinish with
  | zero => exact .refl _
  | succ fuel ih =>
      cases status : codec.decodeDataStatus with
      | parseFirstHeader =>
          have round := @parseFirstHeader_leads build codec buffer
          simp only [decodeDataLoop, status]
          cases (codec.parseFirstHeader build buffer).packFinish with
          | true =>
              simp only [if_true]
              split
              · exact round
              · split
                · exact round
                · exact round.trans (ih { (codec.parseFirstHeader build buffer).codec with
                    decodeDataStatus := .parseDataPack } _ _)
          | false =>
              simp only [Bool.false_eq_true, if_false]
              split
              · exact round
              · split
                · exact round
                · exact round.trans (ih _ _ _)
      | parseDataPack =>
          have call : decoding.LeadsBy BufferEvent.Takes (codec.toChunkDecoder, buffer)
              ((codec.decodePack buffer).decoder, (codec.decodePack buffer).buffer) :=
            RtmpManager.decodePack_leads (codec.toChunkDecoder, buffer)
          simp only [decodeDataLoop, status]
          split
          · exact call
          · split
            · exact call
            · exact call.trans (ih { codec with
                toChunkDecoder := (codec.decodePack buffer).decoder } _ _)

theorem decodeData_leads (build : Build) (codec : RtmpCodec) (buffer : Bytes) :
    decoding.LeadsBy BufferEvent.Takes (codec.toChunkDecoder, buffer)
      ((codec.decodeData build buffer).codec.toChunkDecoder,
        (codec.decodeData build buffer).buffer) := by
  have loop := @decodeDataLoop_leads build (buffer.length + 1) codec buffer false
  rw [decodeData]
  split
  · exact loop
  · exact loop

end RtmpCodec

/-! ## Publishers -/

namespace Publisher

variable {build : Build} {environment : ReadEnvironment} {publisher : Publisher}

/-- The decoder of a publisher and its unread bytes. -/
def decoderState (publisher : Publisher) : ChunkDecoder × Bytes :=
  (publisher.codec.toChunkDecoder, publisher.recvBuffer)

theorem shakeHand_decoderState (build : Build) (publisher : Publisher) (buffer : Bytes) :
    (publisher.shakeHand build buffer).1.decoderState =
      (publisher.pushConnection.rtmpManager.shakeHand build buffer).manager.decoderAt
        (publisher.pushConnection.rtmpManager.shakeHand build buffer).buffer := by
  rw [Publisher.shakeHand, send]
  split <;> rfl

/-- Recording, asking and shutting down leave the decoder. -/
theorem shutdown_decoderState (publisher : Publisher) :
    publisher.shutdown.decoderState = publisher.decoderState := by
  rw [shutdown]
  split <;> rfl

theorem authenticate_decoderState {asked : Publisher} {answer : Bool}
    (authenticated : publisher.authenticate environment = .ok (asked, answer)) :
    asked.decoderState = publisher.decoderState := by
  obtain ⟨-, -, ⟨rfl, -⟩ | ⟨-, -, -, -, rfl⟩⟩ := authenticate_cases authenticated
  · rfl
  · rfl

/-- `OnConnectionShakeHand` leaves the decoder as `ShakeHand` does. -/
theorem onConnectionShakeHand_decoderState {buffer : Bytes} {outcome : ReadOutcome}
    (made : publisher.onConnectionShakeHand build environment buffer = .ok outcome) :
    outcome.publisher.decoderState = (publisher.shakeHand build buffer).1.decoderState := by
  rcases onConnectionShakeHand_cases made with ⟨-, -, asked, answer, authenticated, after⟩ |
    ⟨-, path, -, after⟩ | ⟨-, -, same | ⟨-, down⟩⟩
  · rw [after]
    cases answer with
    | true => exact authenticate_decoderState authenticated
    | false => exact (shutdown_decoderState asked).trans (authenticate_decoderState authenticated)
  · rw [after]
    rfl
  · rw [same]
  · rw [down]
    exact shutdown_decoderState _

/-- **A read of a publisher** is a run of its decoder. -/
theorem onReadable_leads {data : Bytes} {outcome : ReadOutcome}
    (read : publisher.onReadable build environment data = .ok outcome) :
    decoding.Leads publisher.decoderState outcome.publisher.decoderState := by
  have appended : decoding.Leads publisher.decoderState
      (publisher.pushConnection.rtmpManager.decoderAt (publisher.recvBuffer ++ data)) :=
    .step publisher.decoderState (BufferEvent.readFromSockfd data)
  rcases onReadable_cases read with ⟨-, rfl⟩ | ⟨-, -, shaking⟩ | ⟨-, -, rfl⟩
  · exact .refl _
  · rw [onConnectionShakeHand_decoderState shaking, shakeHand_decoderState]
    exact appended.trans (shakeHand_leads _ _).leads
  · have decoded := appended.trans
      (RtmpCodec.decodeData_leads build publisher.codec (publisher.recvBuffer ++ data)).leads
    have state : (publisher.onBodyData build environment
        (publisher.recvBuffer ++ data)).publisher.decoderState =
          ((publisher.codec.decodeData build
              (publisher.recvBuffer ++ data)).codec.toChunkDecoder,
            (publisher.codec.decodeData build (publisher.recvBuffer ++ data)).buffer) := by
      simp only [decoderState, codec, onBodyData, RtmpPushConnection.parseData]
      cases (publisher.pushConnection.rtmpManager.parseData build
        (publisher.recvBuffer ++ data)).newRtmpPack <;> rfl
    rw [state]
    exact decoded

end Publisher

/-! ## Runs of the servers -/

/-- The event with a constructor that finds 0 where `read_chunk_size_` is. -/
def LiveEvent.zeroed : LiveEvent → LiveEvent
  | .connect id connectionName unset connectPack releasePack =>
      .connect id connectionName { unset with readChunkSize := 0 } connectPack releasePack
  | event => event

namespace LiveServer

variable {build : Build} {server next : LiveServer}

theorem Changes.leads {id : Nat} {event : LiveEvent} {earlier later : Publisher}
    (changes : Changes build server id earlier event later) :
    decoding.Leads earlier.decoderState later.decoderState := by
  cases changes with
  | stays => exact .refl _
  | reads read => exact Publisher.onReadable_leads read
  | closes => exact .refl _
  | attaches found added =>
      have same := RtmpPushConnection.addClientConnection_rtmpManager added
      rw [Publisher.decoderState, Publisher.decoderState, Publisher.codec, Publisher.codec, same]
      exact .refl _
  | detaches => exact .refl _

/-- **Every publisher is at the end of a run of its decoder.** -/
theorem publisher_decoding {events : List LiveEvent}
    (reached : (machine build).run (.ok .empty) (events.map LiveEvent.zeroed) = .ok server)
    {id : Nat} {publisher : Publisher} (there : server.publishers id = some publisher) :
    ∃ unset : UnsetMembers, decoding.Leads ((RtmpCodec.construct build
      { unset with readChunkSize := 0 }).toChunkDecoder, []) publisher.decoderState := by
  induction events using List.reverseRecOn generalizing server publisher with
  | nil =>
      obtain rfl := Except.ok.inj reached
      cases there
  | append_singleton events event ih =>
      rw [List.map_append, List.map_cons, List.map_nil, machine, Machine.faulting_run_concat]
        at reached
      cases earlier : (Machine.faulting (step build)).run (.ok .empty)
          (events.map LiveEvent.zeroed) with
      | error fault =>
          rw [earlier] at reached
          cases reached
      | ok before =>
          rw [earlier] at reached
          rcases step_publisher reached there with
            ⟨-, name, unset, connect, release, made, rfl⟩ | ⟨old, known, changes⟩
          · cases event with
            | connect newId connectionName members connectPack releasePack =>
                obtain ⟨-, -, rfl, -, -⟩ := LiveEvent.connect.inj made
                exact ⟨members, .refl _⟩
            | _ => cases made
          · obtain ⟨unset, leads⟩ := ih earlier known
            exact ⟨unset, leads.trans changes.leads⟩

/-- Whatever the decoder keeps of what its constructor leaves holds of every publisher. -/
theorem publisher_sane {events : List LiveEvent}
    (reached : (machine build).run (.ok .empty) (events.map LiveEvent.zeroed) = .ok server)
    {id : Nat} {publisher : Publisher} (there : server.publishers id = some publisher) :
    publisher.codec.toChunkDecoder.Sane := by
  obtain ⟨unset, leads⟩ := publisher_decoding reached there
  refine @Machine.Leads.keeps _ _ decoding (fun state => state.1.Sane) ?_ _ _ leads
    (RtmpCodec.construct_ready build rfl).sane
  intro state event sane
  cases event with
  | readFromSockfd data => exact sane
  | addReadIndex length => exact sane
  | decodePack => exact (sane.passes_call state.2).sane

end LiveServer

end LiveBroadcast
