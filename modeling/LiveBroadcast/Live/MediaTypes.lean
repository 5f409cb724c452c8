import LiveBroadcast.Live.Broadcast
import LiveBroadcast.Live.PublisherRuns

/-!
# What reaches viewers as a tag

A publisher's messages are not only media: control and command messages arrive between them.
`ParseFirstHeader` looks at the type of a message, but in the data phase `ParseData` passes on
the last message that a read finishes, whatever its type, and `Transform` makes a tag of it.

So the tags that are passed to viewers are audio, video and script exactly as long as the
last message that a read finishes for viewers is (`only_media_reaches_viewers_iff`).
-/

set_option autoImplicit false

namespace LiveBroadcast

/-! ## Media -/

/-- The messages that carry FLV media: audio, video and script. -/
def RtmpPackType.IsMedia (type : RtmpPackType) : Prop :=
  type = .rtmpAudio ∨ type = .rtmpVideo ∨ type = .rtmpScript

/-- The tags of FLV media: audio, video and script. -/
def FlvTag.IsMedia (tag : FlvTag) : Prop :=
  tag.tagType = 8 ∨ tag.tagType = 9 ∨ tag.tagType = 18

instance (tag : FlvTag) : Decidable tag.IsMedia :=
  inferInstanceAs (Decidable (_ ∨ _ ∨ _))

/-- A tag is media when its pack is. -/
theorem Rtmp2FlvCodec.transform_isMedia_iff (build : Build) (unset : UInt8)
    (codec : Rtmp2FlvCodec) (pack : RtmpPack) :
    (codec.transform build unset pack .new).2.IsMedia ↔ pack.packType.IsMedia := by
  have type : (codec.transform build unset pack .new).2.tagType = pack.packType.toByte := rfl
  rw [FlvTag.IsMedia, type, RtmpPackType.IsMedia]
  cases pack.packType with
  | rtmpOther => decide
  | rtmpAbort => decide
  | rtmpAcknowledge => decide
  | rtmpControl => decide
  | rtmpAudio => decide
  | rtmpVideo => decide
  | rtmpScript => decide

/-! ## The last message of a read -/

/-- If the data phase is reached behind these bytes, the last message they finish is media. -/
def RtmpCodec.EndsInMedia (build : Build) (codec : RtmpCodec) (buffer : Bytes) : Prop :=
  ((codec.finishes buffer).foldl (HeaderPhase.collect build)
      codec.toHeaderPhase).decodeDataStatus = .parseDataPack →
    ∀ pack, (codec.finishes buffer).getLast? = some pack → pack.packType.IsMedia

namespace RtmpPushConnection

variable {build : Build} {connection : RtmpPushConnection}

/-- **The tag of a call is media** when the last message that the call finishes is. -/
theorem newFlvTag_isMedia_iff (sane : connection.rtmpManager.rtmpCodec.toChunkDecoder.Sane)
    (settled : connection.rtmpManager.rtmpCodec.Settled build) (unset : UInt8) (buffer : Bytes) :
    (∀ tag, connection.newFlvTag build unset buffer = some tag → tag.IsMedia) ↔
      connection.rtmpManager.rtmpCodec.EndsInMedia build buffer := by
  obtain ⟨-, passed⟩ := connection.rtmpManager.parseData_finishes sane settled.missing buffer
  rw [newFlvTag, passed, RtmpCodec.EndsInMedia]
  by_cases data : ((connection.rtmpManager.rtmpCodec.finishes buffer).foldl
      (HeaderPhase.collect build)
      connection.rtmpManager.rtmpCodec.toHeaderPhase).decodeDataStatus = .parseDataPack
  · rw [if_pos data]
    constructor
    · intro media _ pack last
      have tagged := media (connection.rtmpToFlvCodec.transform build unset pack .new).2
        (by rw [last, Option.map_some])
      exact (Rtmp2FlvCodec.transform_isMedia_iff build unset _ pack).mp tagged
    · intro media tag made
      obtain ⟨pack, last, rfl⟩ := Option.map_eq_some_iff.mp made
      exact (Rtmp2FlvCodec.transform_isMedia_iff build unset _ pack).mpr (media data pack last)
  · rw [if_neg data]
    apply iff_of_true
    · intro tag made
      cases made
    · intro inData
      exact absurd inData data

end RtmpPushConnection

/-! ## Reads -/

namespace Publisher

/-- The publisher is in its media phase, and viewers are attached to it. -/
def Broadcasts (publisher : Publisher) : Prop :=
  publisher.connectionStatus ≠ .disconnected ∧ publisher.newMessageCallback = .onBodyData ∧
    publisher.pushConnection.clientConnectionMap ≠ []

instance (publisher : Publisher) : Decidable publisher.Broadcasts :=
  inferInstanceAs (Decidable (_ ∧ _ ∧ _))

/-- The tag with which a read calls `AddFlvTag`, if it does. -/
def addedFlvTag (build : Build) (environment : ReadEnvironment) (publisher : Publisher)
    (data : Bytes) : Option FlvTag :=
  if publisher.Broadcasts then
    publisher.pushConnection.newFlvTag build environment.unset (publisher.recvBuffer ++ data)
  else none

variable {build : Build} {environment : ReadEnvironment} {publisher : Publisher} {data : Bytes}

/-- In its handshake a publisher has nothing for viewers. -/
theorem onConnectionShakeHand_sends {buffer : Bytes} {outcome : ReadOutcome}
    (made : publisher.onConnectionShakeHand build environment buffer = .ok outcome) :
    outcome.sends = [] := by
  rw [onConnectionShakeHand] at made
  cases result : (publisher.shakeHand build buffer).2 with
  | shakeAuthenticate =>
      simp only [result] at made
      cases asked : (publisher.shakeHand build buffer).1.authenticate environment with
      | error fault =>
          rw [asked] at made
          cases made
      | ok pair =>
          rw [asked] at made
          obtain rfl := Except.ok.inj made
          rfl
  | shakeSuccess =>
      simp only [result] at made
      cases name : (publisher.shakeHand build buffer).1.pushConnection.getRtmpPath with
      | error fault =>
          rw [name] at made
          cases made
      | ok path =>
          rw [name] at made
          obtain rfl := Except.ok.inj made
          rfl
  | shakeFailed =>
      simp only [result] at made
      obtain rfl := Except.ok.inj made
      rfl
  | shakeDataNotEnough =>
      simp only [result] at made
      obtain rfl := Except.ok.inj made
      rfl

/-- **What viewers are sent by a read** is what `AddFlvTag` sends them of this tag. -/
theorem onReadable_sends {outcome : ReadOutcome}
    (read : publisher.onReadable build environment data = .ok outcome) :
    outcome.sends = match publisher.addedFlvTag build environment data with
      | none => []
      | some tag => publisher.pushConnection.clientConnectionMap.map fun entry =>
          (entry.1, (entry.2.addFlvTag tag).2) := by
  rcases onReadable_cases read with ⟨gone, rfl⟩ | ⟨-, callback, shaking⟩ | ⟨opened, media, rfl⟩
  · rw [addedFlvTag, if_neg fun broadcasts => broadcasts.1 gone]
  · have silent : ¬ publisher.Broadcasts := fun broadcasts =>
      absurd (callback.symm.trans broadcasts.2.1) (by simp)
    rw [onConnectionShakeHand_sends shaking, addedFlvTag, if_neg silent]
  · by_cases alone : publisher.pushConnection.clientConnectionMap = []
    · rw [addedFlvTag, if_neg fun broadcasts => broadcasts.2.2 alone]
      simp only [onBodyData, RtmpPushConnection.parseData]
      cases (publisher.pushConnection.rtmpManager.parseData build
          (publisher.recvBuffer ++ data)).newRtmpPack with
      | none => rfl
      | some pack =>
          simp only [RtmpPushConnection.onNewRtmpPack, RtmpPushConnection.onNewFlvTag, alone,
            List.map_nil]
    · rw [addedFlvTag, if_pos ⟨opened, media, alone⟩]
      simp only [onBodyData, RtmpPushConnection.parseData, RtmpPushConnection.newFlvTag]
      cases (publisher.pushConnection.rtmpManager.parseData build
          (publisher.recvBuffer ++ data)).newRtmpPack with
      | none => rfl
      | some pack => rfl

end Publisher

namespace LiveServer

/-- The tag with which an event calls `AddFlvTag`, if it does. -/
def addedFlvTag (build : Build) (server : LiveServer) : LiveEvent → Option FlvTag
  | .readable id data environment =>
      (server.publishers id).bind fun publisher => publisher.addedFlvTag build environment data
  | _ => none

/-- If the event is a read of a publisher with viewers, behind which the data phase is
reached, the last message that it finishes is media. -/
def EndsInMedia (build : Build) (server : LiveServer) : LiveEvent → Prop
  | .readable id data _ => ∀ publisher, server.publishers id = some publisher →
      publisher.Broadcasts → publisher.codec.EndsInMedia build (publisher.recvBuffer ++ data)
  | _ => True

variable {build : Build} {server : LiveServer}

theorem addedFlvTag_isMedia_iff (settled : server.Settled build)
    (sane : ∀ id publisher, server.publishers id = some publisher →
      publisher.codec.toChunkDecoder.Sane) (event : LiveEvent) :
    (∀ tag, server.addedFlvTag build event = some tag → tag.IsMedia) ↔
      server.EndsInMedia build event := by
  cases event with
  | readable id data environment =>
      simp only [addedFlvTag, EndsInMedia]
      cases there : server.publishers id with
      | none => simp
      | some publisher =>
          simp only [Option.bind_some, Option.some.injEq, forall_eq', Publisher.addedFlvTag]
          by_cases broadcasts : publisher.Broadcasts
          · simp only [broadcasts, if_true, forall_const]
            exact RtmpPushConnection.newFlvTag_isMedia_iff (sane id publisher there)
              (settled id publisher there) environment.unset _
          · simp [broadcasts]
  | _ => simp [addedFlvTag, EndsInMedia]

end LiveServer

open LiveServer

/-- **When only media reaches viewers.** In every run of the servers whose constructors find 0
in `read_chunk_size_`: every tag with which `AddFlvTag` is called is audio, video or script,
if and only if the last message that a read finishes for viewers, once no sequence header is
missing, is audio, video or script. -/
theorem only_media_reaches_viewers_iff (build : Build) (events : List LiveEvent) :
    (∀ before event, before ++ [event] <+: events.map LiveEvent.zeroed → ∀ server,
        (LiveServer.machine build).run (.ok .empty) before = .ok server →
          ∀ tag, server.addedFlvTag build event = some tag → tag.IsMedia) ↔
      ∀ before event, before ++ [event] <+: events.map LiveEvent.zeroed → ∀ server,
        (LiveServer.machine build).run (.ok .empty) before = .ok server →
          server.EndsInMedia build event := by
  refine forall_congr' fun before => forall_congr' fun event => ?_
  refine imp_congr_right fun le => forall_congr' fun server => ?_
  refine imp_congr_right fun reached => ?_
  have zeroed : ∃ part : List LiveEvent, before = part.map LiveEvent.zeroed := by
    have earlier := (List.prefix_append before [event]).trans le
    obtain ⟨part, -, same⟩ := List.prefix_map_iff.mp earlier
    exact ⟨part, same⟩
  obtain ⟨part, rfl⟩ := zeroed
  exact addedFlvTag_isMedia_iff
    (Machine.faulting_invariant (fun _ _ _ settled made => Settled.step settled made)
      settled_empty reached)
    (fun id publisher there => publisher_sane reached there) event

/-- A publisher completes its handshake and its sequence headers, a viewer joins, and the
publisher acknowledges bytes. -/
def acknowledgedStream : List LiveEvent :=
  let environment : ReadEnvironment := ⟨none, fun _ => 0, 0⟩
  [.connect 0 [99] ⟨0, false, .zero, .zero⟩ .zero .zero,
    .readable 0 handshakeUpToRelease environment, .readable 0 handshakeFromFcPublish environment,
    .readable 0 (encodeMessages 4096 4 longHeaders) environment, requestForP]

/-- **An acknowledgement becomes a tag** of type 3, and is sent to the viewer. -/
theorem acknowledgement_reaches_viewers :
    ∃ server tag, (LiveServer.machine .standard).run (.ok .empty)
        (acknowledgedStream.map LiveEvent.zeroed) = .ok server ∧
      server.addedFlvTag .standard (.readable 0 (encodeMessages 4096 2
        [plainMessage 3 [0, 0, 16, 0] (by decide)]) ⟨none, fun _ => 0, 0⟩) = some tag ∧
      tag.tagType = 3 ∧ ¬ tag.IsMedia := by
  have runs : ((LiveServer.machine .standard).run (.ok .empty)
      (acknowledgedStream.map LiveEvent.zeroed)).toOption.any (fun server =>
        (server.addedFlvTag .standard (.readable 0 (encodeMessages 4096 2
          [plainMessage 3 [0, 0, 16, 0] (by decide)]) ⟨none, fun _ => 0, 0⟩)).any
            (fun tag => tag.tagType == 3)) = true := by
    decide +kernel
  obtain ⟨server, reached, checked⟩ := Machine.exists_of_any runs
  obtain ⟨tag, added, three⟩ := (Option.any_eq_true _ _).mp checked
  have type : tag.tagType = 3 := by simpa using three
  refine ⟨server, tag, reached, added, type, ?_⟩
  rw [FlvTag.IsMedia, type]
  decide

end LiveBroadcast
