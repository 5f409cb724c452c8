import Mathlib.Algebra.GroupWithZero.Nat
import LiveBroadcast.Codec.Timestamps
import LiveBroadcast.Live.Broadcast

/-!
# Viewers and the timeline

The header buffer is built for the first viewer, and its tags go through the converter that
also makes the live tags. In the standard build that adds the timestamps of the sequence
headers to the base of every later tag. When it happens is up to the viewers.

Two runs of a publisher that read the same and differ in their viewers have the same codec,
and the bases of their converters differ by what building the header buffer has added
(`Follows`). So the tags of a message are the same in both runs exactly when the runs have
added the same by then, up to a multiple of `2 ^ 24` (`media_timeline_iff`): both have built
the header buffer, or neither, unless the timestamps of the sequence headers add up to such a
multiple. The monitor build sets its base anew for every tag.
-/

set_option autoImplicit false

namespace LiveBroadcast

/-! ## The base of the converter -/

/-- Fields with the same number are the same. -/
theorem ByteTriple.ofNat_eq_iff (n k : Nat) : ofNat n = ofNat k ↔ n % 2 ^ 24 = k % 2 ^ 24 := by
  constructor
  · intro same
    rw [← toNat_ofNat n, ← toNat_ofNat k, same]
  · intro same
    simp only [ofNat, ByteTriple.mk.injEq, ← UInt8.toNat_inj, UInt8.toNat_ofNat']
    omega

namespace Rtmp2FlvCodec

variable {build : Build} (unset : UInt8) {codec other : Rtmp2FlvCodec} {pack : RtmpPack}

/-- In the standard build a pack adds its timestamp to the base. -/
theorem transform_adds (standard : build.monitorMode = false) (tag : FlvTag) :
    (codec.transform build unset pack tag).1.baseTimestamp % 2 ^ 24 =
      (codec.baseTimestamp + pack.timestamp.toNat) % 2 ^ 24 := by
  have base := @transform_baseTimestamp build unset codec pack tag
  simpa only [standard, Bool.false_eq_true, if_false] using base

/-- **Two converters make the same tag** exactly when their bases have the same low bytes, or
the base plays no part. -/
theorem transform_tag_eq_iff (tag : FlvTag) :
    (codec.transform build unset pack tag).2 = (other.transform build unset pack tag).2 ↔
      build.monitorMode = true ∨ codec.baseTimestamp % 2 ^ 24 = other.baseTimestamp % 2 ^ 24 := by
  obtain ⟨monitorMode⟩ := build
  cases monitorMode with
  | true => simp [transform]
  | false =>
      simp only [transform, Bool.false_eq_true, if_false, false_or, FlvTag.setTimeStamp,
        FlvTag.appendData, FlvTag.setDataSize, FlvTag.setTagType, FlvTag.mk.injEq, true_and,
        and_true, ByteTriple.ofNat_eq_iff]
      omega

end Rtmp2FlvCodec

namespace RtmpPushConnection

variable {build : Build} {connection : RtmpPushConnection}

/-- The timestamps of the sequence headers that are there, added up. -/
def headerTimestamps (connection : RtmpPushConnection) : Nat :=
  let codec := connection.rtmpManager.rtmpCodec
  ((codec.firstScriptPack.toList ++ codec.firstVideoPack.toList ++
    codec.firstAudioPack.toList).map fun pack => pack.timestamp.toNat).sum

theorem headerTimestamps_eq {first second : RtmpPack}
    (script : connection.rtmpManager.rtmpCodec.firstScriptPack = some first)
    (video : connection.rtmpManager.rtmpCodec.firstVideoPack = some second) :
    connection.headerTimestamps = first.timestamp.toNat + (second.timestamp.toNat +
      (connection.rtmpManager.rtmpCodec.firstAudioPack.elim 0 fun third =>
        third.timestamp.toNat)) := by
  rw [headerTimestamps, script, video, List.map_append, List.map_append, List.sum_append,
    List.sum_append, Option.toList_some, Option.toList_some, List.map_singleton,
    List.map_singleton, List.sum_singleton, List.sum_singleton, Nat.add_assoc]
  cases connection.rtmpManager.rtmpCodec.firstAudioPack with
  | none => rw [Option.toList_none, List.map_nil, List.sum_nil, Option.elim_none]
  | some third => rw [Option.toList_some, List.map_singleton, List.sum_singleton, Option.elim_some]

/-- Two additions to the low bytes are one. -/
theorem add_mod_trans {a b c m n : Nat} (first : b % 2 ^ 24 = (a + m) % 2 ^ 24)
    (second : c % 2 ^ 24 = (b + n) % 2 ^ 24) : c % 2 ^ 24 = (a + (m + n)) % 2 ^ 24 := by
  omega

/-- **Building the header buffer** adds the timestamps of the sequence headers to the base. -/
theorem transformHeaderPacks_adds (standard : build.monitorMode = false) {unset : HeaderUnset}
    {transformed : Rtmp2FlvCodec × HeaderTags}
    (made : connection.transformHeaderPacks build unset = .ok transformed) :
    transformed.1.baseTimestamp % 2 ^ 24 =
      (connection.rtmpToFlvCodec.baseTimestamp + connection.headerTimestamps) % 2 ^ 24 := by
  rw [transformHeaderPacks] at made
  cases script : connection.rtmpManager.rtmpCodec.firstScriptPack with
  | none =>
      simp only [script, transformPack, bind, Except.bind] at made
      cases made
  | some first =>
      cases video : connection.rtmpManager.rtmpCodec.firstVideoPack with
      | none =>
          simp only [script, video, transformPack, bind, Except.bind] at made
          cases made
      | some second =>
          have one := @Rtmp2FlvCodec.transform_adds build unset.script connection.rtmpToFlvCodec
            first standard .new
          have two := @Rtmp2FlvCodec.transform_adds build unset.video
            (connection.rtmpToFlvCodec.transform build unset.script first .new).1 second standard
            .new
          rw [headerTimestamps_eq script video]
          cases audio : connection.rtmpManager.rtmpCodec.firstAudioPack with
          | none =>
              simp only [script, video, audio, transformPack, bind, Except.bind, pure,
                Except.pure, Except.ok.injEq] at made
              rw [← made, Option.elim_none, Nat.add_zero]
              exact add_mod_trans one two
          | some third =>
              have three := @Rtmp2FlvCodec.transform_adds build unset.audio
                ((connection.rtmpToFlvCodec.transform build unset.script first .new).1.transform
                  build unset.video second .new).1 third standard .new
              simp only [script, video, audio, transformPack, bind, Except.bind, pure,
                Except.pure, Except.ok.injEq] at made
              rw [← made, Option.elim_some]
              exact add_mod_trans one (add_mod_trans two three)

end RtmpPushConnection

/-! ## Runs and their viewers -/

/-- The event is a read from the publisher. -/
def BroadcastEvent.isRead : BroadcastEvent → Bool
  | .onBodyData _ _ => true
  | .addClientConnection _ _ => false
  | .onConnectionClose _ => false

/-- What the publisher sends, without the joins and leaves of viewers. -/
def publisherReads (events : List BroadcastEvent) : List BroadcastEvent :=
  events.filter BroadcastEvent.isRead

namespace Broadcast

/-- What an event adds to the base by building the header buffer. -/
def headerAdds (outcome : Except Fault Broadcast) : BroadcastEvent → Nat
  | .addClientConnection _ _ =>
      match outcome with
      | .ok state =>
          if state.connection.headerBuffer = [] then state.connection.headerTimestamps else 0
      | .error _ => 0
  | .onBodyData _ _ => 0
  | .onConnectionClose _ => 0

/-- What building the header buffer has added to the base in a run. -/
def headerShift (build : Build) (start : Broadcast) (events : List BroadcastEvent) : Nat :=
  (machine build).total headerAdds (.ok start) events

/-- A run is where its reads alone would lead: the manager and the buffer are the same, and
the base differs by what building the header buffer has added. -/
structure Follows (build : Build) (alone state : Broadcast) (shift : Nat) : Prop where
  rtmpManager : state.connection.rtmpManager = alone.connection.rtmpManager
  recvBuffer : state.recvBuffer = alone.recvBuffer
  base : build.monitorMode = false → state.connection.rtmpToFlvCodec.baseTimestamp % 2 ^ 24 =
    (alone.connection.rtmpToFlvCodec.baseTimestamp + shift) % 2 ^ 24

variable {build : Build} {alone state next : Broadcast} {shift : Nat}

/-- What a read does to the converter: the pack that is passed goes through it. -/
theorem parseData_rtmpToFlvCodec (build : Build) (unset : UInt8) (connection : RtmpPushConnection)
    (buffer : Bytes) :
    (connection.parseData build unset buffer).1.rtmpToFlvCodec =
      match (connection.rtmpManager.parseData build buffer).newRtmpPack with
      | none => connection.rtmpToFlvCodec
      | some pack => (connection.rtmpToFlvCodec.transform build unset pack .new).1 := by
  rw [RtmpPushConnection.parseData]
  cases (connection.rtmpManager.parseData build buffer).newRtmpPack <;> rfl

/-- **A read** takes the reads alone and the run the same way. -/
theorem Follows.read (follows : Follows build alone state shift) (unset : UInt8) (data : Bytes) :
    ∃ after, alone.step build (.onBodyData unset data) = .ok after ∧
      ∀ next, state.step build (.onBodyData unset data) = .ok next →
        Follows build after next shift := by
  refine ⟨_, rfl, fun next made => ?_⟩
  obtain rfl := Except.ok.inj made
  refine ⟨?_, ?_, fun standard => ?_⟩
  · simp only [RtmpPushConnection.parseData_rtmpManager, follows.rtmpManager, follows.recvBuffer]
  · have buffer (connection : RtmpPushConnection) (bytes : Bytes) :
        (connection.parseData build unset bytes).2.1 =
          (connection.rtmpManager.parseData build bytes).buffer := by
      rw [RtmpPushConnection.parseData]
      cases (connection.rtmpManager.parseData build bytes).newRtmpPack <;> rfl
    simp only [buffer, follows.rtmpManager, follows.recvBuffer]
  · have base := follows.base standard
    simp only [parseData_rtmpToFlvCodec, follows.rtmpManager, follows.recvBuffer]
    cases (alone.connection.rtmpManager.parseData build
        (alone.recvBuffer ++ data)).newRtmpPack with
    | none => exact base
    | some pack =>
        have one := @Rtmp2FlvCodec.transform_adds build unset state.connection.rtmpToFlvCodec pack
          standard .new
        have two := @Rtmp2FlvCodec.transform_adds build unset alone.connection.rtmpToFlvCodec pack
          standard .new
        simp only
        omega

/-- **A viewer that joins** may make the run add the sequence headers to its base. -/
theorem Follows.join (follows : Follows build alone state shift) {unset : HeaderUnset}
    {connectionName : Bytes}
    (made : state.step build (.addClientConnection unset connectionName) = .ok next) :
    Follows build alone next
      (shift + headerAdds (.ok state) (.addClientConnection unset connectionName)) := by
  rw [step] at made
  rw [headerAdds]
  by_cases empty : state.connection.headerBuffer = []
  · rw [if_pos empty, RtmpPushConnection.addClientConnection_empty empty] at made
    cases transformed : state.connection.transformHeaderPacks build unset with
    | error fault =>
        rw [transformed] at made
        cases made
    | ok tags =>
        rw [transformed] at made
        obtain rfl := Except.ok.inj made
        refine ⟨follows.rtmpManager, follows.recvBuffer, fun standard => ?_⟩
        have adds := RtmpPushConnection.transformHeaderPacks_adds standard transformed
        have base := follows.base standard
        simp only [empty, if_true]
        omega
  · rw [if_neg empty, RtmpPushConnection.addClientConnection_kept empty] at made
    obtain rfl := Except.ok.inj made
    simp only [empty, if_false, Nat.add_zero]
    exact ⟨follows.rtmpManager, follows.recvBuffer, follows.base⟩

/-- **A run and its reads alone.** -/
theorem follows_run {start : Broadcast} {events : List BroadcastEvent}
    (reached : (machine build).run (.ok start) events = .ok state) :
    ∃ alone, (machine build).run (.ok start) (publisherReads events) = .ok alone ∧
      Follows build alone state (headerShift build start events) := by
  induction events using List.reverseRecOn generalizing state with
  | nil =>
      obtain rfl := Except.ok.inj reached
      exact ⟨start, rfl, rfl, rfl, fun _ => rfl⟩
  | append_singleton events event ih =>
      rw [machine, Machine.faulting_run_concat] at reached
      cases earlier : (Machine.faulting (step build)).run (.ok start) events with
      | error fault =>
          rw [earlier] at reached
          cases reached
      | ok before =>
          rw [earlier] at reached
          obtain ⟨alone, ran, follows⟩ := ih earlier
          have shift : headerShift build start (events ++ [event]) =
              headerShift build start events + headerAdds (.ok before) event := by
            rw [headerShift, Machine.total_concat, ← headerShift]
            exact congrArg (_ + headerAdds · event) earlier
          rw [shift, publisherReads, List.filter_append, ← publisherReads]
          cases event with
          | onBodyData unset data =>
              obtain ⟨after, read, same⟩ := follows.read unset data
              refine ⟨after, ?_, same state reached⟩
              rw [machine] at ran ⊢
              rw [show [BroadcastEvent.onBodyData unset data].filter BroadcastEvent.isRead =
                [.onBodyData unset data] from rfl, Machine.faulting_run_concat, ran]
              exact read
          | addClientConnection unset connectionName =>
              refine ⟨alone, ?_, follows.join reached⟩
              rw [show [BroadcastEvent.addClientConnection unset connectionName].filter
                BroadcastEvent.isRead = [] from rfl, List.append_nil]
              exact ran
          | onConnectionClose connectionName =>
              obtain rfl := Except.ok.inj reached
              refine ⟨alone, ?_, follows.rtmpManager, follows.recvBuffer, follows.base⟩
              rw [show [BroadcastEvent.onConnectionClose connectionName].filter
                BroadcastEvent.isRead = [] from rfl, List.append_nil]
              exact ran

/-- **The tags of one message in two runs** are the same exactly when the runs have added the
same. -/
theorem Follows.newFlvTag_eq_iff {other : Broadcast} {another : Nat}
    (follows : Follows build alone state shift) (along : Follows build alone other another)
    (unset : UInt8) (data : Bytes) :
    state.connection.newFlvTag build unset (state.recvBuffer ++ data) =
        other.connection.newFlvTag build unset (other.recvBuffer ++ data) ↔
      (state.connection.newFlvTag build unset (state.recvBuffer ++ data) ≠ none →
        build.monitorMode = true ∨ shift % 2 ^ 24 = another % 2 ^ 24) := by
  simp only [RtmpPushConnection.newFlvTag, follows.rtmpManager, follows.recvBuffer,
    along.rtmpManager, along.recvBuffer]
  cases (alone.connection.rtmpManager.parseData build
      (alone.recvBuffer ++ data)).newRtmpPack with
  | none => simp
  | some pack =>
      simp only [Option.map_some, Option.some.injEq, ne_eq, reduceCtorEq, not_false_eq_true,
        forall_const, Rtmp2FlvCodec.transform_tag_eq_iff]
      cases mode : build.monitorMode with
      | true => simp
      | false =>
          have one := follows.base mode
          have two := along.base mode
          simp only [Bool.false_eq_true, false_or]
          omega

end Broadcast

open Broadcast

/-- **When viewers do not influence the timeline.** Two runs of a publisher read the same from
it and have any viewers. Wherever both are at the same point of what is read, the tag that
the next read makes is the same in both, if and only if, wherever a tag is made, the runs have
added the same timestamps of sequence headers to their bases by then, modulo `2 ^ 24`, or the
build is the monitor build. -/
theorem media_timeline_iff (build : Build) (connectionName : Bytes) (manager : RtmpManager)
    (events others : List BroadcastEvent) :
    (∀ before other unset data, before ++ [.onBodyData unset data] <+: events →
        other ++ [.onBodyData unset data] <+: others →
        publisherReads before = publisherReads other → ∀ state along,
        (Broadcast.machine build).run (.ok (.new connectionName manager)) before = .ok state →
        (Broadcast.machine build).run (.ok (.new connectionName manager)) other = .ok along →
          state.connection.newFlvTag build unset (state.recvBuffer ++ data) =
            along.connection.newFlvTag build unset (along.recvBuffer ++ data)) ↔
      ∀ before other unset data, before ++ [.onBodyData unset data] <+: events →
        other ++ [.onBodyData unset data] <+: others →
        publisherReads before = publisherReads other → ∀ state along,
        (Broadcast.machine build).run (.ok (.new connectionName manager)) before = .ok state →
        (Broadcast.machine build).run (.ok (.new connectionName manager)) other = .ok along →
          state.connection.newFlvTag build unset (state.recvBuffer ++ data) ≠ none →
            build.monitorMode = true ∨
              headerShift build (.new connectionName manager) before % 2 ^ 24 =
                headerShift build (.new connectionName manager) other % 2 ^ 24 := by
  refine forall_congr' fun before => forall_congr' fun other => forall_congr' fun unset =>
    forall_congr' fun data => ?_
  refine imp_congr_right fun _ => imp_congr_right fun _ => imp_congr_right fun same => ?_
  refine forall_congr' fun state => forall_congr' fun along => ?_
  refine imp_congr_right fun reached => imp_congr_right fun arrived => ?_
  obtain ⟨alone, ran, follows⟩ := follows_run reached
  obtain ⟨likewise, ran', follows'⟩ := follows_run arrived
  rw [← same, ran] at ran'
  obtain rfl := Except.ok.inj ran'
  exact follows.newFlvTag_eq_iff follows' unset data

/-- The sequence headers of a publisher; the one for video is at 40. -/
def lateHeaders : List SentMessage :=
  [plainMessage 18 (List.replicate 1000 5) (by rw [List.length_replicate]; decide),
    ⟨.fmt0, ⟨⟨0, 0, 40⟩, 9, ⟨1, 0, 0, 0⟩, [11], by decide, by decide⟩⟩,
    plainMessage 8 [12] (by decide)]

/-- The headers and a frame. -/
def withoutViewer : List BroadcastEvent :=
  [.onBodyData 0 (encodeMessages 4096 4 lateHeaders),
    .onBodyData 0 (encodeMessages 4096 4 oneFrame)]

/-- The same, and a viewer joins in between. -/
def withViewer : List BroadcastEvent :=
  [.onBodyData 0 (encodeMessages 4096 4 lateHeaders), .addClientConnection ⟨0, 0, 0⟩ [118],
    .onBodyData 0 (encodeMessages 4096 4 oneFrame)]

/-- **A viewer shifts the timeline**: the tag of the frame is at 0 without the viewer and at
40 behind its join. -/
theorem viewer_shifts_timeline :
    publisherReads withViewer = publisherReads withoutViewer ∧
      ∀ schedule time, (schedule, time) ∈ [(withoutViewer, 0), (withViewer, 40)] →
        ∃ state, (Broadcast.machine .standard).run (.ok (.new [112] (.atStart .standard)))
            schedule.dropLast = .ok state ∧
          (state.connection.newFlvTag .standard 0
            (state.recvBuffer ++ encodeMessages 4096 4 oneFrame)).map (·.timestamp.toNat) =
              some time := by
  refine ⟨by decide +kernel, fun schedule time chosen => ?_⟩
  have runs : ∀ pair ∈ [(withoutViewer, 0), (withViewer, 40)],
      ((Broadcast.machine .standard).run (.ok (.new [112] (.atStart .standard)))
        pair.1.dropLast).toOption.any (fun state =>
          (state.connection.newFlvTag .standard 0
            (state.recvBuffer ++ encodeMessages 4096 4 oneFrame)).map (·.timestamp.toNat) ==
              some pair.2) = true := by
    decide +kernel
  obtain ⟨state, reached, at_time⟩ := Machine.exists_of_any (runs _ chosen)
  exact ⟨state, reached, by simpa using at_time⟩

end LiveBroadcast
