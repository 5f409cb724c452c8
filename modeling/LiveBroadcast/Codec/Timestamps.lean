import LiveBroadcast.Codec.Chunking
import LiveBroadcast.Codec.FlvCodec
import LiveBroadcast.Foundation.Runs

/-!
# Timestamps of messages and of tags

The timestamp of a message that starts with a FMT0 header is absolute; with any other format
it is the difference to the message before. So the time of a message is a fold over the
messages (`timeline`).

`Rtmp2FlvCodec` does not look at the format. In the standard build it adds every timestamp
to its base, and in the monitor build it takes every timestamp for a time. As long as the tags
have been right, the base is the time of the last message, up to a multiple of `2 ^ 24`. So
the next tag is right when the message is of the kind that the build assumes, and also when
the last message is at time 0, where both kinds mean the same (`flv_timestamps_iff`).
-/

set_option autoImplicit false

namespace LiveBroadcast

open ChunkDecoder

/-! ## The rules of the format -/

/-- The time of a message, from the time of the message before it. -/
def SentMessage.timeAfter (previous : Nat) (sent : SentMessage) : Nat :=
  if sent.fmt = .fmt0 then sent.message.timestamp.toNat
  else previous + sent.message.timestamp.toNat

/-- The time of the last message. -/
def timeline : Machine Nat SentMessage := ⟨SentMessage.timeAfter⟩

/-- The times of the messages of a list, from the time of the message before them. -/
def messageTimes : Nat → List SentMessage → List Nat
  | _, [] => []
  | previous, sent :: rest =>
      sent.timeAfter previous :: messageTimes (sent.timeAfter previous) rest

/-! ## What the converter makes of them -/

/-- Each pack is passed once through one converter. `unset` are the values that the highest
byte of the local `timestamp` happens to have in the calls. -/
def Rtmp2FlvCodec.transformAll (build : Build) :
    (Nat → UInt8) → Rtmp2FlvCodec → List RtmpPack → List FlvTag
  | _, _, [] => []
  | unset, codec, pack :: packs =>
      let step := codec.transform build (unset 0) pack .new
      step.2 :: transformAll build (fun n => unset (n + 1)) step.1 packs

/-- The message is of the kind that the build takes all messages for, or the message before
it is at time 0, up to a multiple of `2 ^ 24`. -/
def KeepsTime (build : Build) (previous : Nat) (sent : SentMessage) : Prop :=
  (if build.monitorMode then sent.fmt ≠ .fmt0 else sent.fmt = .fmt0) → 2 ^ 24 ∣ previous

instance (build : Build) (previous : Nat) (sent : SentMessage) :
    Decidable (KeepsTime build previous sent) :=
  inferInstanceAs (Decidable (_ → _))

namespace Rtmp2FlvCodec

variable {build : Build} (unset : UInt8) {codec : Rtmp2FlvCodec} {pack : RtmpPack}

/-- The tag has the low bytes of the base behind it. -/
theorem transform_timestamp (tag : FlvTag) :
    (codec.transform build unset pack tag).2.timestamp.toNat =
      (codec.transform build unset pack tag).1.baseTimestamp % 2 ^ 24 :=
  ByteTriple.toNat_ofNat _

/-- The low bytes of the base: the unset byte is above them. -/
theorem transform_baseTimestamp (tag : FlvTag) :
    (codec.transform build unset pack tag).1.baseTimestamp % 2 ^ 24 =
      ((if build.monitorMode then 0 else codec.baseTimestamp) + pack.timestamp.toNat) %
        2 ^ 24 := by
  obtain ⟨monitorMode⟩ := build
  cases monitorMode with
  | true =>
      simp only [transform, if_true]
      omega
  | false =>
      simp only [transform, Bool.false_eq_true, if_false]
      omega

end Rtmp2FlvCodec

/-- **One message.** When the base is the time of the message before, the tag has the time of
the message exactly when the message keeps time. -/
theorem keepsTime_iff (build : Build) {base previous : Nat}
    (agree : base % 2 ^ 24 = previous % 2 ^ 24) (sent : SentMessage) :
    ((if build.monitorMode then 0 else base) + sent.message.timestamp.toNat) % 2 ^ 24 =
        sent.timeAfter previous % 2 ^ 24 ↔ KeepsTime build previous sent := by
  obtain ⟨monitorMode⟩ := build
  by_cases format : sent.fmt = .fmt0
  · simp only [SentMessage.timeAfter, KeepsTime, format, if_true]
    cases monitorMode with
    | true => simp
    | false =>
        simp only [Bool.false_eq_true, if_false, forall_const]
        omega
  · simp only [SentMessage.timeAfter, KeepsTime, format, if_false]
    cases monitorMode with
    | true =>
        simp only [if_true, ne_eq, format, not_false_eq_true, forall_const]
        omega
    | false =>
        simp only [Bool.false_eq_true, if_false, false_implies, iff_true]
        omega

/-- **All messages.** The tags have the times of their messages exactly when every message
keeps time. -/
theorem transformAll_times_iff {build : Build} {csid : UInt8} {packs : List RtmpPack}
    {sent : List SentMessage} (same : List.Forall₂ (Reassembled csid) packs sent)
    (unset : Nat → UInt8) {codec : Rtmp2FlvCodec} {previous : Nat}
    (agree : codec.baseTimestamp % 2 ^ 24 = previous % 2 ^ 24) :
    (codec.transformAll build unset packs).map (·.timestamp.toNat) =
        (messageTimes previous sent).map (· % 2 ^ 24) ↔
      timeline.Guarded (KeepsTime build) previous sent := by
  induction same generalizing unset codec previous with
  | nil => exact iff_of_true rfl trivial
  | @cons pack one packs sent here _ ih =>
      have first := keepsTime_iff build agree one
      have base := @Rtmp2FlvCodec.transform_baseTimestamp build (unset 0) codec pack .new
      rw [here.carries.timestamp] at base
      rw [← base] at first
      simp only [Rtmp2FlvCodec.transformAll, messageTimes, List.map_cons, List.cons.injEq,
        Rtmp2FlvCodec.transform_timestamp, Machine.Guarded, first]
      exact and_congr_right fun keeps => ih _ (first.mpr keeps)

/-- **When FLV timestamps follow the rules of the format.** The messages of one chunk stream
are decoded, however their bytes are cut, and each is passed once through the converter. The
timestamps of all tags are the times of the messages, modulo `2 ^ 24`, if and only if every
message that starts with a FMT0 header follows a message at time 0, modulo `2 ^ 24`; in the
monitor build, if and only if every message with another format does. -/
theorem flv_timestamps_iff (build : Build) (members : UnsetMembers) (unset : Nat → UInt8)
    {csid : UInt8} (oneByte : 2 ≤ csid ∧ csid ≤ 63) {sent : List SentMessage}
    (compressed : WellCompressed none sent) {segments : List Bytes}
    (cut : segments.flatten = encodeMessages (RtmpCodec.initialChunkSize build) csid sent) :
    (Rtmp2FlvCodec.new.transformAll build unset
        (drainConsumer.feedAll ((RtmpCodec.construct build
          { members with readChunkSize := 0 }).toChunkDecoder, []) segments).2).map
        (·.timestamp.toNat) = (messageTimes 0 sent).map (· % 2 ^ 24) ↔
      ∀ before one, before ++ [one] <+: sent → KeepsTime build (timeline.run 0 before) one := by
  have ready : (RtmpCodec.construct build { members with readChunkSize := 0 }).toChunkDecoder.Ready
      (RtmpCodec.initialChunkSize build) none := RtmpCodec.construct_ready build rfl
  have same := (ready.reassembles (Nat.lt_succ_of_le oneByte.2) compressed cut).1
  rw [← Machine.guarded_iff]
  exact transformAll_times_iff same unset rfl

/-- The two short messages keep time. -/
theorem flv_timestamps_iff_shortMessages :
    (Rtmp2FlvCodec.new.transformAll .standard (fun _ => 0)
        (drainConsumer.feedAll ((RtmpCodec.construct .standard
          ⟨0, false, .zero, .zero⟩).toChunkDecoder, [])
          [encodeMessages (RtmpCodec.initialChunkSize .standard) 6 shortMessages]).2).map
      (·.timestamp.toNat) = [7, 16] := by
  have compressed : WellCompressed none shortMessages := ⟨rfl, rfl, trivial⟩
  have times : (messageTimes 0 shortMessages).map (· % 2 ^ 24) = [7, 16] := by decide
  have oneByte : (2 : UInt8) ≤ 6 ∧ (6 : UInt8) ≤ 63 := by decide
  rw [← times]
  refine (flv_timestamps_iff .standard ⟨0, false, .zero, .zero⟩ (fun _ => 0) oneByte compressed
    List.flatten_singleton).mpr ?_
  rw [← Machine.guarded_iff]
  exact ⟨by decide, by decide, trivial⟩

/-- Two messages with FMT0 headers, at 1000 and 1040. -/
def absoluteMessages : List SentMessage :=
  [⟨.fmt0, ⟨⟨0, 3, 232⟩, 9, ⟨1, 0, 0, 0⟩, [23], by decide, by decide⟩⟩,
    ⟨.fmt0, ⟨⟨0, 4, 16⟩, 9, ⟨1, 0, 0, 0⟩, [39], by decide, by decide⟩⟩]

/-- **A second absolute timestamp is added to the first.** -/
theorem absolute_timestamps_added :
    WellCompressed none absoluteMessages ∧ messageTimes 0 absoluteMessages = [1000, 1040] ∧
      (Rtmp2FlvCodec.new.transformAll .standard (fun _ => 0)
        (drainConsumer.feedAll ((RtmpCodec.atStart .standard).toChunkDecoder, [])
          [encodeMessages 4096 4 absoluteMessages]).2).map (·.timestamp.toNat) = [1000, 2040] := by
  refine ⟨⟨rfl, trivial, trivial⟩, by decide, ?_⟩
  decide +kernel

end LiveBroadcast
