import LiveBroadcast.Codec.Timestamps

/-!
# The full timestamp of a tag

The timestamp of an FLV tag has 32 bits: the three bytes of `timestamp` and, above them, the
byte of `timestamp_extend`. `SetTimeStamp` writes the three bytes and nothing writes the other,
which stays 0 from the constructor.

The standard build sums the timestamps of the packs in 32 bits. The full timestamps are these
sums exactly as long as the sums stay below `2 ^ 24` (`full_timestamps_iff`); in the monitor
build, which does not sum, exactly as long as nothing but the last timestamp counts.
-/

set_option autoImplicit false

namespace LiveBroadcast

/-- The 32-bit timestamp of a tag: the offsets 4 to 6 of the header are the low bytes, and the
offset 7 is the high one. -/
def FlvTag.fullTimestamp (tag : FlvTag) : Nat :=
  match tag.header.drop 4 with
  | b0 :: b1 :: b2 :: extend :: _ => extend.toNat * 2 ^ 24 + (⟨b0, b1, b2⟩ : ByteTriple).toNat
  | _ => 0

theorem FlvTag.fullTimestamp_eq (tag : FlvTag) :
    tag.fullTimestamp = tag.timestampExtend.toNat * 2 ^ 24 + tag.timestamp.toNat := rfl

/-- The sum of the timestamps of packs. -/
def runningSum : Machine Nat RtmpPack := ⟨fun sum pack => sum + pack.timestamp.toNat⟩

/-- The sums behind the packs of a list, from the sum in front of them. -/
def runningSums : Nat → List RtmpPack → List Nat
  | _, [] => []
  | sum, pack :: packs => runningSum.step sum pack :: runningSums (runningSum.step sum pack) packs

/-- The sum with this pack is below `2 ^ 24`; in the monitor build, the sum without it is 0. -/
def KeepsSum (build : Build) (sum : Nat) (pack : RtmpPack) : Prop :=
  if build.monitorMode then sum = 0 else sum + pack.timestamp.toNat < 2 ^ 24

namespace Rtmp2FlvCodec

variable {build : Build} {codec : Rtmp2FlvCodec}

/-- The highest byte is never written. -/
theorem transform_timestampExtend (unset : UInt8) (pack : RtmpPack) :
    (codec.transform build unset pack .new).2.timestampExtend = 0 := rfl

theorem transform_fullTimestamp (unset : UInt8) (pack : RtmpPack) :
    (codec.transform build unset pack .new).2.fullTimestamp =
      ((if build.monitorMode then 0 else codec.baseTimestamp) + pack.timestamp.toNat) %
        2 ^ 24 := by
  rw [FlvTag.fullTimestamp_eq, transform_timestampExtend, transform_timestamp,
    transform_baseTimestamp]
  simp

/-- **One pack.** When the base has the low bits of the sum so far, the tag has the sum exactly
when the pack keeps it. -/
theorem keepsSum_iff {sum : Nat}
    (agree : build.monitorMode = false → codec.baseTimestamp % 2 ^ 24 = sum % 2 ^ 24)
    (unset : UInt8) (pack : RtmpPack) :
    (codec.transform build unset pack .new).2.fullTimestamp = runningSum.step sum pack ↔
      KeepsSum build sum pack := by
  have small := pack.timestamp.toNat_lt
  rw [transform_fullTimestamp, KeepsSum, runningSum]
  cases mode : build.monitorMode with
  | true =>
      simp only [if_true]
      omega
  | false =>
      have low := agree mode
      simp only [Bool.false_eq_true, if_false]
      omega

/-- **All packs.** The tags have the sums exactly when every pack keeps the sum. -/
theorem transformAll_fullTimestamps_iff {sum : Nat}
    (agree : build.monitorMode = false → codec.baseTimestamp % 2 ^ 24 = sum % 2 ^ 24)
    (unset : Nat → UInt8) (packs : List RtmpPack) :
    (codec.transformAll build unset packs).map FlvTag.fullTimestamp = runningSums sum packs ↔
      runningSum.Guarded (KeepsSum build) sum packs := by
  induction packs generalizing codec sum unset with
  | nil => exact iff_of_true rfl trivial
  | cons pack packs ih =>
      have behind : build.monitorMode = false →
          (codec.transform build (unset 0) pack .new).1.baseTimestamp % 2 ^ 24 =
            runningSum.step sum pack % 2 ^ 24 := by
        intro standard
        have low := agree standard
        rw [transform_baseTimestamp, standard, runningSum]
        simp only [Bool.false_eq_true, if_false]
        omega
      simp only [transformAll, runningSums, List.map_cons, List.cons.injEq, Machine.Guarded]
      exact and_congr (keepsSum_iff agree (unset 0) pack) (ih behind fun n => unset (n + 1))

end Rtmp2FlvCodec

/-- **When FLV timestamps do not wrap.** Packs are passed one after the other through one
converter. The full timestamps of all tags are the running sums of the timestamps, if and only
if every running sum is below `2 ^ 24`; in the monitor build, if and only if the timestamps in
front of every pack are all 0. -/
theorem full_timestamps_iff (build : Build) (unset : Nat → UInt8) (packs : List RtmpPack) :
    (Rtmp2FlvCodec.new.transformAll build unset packs).map FlvTag.fullTimestamp =
        runningSums 0 packs ↔
      ∀ before pack, before ++ [pack] <+: packs →
        KeepsSum build (runningSum.run 0 before) pack := by
  rw [← Machine.guarded_iff]
  exact Rtmp2FlvCodec.transformAll_fullTimestamps_iff (fun _ => rfl) unset packs

/-- A pack at `0xFFFFFF` and one a millisecond later. -/
def wrappingPacks : List RtmpPack :=
  [{ RtmpPack.zero with timestamp := ⟨255, 255, 255⟩ },
    { RtmpPack.zero with timestamp := ⟨0, 0, 1⟩ }]

/-- **The timestamp goes back to 0** behind 4 hours and 40 minutes. -/
theorem full_timestamp_wraps :
    runningSums 0 wrappingPacks = [16777215, 16777216] ∧
      (Rtmp2FlvCodec.new.transformAll .standard (fun _ => 0) wrappingPacks).map
        FlvTag.fullTimestamp = [16777215, 0] := by
  decide

end LiveBroadcast
