import Mathlib.Algebra.GroupWithZero.Nat
import LiveBroadcast.Codec.Timestamps
import LiveBroadcast.Foundation.LittleEndian

/-!
# The bytes of a timestamp

`Transform` fills three of the four bytes of its local `timestamp`, adds all four to
`base_timestamp_`, and `SetTimeStamp` turns the four bytes of the sum around and copies the last
three of them into the header. Here these are steps on the memory of a little-endian machine
(`transformWords`); `Rtmp2FlvCodec.transform` is what they come to on numbers (`transform_eq`).

**The unset byte.** It is the highest one of the local timestamp, and stays in the base from then
on. But a sum carries upwards only: modulo `2 ^ 24` the base is the sum of the timestamps of the
packs (`agrees_step`), and no other byte of the base gets into a header. So the tags are those
of the sums, whatever the unset bytes are (`unset_bytes_unsent`).
-/

set_option autoImplicit false

namespace LiveBroadcast

/-! ## Words in memory -/

namespace ByteQuad

/-- The `uint32_t` that is in the memory. -/
def load (memory : ByteQuad) : UInt32 := UInt32.ofNat (LittleEndian.decode memory.bytes)

/-- The memory of a `uint32_t`. -/
def store (number : UInt32) : ByteQuad :=
  ⟨UInt8.ofNat number.toNat, UInt8.ofNat (number.toNat / 256),
    UInt8.ofNat (number.toNat / 256 / 256), UInt8.ofNat (number.toNat / 256 / 256 / 256)⟩

/-- The four bytes, turned around. -/
def reverse (memory : ByteQuad) : ByteQuad := ⟨memory.b3, memory.b2, memory.b1, memory.b0⟩

theorem store_bytes (number : UInt32) :
    (store number).bytes = LittleEndian.encode 4 number.toNat := rfl

theorem load_toNat (memory : ByteQuad) : memory.load.toNat = LittleEndian.decode memory.bytes := by
  have fits := LittleEndian.decode_lt memory.bytes
  rw [length_bytes] at fits
  exact UInt32.toNat_ofNat_of_lt' fits

@[simp] theorem store_load (memory : ByteQuad) : store memory.load = memory := by
  apply bytes_injective
  rw [store_bytes, load_toNat]
  exact LittleEndian.encode_decode memory.bytes

end ByteQuad

/-- `ntohl`. -/
def ntohl (number : UInt32) : UInt32 := (ByteQuad.store number).reverse.load

/-- `SetTimeStamp`: the memory of `big_end` from its second byte on. -/
def FlvTag.setTimeStampWord (tag : FlvTag) (timestamp : UInt32) : FlvTag :=
  let bigEnd := ByteQuad.store (ntohl timestamp)
  { tag with timestamp := ⟨bigEnd.b1, bigEnd.b2, bigEnd.b3⟩ }

/-- On numbers it takes the three low bytes, in network order. -/
theorem FlvTag.setTimeStampWord_eq (tag : FlvTag) (timestamp : UInt32) :
    tag.setTimeStampWord timestamp = tag.setTimeStamp timestamp.toNat := by
  rw [setTimeStampWord, ntohl, ByteQuad.store_load, setTimeStamp, ByteTriple.ofNat,
    ← Nat.div_div_eq_div_mul timestamp.toNat 256 256]
  rfl

/-- The header has the low 24 bits only. -/
theorem FlvTag.setTimeStamp_congr (tag : FlvTag) {n k : Nat} (agree : n % 2 ^ 24 = k % 2 ^ 24) :
    tag.setTimeStamp n = tag.setTimeStamp k := by
  have bytes : LittleEndian.encode 3 n = LittleEndian.encode 3 k :=
    LittleEndian.encode_congr agree
  have triple (m : Nat) : ByteTriple.ofNat m =
      ⟨UInt8.ofNat (m / 256 / 256), UInt8.ofNat (m / 256), UInt8.ofNat m⟩ := by
    rw [ByteTriple.ofNat, Nat.div_div_eq_div_mul]
  obtain ⟨low, rest⟩ := List.cons.inj bytes
  obtain ⟨middle, rest⟩ := List.cons.inj rest
  obtain ⟨high, -⟩ := List.cons.inj rest
  rw [setTimeStamp, setTimeStamp, triple, triple, low, middle, high]

namespace Rtmp2FlvCodec

/-! ## One call -/

/-- The local `timestamp` of `Transform`. The pack fills three of its bytes; `unset` is what is
in the other. -/
def localTimestamp (unset : UInt8) (pack : RtmpPack) : UInt32 :=
  (⟨pack.timestamp.b2, pack.timestamp.b1, pack.timestamp.b0, unset⟩ : ByteQuad).load

/-- `Transform`: `base_timestamp_` behind the call, and the tag. -/
def transformWords (build : Build) (unset : UInt8) (baseTimestamp : UInt32) (pack : RtmpPack)
    (tag : FlvTag) : UInt32 × FlvTag :=
  let tag := (tag.setTagType pack.packType.toByte).setDataSize pack.dataSize
  let timestamp := localTimestamp unset pack
  let baseTimestamp := if build.monitorMode then timestamp else baseTimestamp + timestamp
  (baseTimestamp, (tag.setTimeStampWord baseTimestamp).appendData pack.buffer)

variable {build : Build} (unset : UInt8) {baseTimestamp : UInt32} (pack : RtmpPack) (tag : FlvTag)

theorem localTimestamp_toNat :
    (localTimestamp unset pack).toNat = unset.toNat * 2 ^ 24 + pack.timestamp.toNat := by
  rw [localTimestamp, ByteQuad.load_toNat]
  simp only [ByteQuad.bytes, LittleEndian.decode, ByteTriple.toNat]
  omega

/-- **On numbers**, the call is what the rest of the model takes it for. -/
theorem transform_eq :
    transform build unset ⟨baseTimestamp.toNat⟩ pack tag =
      (⟨(transformWords build unset baseTimestamp pack tag).1.toNat⟩,
        (transformWords build unset baseTimestamp pack tag).2) := by
  obtain ⟨monitorMode⟩ := build
  cases monitorMode with
  | true =>
      simp only [transform, transformWords, FlvTag.setTimeStampWord_eq, localTimestamp_toNat,
        if_true]
  | false =>
      simp only [transform, transformWords, FlvTag.setTimeStampWord_eq, UInt32.toNat_add,
        localTimestamp_toNat, Bool.false_eq_true, if_false]

/-- The tag of a pack at a time. -/
def tagAt (time : Nat) : FlvTag :=
  (((tag.setTagType pack.packType.toByte).setDataSize pack.dataSize).setTimeStamp time).appendData
    pack.buffer

/-- The base has the low 24 bits of a sum. The monitor build does not use its base. -/
def Agrees (build : Build) (baseTimestamp : UInt32) (sum : Nat) : Prop :=
  build.monitorMode = false → baseTimestamp.toNat % 2 ^ 24 = sum % 2 ^ 24

/-- **The unset byte stays above the low bits**, and so do all carries into it. -/
theorem agrees_step {sum : Nat} (agrees : Agrees build baseTimestamp sum) :
    Agrees build (transformWords build unset baseTimestamp pack tag).1
      (sum + pack.timestamp.toNat) := by
  intro standard
  have low := agrees standard
  simp only [transformWords, standard, Bool.false_eq_true, if_false, UInt32.toNat_add,
    localTimestamp_toNat]
  omega

/-- **The tag does not depend on the unset byte**, nor on the high bits of the base. -/
theorem transformWords_tag {sum : Nat} (agrees : Agrees build baseTimestamp sum) :
    (transformWords build unset baseTimestamp pack tag).2 =
      tagAt pack tag (if build.monitorMode then pack.timestamp.toNat
        else sum + pack.timestamp.toNat) := by
  have behind := agrees_step unset pack tag agrees
  have low : (transformWords build unset baseTimestamp pack tag).1.toNat % 2 ^ 24 =
      (if build.monitorMode then pack.timestamp.toNat else sum + pack.timestamp.toNat) %
        2 ^ 24 := by
    cases mode : build.monitorMode with
    | true =>
        simp only [transformWords, mode, if_true, localTimestamp_toNat]
        omega
    | false => exact behind mode
  rw [tagAt, ← FlvTag.setTimeStamp_congr _ low, ← FlvTag.setTimeStampWord_eq]
  rfl

/-! ## All calls of a codec -/

/-- The tags of the packs that are passed through one codec. `unset` are the values of the unset
bytes, call by call. -/
def transformCalls (build : Build) :
    (Nat → UInt8) → UInt32 → List (RtmpPack × FlvTag) → List FlvTag
  | _, _, [] => []
  | unset, baseTimestamp, call :: calls =>
      let step := transformWords build (unset 0) baseTimestamp call.1 call.2
      step.2 :: transformCalls build (fun n => unset (n + 1)) step.1 calls

/-- These are the tags of the rest of the model, where every pack comes with a new tag. -/
theorem transformAll_eq (build : Build) (unset : Nat → UInt8) (baseTimestamp : UInt32)
    (packs : List RtmpPack) :
    transformAll build unset ⟨baseTimestamp.toNat⟩ packs =
      transformCalls build unset baseTimestamp (packs.map fun pack => (pack, .new)) := by
  induction packs generalizing unset baseTimestamp with
  | nil => rfl
  | cons pack packs ih =>
      rw [transformAll, List.map_cons, transformCalls, transform_eq]
      dsimp only
      rw [ih]

/-- What `Transform` sums up: the timestamps of the packs. -/
def timestampSum (calls : List (RtmpPack × FlvTag)) : Nat :=
  (calls.map fun call => call.1.timestamp.toNat).sum

theorem timestampSum_nil : timestampSum [] = 0 := rfl

theorem timestampSum_cons (call : RtmpPack × FlvTag) (calls : List (RtmpPack × FlvTag)) :
    timestampSum (call :: calls) = call.1.timestamp.toNat + timestampSum calls := by
  rw [timestampSum, List.map_cons, List.sum_cons, timestampSum]

/-- **Every tag** is that of the sum behind its pack, whatever the unset bytes are. -/
theorem transformCalls_getElem? {sum : Nat} (agrees : Agrees build baseTimestamp sum)
    (unset : Nat → UInt8) (calls : List (RtmpPack × FlvTag)) (i : Nat) :
    (transformCalls build unset baseTimestamp calls)[i]? =
      calls[i]?.map fun call => tagAt call.1 call.2
        (if build.monitorMode then call.1.timestamp.toNat
          else sum + timestampSum (calls.take (i + 1))) := by
  induction calls generalizing unset baseTimestamp sum i with
  | nil => rfl
  | cons call calls ih =>
      rw [transformCalls]
      cases i with
      | zero =>
          rw [List.getElem?_cons_zero, List.getElem?_cons_zero, Option.map_some,
            transformWords_tag (unset 0) call.1 call.2 agrees, List.take_succ_cons,
            timestampSum_cons, List.take_zero, timestampSum_nil, Nat.add_zero]
      | succ i =>
          have later := ih (agrees_step (unset 0) call.1 call.2 agrees) (fun n => unset (n + 1)) i
          have total : sum + timestampSum ((call :: calls).take (i + 1 + 1)) =
              sum + call.1.timestamp.toNat + timestampSum (calls.take (i + 1)) := by
            rw [List.take_succ_cons, timestampSum_cons, Nat.add_assoc]
          rw [List.getElem?_cons_succ, List.getElem?_cons_succ, later, total]

/-- **The unset byte is never sent.** A new codec is passed any packs, each with any tag to fill.
The bytes 4 to 6 of the header of every tag are the sum of the timestamps so far, modulo
`2 ^ 24`, in network order (in the monitor build, which does not sum: the timestamp of its pack),
and the tags are the same for all values of the unset bytes. -/
theorem unset_bytes_unsent (build : Build) (unset other : Nat → UInt8)
    (calls : List (RtmpPack × FlvTag)) :
    (∀ i : Nat,
      (transformCalls build unset 0 calls)[i]?.map (fun tag => (tag.header.drop 4).take 3) =
        calls[i]?.map fun call =>
          (ByteTriple.ofNat ((if build.monitorMode then call.1.timestamp.toNat
            else timestampSum (calls.take (i + 1))) % 2 ^ 24)).bytes) ∧
      transformCalls build unset 0 calls = transformCalls build other 0 calls := by
  have start : Agrees build 0 0 := fun _ => rfl
  constructor
  · intro i
    rw [transformCalls_getElem? start, Option.map_map, Nat.zero_add]
    congr 1
    funext call
    have low (n : Nat) : ByteTriple.ofNat (n % 2 ^ 24) = ByteTriple.ofNat n :=
      congrArg FlvTag.timestamp (FlvTag.setTimeStamp_congr .new (Nat.mod_mod n _))
    rw [low]
    rfl
  · apply List.ext_getElem?
    intro i
    rw [transformCalls_getElem? start, transformCalls_getElem? start]

end Rtmp2FlvCodec

end LiveBroadcast
