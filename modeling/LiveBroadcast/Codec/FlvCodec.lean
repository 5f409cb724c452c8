import LiveBroadcast.Codec.RtmpPack
import LiveBroadcast.Foundation.Reading

/-!
# FLV tags

An `FlvTag` keeps its header serialised; here the header is the record of its fields, in
the order of `header_`, and `FlvTag.header` serialises it. `Rtmp2FlvCodec.transform` makes a
tag of a pack.

The layout of an FLV stream is the nine bytes of the file header and then, for each tag, a
four-byte size of the tag before it, the eleven bytes of the tag header and as many body
bytes as the header says (`FlvItem.bytes`). `splitFlv` takes a stream apart by this layout
and `splitFlv_stream` is the round trip.
-/

set_option autoImplicit false

namespace LiveBroadcast

/-- `class FlvTag`: the eleven bytes of `header_`, field by field, and the body. -/
structure FlvTag where
  tagType : UInt8
  dataSize : ByteTriple
  timestamp : ByteTriple
  timestampExtend : UInt8
  streamId : ByteTriple
  body : Bytes
  deriving DecidableEq, Repr

namespace FlvTag

/-- The constructor: `header_()` is eleven zero bytes. -/
def new : FlvTag := ⟨0, ⟨0, 0, 0⟩, ⟨0, 0, 0⟩, 0, ⟨0, 0, 0⟩, []⟩

/-- `FLV_TAG_HEADER_LENGTH`. -/
def headerLength : Nat := 11

/-- `GetHeader`: the serialised header. -/
def header (tag : FlvTag) : Bytes :=
  tag.tagType :: (tag.dataSize.bytes ++ tag.timestamp.bytes ++
    (tag.timestampExtend :: tag.streamId.bytes))

def getDataSize (tag : FlvTag) : Nat := tag.dataSize.toNat

def getCurrentTagSize (tag : FlvTag) : Nat := headerLength + tag.getDataSize

def getSumSize (tag : FlvTag) : Nat := headerLength + tag.body.length

def setTagType (tag : FlvTag) (tagType : UInt8) : FlvTag := { tag with tagType := tagType }

def setDataSize (tag : FlvTag) (dataSize : ByteTriple) : FlvTag := { tag with dataSize := dataSize }

/-- `SetTimeStamp`: the low three bytes, in network order. -/
def setTimeStamp (tag : FlvTag) (timestamp : Nat) : FlvTag :=
  { tag with timestamp := .ofNat timestamp }

def appendData (tag : FlvTag) (data : Bytes) : FlvTag := { tag with body := tag.body ++ data }

/-- The body has the length that the header says. -/
def Declared (tag : FlvTag) : Prop := tag.body.length = tag.getDataSize

instance (tag : FlvTag) : Decidable tag.Declared :=
  inferInstanceAs (Decidable (tag.body.length = tag.getDataSize))

@[simp] theorem length_header (tag : FlvTag) : tag.header.length = headerLength := rfl

theorem getCurrentTagSize_lt (tag : FlvTag) : tag.getCurrentTagSize < 2 ^ 32 := by
  have bound := tag.dataSize.toNat_lt
  rw [getCurrentTagSize, getDataSize, headerLength]
  omega

end FlvTag

/-- `FlvHeader::DEFAULT_HEADER`. -/
def FlvHeader.defaultHeader : Bytes := [0x46, 0x4C, 0x56, 0x01, 0x01, 0x00, 0x00, 0x00, 0x09]

/-! ## From packs to tags -/

/-- `class Rtmp2FlvCodec`; the timestamp is a `uint32_t`. -/
structure Rtmp2FlvCodec where
  baseTimestamp : Nat
  deriving DecidableEq, Repr

namespace Rtmp2FlvCodec

def new : Rtmp2FlvCodec := ⟨0⟩

/-- `Transform`. Three of the four bytes of the local `timestamp` are written; `unset` is
the value the highest one happens to have. -/
def transform (build : Build) (unset : UInt8) (codec : Rtmp2FlvCodec) (pack : RtmpPack)
    (tag : FlvTag) : Rtmp2FlvCodec × FlvTag :=
  let timestamp := unset.toNat * 2 ^ 24 + pack.timestamp.toNat
  let base :=
    if build.monitorMode then timestamp else (codec.baseTimestamp + timestamp) % 2 ^ 32
  (⟨base⟩,
    (((tag.setTagType pack.packType.toByte).setDataSize pack.dataSize).setTimeStamp base).appendData
      pack.buffer)

variable (build : Build) (unset : UInt8) (codec : Rtmp2FlvCodec) (pack : RtmpPack)

@[simp] theorem transform_new_body : (codec.transform build unset pack .new).2.body = pack.buffer :=
  List.nil_append _

@[simp] theorem transform_getDataSize (tag : FlvTag) :
    (codec.transform build unset pack tag).2.getDataSize = pack.getBodyDataSize := rfl

/-- **A pack with the length it declares gives a tag with the length it declares.** -/
theorem transform_declared (declared : pack.buffer.length = pack.getBodyDataSize) :
    (codec.transform build unset pack .new).2.Declared := by
  rw [FlvTag.Declared, transform_new_body, transform_getDataSize, declared]

end Rtmp2FlvCodec

/-! ## The layout of a stream -/

/-- A tag behind the size of the tag before it. -/
structure FlvItem where
  previousTagSize : ByteQuad
  tag : FlvTag
  deriving DecidableEq, Repr

namespace FlvItem

def bytes (item : FlvItem) : Bytes := item.previousTagSize.bytes ++ item.tag.header ++ item.tag.body

theorem bytes_ne_nil (item : FlvItem) : item.bytes ≠ [] := by
  simp [bytes, ByteQuad.bytes]

/-- Take one item off the front: the two sizes and the header are 15 bytes, and the header
says how long the body is. -/
def read : Reader UInt8 FlvItem
  | p0 :: p1 :: p2 :: p3 :: tagType :: d0 :: d1 :: d2 :: t0 :: t1 :: t2 :: extend ::
      s0 :: s1 :: s2 :: rest =>
      let dataSize : ByteTriple := ⟨d0, d1, d2⟩
      if rest.length < dataSize.toNat then none
      else
        some (⟨⟨p0, p1, p2, p3⟩, tagType, dataSize, ⟨t0, t1, t2⟩, extend, ⟨s0, s1, s2⟩,
            rest.take dataSize.toNat⟩, rest.drop dataSize.toNat)
  | _ => none

theorem read_bytes {item : FlvItem} (declared : item.tag.Declared) (rest : Bytes) :
    read (item.bytes ++ rest) = some (item, rest) := by
  obtain ⟨⟨p0, p1, p2, p3⟩, tagType, ⟨d0, d1, d2⟩, ⟨t0, t1, t2⟩, extend, ⟨s0, s1, s2⟩, body⟩ := item
  have length : body.length = (⟨d0, d1, d2⟩ : ByteTriple).toNat := declared
  have enough : ¬ (body ++ rest).length < (⟨d0, d1, d2⟩ : ByteTriple).toNat := by
    rw [List.length_append, length]
    exact Nat.not_lt.mpr (Nat.le_add_right _ _)
  simp only [bytes, ByteQuad.bytes, FlvTag.header, ByteTriple.bytes, List.cons_append,
    List.nil_append, read, enough, if_false]
  rw [← length, List.take_left, List.drop_left]

/-- Items with bodies of the declared length can be read back. -/
theorem reads_items : Reader.Reads read bytes (fun item => item.tag.Declared) where
  back _ rest declared := read_bytes declared rest
  nonempty _ _ := bytes_ne_nil _

/-- The tags of a stream, each behind the size of the tag before it; `previous` is the size
in front of the first. -/
def chain : Nat → List FlvTag → List FlvItem
  | _, [] => []
  | previous, tag :: tags => ⟨.htonl previous, tag⟩ :: chain tag.getCurrentTagSize tags

@[simp] theorem map_tag_chain (previous : Nat) (tags : List FlvTag) :
    (chain previous tags).map FlvItem.tag = tags := by
  induction tags generalizing previous with
  | nil => rfl
  | cons tag tags ih => rw [chain, List.map_cons, ih]

/-- The size that goes in front of the tag behind these. -/
def lastSize : Nat → List FlvTag → Nat
  | previous, [] => previous
  | _, tag :: tags => lastSize tag.getCurrentTagSize tags

theorem chain_append (previous : Nat) (tags later : List FlvTag) :
    chain previous (tags ++ later) =
      chain previous tags ++ chain (lastSize previous tags) later := by
  induction tags generalizing previous with
  | nil => rfl
  | cons tag tags ih => rw [List.cons_append, chain, chain, ih]; rfl

@[simp] theorem lastSize_concat (previous : Nat) (tags : List FlvTag) (tag : FlvTag) :
    lastSize previous (tags ++ [tag]) = tag.getCurrentTagSize := by
  induction tags generalizing previous with
  | nil => rfl
  | cons first tags ih => exact ih _

end FlvItem

/-- The stream of some tags: the file header, and each tag behind the size of the tag before
it, or behind 0 if it is the first. -/
def flvStream (tags : List FlvTag) : Bytes :=
  FlvHeader.defaultHeader ++ (FlvItem.chain 0 tags).flatMap FlvItem.bytes

/-- The nine bytes of the file header and the items behind them. -/
def splitFlv (stream : Bytes) : Option (Bytes × List FlvItem) :=
  if stream.length < FlvHeader.defaultHeader.length then none
  else (Reader.readToEnd FlvItem.read (stream.drop FlvHeader.defaultHeader.length)).map
    (stream.take FlvHeader.defaultHeader.length, ·)

/-- **Splitting inverts writing the stream.** -/
theorem splitFlv_stream {items : List FlvItem} (declared : ∀ item ∈ items, item.tag.Declared) :
    splitFlv (FlvHeader.defaultHeader ++ items.flatMap FlvItem.bytes) =
      some (FlvHeader.defaultHeader, items) := by
  have long : ¬ (FlvHeader.defaultHeader ++ items.flatMap FlvItem.bytes).length <
      FlvHeader.defaultHeader.length := by
    rw [List.length_append]
    exact Nat.not_lt.mpr (Nat.le_add_right _ _)
  rw [splitFlv, if_neg long, List.take_left, List.drop_left,
    FlvItem.reads_items.readToEnd_flatMap declared, Option.map_some]

end LiveBroadcast
