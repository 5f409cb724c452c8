import LiveBroadcast.Codec.FlvCodec
import LiveBroadcast.Foundation.Loops
import LiveBroadcast.Utils.Format

/-!
# Reading FLV files

`FlvManager::ParseFile` takes a file apart: the file header and the first three tags from one
fill of its buffer, and then tag after tag in a loop that refills the buffer whenever a parse
function returns 0. The loop may not end, so it is a `Loop` here, and `ParsesFile` says what
`ParseFile` returns if it returns.

The buffer is the list of its unread bytes, of which it can hold 30000. The file is open; what
`stat` says of its size is a number of its own, since a file that is opened by `SetFilePath`
keeps an empty path and a size of 0.
-/

set_option autoImplicit false

namespace LiveBroadcast

/-- `BUFFER_SIZE`. -/
def flvBufferSize : Nat := 30000

/-- An open `File`: what is still to be read of it, and what `GetFileSize` returns. -/
structure File where
  content : Bytes
  size : Nat
  deriving DecidableEq, Repr

namespace File

/-- A file that its constructor has opened. -/
def ofPath (content : Bytes) : File := ⟨content, content.length⟩

/-- A file that `Open` has opened. -/
def opened (content : Bytes) : File := ⟨content, 0⟩

/-- `Read` of up to so many bytes. -/
def read (file : File) (length : Nat) : File × Bytes :=
  ({ file with content := file.content.drop length }, file.content.take length)

end File

/-- `class FlvHeader`. The length is the four raw bytes. -/
structure FlvHeader where
  flv : Bytes
  version : UInt8
  typeFlag : UInt8
  headerLength : ByteQuad
  deriving DecidableEq, Repr

/-- The constructor of `FlvHeader`. -/
def FlvHeader.new : FlvHeader := ⟨[70, 76, 86], 1, 5, ⟨0, 0, 0, 9⟩⟩

/-- `DecodeTagHander` of a tag: eleven bytes are copied to its header. -/
def FlvTag.decodeTagHander (tag : FlvTag) : Bytes → FlvTag
  | tagType :: d0 :: d1 :: d2 :: t0 :: t1 :: t2 :: extend :: s0 :: s1 :: s2 :: _ =>
      ⟨tagType, ⟨d0, d1, d2⟩, ⟨t0, t1, t2⟩, extend, ⟨s0, s1, s2⟩, tag.body⟩
  | _ => tag

namespace FlvCodec

/-- `DecodeFileHeader`: the header, and what it returns. -/
def decodeFileHeader (header : FlvHeader) : Bytes → FlvHeader × Int
  | f0 :: f1 :: f2 :: version :: typeFlag :: l0 :: l1 :: l2 :: l3 :: _ =>
      (⟨[f0, f1, f2], version, typeFlag, ⟨l0, l1, l2, l3⟩⟩, 9)
  | _ => (header, 0)

/-- `DecodeTagHander`: the tag, and what it returns. -/
def decodeTagHander (data : Bytes) (tag : FlvTag) : FlvTag × Int :=
  if data.length < FlvTag.headerLength then (tag, 0)
  else (tag.decodeTagHander data, FlvTag.headerLength)

end FlvCodec

/-- `enum ParseStatus`. -/
inductive ParseStatus where
  | tagHeader
  | tagData
  deriving DecidableEq, Repr

/-- `class FlvManager`. -/
structure FlvManager where
  file : File
  flvHeader : FlvHeader
  scriptTag : FlvTag
  videoAudioTags : FlvTag × FlvTag
  currentTag : FlvTag
  lastTag : Option FlvTag
  flvTags : List FlvTag
  parseStatus : ParseStatus
  parsedLength : Nat
  buffer : Bytes
  deriving DecidableEq, Repr

namespace FlvManager

/-- The constructor. `current_tag_` is a null pointer until the loop of `ParseFile`. -/
def new (file : File) : FlvManager where
  file := file
  flvHeader := .new
  scriptTag := .new
  videoAudioTags := (.new, .new)
  currentTag := .new
  lastTag := none
  flvTags := []
  parseStatus := .tagHeader
  parsedLength := 0
  buffer := []

/-- `ReadDataFromFile`: the buffer is filled up. -/
def readDataFromFile (manager : FlvManager) : FlvManager :=
  let read := manager.file.read (flvBufferSize - manager.buffer.length)
  { manager with file := read.1, buffer := manager.buffer ++ read.2 }

/-- `parsed_length_ += parsed`. -/
def addParsed (manager : FlvManager) (parsed : Int) : FlvManager :=
  { manager with parsedLength := manager.parsedLength + parsed.toNat }

/-- `ParseHeader`. -/
def parseHeader (manager : FlvManager) : FlvManager × Int :=
  let decoded := FlvCodec.decodeFileHeader manager.flvHeader manager.buffer
  let manager := { manager with flvHeader := decoded.1 }
  if 0 < decoded.2 then
    ({ manager with buffer := manager.buffer.drop decoded.2.toNat }, decoded.2)
  else if decoded.2 < 0 then (manager, -1)
  else (manager, decoded.2)

/-- `ParseTagHeader`: the manager, the tag and what it returns. -/
def parseTagHeader (manager : FlvManager) (tag : FlvTag) : FlvManager × FlvTag × Int :=
  if manager.buffer.length < FlvTag.headerLength then (manager, tag, 0)
  else
    let decoded := FlvCodec.decodeTagHander manager.buffer tag
    if 0 < decoded.2 then
      ({ manager with
          buffer := manager.buffer.drop decoded.2.toNat
          parseStatus := .tagData }, decoded.1, decoded.2)
    else (manager, decoded.1, -1)

/-- `ParseTagData`: the manager, the tag and what it returns, which is never negative. -/
def parseTagData (manager : FlvManager) (tag : FlvTag) : FlvManager × FlvTag × Nat :=
  let remainSize := subSize tag.getDataSize tag.body.length
  if remainSize ≤ manager.buffer.length then
    ({ manager with buffer := manager.buffer.drop remainSize, parseStatus := .tagHeader },
      tag.appendData (manager.buffer.take remainSize), tag.getDataSize)
  else ({ manager with buffer := [] }, tag.appendData manager.buffer, 0)

/-- What `ParseScripTag` and `ParseVideoAudio` do with a tag: its header and its data, each of
which has to return more than 0. -/
def parseTag (manager : FlvManager) (tag : FlvTag) : FlvManager × FlvTag × Int :=
  let (manager, tag, headerParsed) := manager.parseTagHeader tag
  if headerParsed ≤ 0 then (manager, tag, -1)
  else
    let (manager, tag, parsed) := manager.parseTagData tag
    if parsed ≤ 0 then (manager, tag, -1) else (manager, tag, headerParsed + parsed)

/-- `ParseScripTag`. -/
def parseScripTag (manager : FlvManager) : FlvManager × Int :=
  let (manager, tag, parsed) := manager.parseTag manager.scriptTag
  ({ manager with scriptTag := tag }, parsed)

/-- `ParseVideoAudio`. -/
def parseVideoAudio (manager : FlvManager) : FlvManager × Int :=
  let (manager, tag, first) := manager.parseTag manager.videoAudioTags.1
  let manager := { manager with videoAudioTags := (tag, manager.videoAudioTags.2) }
  if first < 0 then (manager, -1)
  else
    let (manager, tag, second) := manager.parseTag manager.videoAudioTags.2
    let manager := { manager with videoAudioTags := (manager.videoAudioTags.1, tag) }
    if second < 0 then (manager, -1) else (manager, first + second)

/-- `ParseFile` up to its loop; `error` is a return of -1. -/
def parseBegin (manager : FlvManager) : Except FlvManager FlvManager :=
  let manager := manager.readDataFromFile
  let (manager, parsed) := manager.parseHeader
  if parsed < 0 then .error manager
  else
    let (manager, parsed) := (manager.addParsed parsed).parseScripTag
    if parsed < 0 then .error manager
    else
      let (manager, parsed) := (manager.addParsed parsed).parseVideoAudio
      if parsed < 0 then .error manager
      else .ok { manager.addParsed parsed with currentTag := .new }

/-- `CheckTag`: the comparison of sizes is commented out. -/
def checkTag (_ : FlvManager) : Bool := true

/-- The current tag is complete: it is stored, and the next one begun. -/
def storeTag (manager : FlvManager) (parsed : Nat) : FlvManager :=
  { manager with
    lastTag := some manager.currentTag
    flvTags := manager.flvTags ++ [manager.currentTag]
    currentTag := .new
    parsedLength := manager.parsedLength + (parsed + FlvTag.headerLength) }

/-- The `TAG_DATA` part of a round. -/
def parseDataRound (manager : FlvManager) : FlvManager :=
  let (manager, tag, parsed) := manager.parseTagData manager.currentTag
  let manager := { manager with currentTag := tag }
  if parsed = 0 then manager.readDataFromFile else manager.storeTag parsed

/-- The loop of `ParseFile`. -/
def parseLoop (parseLength : Nat) : Loop FlvManager FlvManager where
  body manager :=
    if manager.parsedLength < parseLength then
      match manager.parseStatus with
      | .tagHeader =>
          let (manager, tag, parsed) := manager.parseTagHeader manager.currentTag
          let manager := { manager with currentTag := tag }
          if parsed < 0 then .inr manager
          else if parsed = 0 then .inl manager.readDataFromFile
          else if manager.checkTag then .inl manager.parseDataRound
          else .inr manager
      | .tagData => .inl manager.parseDataRound
    else .inr manager

/-- `parse_length`, as `ParseFile` sets it first. -/
def parseLengthOf (file : File) (parseLength : Nat) : Nat :=
  if parseLength < file.size then parseLength else subSize file.size 4

/-- `ParseFile` returns, leaving the manager like this. -/
def ParsesFile (manager : FlvManager) (parseLength : Nat) (after : FlvManager) (result : Int) :
    Prop :=
  match manager.parseBegin with
  | .error failed => after = failed ∧ result = -1
  | .ok ready =>
      (parseLoop (parseLengthOf manager.file parseLength)).Returns ready after ∧
        result = after.parsedLength

end FlvManager

end LiveBroadcast
