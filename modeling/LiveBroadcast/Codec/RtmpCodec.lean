import LiveBroadcast.Codec.RtmpPack

/-!
# The RTMP codec

`DecodePack` and its helpers work on six of the members of `RtmpCodec`: the position in the
current chunk, the pack under construction and the last finished pack. They are the
`ChunkDecoder` here, and `RtmpCodec` adds the `HeaderPhase`: the phase of `DecodeData` and
the three sequence header packs.

One call of `decodePack` reads at most one chunk header and as much of one chunk body as
has arrived. Its out parameter `pack_finish` is only ever set, never cleared, so a call
reports whether it set it and the caller keeps the flag. `decodeData` and
`parseFirstHeader` are the loops around it. Each loop is run with more fuel than the
buffer has bytes; `decodePack_length` shows that a call that continues a loop shortens the
buffer, so the fuel never runs out.
-/

set_option autoImplicit false

namespace LiveBroadcast

inductive DecodePackStatus where
  | parseRtmpHeader
  | parseRtmpBody
  deriving DecidableEq, Repr

inductive DecodeDataStatus where
  | parseFirstHeader
  | parseDataPack
  deriving DecidableEq, Repr

/-- The members of `RtmpCodec` that `DecodePack` reads and writes. The two chunk sizes are
`uint32_t`. -/
structure ChunkDecoder where
  decodePackStatus : DecodePackStatus
  rtmpChunkSize : Nat
  readChunkSize : Nat
  currentRtmpPack : RtmpPack
  chunkOver : Bool
  lastRtmpPack : RtmpPack
  deriving DecidableEq, Repr

/-- What a call of `DecodePack` leaves: the decoder, the unread bytes, the returned length
and whether `*pack_finish` was set. -/
structure DecodePackResult where
  decoder : ChunkDecoder
  buffer : Bytes
  result : Int
  packFinish : Bool
  deriving DecidableEq, Repr

namespace ChunkDecoder

/-- The test at the head of `DecodeBody`: what is left of the message fits in the chunk
and the chunk is at its beginning. -/
def isChunkOver (decoder : ChunkDecoder) : Bool :=
  decide (decoder.currentRtmpPack.getBodyRemainSize ≤ decoder.rtmpChunkSize) &&
    decide (decoder.readChunkSize = 0)

/-- `RtmpCodec::DecodeBody`: the decoder, the bytes taken and `*body_finish`. -/
def decodeBody (decoder : ChunkDecoder) (data : Bytes) : ChunkDecoder × Nat × Bool :=
  let remain := decoder.currentRtmpPack.getBodyRemainSize
  let decoder := { decoder with chunkOver := decoder.isChunkOver }
  if decoder.chunkOver then
    -- the message is not split any further, or this is its last chunk
    if data.length < remain then
      ({ decoder with currentRtmpPack := decoder.currentRtmpPack.appendData data },
        data.length, false)
    else
      ({ decoder with currentRtmpPack := decoder.currentRtmpPack.appendData (data.take remain) },
        remain, true)
  else
    let currentChunkRemain := sub32 decoder.rtmpChunkSize decoder.readChunkSize
    if data.length < currentChunkRemain then
      ({ decoder with
          currentRtmpPack := decoder.currentRtmpPack.appendData data
          readChunkSize := (decoder.readChunkSize + data.length) % 2 ^ 32 },
        data.length, false)
    else
      ({ decoder with
          currentRtmpPack :=
            decoder.currentRtmpPack.appendData (data.take currentChunkRemain)
          readChunkSize := 0 },
        currentChunkRemain, true)

/-- The first half of `DecodePack`: in the header state, try to read a chunk header. -/
def decodePackHeader (decoder : ChunkDecoder) (buffer : Bytes) : ChunkDecoder × Bytes × Int :=
  match decoder.decodePackStatus with
  | .parseRtmpHeader =>
      let decoded := decoder.currentRtmpPack.decodeHeader buffer
      let decoder := { decoder with currentRtmpPack := decoded.1 }
      if decoded.2 > 0 then
        ({ decoder with decodePackStatus := .parseRtmpBody }, buffer.drop decoded.2.toNat,
          decoded.2)
      else
        (decoder, buffer, decoded.2)
  | .parseRtmpBody => (decoder, buffer, 0)

/-- The second half of `DecodePack`: in the body state, take what there is of the chunk. -/
def decodePackBody (decoder : ChunkDecoder) (buffer : Bytes) (readLength : Int) :
    DecodePackResult :=
  match decoder.decodePackStatus with
  | .parseRtmpHeader => ⟨decoder, buffer, readLength, false⟩
  | .parseRtmpBody =>
      let (decoder, parsedLength, bodyFinish) := decoder.decodeBody buffer
      let buffer := buffer.drop parsedLength
      let readLength := readLength + parsedLength
      if bodyFinish then
        let decoder := { decoder with decodePackStatus := .parseRtmpHeader }
        if decoder.chunkOver then
          ⟨{ decoder with
              lastRtmpPack := decoder.currentRtmpPack
              currentRtmpPack := decoder.currentRtmpPack.dropAllData },
            buffer, readLength, true⟩
        else
          ⟨decoder, buffer, readLength, false⟩
      else
        ⟨decoder, buffer, readLength, false⟩

/-- `RtmpCodec::DecodePack`. -/
def decodePack (decoder : ChunkDecoder) (buffer : Bytes) : DecodePackResult :=
  if buffer.length = 0 then
    ⟨decoder, buffer, 0, false⟩
  else
    let (decoder, buffer, readLength) := decoder.decodePackHeader buffer
    decoder.decodePackBody buffer readLength

end ChunkDecoder

/-- The members of `RtmpCodec` that `DecodeData` and `ParseFirstHeader` add: the phase and
the sequence header packs collected so far. -/
structure HeaderPhase where
  decodeDataStatus : DecodeDataStatus
  firstScriptPack : Option RtmpPack
  firstVideoPack : Option RtmpPack
  firstAudioPack : Option RtmpPack
  deriving DecidableEq, Repr

namespace HeaderPhase

/-- The loop condition of `ParseFirstHeader`: a sequence header is still missing. -/
def headerMissing (build : Build) (phase : HeaderPhase) : Bool :=
  (!build.monitorMode && phase.firstAudioPack.isNone) || phase.firstVideoPack.isNone ||
    phase.firstScriptPack.isNone

theorem headerMissing_eq_false {build : Build} (phase : HeaderPhase) :
    phase.headerMissing build = false ↔ phase.firstScriptPack.isSome = true ∧
      phase.firstVideoPack.isSome = true ∧
        (build.monitorMode = false → phase.firstAudioPack.isSome = true) := by
  obtain ⟨status, script, video, audio⟩ := phase
  obtain ⟨monitorMode⟩ := build
  cases monitorMode <;> cases script <;> cases video <;> cases audio <;> simp [headerMissing]

/-- The `switch` on the type of a finished pack in `ParseFirstHeader`. -/
def keepFirstPack (phase : HeaderPhase) (pack : RtmpPack) : HeaderPhase :=
  match pack.packType with
  | .rtmpAudio => { phase with firstAudioPack := some pack }
  | .rtmpVideo => { phase with firstVideoPack := some pack }
  | .rtmpScript => { phase with firstScriptPack := some pack }
  | _ => phase

end HeaderPhase

/-- `class RtmpCodec`. -/
structure RtmpCodec extends ChunkDecoder, HeaderPhase where
  deriving DecidableEq, Repr

/-- The members that `RtmpCodec::RtmpCodec` leaves indeterminate. The buffers of the two
packs are constructed empty; the header fields of the packs are not set. -/
structure UnsetMembers where
  readChunkSize : Nat
  chunkOver : Bool
  currentHeader : RtmpPack
  lastHeader : RtmpPack
  deriving DecidableEq, Repr

namespace RtmpCodec

/-- The in-class initializer of `rtmp_chunk_size_`. -/
def initialChunkSize (build : Build) : Nat :=
  if build.monitorMode then 0x5a0 else 4096

/-- The constructor, with the values the unset members happen to have. -/
def construct (build : Build) (unset : UnsetMembers) : RtmpCodec where
  decodeDataStatus := .parseFirstHeader
  decodePackStatus := .parseRtmpHeader
  rtmpChunkSize := initialChunkSize build
  readChunkSize := unset.readChunkSize
  currentRtmpPack := unset.currentHeader.dropAllData
  chunkOver := unset.chunkOver
  lastRtmpPack := unset.lastHeader.dropAllData
  firstScriptPack := none
  firstVideoPack := none
  firstAudioPack := none

/-- A codec whose unset members happen to be zero, so that it starts at the beginning of a
chunk. -/
def atStart (build : Build) : RtmpCodec := construct build ⟨0, false, .zero, .zero⟩

/-- `RTMP_START_PARSE_LENGTH`. -/
def startParseLength : Nat := 1000

/-- What a call of `ParseFirstHeader` or `DecodeData` leaves. -/
structure DecodeDataResult where
  codec : RtmpCodec
  buffer : Bytes
  result : Int
  packFinish : Bool
  deriving DecidableEq, Repr

/-- The `while` loop of `ParseFirstHeader`, from the sum parsed so far. -/
def parseFirstHeaderLoop (build : Build) :
    Nat → RtmpCodec → Bytes → Int → DecodeDataResult
  | 0, codec, buffer, sum => ⟨codec, buffer, sum, !codec.headerMissing build⟩
  | fuel + 1, codec, buffer, sum =>
      if codec.headerMissing build then
        let step := codec.decodePack buffer
        let codec := { codec with toChunkDecoder := step.decoder }
        let codec :=
          if step.packFinish then
            { codec with toHeaderPhase := codec.keepFirstPack codec.lastRtmpPack }
          else codec
        if step.result < 0 then
          ⟨codec, step.buffer, -1, false⟩
        else if step.result = 0 then
          ⟨codec, step.buffer, sum, !codec.headerMissing build⟩
        else
          parseFirstHeaderLoop build fuel codec step.buffer (sum + step.result)
      else
        ⟨codec, buffer, sum, true⟩

/-- `RtmpCodec::ParseFirstHeader`; `packFinish` is its out parameter `first_header_finish`. -/
def parseFirstHeader (build : Build) (codec : RtmpCodec) (buffer : Bytes) : DecodeDataResult :=
  if buffer.length < startParseLength then
    ⟨codec, buffer, 0, false⟩
  else
    parseFirstHeaderLoop build (buffer.length + 1) codec buffer 0

/-- The `while` loop of `DecodeData`. The result tells an error, -1, from running out of
data, 0. -/
def decodeDataLoop (build : Build) : Nat → RtmpCodec → Bytes → Bool → DecodeDataResult
  | 0, codec, buffer, packFinish => ⟨codec, buffer, 0, packFinish⟩
  | fuel + 1, codec, buffer, packFinish =>
      match codec.decodeDataStatus with
      | .parseFirstHeader =>
          let step := codec.parseFirstHeader build buffer
          let codec :=
            if step.packFinish then { step.codec with decodeDataStatus := .parseDataPack }
            else step.codec
          if step.result < 0 then ⟨codec, step.buffer, -1, step.packFinish⟩
          else if step.result = 0 then ⟨codec, step.buffer, 0, step.packFinish⟩
          else decodeDataLoop build fuel codec step.buffer step.packFinish
      | .parseDataPack =>
          let step := codec.decodePack buffer
          let codec := { codec with toChunkDecoder := step.decoder }
          let packFinish := packFinish || step.packFinish
          if step.result < 0 then ⟨codec, step.buffer, -1, packFinish⟩
          else if step.result = 0 then ⟨codec, step.buffer, 0, packFinish⟩
          else decodeDataLoop build fuel codec step.buffer packFinish

/-- `RtmpCodec::DecodeData`: the result is -1 on an error and otherwise the number of bytes
by which the buffer became shorter. -/
def decodeData (build : Build) (codec : RtmpCodec) (buffer : Bytes) : DecodeDataResult :=
  let step := decodeDataLoop build (buffer.length + 1) codec buffer false
  if step.result < 0 then step
  else { step with result := buffer.length - step.buffer.length }

end RtmpCodec

end LiveBroadcast
