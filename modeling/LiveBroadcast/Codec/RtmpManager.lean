import LiveBroadcast.Codec.RtmpCodec
import LiveBroadcast.Utils.Format

/-!
# The RTMP manager

`RtmpManager` takes a publisher's bytes through the handshake (`parseShakeHand`, one stage a
call) and then through the media (`parseData`). It keeps the connect and the releaseStream
pack, from which the URL and the password are taken.
-/

set_option autoImplicit false

namespace LiveBroadcast

/-- `enum ShakeHandPackType`: the stages of the handshake, and what a call reports. -/
inductive ShakeHandPackType where
  | shakeRtmpC01
  | shakeRtmpC2
  | shakeRtmpSetChunkSize
  | shakeRtmpConnect
  | shakeRtmpReleaseStream
  | shakeRtmpFcPublish
  | shakeRtmpCreateStream
  | shakeRtmpPublish
  | shakeSuccess
  | shakeFailed
  | shakeDataNotEnough
  deriving DecidableEq, Repr

/-- `class RtmpManager`. -/
structure RtmpManager where
  rtmpCodec : RtmpCodec
  shakeHandStatus : ShakeHandPackType
  connectPack : RtmpPack
  releasePack : RtmpPack
  deriving DecidableEq, Repr

/-- What a call of `ParseData` leaves: the pack is what `new_rtmp_pack_callback_` is given,
if it is called. -/
structure ParseDataResult where
  manager : RtmpManager
  buffer : Bytes
  result : Int
  newRtmpPack : Option RtmpPack
  deriving DecidableEq, Repr

/-- What a call of `ParseShakeHand` leaves, and what it returns. -/
structure ParseShakeHandResult where
  manager : RtmpManager
  buffer : Bytes
  result : ShakeHandPackType
  deriving DecidableEq, Repr

namespace RtmpManager

/-- The constructor; the two packs have the header fields they happen to have. -/
def construct (build : Build) (unset : UnsetMembers) (connectPack releasePack : RtmpPack) :
    RtmpManager where
  rtmpCodec := .construct build unset
  shakeHandStatus := .shakeRtmpC01
  connectPack := connectPack.dropAllData
  releasePack := releasePack.dropAllData

/-- A manager whose codec starts at the beginning of a chunk. -/
def atStart (build : Build) : RtmpManager := construct build ⟨0, false, .zero, .zero⟩ .zero .zero

/-- `ParseData`. -/
def parseData (build : Build) (manager : RtmpManager) (buffer : Bytes) : ParseDataResult :=
  let step := manager.rtmpCodec.decodeData build buffer
  ⟨{ manager with rtmpCodec := step.codec }, step.buffer, step.result,
    if step.packFinish then some step.codec.lastRtmpPack else none⟩

/-- `ParseHeaderAndBody`: one call of `DecodePack`, which counts only if it finishes a pack.
The pack it hands out is the last one, finished by this call or not. -/
def parseHeaderAndBody (manager : RtmpManager) (buffer : Bytes) :
    RtmpManager × Bytes × Int × RtmpPack :=
  let step := manager.rtmpCodec.decodePack buffer
  ({ manager with rtmpCodec := { manager.rtmpCodec with toChunkDecoder := step.decoder } },
    step.buffer, if step.packFinish then step.result else 0, step.decoder.lastRtmpPack)

/-- A stage that waits for one message: `keep` says what becomes of the pack. -/
def parseMessage (manager : RtmpManager) (buffer : Bytes)
    (keep : RtmpManager → RtmpPack → RtmpManager) (stage next : ShakeHandPackType) :
    ParseShakeHandResult :=
  let (manager, buffer, parse, pack) := manager.parseHeaderAndBody buffer
  let manager := keep manager pack
  if 0 < parse then ⟨{ manager with shakeHandStatus := next }, buffer, stage⟩
  else if parse = 0 then ⟨manager, buffer, .shakeDataNotEnough⟩
  else ⟨{ manager with shakeHandStatus := .shakeFailed }, buffer, .shakeFailed⟩

/-- The pack is a local variable of the stage. -/
def dropPack (manager : RtmpManager) (_ : RtmpPack) : RtmpManager := manager

/-- The pack is `connect_pack_`. -/
def keepConnectPack (manager : RtmpManager) (pack : RtmpPack) : RtmpManager :=
  { manager with connectPack := pack }

/-- The pack is `release_pack_`. -/
def keepReleasePack (manager : RtmpManager) (pack : RtmpPack) : RtmpManager :=
  { manager with releasePack := pack }

/-- A stage that waits for a fixed number of bytes. -/
def parseBlock (manager : RtmpManager) (buffer : Bytes) (length : Nat)
    (stage next : ShakeHandPackType) : ParseShakeHandResult :=
  if buffer.length < length then ⟨manager, buffer, .shakeDataNotEnough⟩
  else ⟨{ manager with shakeHandStatus := next }, buffer.drop length, stage⟩

/-- `ParseShakeHand`. -/
def parseShakeHand (build : Build) (manager : RtmpManager) (buffer : Bytes) :
    ParseShakeHandResult :=
  match manager.shakeHandStatus with
  | .shakeRtmpC01 => manager.parseBlock buffer 1537 .shakeRtmpC01 .shakeRtmpC2
  | .shakeRtmpC2 =>
      manager.parseBlock buffer 1536 .shakeRtmpC2
        (if build.monitorMode then .shakeRtmpConnect else .shakeRtmpSetChunkSize)
  | .shakeRtmpSetChunkSize =>
      manager.parseMessage buffer dropPack .shakeRtmpSetChunkSize .shakeRtmpConnect
  | .shakeRtmpConnect =>
      manager.parseMessage buffer keepConnectPack .shakeRtmpConnect .shakeRtmpReleaseStream
  | .shakeRtmpReleaseStream =>
      manager.parseMessage buffer keepReleasePack .shakeRtmpReleaseStream .shakeRtmpFcPublish
  | .shakeRtmpFcPublish =>
      manager.parseMessage buffer dropPack .shakeRtmpFcPublish .shakeRtmpCreateStream
  | .shakeRtmpCreateStream =>
      match buffer with
      | [] => ⟨manager, buffer, .shakeDataNotEnough⟩
      | first :: _ =>
          if first = 0xc3 then
            -- a continuation header where none is due: 26 bytes are skipped, or what there is
            ⟨{ manager with shakeHandStatus := .shakeRtmpPublish }, buffer.drop 26,
              .shakeRtmpCreateStream⟩
          else manager.parseMessage buffer dropPack .shakeRtmpCreateStream .shakeRtmpPublish
  | .shakeRtmpPublish => manager.parseMessage buffer dropPack .shakeRtmpPublish .shakeSuccess
  | .shakeFailed => ⟨manager, buffer, .shakeFailed⟩
  | .shakeSuccess => ⟨manager, buffer, .shakeSuccess⟩
  | .shakeDataNotEnough => ⟨manager, buffer, .shakeDataNotEnough⟩

/-- `GetUrlFromConnectPack`: the C string that starts at the first `rtmp` of the body.
Without one the index is `npos`. -/
def getUrlFromConnectPack (manager : RtmpManager) : Except Fault Bytes :=
  let body := manager.connectPack.buffer
  let beginIdx := find body [114, 116, 109, 112] 0
  if body.length < beginIdx then .error .outOfBounds
  else
    let len := ((body.drop beginIdx).takeWhile (· ≠ 0)).length
    substr body beginIdx len

/-- `GetPasswordFromReleasePack`: byte 28 of the body is the length, as a signed `char`, of
the password behind it. `behind` is what the memory of the pack's buffer holds behind the
body, which the code may read as well. -/
def getPasswordFromReleasePack (manager : RtmpManager) (behind : Nat → UInt8) :
    Except Fault Bytes :=
  let body := manager.releasePack.buffer
  let byte (i : Nat) : UInt8 := if h : i < body.length then body[i] else behind (i - body.length)
  if 128 ≤ (byte 28).toNat then .error .lengthError
  else .ok ((List.range (byte 28).toNat).map fun i => byte (29 + i))

end RtmpManager

end LiveBroadcast
