import LiveBroadcast.Codec.FlvCodec
import LiveBroadcast.Foundation.ChunkedTransfer
import LiveBroadcast.Utils.Format

/-!
# Viewers

An `HttpPullConnection` sends the FLV stream to a viewer in HTTP chunks: one chunk with the
header buffer, behind the response header, and one chunk for each tag. The operations return
the bytes they hand to `TcpConnection::Send`.

`sendHeaderOnConnection_eq` and `addFlvTags_eq` say which chunks these are.
-/

set_option autoImplicit false

namespace LiveBroadcast

/-- `class HttpPullConnection`. -/
structure HttpPullConnection where
  connectionName : Bytes
  lastTagSize : Nat
  deriving DecidableEq, Repr

namespace HttpPullConnection

/-- The constructor. -/
def new (connectionName : Bytes) : HttpPullConnection := ⟨connectionName, 0⟩

/-- `response_header`. -/
def responseHeader : Bytes :=
  ("HTTP/1.1 200 OK\r\n" ++
    "Server: FISH_LIVE\r\n" ++
    "Date: Sun, 29 Nov 2020 15:30:42 GMT\r\n" ++
    "Content-Type: video/x-flv\r\n" ++
    "Transfer-Encoding: chunked\r\n" ++
    "Connection: keep-alive\r\n" ++
    "Access-Control-Allow-Origin: *\r\n\r\n").toList.map fun c => UInt8.ofNat c.toNat

/-- `SendHeaderOnConnection`. -/
def sendHeaderOnConnection (_ : HttpPullConnection) (buffer : Bytes) : Bytes :=
  responseHeader ++ Format.toHexStringWithCrlf buffer.length ++ buffer ++ [13, 10]

/-- `AddFlvTag`. -/
def addFlvTag (connection : HttpPullConnection) (tag : FlvTag) : HttpPullConnection × Bytes :=
  ({ connection with lastTagSize := tag.getCurrentTagSize },
    Format.toHexStringWithCrlf (tag.getSumSize + 4) ++
      (ByteQuad.htonl connection.lastTagSize).bytes ++ tag.header ++ tag.body ++ [13, 10])

/-- `AddFlvTag` for each tag of a list. -/
def addFlvTags : HttpPullConnection → List FlvTag → HttpPullConnection × List Bytes
  | connection, [] => (connection, [])
  | connection, tag :: tags =>
      let first := connection.addFlvTag tag
      let rest := addFlvTags first.1 tags
      (rest.1, first.2 :: rest.2)

/-! ## The chunks -/

open ChunkedTransfer

theorem toHexStringWithCrlf_eq (n : Nat) :
    Format.toHexStringWithCrlf n = hexString n ++ crlf := rfl

theorem sendHeaderOnConnection_eq (connection : HttpPullConnection) (buffer : Bytes) :
    connection.sendHeaderOnConnection buffer = responseHeader ++ encodeChunk buffer := by
  rw [sendHeaderOnConnection, toHexStringWithCrlf_eq, encodeChunk]
  simp only [List.append_assoc]
  rfl

/-- **A tag is one chunk**, and the length in front of it is the length of what follows. -/
theorem addFlvTag_eq (connection : HttpPullConnection) (tag : FlvTag) :
    (connection.addFlvTag tag).2 =
      encodeChunk (FlvItem.bytes ⟨.htonl connection.lastTagSize, tag⟩) := by
  have length : (FlvItem.bytes ⟨.htonl connection.lastTagSize, tag⟩).length =
      tag.getSumSize + 4 := by
    simp only [FlvItem.bytes, List.length_append, ByteQuad.length_bytes, FlvTag.length_header,
      FlvTag.getSumSize]
    omega
  rw [addFlvTag, toHexStringWithCrlf_eq, encodeChunk, length, FlvItem.bytes]
  simp only [List.append_assoc]
  rfl

/-- **The tags are a chunk each**, and the sizes go on from the last one. -/
theorem addFlvTags_eq (connection : HttpPullConnection) (tags : List FlvTag) :
    (connection.addFlvTags tags).2 =
      (FlvItem.chain connection.lastTagSize tags).map fun item => encodeChunk item.bytes := by
  induction tags generalizing connection with
  | nil => rfl
  | cons tag tags ih => rw [addFlvTags, FlvItem.chain, List.map_cons, ← addFlvTag_eq, ih]; rfl

theorem addFlvTags_concat (connection : HttpPullConnection) (tags : List FlvTag) (tag : FlvTag) :
    connection.addFlvTags (tags ++ [tag]) =
      (((connection.addFlvTags tags).1.addFlvTag tag).1,
        (connection.addFlvTags tags).2 ++ [((connection.addFlvTags tags).1.addFlvTag tag).2]) := by
  induction tags generalizing connection with
  | nil => rfl
  | cons first tags ih => rw [List.cons_append, addFlvTags, ih, addFlvTags, List.cons_append]

theorem addFlvTags_nil_iff {connection : HttpPullConnection} {tags : List FlvTag} :
    (connection.addFlvTags tags).2 = [] ↔ tags = [] := by
  cases tags with
  | nil => exact iff_of_true rfl rfl
  | cons tag tags => exact iff_of_false nofun nofun

end HttpPullConnection

end LiveBroadcast
