import LiveBroadcast.Live.RtmpPushConnection

/-!
# What a viewer receives

The header buffer and the tags reach a viewer as HTTP chunks, and the data of the chunks is
an FLV stream. Taking off both framings gives back the tags (`viewer_stream_decodes`).

The sizes in front of the tags are those of two chains, one in the header buffer and one that
the viewer starts with its first tag.
-/

set_option autoImplicit false

namespace LiveBroadcast

open ChunkedTransfer HttpPullConnection

/-! ## The header buffer -/

namespace RtmpPushConnection

/-- The tags in the order of the header. -/
def HeaderTags.list (tags : HeaderTags) : List FlvTag :=
  tags.script :: tags.video :: tags.audio.toList

theorem HeaderTags.list_ne_nil (tags : HeaderTags) : tags.list ≠ [] := List.cons_ne_nil _ _

/-- **The header buffer is the FLV stream of its tags.** -/
theorem HeaderTags.bytes_eq (tags : HeaderTags) : tags.bytes = flvStream tags.list := by
  obtain ⟨script, video, audio⟩ := tags
  cases audio with
  | none => simp [bytes, flvStream, list, FlvItem.chain, FlvItem.bytes]
  | some audio => simp [bytes, flvStream, list, FlvItem.chain, FlvItem.bytes]

theorem HeaderTags.bytes_ne_nil (tags : HeaderTags) : tags.bytes ≠ [] := by
  rw [bytes_eq, flvStream]
  exact List.append_ne_nil_of_left_ne_nil (List.cons_ne_nil _ _) _

variable {build : Build} {unset : HeaderUnset} {connection : RtmpPushConnection}

/-- **Packs that are there become tags**, and packs of the declared length tags of the
declared length. -/
theorem transformHeaderPacks_present {script video : RtmpPack} {audio : Option RtmpPack}
    (hasScript : connection.rtmpManager.rtmpCodec.firstScriptPack = some script)
    (hasVideo : connection.rtmpManager.rtmpCodec.firstVideoPack = some video)
    (hasAudio : connection.rtmpManager.rtmpCodec.firstAudioPack = audio) :
    ∃ transformed, connection.transformHeaderPacks build unset = .ok transformed ∧
      ((∀ pack ∈ script :: video :: audio.toList, pack.buffer.length = pack.getBodyDataSize) →
        ∀ tag ∈ transformed.2.list, tag.Declared) := by
  cases audio with
  | none =>
      refine ⟨_, by simp only [transformHeaderPacks, hasScript, hasVideo, hasAudio]; rfl, ?_⟩
      intro whole
      simp only [Option.toList_none, List.forall_mem_cons] at whole
      obtain ⟨script_whole, video_whole, -⟩ := whole
      simp only [HeaderTags.list, Option.toList_none, List.forall_mem_cons]
      exact ⟨Rtmp2FlvCodec.transform_declared _ _ _ _ script_whole,
        Rtmp2FlvCodec.transform_declared _ _ _ _ video_whole, nofun⟩
  | some audio =>
      refine ⟨_, by simp only [transformHeaderPacks, hasScript, hasVideo, hasAudio]; rfl, ?_⟩
      intro whole
      simp only [Option.toList_some, List.forall_mem_cons] at whole
      obtain ⟨script_whole, video_whole, audio_whole, -⟩ := whole
      simp only [HeaderTags.list, Option.toList_some, List.forall_mem_cons]
      exact ⟨Rtmp2FlvCodec.transform_declared _ _ _ _ script_whole,
        Rtmp2FlvCodec.transform_declared _ _ _ _ video_whole,
        Rtmp2FlvCodec.transform_declared _ _ _ _ audio_whole, nofun⟩

end RtmpPushConnection

/-! ## Decoding -/

/-- The data of the chunks of a viewer. -/
def viewerPieces (header : Bytes) (previous : Nat) (tags : List FlvTag) : List Bytes :=
  header :: (FlvItem.chain previous tags).map FlvItem.bytes

theorem flatten_viewerPieces (header : Bytes) (previous : Nat) (tags : List FlvTag) :
    (viewerPieces header previous tags).flatten =
      header ++ (FlvItem.chain previous tags).flatMap FlvItem.bytes := by
  rw [viewerPieces, List.flatten_cons, List.flatMap_def]

theorem viewerPieces_nonempty {header : Bytes} (nonempty : header ≠ []) (previous : Nat)
    (tags : List FlvTag) : ∀ piece ∈ viewerPieces header previous tags, piece ≠ [] := by
  intro piece inside
  rcases List.mem_cons.mp inside with rfl | later
  · exact nonempty
  · obtain ⟨item, -, rfl⟩ := List.mem_map.mp later
    exact item.bytes_ne_nil

/-- What a viewer is sent is the response header and these chunks. -/
theorem sent_eq (client : HttpPullConnection) (header : Bytes) (tags : List FlvTag) :
    client.sendHeaderOnConnection header ++ (client.addFlvTags tags).2.flatten =
      responseHeader ++ (viewerPieces header client.lastTagSize tags).flatMap encodeChunk := by
  rw [sendHeaderOnConnection_eq, addFlvTags_eq, viewerPieces, List.flatMap_cons,
    List.append_assoc, List.flatMap_map, List.flatMap_def]

/-- **What a viewer receives decodes back to the stream.** For a header buffer built from
present packs of their declared size, and any tags of theirs, the bytes sent are the response
header and chunks with data; the chunks are read back and use up the bytes; and splitting
their data as FLV gives the tags of the header and then the others, unchanged. -/
theorem viewer_stream_decodes (build : Build) (unset : HeaderUnset)
    (connection : RtmpPushConnection) (client : HttpPullConnection)
    (empty : connection.headerBuffer = []) {script video : RtmpPack} {audio : Option RtmpPack}
    (hasScript : connection.rtmpManager.rtmpCodec.firstScriptPack = some script)
    (hasVideo : connection.rtmpManager.rtmpCodec.firstVideoPack = some video)
    (hasAudio : connection.rtmpManager.rtmpCodec.firstAudioPack = audio)
    (whole : ∀ pack ∈ script :: video :: audio.toList,
      pack.buffer.length = pack.getBodyDataSize)
    {tags : List FlvTag} (declared : ∀ tag ∈ tags, tag.Declared) :
    ∃ served transformed pieces items,
      connection.getHeaderDataBuffer build unset = .ok served ∧
      connection.transformHeaderPacks build unset = .ok transformed ∧
      client.sendHeaderOnConnection served.headerBuffer ++ (client.addFlvTags tags).2.flatten =
        responseHeader ++ pieces.flatMap encodeChunk ∧
      (∀ piece ∈ pieces, piece ≠ []) ∧
      Reader.readToEnd decodeChunk (pieces.flatMap encodeChunk) = some pieces ∧
      splitFlv pieces.flatten = some (FlvHeader.defaultHeader, items) ∧
      items.map FlvItem.tag = transformed.2.list ++ tags := by
  obtain ⟨transformed, made, header_declared⟩ :=
    @RtmpPushConnection.transformHeaderPacks_present build unset connection script video audio
      hasScript hasVideo hasAudio
  let served : RtmpPushConnection := { connection with
    rtmpToFlvCodec := transformed.1, headerBuffer := transformed.2.bytes }
  have nonempty := viewerPieces_nonempty transformed.2.bytes_ne_nil client.lastTagSize tags
  refine ⟨served, transformed, viewerPieces transformed.2.bytes client.lastTagSize tags,
    FlvItem.chain 0 transformed.2.list ++ FlvItem.chain client.lastTagSize tags, ?_, made,
    sent_eq client _ tags, nonempty, readToEnd_chunks nonempty, ?_, ?_⟩
  · rw [RtmpPushConnection.getHeaderDataBuffer_empty empty, made]
    rfl
  · rw [flatten_viewerPieces, RtmpPushConnection.HeaderTags.bytes_eq, flvStream,
      List.append_assoc, ← List.flatMap_append]
    refine splitFlv_stream fun item inside => ?_
    have tag_of {previous : Nat} {tags : List FlvTag}
        (inside : item ∈ FlvItem.chain previous tags) : item.tag ∈ tags := by
      rw [← FlvItem.map_tag_chain previous tags]
      exact List.mem_map_of_mem inside
    rcases List.mem_append.mp inside with first | later
    · exact header_declared whole _ (tag_of first)
    · exact declared _ (tag_of later)
  · rw [List.map_append, FlvItem.map_tag_chain, FlvItem.map_tag_chain]

/-- A pack of some type, as it comes out of the decoder. -/
def wholePack (type : RtmpPackType) (body : Bytes) : RtmpPack :=
  { RtmpPack.zero with packType := type, dataSize := .ofNat body.length, buffer := body }

/-- A publisher whose sequence headers are there. -/
def withHeaders : RtmpPushConnection :=
  .new [112] { RtmpManager.construct .standard ⟨0, false, .zero, .zero⟩ .zero .zero with
    rtmpCodec := { RtmpCodec.atStart .standard with
      firstScriptPack := some (wholePack .rtmpScript [1])
      firstVideoPack := some (wholePack .rtmpVideo [2, 3])
      firstAudioPack := some (wholePack .rtmpAudio []) } }

theorem viewer_stream_decodes_oneTag :
    let tag : FlvTag := { FlvTag.new with dataSize := ⟨0, 0, 1⟩, body := [4] }
    ∃ transformed pieces items,
      withHeaders.transformHeaderPacks .standard ⟨0, 0, 0⟩ = .ok transformed ∧
      splitFlv (List.flatten pieces) = some (FlvHeader.defaultHeader, items) ∧
      items.map FlvItem.tag = transformed.2.list ++ [tag] := by
  intro tag
  obtain ⟨-, transformed, pieces, items, -, made, -, -, -, split, tags⟩ :=
    viewer_stream_decodes .standard ⟨0, 0, 0⟩ withHeaders (.new [118]) rfl rfl rfl rfl
      (by decide) (show ∀ other ∈ [tag], other.Declared by decide)
  exact ⟨transformed, pieces, items, made, split, tags⟩

end LiveBroadcast
