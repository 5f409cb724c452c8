import Mathlib.Algebra.GroupWithZero.Nat
import LiveBroadcast.Codec.FlvManager

/-!
# What ParseFile makes of a file

`ParseFile` reads tag after tag from behind the nine bytes of the file header. The tags that
it can read there, header and body, are `completeTags`; a tag without a body returns 0 from
`ParseTagData` like one that is cut, so it is dropped and not counted.

What the loop has counted and what it can still count add up to the same number in every round
(`Parsing.round`), so it ends exactly when this number reaches the length that it was given
(`parseFile_ends_iff`).

The sizes of the previous tags, which the server writes in front of every tag, are nowhere
skipped. So a file of the server is never read: what `ParseFile` counts for its tags is less
than the length that it waits for (`parseFile_never_reads`).
-/

set_option autoImplicit false

namespace LiveBroadcast

namespace FlvTag

/-- A header and the body behind it. -/
def read : Reader UInt8 FlvTag := fun data =>
  if data.length < headerLength then none
  else
    let tag := new.decodeTagHander data
    let rest := data.drop headerLength
    if rest.length < tag.getDataSize then none
    else some (tag.appendData (rest.take tag.getDataSize), rest.drop tag.getDataSize)

/-- The tags that can be read one behind the other. -/
def completeTags (data : Bytes) : List FlvTag := Reader.readAll read data

/-- What `ParseFile` counts for a tag that it has read: nothing if the tag has no body. -/
def countedSize (tag : FlvTag) : Nat := if tag.body = [] then 0 else headerLength + tag.body.length

/-- What it counts for the tags that it can read. -/
def counted (data : Bytes) : Nat := ((completeTags data).map countedSize).sum

/-! ## Headers -/

/-- A header that is there is decoded. -/
theorem exists_decoded {data : Bytes} (enough : headerLength ≤ data.length) (tag : FlvTag) :
    ∃ decoded : FlvTag, tag.decodeTagHander data = decoded ∧ decoded.body = tag.body ∧
      data = decoded.header ++ data.drop headerLength ∧
        new.decodeTagHander data = { decoded with body := [] } := by
  match data, enough with
  | tagType :: d0 :: d1 :: d2 :: t0 :: t1 :: t2 :: extend :: s0 :: s1 :: s2 :: rest, _ =>
      exact ⟨_, rfl, rfl, rfl, rfl⟩

theorem decodeTagHander_header (tag other : FlvTag) (rest : Bytes) :
    other.decodeTagHander (tag.header ++ rest) = { tag with body := other.body } := rfl

/-- The body is no part of the size that the header gives. -/
theorem getDataSize_body (tag : FlvTag) (body : Bytes) :
    ({ tag with body := body } : FlvTag).getDataSize = tag.getDataSize := rfl

theorem header_body (tag : FlvTag) (body : Bytes) :
    ({ tag with body := body } : FlvTag).header = tag.header := rfl

theorem read_long {data : Bytes} (enough : ¬ data.length < headerLength) :
    read data =
      if (data.drop headerLength).length < (new.decodeTagHander data).getDataSize then none
      else some
        ((new.decodeTagHander data).appendData
          ((data.drop headerLength).take (new.decodeTagHander data).getDataSize),
        (data.drop headerLength).drop (new.decodeTagHander data).getDataSize) :=
  if_neg enough

/-- **What is read behind a header** depends on whether the body is complete. -/
theorem read_header_append (tag : FlvTag) (rest : Bytes) :
    read (tag.header ++ rest) =
      if rest.length < tag.getDataSize then none
      else some ({ tag with body := rest.take tag.getDataSize }, rest.drop tag.getDataSize) := by
  have long : ¬ (tag.header ++ rest).length < headerLength := by
    rw [List.length_append, length_header]
    omega
  have behind : (tag.header ++ rest).drop headerLength = rest := rfl
  have begun : new.body = [] := rfl
  rw [read_long long, decodeTagHander_header, behind, getDataSize_body, appendData, begun,
    List.nil_append]

/-- A header with enough bytes behind it is read with its body. -/
theorem read_header (tag : FlvTag) {rest : Bytes} (enough : tag.getDataSize ≤ rest.length) :
    read (tag.header ++ rest) =
      some ({ tag with body := rest.take tag.getDataSize }, rest.drop tag.getDataSize) :=
  (read_header_append tag rest).trans (if_neg (Nat.not_lt.mpr enough))

/-- A header with fewer bytes behind it is not read. -/
theorem read_header_cut (tag : FlvTag) {rest : Bytes} (few : rest.length < tag.getDataSize) :
    read (tag.header ++ rest) = none :=
  (read_header_append tag rest).trans (if_pos few)

theorem read_short {data : Bytes} (few : data.length < headerLength) : read data = none := by
  simp only [read, if_pos few]

/-- **What is read** is the header and the body of the tag. -/
theorem eq_of_read {data rest : Bytes} {tag : FlvTag} (taken : read data = some (tag, rest)) :
    data = tag.header ++ tag.body ++ rest ∧ tag.Declared := by
  rcases Nat.lt_or_ge data.length headerLength with few | enough
  · rw [read_short few] at taken
    cases taken
  · obtain ⟨decoded, -, -, whole, -⟩ := exists_decoded enough new
    rw [whole] at taken
    rcases Nat.lt_or_ge (data.drop headerLength).length decoded.getDataSize with few | behind
    · rw [read_header_cut decoded few] at taken
      cases taken
    · rw [read_header decoded behind] at taken
      obtain ⟨rfl, rfl⟩ := Prod.mk.inj (Option.some.inj taken)
      constructor
      · rw [header_body, List.append_assoc, List.take_append_drop]
        exact whole
      · exact (List.length_take_of_le behind).trans (getDataSize_body _ _).symm

theorem read_consumes : Reader.Consumes read := by
  intro data tag rest taken
  obtain ⟨whole, -⟩ := eq_of_read taken
  rw [whole, List.length_append, List.length_append, length_header, headerLength]
  omega

/-- More bytes behind a tag change nothing about it. -/
theorem read_append {data rest : Bytes} {tag : FlvTag} (taken : read data = some (tag, rest))
    (more : Bytes) : read (data ++ more) = some (tag, rest ++ more) := by
  obtain ⟨whole, declared⟩ := eq_of_read taken
  have length : tag.body.length = tag.getDataSize := declared
  have enough : tag.getDataSize ≤ (tag.body ++ (rest ++ more)).length := by
    rw [List.length_append, length]
    exact Nat.le_add_right _ _
  have front : data ++ more = tag.header ++ (tag.body ++ (rest ++ more)) := by
    rw [whole, List.append_assoc, List.append_assoc]
  rw [front, read_header tag enough, ← length, List.take_left, List.drop_left]

theorem completeTags_of_read {data rest : Bytes} {tag : FlvTag}
    (taken : read data = some (tag, rest)) : completeTags data = tag :: completeTags rest :=
  read_consumes.readAll_some taken

theorem counted_of_read {data rest : Bytes} {tag : FlvTag}
    (taken : read data = some (tag, rest)) : counted data = countedSize tag + counted rest := by
  rw [counted, completeTags_of_read taken, List.map_cons, List.sum_cons]
  rfl

theorem counted_none {data : Bytes} (fails : read data = none) : counted data = 0 := by
  rw [counted, completeTags, Reader.readAll_none fails]
  rfl

end FlvTag

namespace FlvManager

open FlvTag

/-! ## The bytes that are pending -/

/-- What is still to be read: the part of the current tag that has been read, what is in the
buffer, and what is in the file. -/
def pending (manager : FlvManager) : Bytes :=
  match manager.parseStatus with
  | .tagHeader => manager.buffer ++ manager.file.content
  | .tagData => manager.currentTag.header ++
      (manager.currentTag.body ++ (manager.buffer ++ manager.file.content))

/-- The tags that are stored. -/
def storedTags (manager : FlvManager) : List FlvTag :=
  manager.scriptTag :: manager.videoAudioTags.1 :: manager.videoAudioTags.2 :: manager.flvTags

/-- A round of the loop finds: the current tag is begun, and not complete if its header has been
read; the parsed length counts the tags that are stored; and with what can still be counted it
makes `total`. -/
structure Parsing (total : Nat) (manager : FlvManager) : Prop where
  begun : manager.parseStatus = .tagHeader → manager.currentTag.body = []
  cut : manager.parseStatus = .tagData →
    manager.currentTag.body.length < manager.currentTag.getDataSize
  stored : manager.parsedLength =
    9 + (manager.storedTags.map fun tag => headerLength + tag.body.length).sum
  total : manager.parsedLength + counted manager.pending = total

/-- What every round lowers that goes on to a tag: bytes pass from the file to the buffer, from
there to the current tag, and with it they are done. -/
def variant (manager : FlvManager) : Nat :=
  manager.pending.length + (manager.buffer ++ manager.file.content).length +
    manager.file.content.length

/-- A refill moves bytes from the file to the buffer. -/
theorem readDataFromFile_stream (manager : FlvManager) :
    manager.readDataFromFile.buffer ++ manager.readDataFromFile.file.content =
      manager.buffer ++ manager.file.content := by
  simp only [readDataFromFile, File.read, List.append_assoc, List.take_append_drop]

theorem readDataFromFile_pending (manager : FlvManager) :
    manager.readDataFromFile.pending = manager.pending := by
  have same := manager.readDataFromFile_stream
  have status : manager.readDataFromFile.parseStatus = manager.parseStatus := rfl
  rw [pending, pending, status, same]
  rfl

/-- It leaves what a round finds, and lowers the variant if the buffer has room and there is
something in the file. -/
theorem Parsing.readDataFromFile {total : Nat} {manager : FlvManager}
    (parsing : manager.Parsing total) : manager.readDataFromFile.Parsing total :=
  ⟨parsing.begun, parsing.cut, parsing.stored, by
    rw [readDataFromFile_pending]
    exact parsing.total⟩

theorem readDataFromFile_variant_le (manager : FlvManager) :
    manager.readDataFromFile.variant ≤ manager.variant := by
  have left : manager.readDataFromFile.file.content.length ≤ manager.file.content.length :=
    (List.drop_sublist _ _).length_le
  rw [variant, variant, readDataFromFile_pending, readDataFromFile_stream]
  omega

theorem readDataFromFile_variant_lt {manager : FlvManager}
    (room : manager.buffer.length < flvBufferSize) (more : manager.file.content ≠ []) :
    manager.readDataFromFile.variant < manager.variant := by
  have some_left : 0 < manager.file.content.length := List.length_pos_iff.mpr more
  have left : manager.readDataFromFile.file.content.length <
      manager.file.content.length := by
    simp only [FlvManager.readDataFromFile, File.read, List.length_drop]
    omega
  rw [variant, variant, readDataFromFile_pending, readDataFromFile_stream]
  omega

/-! ## Rounds of the loop -/

theorem remainSize_eq {tag : FlvTag} (inside : tag.body.length ≤ tag.getDataSize) :
    subSize tag.getDataSize tag.body.length = tag.getDataSize - tag.body.length := by
  have bound := tag.dataSize.toNat_lt
  have size : tag.getDataSize = tag.dataSize.toNat := rfl
  rw [subSize]
  omega

/-- The current tag, once the buffer has the rest of its body. -/
def completed (manager : FlvManager) : FlvManager :=
  let remainSize := manager.currentTag.getDataSize - manager.currentTag.body.length
  { manager with
    buffer := manager.buffer.drop remainSize
    parseStatus := .tagHeader
    currentTag := manager.currentTag.appendData (manager.buffer.take remainSize) }

/-- The current tag with what the buffer has of its body. -/
def extended (manager : FlvManager) : FlvManager :=
  { manager with buffer := [], currentTag := manager.currentTag.appendData manager.buffer }

variable {manager : FlvManager}

theorem completed_stream_le (manager : FlvManager) :
    (manager.completed.buffer ++ manager.completed.file.content).length ≤
      (manager.buffer ++ manager.file.content).length := by
  simp only [completed, List.length_append, List.length_drop]
  omega

/-- `ParseTagData`, on a body that is not longer than its tag says. -/
theorem parseTagData_eq {tag : FlvTag} (inside : tag.body.length ≤ tag.getDataSize) :
    manager.parseTagData tag =
      if tag.getDataSize - tag.body.length ≤ manager.buffer.length then
        ({ manager with
            buffer := manager.buffer.drop (tag.getDataSize - tag.body.length)
            parseStatus := .tagHeader },
          tag.appendData (manager.buffer.take (tag.getDataSize - tag.body.length)),
          tag.getDataSize)
      else ({ manager with buffer := [] }, tag.appendData manager.buffer, 0) := by
  rw [← remainSize_eq inside]
  rfl

/-- **The two ways of a round over a body.** -/
theorem parseDataRound_eq
    (inside : manager.currentTag.body.length ≤ manager.currentTag.getDataSize) :
    manager.parseDataRound =
      if manager.currentTag.getDataSize - manager.currentTag.body.length ≤
          manager.buffer.length then
        if manager.currentTag.getDataSize = 0 then manager.completed.readDataFromFile
        else manager.completed.storeTag manager.currentTag.getDataSize
      else manager.extended.readDataFromFile := by
  have round {after : FlvManager} {tag : FlvTag} {parsed : Nat}
      (data : manager.parseTagData manager.currentTag = (after, tag, parsed)) :
      manager.parseDataRound =
        if parsed = 0 then { after with currentTag := tag }.readDataFromFile
        else { after with currentTag := tag }.storeTag parsed := by
    rw [parseDataRound, data]
  by_cases enough : manager.currentTag.getDataSize - manager.currentTag.body.length ≤
      manager.buffer.length
  · rw [if_pos enough]
    exact round ((parseTagData_eq inside).trans (if_pos enough))
  · rw [if_neg enough]
    exact round ((parseTagData_eq inside).trans (if_neg enough))

theorem pending_data (data : manager.parseStatus = .tagData) :
    manager.pending = manager.currentTag.header ++
      (manager.currentTag.body ++ (manager.buffer ++ manager.file.content)) := by
  rw [pending, data]

theorem pending_header (header : manager.parseStatus = .tagHeader) :
    manager.pending = manager.buffer ++ manager.file.content := by
  rw [pending, header]

/-- What is pending begins with the current tag, if the buffer has the rest of its body. -/
theorem read_pending (data : manager.parseStatus = .tagData)
    (inside : manager.currentTag.body.length ≤ manager.currentTag.getDataSize)
    (enough : manager.currentTag.getDataSize - manager.currentTag.body.length ≤
      manager.buffer.length) :
    read manager.pending = some (manager.completed.currentTag, manager.completed.pending) := by
  have stream : manager.currentTag.getDataSize ≤
      (manager.currentTag.body ++ (manager.buffer ++ manager.file.content)).length := by
    simp only [List.length_append]
    omega
  have taken : (manager.currentTag.body ++ (manager.buffer ++ manager.file.content)).take
      manager.currentTag.getDataSize = manager.completed.currentTag.body := by
    rw [List.take_append, List.take_of_length_le inside, List.take_append_of_le_length enough]
    rfl
  have left : (manager.currentTag.body ++ (manager.buffer ++ manager.file.content)).drop
      manager.currentTag.getDataSize = manager.completed.pending := by
    rw [List.drop_append, List.drop_of_length_le inside, List.nil_append,
      List.drop_append_of_le_length enough]
    rfl
  rw [pending_data data, read_header _ stream, taken, left]
  rfl

/-- The current tag is part of what the parsed length and the pending bytes count. -/
structure OverBody (total : Nat) (manager : FlvManager) : Prop where
  data : manager.parseStatus = .tagData
  inside : manager.currentTag.body.length ≤ manager.currentTag.getDataSize
  stored : manager.parsedLength =
    9 + (manager.storedTags.map fun tag => headerLength + tag.body.length).sum
  total : manager.parsedLength + counted manager.pending = total

/-- A complete tag without a body is dropped. -/
theorem OverBody.drops {total : Nat} (started : manager.OverBody total)
    (enough : manager.currentTag.getDataSize - manager.currentTag.body.length ≤
      manager.buffer.length) (empty : manager.currentTag.getDataSize = 0) :
    manager.completed.Parsing total ∧ manager.completed.variant < manager.variant := by
  have first := read_pending started.data started.inside enough
  obtain ⟨whole, declared⟩ := eq_of_read first
  have body : manager.completed.currentTag.body = [] :=
    List.length_eq_zero_iff.mp (declared.trans empty)
  have counts := counted_of_read first
  rw [countedSize, if_pos body, Nat.zero_add] at counts
  refine ⟨⟨fun _ => body, fun data => ParseStatus.noConfusion data, started.stored,
    counts ▸ started.total⟩, ?_⟩
  have shorter := congrArg List.length whole
  have stream := manager.completed_stream_le
  have same : manager.completed.file = manager.file := rfl
  simp only [List.length_append, length_header, headerLength] at shorter
  rw [same] at stream
  rw [variant, variant, same]
  omega

/-- A complete tag with a body is stored and counted. -/
theorem OverBody.stores {total : Nat} (started : manager.OverBody total)
    (enough : manager.currentTag.getDataSize - manager.currentTag.body.length ≤
      manager.buffer.length) (some_body : manager.currentTag.getDataSize ≠ 0) :
    (manager.completed.storeTag manager.currentTag.getDataSize).Parsing total ∧
      (manager.completed.storeTag manager.currentTag.getDataSize).variant < manager.variant := by
  have first := read_pending started.data started.inside enough
  obtain ⟨whole, declared⟩ := eq_of_read first
  have length : manager.completed.currentTag.body.length = manager.currentTag.getDataSize :=
    declared
  have body : manager.completed.currentTag.body ≠ [] := by
    intro empty
    rw [empty] at length
    exact some_body length.symm
  have counts := counted_of_read first
  rw [countedSize, if_neg body, length] at counts
  have parsed : (manager.completed.storeTag manager.currentTag.getDataSize).parsedLength =
      manager.parsedLength + (manager.currentTag.getDataSize + headerLength) := rfl
  have left : (manager.completed.storeTag manager.currentTag.getDataSize).pending =
      manager.completed.pending := rfl
  refine ⟨⟨fun _ => rfl, fun data => ParseStatus.noConfusion data, ?_, ?_⟩, ?_⟩
  · have tags : (manager.completed.storeTag manager.currentTag.getDataSize).storedTags =
        manager.storedTags ++ [manager.completed.currentTag] := rfl
    rw [parsed, tags, started.stored, List.map_append, List.sum_append, List.map_singleton,
      List.sum_singleton, length]
    omega
  · rw [parsed, left, ← started.total, counts]
    omega
  · have shorter := congrArg List.length whole
    have stream := manager.completed_stream_le
    have same : (manager.completed.storeTag manager.currentTag.getDataSize).buffer ++
        (manager.completed.storeTag manager.currentTag.getDataSize).file.content =
          manager.completed.buffer ++ manager.completed.file.content := rfl
    have file : (manager.completed.storeTag manager.currentTag.getDataSize).file =
      manager.file := rfl
    simp only [List.length_append, length_header, headerLength] at shorter
    rw [variant, variant, left, same, file]
    omega

/-- A tag that is cut takes what the buffer has. -/
theorem OverBody.extends {total : Nat} (started : manager.OverBody total)
    (few : ¬ manager.currentTag.getDataSize - manager.currentTag.body.length ≤
      manager.buffer.length) :
    manager.extended.Parsing total ∧ manager.extended.variant ≤ manager.variant ∧
      (0 < counted manager.pending →
        manager.extended.readDataFromFile.variant < manager.variant) := by
  have body : manager.extended.currentTag.body.length =
      manager.currentTag.body.length + manager.buffer.length := List.length_append
  have size : manager.extended.currentTag.getDataSize = manager.currentTag.getDataSize := rfl
  have data : manager.extended.parseStatus = .tagData := started.data
  have left : manager.extended.pending = manager.pending := by
    rw [pending_data data, pending_data started.data]
    exact congrArg (manager.currentTag.header ++ ·) (List.append_assoc _ _ _)
  have lower : manager.extended.variant + manager.buffer.length = manager.variant := by
    have file : manager.extended.file = manager.file := rfl
    have buffer : manager.extended.buffer = [] := rfl
    rw [variant, variant, left, file, buffer, List.nil_append, List.length_append]
    omega
  refine ⟨⟨fun header => ?_, fun _ => by omega, started.stored, left ▸ started.total⟩,
    by omega, ?_⟩
  · rw [data] at header
    cases header
  · intro positive
    have le := manager.extended.readDataFromFile_variant_le
    rcases Nat.eq_zero_or_pos manager.buffer.length with empty | some_bytes
    · -- the rest of the tag is in the file
      have more : manager.file.content ≠ [] := by
        intro ended
        have cut : read manager.pending = none := by
          rw [pending_data started.data]
          apply read_header_cut
          simp only [ended, List.append_nil, List.length_append]
          omega
        rw [counted_none cut] at positive
        exact absurd positive (Nat.lt_irrefl 0)
      have room : manager.extended.buffer.length < flvBufferSize := by
        show 0 < flvBufferSize
        decide
      have less := readDataFromFile_variant_lt room more
      omega
    · omega

/-- **A round over a body** keeps what the loop knows, and lowers the variant if a tag can still
be counted. -/
theorem OverBody.dataRound {total : Nat} (started : manager.OverBody total) :
    manager.parseDataRound.Parsing total ∧ manager.parseDataRound.variant ≤ manager.variant ∧
      (0 < counted manager.pending → manager.parseDataRound.variant < manager.variant) := by
  rw [parseDataRound_eq started.inside]
  split
  · next enough =>
      split
      · next empty =>
          obtain ⟨parsing, less⟩ := started.drops enough empty
          have le := manager.completed.readDataFromFile_variant_le
          exact ⟨parsing.readDataFromFile, by omega, fun _ => by omega⟩
      · next some_body =>
          obtain ⟨parsing, less⟩ := started.stores enough some_body
          exact ⟨parsing, Nat.le_of_lt less, fun _ => less⟩
  · next few =>
      obtain ⟨parsing, le, less⟩ := started.extends few
      exact ⟨parsing.readDataFromFile,
        Nat.le_trans manager.extended.readDataFromFile_variant_le le, less⟩

/-- The header of the current tag has been taken from the buffer. -/
def opened (manager : FlvManager) : FlvManager :=
  { manager with
    buffer := manager.buffer.drop headerLength
    parseStatus := .tagData
    currentTag := manager.currentTag.decodeTagHander manager.buffer }

/-- **The rounds of the loop** below the length. -/
theorem parseLoop_body {parseLength : Nat} (below : manager.parsedLength < parseLength) :
    (parseLoop parseLength).body manager = .inl
      (match manager.parseStatus with
      | .tagData => manager.parseDataRound
      | .tagHeader =>
          if manager.buffer.length < headerLength then manager.readDataFromFile
          else manager.opened.parseDataRound) := by
  dsimp only [parseLoop]
  rw [if_pos below]
  cases status : manager.parseStatus with
  | tagData => rfl
  | tagHeader =>
      dsimp only
      by_cases few : manager.buffer.length < headerLength
      · rw [parseTagHeader, if_pos few, if_pos few]
        rfl
      · rw [parseTagHeader, if_neg few, if_neg few, FlvCodec.decodeTagHander, if_neg few]
        rfl

theorem parseLoop_body_reached {parseLength : Nat} (reached : parseLength ≤ manager.parsedLength) :
    (parseLoop parseLength).body manager = .inr manager := by
  dsimp only [parseLoop]
  exact if_neg (Nat.not_lt.mpr reached)

theorem opened_body (manager : FlvManager) :
    manager.opened.currentTag.body = manager.currentTag.body := by
  show (manager.currentTag.decodeTagHander manager.buffer).body = _
  rw [decodeTagHander.eq_def]
  split
  · rfl
  · rfl

/-- Taking the header changes nothing about what is pending. -/
theorem Parsing.opened {total : Nat} (parsing : manager.Parsing total)
    (header : manager.parseStatus = .tagHeader)
    (enough : ¬ manager.buffer.length < headerLength) :
    manager.opened.OverBody total ∧ manager.opened.variant < manager.variant := by
  have data : manager.opened.parseStatus = .tagData := rfl
  have begun : manager.opened.currentTag.body = [] :=
    manager.opened_body.trans (parsing.begun header)
  obtain ⟨decoded, taken, -, whole, -⟩ :=
    exists_decoded (Nat.not_lt.mp enough) manager.currentTag
  have left : manager.opened.pending = manager.pending := by
    have tag : manager.opened.currentTag = decoded := taken
    have buffer : manager.opened.buffer = manager.buffer.drop headerLength := rfl
    rw [pending_data data, pending_header header, begun, List.nil_append, tag, buffer,
      ← List.append_assoc, ← whole]
    rfl
  refine ⟨⟨data, ?_, parsing.stored, left ▸ parsing.total⟩, ?_⟩
  · rw [begun]
    exact Nat.zero_le _
  · have stream : (manager.opened.buffer ++ manager.opened.file.content).length <
        (manager.buffer ++ manager.file.content).length := by
      have length : manager.opened.buffer.length = manager.buffer.length - headerLength :=
        List.length_drop
      have positive : 0 < headerLength := Nat.succ_pos _
      have same : manager.opened.file = manager.file := rfl
      rw [List.length_append, List.length_append, length, same]
      omega
    have file : manager.opened.file = manager.file := rfl
    rw [file] at stream
    rw [variant, variant, left, file]
    omega

/-- **A round of the loop** below the length goes on, keeps what the loop knows, and lowers the
variant if a tag can still be counted. -/
theorem Parsing.round {total parseLength : Nat} (parsing : manager.Parsing total)
    (below : manager.parsedLength < parseLength) :
    ∃ next, (parseLoop parseLength).body manager = .inl next ∧ next.Parsing total ∧
      (parseLength ≤ total → next.variant < manager.variant) := by
  have sum := parsing.total
  refine ⟨_, parseLoop_body below, ?_⟩
  cases status : manager.parseStatus with
  | tagData =>
      have started : manager.OverBody total :=
        ⟨status, Nat.le_of_lt (parsing.cut status), parsing.stored, parsing.total⟩
      obtain ⟨next, -, less⟩ := started.dataRound
      exact ⟨next, fun reaches => less (by omega)⟩
  | tagHeader =>
      by_cases few : manager.buffer.length < headerLength
      · simp only [if_pos few]
        refine ⟨parsing.readDataFromFile, fun reaches => ?_⟩
        have room : manager.buffer.length < flvBufferSize := Nat.lt_trans few (by decide)
        apply readDataFromFile_variant_lt room
        intro ended
        have cut : read manager.pending = none := by
          rw [pending_header status, ended, List.append_nil]
          exact read_short few
        rw [counted_none cut] at sum
        omega
      · simp only [if_neg few]
        obtain ⟨started, less⟩ := parsing.opened status few
        obtain ⟨next, le, -⟩ := started.dataRound
        exact ⟨next, fun _ => Nat.lt_of_le_of_lt le less⟩

/-- **What the loop returns** has reached the length. -/
theorem Parsing.returns {total parseLength : Nat} (parsing : manager.Parsing total)
    {after : FlvManager} (returns : (parseLoop parseLength).Returns manager after) :
    after.Parsing total ∧ parseLength ≤ after.parsedLength := by
  refine @Loop.Returns.of_invariant _ _ _ _ _ (Parsing total)
    (fun after => after.Parsing total ∧ parseLength ≤ after.parsedLength) ?_ ?_ returns parsing
  · intro state next parsing goes
    rcases Nat.lt_or_ge state.parsedLength parseLength with below | reached
    · obtain ⟨other, round, later, -⟩ := parsing.round below
      obtain rfl := Sum.inl.inj (round.symm.trans goes)
      exact later
    · rw [parseLoop_body_reached reached] at goes
      cases goes
  · intro state result parsing leaves
    rcases Nat.lt_or_ge state.parsedLength parseLength with below | reached
    · obtain ⟨other, round, -⟩ := parsing.round below
      rw [round] at leaves
      cases leaves
    · rw [parseLoop_body_reached reached] at leaves
      obtain rfl := Sum.inr.inj leaves
      exact ⟨parsing, reached⟩

/-- **The loop ends** exactly when what can be counted reaches the length. -/
theorem Parsing.ends_iff {total parseLength : Nat} (parsing : manager.Parsing total) :
    (parseLoop parseLength).Ends manager ↔ parseLength ≤ total := by
  constructor
  · rintro ⟨after, returns⟩
    obtain ⟨parsed, reached⟩ := parsing.returns returns
    have sum := parsed.total
    omega
  · intro reaches
    apply Loop.ends_of_variant variant _ parsing
    intro state next parsing goes
    rcases Nat.lt_or_ge state.parsedLength parseLength with below | reached
    · obtain ⟨other, round, later, less⟩ := parsing.round below
      obtain rfl := Sum.inl.inj (round.symm.trans goes)
      exact ⟨later, less reaches⟩
    · rw [parseLoop_body_reached reached] at goes
      cases goes

/-! ## The first three tags -/

/-- The bytes begin with three tags that have bodies. -/
def StartsWithThree (data : Bytes) : Prop :=
  ∃ script first second more, completeTags data = script :: first :: second :: more ∧
    script.body ≠ [] ∧ first.body ≠ [] ∧ second.body ≠ []

/-- What a tag is parsed from outside of the loop: the bytes begin with it, and it has a body. -/
def Takes (data : Bytes) (tag : FlvTag) (rest : Bytes) : Prop :=
  read data = some (tag, rest) ∧ tag.body ≠ []

theorem not_takes {data : Bytes}
    (bodiless : ∀ tag rest, read data = some (tag, rest) → tag.body = []) (tag : FlvTag)
    (rest : Bytes) : ¬ Takes data tag rest :=
  fun takes => takes.2 (bodiless tag rest takes.1)

/-- A header that is in the buffer is parsed. -/
theorem parseTagHeader_new {decoded : FlvTag} (enough : headerLength ≤ manager.buffer.length)
    (header : FlvTag.new.decodeTagHander manager.buffer = decoded) :
    manager.parseTagHeader .new =
      ({ manager with buffer := manager.buffer.drop headerLength, parseStatus := .tagData },
        decoded, (headerLength : Int)) := by
  rw [parseTagHeader, if_neg (Nat.not_lt.mpr enough), FlvCodec.decodeTagHander,
    if_neg (Nat.not_lt.mpr enough), header]
  exact if_pos (Int.natCast_pos.mpr (Nat.succ_pos _))

/-- The body of a tag that has none yet. -/
theorem parseTagData_begun {tag : FlvTag} (begun : tag.body = []) :
    manager.parseTagData tag =
      if tag.getDataSize ≤ manager.buffer.length then
        ({ manager with buffer := manager.buffer.drop tag.getDataSize, parseStatus := .tagHeader },
          { tag with body := manager.buffer.take tag.getDataSize }, tag.getDataSize)
      else ({ manager with buffer := [] }, { tag with body := manager.buffer }, 0) := by
  have inside : tag.body.length ≤ tag.getDataSize := by
    rw [begun]
    exact Nat.zero_le _
  have remain : tag.getDataSize - tag.body.length = tag.getDataSize := by
    rw [begun, List.length_nil, Nat.sub_zero]
  rw [parseTagData_eq inside, remain, appendData, appendData, begun, List.nil_append,
    List.nil_append]

/-- A tag whose header is parsed is parsed if its body is. -/
theorem parseTag_eq {tag next last : FlvTag} {opened after : FlvManager} {parsed : Nat}
    (header : manager.parseTagHeader tag = (opened, next, (headerLength : Int)))
    (data : opened.parseTagData next = (after, last, parsed)) :
    manager.parseTag tag =
      if parsed ≤ 0 then (after, last, -1)
      else (after, last, (headerLength : Int) + parsed) := by
  have positive : ¬ (headerLength : Int) ≤ 0 := by decide
  rw [parseTag, header]
  refine (if_neg positive).trans ?_
  rw [data]

/-- **A tag outside of the loop** is parsed if it is in the buffer and has a body. -/
theorem parseTag_cases (manager : FlvManager) :
    (∃ tag rest, Takes manager.buffer tag rest ∧
      manager.parseTag .new = ({ manager with buffer := rest, parseStatus := .tagHeader }, tag,
        (headerLength : Int) + tag.body.length)) ∨
    (∀ tag rest, ¬ Takes manager.buffer tag rest) ∧
      ∃ failed tag, manager.parseTag .new = (failed, tag, -1) := by
  rcases Nat.lt_or_ge manager.buffer.length headerLength with few | enough
  · refine Or.inr ⟨?_, manager, .new, ?_⟩
    · apply not_takes
      intro tag rest taken
      rw [read_short few] at taken
      cases taken
    · rw [parseTag, parseTagHeader, if_pos few]
      exact if_pos (Int.le_refl 0)
  · obtain ⟨decoded, -, -, whole, header⟩ := exists_decoded enough FlvTag.new
    have begun : ({ decoded with body := [] } : FlvTag).body = [] := rfl
    have data := @parseTagData_begun { manager with
      buffer := manager.buffer.drop headerLength
      parseStatus := .tagData } _ begun
    rw [getDataSize_body] at data
    rcases Nat.lt_or_ge (manager.buffer.drop headerLength).length decoded.getDataSize with
      few | behind
    · -- the body is cut
      rw [if_neg (Nat.not_le.mpr few)] at data
      have parsed := parseTag_eq (parseTagHeader_new enough header) data
      refine Or.inr ⟨?_, _, _, parsed.trans (if_pos (Nat.le_refl 0))⟩
      apply not_takes
      intro tag rest taken
      rw [whole, read_header_cut decoded few] at taken
      cases taken
    · rw [if_pos behind] at data
      have parsed := parseTag_eq (parseTagHeader_new enough header) data
      have taken := read_header decoded behind
      rw [← whole] at taken
      have length : ((manager.buffer.drop headerLength).take decoded.getDataSize).length =
        decoded.getDataSize := List.length_take_of_le behind
      rcases Nat.eq_zero_or_pos decoded.getDataSize with empty | filled
      · -- a tag without a body returns 0 as well
        refine Or.inr ⟨?_, _, _, parsed.trans (if_pos (Nat.le_of_eq empty))⟩
        apply not_takes
        intro tag rest other
        obtain ⟨rfl, -⟩ := Prod.mk.inj (Option.some.inj (taken.symm.trans other))
        exact List.length_eq_zero_iff.mp (length.trans empty)
      · refine Or.inl ⟨_, _, ⟨taken, ?_⟩, ?_⟩
        · apply List.ne_nil_of_length_pos
          rw [length]
          exact filled
        · rw [length]
          exact parsed.trans (if_neg (Nat.not_le.mpr filled))

/-- The two tags behind the script tag. -/
theorem parseVideoAudio_cases (fresh : manager.videoAudioTags = (.new, .new)) :
    (∃ first later second rest, Takes manager.buffer first later ∧ Takes later second rest ∧
      manager.parseVideoAudio =
        ({ manager with
            videoAudioTags := (first, second)
            parseStatus := .tagHeader
            buffer := rest },
          ((headerLength : Int) + first.body.length) + (headerLength + second.body.length))) ∨
    (∀ first later second rest, Takes manager.buffer first later → ¬ Takes later second rest) ∧
      ∃ failed, manager.parseVideoAudio = (failed, -1) := by
  have counts (tag : FlvTag) : ¬ (headerLength : Int) + tag.body.length < 0 := by
    unfold headerLength
    omega
  rcases manager.parseTag_cases with ⟨first, later, takes, parsed⟩ | ⟨nothing, failed, tag, parsed⟩
  · rcases parseTag_cases { manager with
      videoAudioTags := (first, .new)
      parseStatus := .tagHeader
      buffer := later } with ⟨second, rest, takes₂, parsed₂⟩ | ⟨nothing, failed, tag, parsed₂⟩
    · refine Or.inl ⟨first, later, second, rest, takes, takes₂, ?_⟩
      simp only [parseVideoAudio, fresh, parsed, if_neg (counts first), parsed₂]
      exact if_neg (counts second)
    · refine Or.inr ⟨?_, { failed with videoAudioTags := (failed.videoAudioTags.1, tag) }, ?_⟩
      · intro other behind second rest another
        obtain ⟨rfl, rfl⟩ := Prod.mk.inj (Option.some.inj (takes.1.symm.trans another.1))
        exact nothing second rest
      · simp only [parseVideoAudio, fresh, parsed, if_neg (counts first), parsed₂]
        exact if_pos (by decide)
  · refine Or.inr ⟨fun first later second rest takes => absurd takes (nothing _ _), ?_⟩
    rw [parseVideoAudio, fresh, parsed]
    exact ⟨_, if_pos (by decide)⟩

/-- `ParseFile` behind the file header, up to its loop. -/
def parseFirstTags (manager : FlvManager) : Except FlvManager FlvManager :=
  let (manager, parsed) := manager.parseScripTag
  if parsed < 0 then .error manager
  else
    let (manager, parsed) := (manager.addParsed parsed).parseVideoAudio
    if parsed < 0 then .error manager
    else .ok { manager.addParsed parsed with currentTag := .new }

/-- The first three tags are taken one behind the other. -/
theorem startsWithThree_iff {data : Bytes} :
    StartsWithThree data ↔ ∃ script behind first later second rest,
      Takes data script behind ∧ Takes behind first later ∧ Takes later second rest := by
  have step {data : Bytes} {tag : FlvTag} {more : List FlvTag}
      (tags : completeTags data = tag :: more) :
      ∃ rest, read data = some (tag, rest) ∧ completeTags rest = more := by
    cases taken : read data with
    | none =>
        rw [completeTags, Reader.readAll_none taken] at tags
        cases tags
    | some pair =>
        rw [completeTags_of_read taken] at tags
        obtain ⟨rfl, rest⟩ := List.cons.inj tags
        exact ⟨_, rfl, rest⟩
  constructor
  · rintro ⟨script, first, second, more, tags, body, body₁, body₂⟩
    obtain ⟨behind, taken, tags⟩ := step tags
    obtain ⟨later, taken₁, tags⟩ := step tags
    obtain ⟨rest, taken₂, -⟩ := step tags
    exact ⟨_, _, _, _, _, _, ⟨taken, body⟩, ⟨taken₁, body₁⟩, taken₂, body₂⟩
  · rintro ⟨script, behind, first, later, second, rest, takes, takes₁, takes₂⟩
    refine ⟨script, first, second, completeTags rest, ?_, takes.2, takes₁.2, takes₂.2⟩
    rw [completeTags_of_read takes.1, completeTags_of_read takes₁.1,
      completeTags_of_read takes₂.1]

/-- What the loop begins with. -/
def ready (manager : FlvManager) (script first second : FlvTag) (rest : Bytes) : FlvManager :=
  { manager with
    scriptTag := script
    videoAudioTags := (first, second)
    currentTag := .new
    parseStatus := .tagHeader
    parsedLength := manager.parsedLength +
      ([script, first, second].map fun tag => headerLength + tag.body.length).sum
    buffer := rest }

/-- **The first three tags are parsed** exactly if they can be taken from the buffer. -/
theorem parseFirstTags_cases (fresh : manager.scriptTag = .new)
    (fresh_tags : manager.videoAudioTags = (.new, .new)) :
    (∃ script behind first later second rest, Takes manager.buffer script behind ∧
      Takes behind first later ∧ Takes later second rest ∧
        manager.parseFirstTags = .ok (manager.ready script first second rest)) ∨
    ¬ StartsWithThree manager.buffer ∧ ∃ failed, manager.parseFirstTags = .error failed := by
  rw [startsWithThree_iff]
  rcases manager.parseTag_cases with
    ⟨script, behind, takes, parsed⟩ | ⟨nothing, failed, tag, parsed⟩
  · have counted_script : ¬ (headerLength : Int) + script.body.length < 0 := by
      unfold headerLength
      omega
    have both (first second : FlvTag) : ¬ ((headerLength : Int) + first.body.length) +
        (headerLength + second.body.length) < 0 := by
      unfold headerLength
      omega
    rcases @parseVideoAudio_cases (({ manager with
        scriptTag := script
        parseStatus := .tagHeader
        buffer := behind } : FlvManager).addParsed (headerLength + script.body.length))
      fresh_tags with
      ⟨first, later, second, rest, takes₁, takes₂, parsed₁⟩ | ⟨nothing, failed, parsed₁⟩
    · refine Or.inl ⟨script, behind, first, later, second, rest, takes, takes₁, takes₂, ?_⟩
      simp only [parseFirstTags, parseScripTag, fresh, parsed, if_neg counted_script, parsed₁,
        if_neg (both first second)]
      have sum : manager.parsedLength + ((headerLength : Int) + script.body.length).toNat +
          (((headerLength : Int) + first.body.length) +
            (headerLength + second.body.length)).toNat =
          manager.parsedLength +
            ([script, first, second].map fun tag => headerLength + tag.body.length).sum := by
        simp only [List.map_cons, List.map_nil, List.sum_cons, List.sum_nil]
        omega
      rw [ready, ← sum]
      rfl
    · refine Or.inr ⟨?_, failed, ?_⟩
      · rintro ⟨other, between, first, later, second, rest, another, takes₁, takes₂⟩
        obtain ⟨rfl, rfl⟩ := Prod.mk.inj (Option.some.inj (takes.1.symm.trans another.1))
        exact nothing first later second rest takes₁ takes₂
      · simp only [parseFirstTags, parseScripTag, fresh, parsed, if_neg counted_script, parsed₁]
        exact if_pos (by decide)
  · refine Or.inr ⟨?_, { failed with scriptTag := tag }, ?_⟩
    · rintro ⟨script, behind, _, _, _, _, takes, -⟩
      exact nothing script behind takes
    · simp only [parseFirstTags, parseScripTag, fresh, parsed]
      exact if_pos (by decide)

/-- What is counted for a tag that is taken. -/
theorem counted_of_takes {data rest : Bytes} {tag : FlvTag} (takes : Takes data tag rest)
    (more : Bytes) : counted (data ++ more) =
      headerLength + tag.body.length + counted (rest ++ more) := by
  rw [counted_of_read (read_append takes.1 more), countedSize, if_neg takes.2]

/-- The loop begins with what it keeps. -/
theorem Parsing.ready {script first second : FlvTag} {behind later rest : Bytes}
    (headed : manager.parsedLength = 9) (no_tags : manager.flvTags = [])
    (takes : Takes manager.buffer script behind) (takes₁ : Takes behind first later)
    (takes₂ : Takes later second rest) :
    (manager.ready script first second rest).Parsing
      (9 + counted (manager.buffer ++ manager.file.content)) := by
  have parsed : (manager.ready script first second rest).parsedLength = 9 +
      ([script, first, second].map fun tag => headerLength + tag.body.length).sum := by
    rw [← headed]
    rfl
  have tags : (manager.ready script first second rest).storedTags = [script, first, second] := by
    rw [storedTags, FlvManager.ready, no_tags]
  have left : (manager.ready script first second rest).pending = rest ++ manager.file.content :=
    rfl
  refine ⟨fun _ => rfl, fun data => ParseStatus.noConfusion data, ?_, ?_⟩
  · rw [parsed, tags]
  · rw [parsed, left, counted_of_takes takes, counted_of_takes takes₁, counted_of_takes takes₂]
    simp only [List.map_cons, List.map_nil, List.sum_cons, List.sum_nil]
    omega

/-- Behind the file header, `ParseFile` gets to its loop exactly if the first three tags are in
the buffer. -/
theorem parseFirstTags_begins (headed : manager.parsedLength = 9)
    (fresh : manager.scriptTag = .new) (fresh_tags : manager.videoAudioTags = (.new, .new))
    (no_tags : manager.flvTags = []) :
    (StartsWithThree manager.buffer ∧ ∃ ready, manager.parseFirstTags = .ok ready ∧
      ready.Parsing (9 + counted (manager.buffer ++ manager.file.content))) ∨
    ¬ StartsWithThree manager.buffer ∧ ∃ failed, manager.parseFirstTags = .error failed := by
  rcases parseFirstTags_cases fresh fresh_tags with
    ⟨script, behind, first, later, second, rest, takes, takes₁, takes₂, ends⟩ | failed
  · exact Or.inl ⟨startsWithThree_iff.mpr ⟨_, _, _, _, _, _, takes, takes₁, takes₂⟩, _, ends,
      Parsing.ready headed no_tags takes takes₁ takes₂⟩
  · exact Or.inr failed

/-- A file header that is cut is left where it is. -/
theorem parseHeader_short (few : manager.buffer.length < 9) :
    manager.parseHeader = (manager, 0) := by
  have kept : FlvCodec.decodeFileHeader manager.flvHeader manager.buffer =
      (manager.flvHeader, 0) := by
    rw [FlvCodec.decodeFileHeader.eq_def]
    split
    · next whole =>
        rw [whole] at few
        simp only [List.length_cons] at few
        omega
    · rfl
  rw [parseHeader, kept]
  rfl

/-- A file header is taken off the buffer. -/
theorem parseHeader_long (enough : 9 ≤ manager.buffer.length) : ∃ header,
    manager.parseHeader =
      ({ manager with flvHeader := header, buffer := manager.buffer.drop 9 }, 9) := by
  match whole : manager.buffer, enough with
  | f0 :: f1 :: f2 :: version :: typeFlag :: l0 :: l1 :: l2 :: l3 :: rest, _ =>
      refine ⟨⟨[f0, f1, f2], version, typeFlag, ⟨l0, l1, l2, l3⟩⟩, ?_⟩
      rw [parseHeader, whole]
      rfl

/-- The buffer, filled for the first time. -/
def filled (file : File) : FlvManager :=
  { new file with
    file := { file with content := file.content.drop flvBufferSize }
    buffer := file.content.take flvBufferSize }

theorem parseBegin_eq {file : File} {next : FlvManager} {parsed : Nat}
    (header : (filled file).parseHeader = (next, (parsed : Int))) :
    (new file).parseBegin = (next.addParsed parsed).parseFirstTags := by
  have fills : (new file).readDataFromFile = filled file := rfl
  rw [parseBegin, fills, header]
  exact if_neg (Int.not_lt.mpr (Int.natCast_nonneg _))

/-- **The beginning of a file.** `ParseFile` gets to its loop exactly if the buffer, filled once,
has the first three tags behind the file header. -/
theorem parseBegin_cases (file : File) :
    (StartsWithThree ((file.content.take flvBufferSize).drop 9) ∧ ∃ ready,
      (new file).parseBegin = .ok ready ∧ ready.Parsing (9 + counted (file.content.drop 9))) ∨
    ¬ StartsWithThree ((file.content.take flvBufferSize).drop 9) ∧ ∃ failed,
      (new file).parseBegin = .error failed := by
  rcases Nat.lt_or_ge (file.content.take flvBufferSize).length 9 with few | enough
  · have begun := @parseBegin_eq file _ 0 (parseHeader_short few)
    have nothing (data : Bytes) (short : data.length < 9) : ¬ StartsWithThree data := by
      rw [startsWithThree_iff]
      rintro ⟨_, _, _, _, _, _, takes, -⟩
      have taken := takes.1
      rw [read_short (by unfold headerLength; omega)] at taken
      cases taken
    have gone : ((file.content.take flvBufferSize).drop 9).length < 9 := by
      rw [List.length_drop]
      omega
    refine Or.inr ⟨nothing _ gone, ?_⟩
    rw [begun]
    rcases @parseFirstTags_cases ((filled file).addParsed 0) rfl rfl with
      ⟨_, _, _, _, _, _, takes, takes₁, takes₂, -⟩ | ⟨-, failed⟩
    · exact absurd (startsWithThree_iff.mpr ⟨_, _, _, _, _, _, takes, takes₁, takes₂⟩)
        (nothing _ few)
    · exact failed
  · obtain ⟨header, parsed⟩ := @parseHeader_long (filled file) enough
    have begun := @parseBegin_eq file _ 9 parsed
    rw [begun]
    have whole : file.content.drop 9 = (file.content.take flvBufferSize).drop 9 ++
        file.content.drop flvBufferSize := by
      rw [← List.drop_append_of_le_length enough, List.take_append_drop]
    rw [whole]
    exact @parseFirstTags_begins (({ filled file with
      flvHeader := header
      buffer := (filled file).buffer.drop 9 } : FlvManager).addParsed 9) rfl rfl rfl rfl

/-! ## Files -/

/-- Behind its beginning, `ParseFile` returns exactly if what can be counted reaches the length. -/
theorem parsesFile_ends_iff {file : File} {ready : FlvManager} {total parseLength : Nat}
    (begun : (new file).parseBegin = .ok ready) (parsing : ready.Parsing total) :
    (∃ after result, (new file).ParsesFile parseLength after result) ↔
      parseLengthOf file parseLength ≤ total := by
  rw [← parsing.ends_iff]
  simp only [ParsesFile, begun]
  constructor
  · rintro ⟨after, result, returns, -⟩
    exact ⟨after, returns⟩
  · rintro ⟨after, returns⟩
    exact ⟨after, _, returns, rfl⟩

/-- **`ParseFile` returns** on a file exactly if its buffer, filled once, does not have three
tags with bodies behind the file header, or if the tags of the whole file are counted up to the
length that it is given. -/
theorem parseFile_ends_iff (file : File) (parseLength : Nat) :
    (∃ after result, (new file).ParsesFile parseLength after result) ↔
      ¬ StartsWithThree ((file.content.take flvBufferSize).drop 9) ∨
        parseLengthOf file parseLength ≤ 9 + counted (file.content.drop 9) := by
  rcases parseBegin_cases file with ⟨three, ready, begun, parsing⟩ | ⟨fewer, failed, stops⟩
  · rw [parsesFile_ends_iff begun parsing]
    exact (or_iff_right (not_not_intro three)).symm
  · refine iff_of_true ⟨failed, -1, ?_⟩ (Or.inl fewer)
    simp only [ParsesFile, stops, and_self]

/-- A tag with a body of one byte. -/
def oneByteTag (tagType byte : UInt8) : FlvTag :=
  ⟨tagType, ⟨0, 0, 1⟩, ⟨0, 0, 0⟩, 0, ⟨0, 0, 0⟩, [byte]⟩

/-- A script tag, a video tag and an audio tag. -/
def threeTags : List FlvTag := [oneByteTag 18 1, oneByteTag 9 2, oneByteTag 8 3]

/-- Three tags one behind the other, and a fourth one that is cut in its header. -/
def cutFile : File :=
  .ofPath (FlvHeader.defaultHeader ++ threeTags.flatMap (fun tag => tag.header ++ tag.body) ++
    [9, 0, 0, 1, 0])

/-- At the end of this file the loop waits for the rest of the header. -/
theorem cutFile_neverEnds :
    ¬ ∃ after result, (new cutFile).ParsesFile cutFile.size after result := by
  have three : StartsWithThree ((cutFile.content.take flvBufferSize).drop 9) := by
    refine ⟨oneByteTag 18 1, oneByteTag 9 2, oneByteTag 8 3, [], ?_⟩
    decide
  rcases parseBegin_cases cutFile with ⟨-, ready, begun, parsing⟩ | ⟨fewer, -⟩
  · rw [parsesFile_ends_iff begun parsing]
    decide
  · exact absurd three fewer

/-! ## Files of the server -/

/-- `ParseFile` has not failed, and has read these tags. -/
def HasRead (after : FlvManager) (result : Int) (tags : List FlvTag) : Prop :=
  result ≠ -1 ∧ after.storedTags = tags

/-- The items of a file are as long as their tags and the sizes in front of them. -/
theorem length_items (items : List FlvItem) :
    (items.flatMap FlvItem.bytes).length = 4 * items.length +
      ((items.map FlvItem.tag).map fun tag => headerLength + tag.body.length).sum := by
  induction items with
  | nil => rfl
  | cons item items ih =>
      have sizes : item.previousTagSize.bytes.length = 4 := rfl
      simp only [List.flatMap_cons, List.map_cons, List.sum_cons, List.length_cons,
        List.length_append, FlvItem.bytes, length_header, sizes, ih]
      omega

/-- **Files in the layout of the server are not read**, whatever their tags and the sizes in
front of them: what is counted for the tags leaves out the sizes. -/
theorem parseFile_never_reads {file : File} {header : Bytes} {items : List FlvItem}
    {last : ByteQuad} {parseLength : Nat} (headed : header.length = 9)
    (layout : file.content = header ++ items.flatMap FlvItem.bytes ++ last.bytes)
    (sized : file.size = file.content.length ∨ file.size = 0)
    (representable : file.content.length < 2 ^ 63) (whole : file.content.length ≤ parseLength) :
    ¬ ∃ after result, (new file).ParsesFile parseLength after result ∧
      after.HasRead result (items.map FlvItem.tag) := by
  rintro ⟨after, result, parses, succeeds, tags⟩
  have length : file.content.length = 9 + (4 * items.length +
      ((items.map FlvItem.tag).map fun tag => headerLength + tag.body.length).sum) + 4 := by
    have size : last.bytes.length = 4 := rfl
    rw [layout, List.length_append, List.length_append, length_items, headed, size]
  have waits : file.content.length - 4 ≤ parseLengthOf file parseLength := by
    rw [parseLengthOf, if_neg (by omega), subSize]
    omega
  have some_items : 0 < items.length := by
    rw [← List.length_map FlvItem.tag, ← tags]
    exact Nat.succ_pos _
  rcases parseBegin_cases file with ⟨-, ready, begun, parsing⟩ | ⟨-, failed, stops⟩
  · simp only [ParsesFile, begun] at parses
    obtain ⟨parsed, reached⟩ := parsing.returns parses.1
    have same : (new file).file = file := rfl
    have stored := parsed.stored
    rw [tags] at stored
    rw [same] at reached
    omega
  · simp only [ParsesFile, stops] at parses
    exact succeeds parses.2

/-- A tag that the size in front of it repeats, so that it is found where it is looked for. -/
def repeatedItem : FlvItem := ⟨⟨8, 0, 0, 1⟩, 8, ⟨0, 0, 1⟩, ⟨8, 0, 0⟩, 1, ⟨8, 0, 0⟩, [1]⟩

/-- A file of three such tags. -/
def repeatedFile : File :=
  .ofPath (FlvHeader.defaultHeader ++ (List.replicate 3 repeatedItem).flatMap FlvItem.bytes ++
    repeatedItem.previousTagSize.bytes)

theorem parseFile_never_reads_repeated :
    ¬ ∃ after result, (new repeatedFile).ParsesFile repeatedFile.size after result ∧
      after.HasRead result ((List.replicate 3 repeatedItem).map FlvItem.tag) :=
  parseFile_never_reads rfl rfl (Or.inl rfl) (by decide) (Nat.le_refl _)

/-- A tag whose header begins with four zeros has no body. -/
theorem not_takes_zeros {rest behind : Bytes} {tag : FlvTag} :
    ¬ Takes (0 :: 0 :: 0 :: 0 :: rest) tag behind := by
  rintro ⟨taken, body⟩
  obtain ⟨whole, declared⟩ := eq_of_read taken
  obtain ⟨tagType, ⟨d0, d1, d2⟩, timestamp, extend, streamId, bytes⟩ := tag
  obtain ⟨-, whole⟩ := List.cons.inj whole
  obtain ⟨rfl, whole⟩ := List.cons.inj whole
  obtain ⟨rfl, whole⟩ := List.cons.inj whole
  obtain ⟨rfl, -⟩ := List.cons.inj whole
  have length : bytes.length = (⟨0, 0, 0⟩ : ByteTriple).toNat := declared
  have zero : (⟨0, 0, 0⟩ : ByteTriple).toNat = 0 := by decide
  exact body (List.length_eq_zero_iff.mp (length.trans zero))

/-- **`ParseFile` fails on what the server writes**: the size in front of the first tag is 0,
and it is taken for a tag header that says that the tag has no body. -/
theorem parsesFile_server {file : File} {tags : List FlvTag} {more : Bytes} (some_tags : tags ≠ [])
    (layout : file.content = flvStream tags ++ more) {after : FlvManager} {result : Int}
    {parseLength : Nat} (parses : (new file).ParsesFile parseLength after result) :
    result = -1 := by
  rcases parseBegin_cases file with ⟨three, -⟩ | ⟨-, failed, stops⟩
  · obtain ⟨script, behind, -, -, -, -, takes, -⟩ := startsWithThree_iff.mp three
    cases tags with
    | nil => exact absurd rfl some_tags
    | cons tag tags =>
        have fourZeros (size : Nat) (rest : Bytes) : ∃ behind,
            ((FlvHeader.defaultHeader ++ (0 :: 0 :: 0 :: 0 :: rest)).take (size + 13)).drop 9 =
              0 :: 0 :: 0 :: 0 :: behind := ⟨rest.take size, rfl⟩
        have stream : ∃ rest, flvStream (tag :: tags) ++ more =
            FlvHeader.defaultHeader ++ (0 :: 0 :: 0 :: 0 :: rest) := by
          have previous : (ByteQuad.htonl 0).bytes = [0, 0, 0, 0] := by decide
          simp only [flvStream, FlvItem.chain, List.flatMap_cons, FlvItem.bytes, previous,
            List.append_assoc, List.cons_append, List.nil_append]
          exact ⟨_, rfl⟩
        obtain ⟨rest, stream⟩ := stream
        obtain ⟨behind, front⟩ := fourZeros 29987 rest
        rw [layout, stream, flvBufferSize, front] at takes
        exact absurd takes not_takes_zeros
  · simp only [ParsesFile, stops] at parses
    exact parses.2

/-- What the server writes for three tags is not read back. -/
theorem threeTags_notRead : threeTags.length = 3 ∧ (∀ tag ∈ threeTags, tag.Declared) ∧
    ¬ ∃ after result, (new (.ofPath (flvStream threeTags ++ [0, 0, 0, 12]))).ParsesFile
      (flvStream threeTags ++ [0, 0, 0, 12]).length after result ∧
        after.HasRead result threeTags := by
  refine ⟨rfl, by decide, ?_⟩
  rintro ⟨after, result, parses, succeeds, -⟩
  exact succeeds (parsesFile_server (List.cons_ne_nil _ _) rfl parses)

end FlvManager

end LiveBroadcast
