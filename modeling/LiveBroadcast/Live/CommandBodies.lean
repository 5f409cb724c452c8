import LiveBroadcast.Live.Authentication
import LiveBroadcast.Live.HandshakeSegments
import LiveBroadcast.Live.LoggedServers

/-!
# The commands of a handshake

The URL is looked for in the body of the connect command, and the password stands in the body
of the releaseStream command. The handshake accepts any message in both stages, and nothing
is checked before the extraction: without `rtmp` in the body, without a slash behind the
authority, with a short body or with a length byte above 127 the extraction throws or reads
outside the body.

A handshake never fails by itself, and its success is logged with the path. So its reads return,
read inside the bodies and answer malformed commands by a failed handshake exactly as long as
every connect and releaseStream command that is brought is well formed, and the path has room in
its record when publish is brought (`handshake_reads_safe_iff`). What a read brings is read off
the stage, the decoder and the bytes before it is made.
-/

set_option autoImplicit false

namespace LiveBroadcast

open RtmpManager

/-! ## Well-formed commands -/

/-- The C string that starts at the first `rtmp` of a body. -/
def urlOfBody (body : Bytes) : Bytes :=
  (body.drop (find body [114, 116, 109, 112] 0)).takeWhile (· ≠ 0)

/-- A connect command from which the path can be taken: `rtmp` stands in the body, and behind
the authority of the URL that starts there stands a slash. -/
structure WellFormedConnect (body : Bytes) : Prop where
  url : find body [114, 116, 109, 112] 0 ≤ body.length
  path : find (urlOfBody body) [47] (addSize (find (urlOfBody body) [47, 47] 0) 2) <
    (urlOfBody body).length

/-- A releaseStream command from which the password can be taken: byte 28 is a length that is
not negative, and as many bytes stand behind it. -/
def WellFormedRelease (body : Bytes) : Prop :=
  ∃ length, body[28]? = some length ∧ length.toNat < 128 ∧ 29 + length.toNat ≤ body.length

namespace RtmpManager

variable {build : Build} {manager : RtmpManager} {buffer : Bytes}

theorem getUrlFromConnectPack_eq (inside : find manager.connectPack.buffer [114, 116, 109, 112] 0 ≤
    manager.connectPack.buffer.length) :
    manager.getUrlFromConnectPack = .ok (urlOfBody manager.connectPack.buffer) := by
  have cut (text : Bytes) : text.take (text.takeWhile (· ≠ 0)).length = text.takeWhile (· ≠ 0) :=
    (List.prefix_iff_eq_take.mp (List.takeWhile_prefix _)).symm
  rw [getUrlFromConnectPack]
  dsimp only
  rw [if_neg (Nat.not_lt.mpr inside), substr, if_neg (Nat.not_lt.mpr inside), cut, urlOfBody]

/-- **The path is known** exactly when the connect command is well formed. -/
theorem getRtmpPath_ok_iff (connection : RtmpPushConnection) :
    (∃ path, connection.getRtmpPath = .ok path) ↔
      WellFormedConnect connection.rtmpManager.connectPack.buffer := by
  rw [RtmpPushConnection.getRtmpPath]
  rcases Nat.lt_or_ge connection.rtmpManager.connectPack.buffer.length
    (find connection.rtmpManager.connectPack.buffer [114, 116, 109, 112] 0) with beyond | inside
  · have faults : connection.rtmpManager.getUrlFromConnectPack = .error .outOfBounds := by
      rw [getUrlFromConnectPack]
      dsimp only
      rw [if_pos beyond]
    rw [faults]
    apply iff_of_false
    · rintro ⟨path, made⟩
      cases made
    · intro wellFormed
      exact Nat.not_le.mpr beyond wellFormed.url
  · rw [getUrlFromConnectPack_eq inside]
    exact (Format.getPathFromUrl_ok_iff _).trans
      ⟨fun slash => ⟨inside, slash⟩, fun wellFormed => wellFormed.path⟩

/-- A byte of a body, or of what stands behind it. -/
def byteAt (body : Bytes) (behind : Nat → UInt8) (i : Nat) : UInt8 :=
  if h : i < body.length then body[i] else behind (i - body.length)

theorem byteAt_inside {body : Bytes} {i : Nat} (inside : i < body.length)
    (behind : Nat → UInt8) : byteAt body behind i = body[i] := dif_pos inside

theorem byteAt_beyond {body : Bytes} {i : Nat} (beyond : body.length ≤ i)
    (behind : Nat → UInt8) : byteAt body behind i = behind (i - body.length) :=
  dif_neg (Nat.not_lt.mpr beyond)

theorem getPasswordFromReleasePack_eq_byteAt (manager : RtmpManager) (behind : Nat → UInt8) :
    manager.getPasswordFromReleasePack behind =
      if 128 ≤ (byteAt manager.releasePack.buffer behind 28).toNat then .error .lengthError
      else .ok ((List.range (byteAt manager.releasePack.buffer behind 28).toNat).map fun i =>
        byteAt manager.releasePack.buffer behind (29 + i)) := rfl

/-- The password of a well-formed releaseStream command. -/
theorem getPasswordFromReleasePack_eq {length : UInt8}
    (there : manager.releasePack.buffer[28]? = some length) (signed : length.toNat < 128)
    (inside : 29 + length.toNat ≤ manager.releasePack.buffer.length) (behind : Nat → UInt8) :
    manager.getPasswordFromReleasePack behind =
      .ok ((manager.releasePack.buffer.drop 29).take length.toNat) := by
  obtain ⟨long, same⟩ := List.getElem?_eq_some_iff.mp there
  rw [getPasswordFromReleasePack_eq_byteAt, byteAt_inside long, same,
    if_neg (Nat.not_le.mpr signed)]
  refine congrArg Except.ok (List.ext_getElem ?_ fun i left right => ?_)
  · rw [List.length_map, List.length_range, List.length_take, List.length_drop]
    omega
  · rw [List.length_map, List.length_range] at left
    rw [List.getElem_map, List.getElem_range, List.getElem_take, List.getElem_drop,
      byteAt_inside (by omega)]

/-- **The password is read inside the body** exactly when the releaseStream command is well
formed: what is read is then the same whatever stands behind the body. -/
theorem getPassword_inside_iff (manager : RtmpManager) :
    (∃ password, ∀ behind, manager.getPasswordFromReleasePack behind = .ok password) ↔
      WellFormedRelease manager.releasePack.buffer := by
  constructor
  · rintro ⟨password, read⟩
    rcases Nat.lt_or_ge 28 manager.releasePack.buffer.length with long | short
    · refine ⟨_, List.getElem?_eq_getElem long, ?_⟩
      have zeros := read fun _ => 0
      have ones := read fun _ => 1
      rw [getPasswordFromReleasePack_eq_byteAt, byteAt_inside long] at zeros ones
      generalize manager.releasePack.buffer[28] = length at zeros ones ⊢
      rcases Nat.lt_or_ge length.toNat 128 with signed | negative
      · refine ⟨signed, ?_⟩
        rw [if_neg (Nat.not_le.mpr signed)] at zeros ones
        by_contra beyond
        -- the last byte of the password stands behind the body
        have same := Except.ok.inj (zeros.trans ones.symm)
        have last := congrArg (fun text : Bytes => text[length.toNat - 1]?) same
        rw [List.getElem?_map, List.getElem?_map, List.getElem?_range (by omega), Option.map_some,
          Option.map_some, byteAt_beyond (by omega), byteAt_beyond (by omega)] at last
        cases last
      · rw [if_pos negative] at zeros
        cases zeros
    · have faults := read fun _ => 128
      rw [getPasswordFromReleasePack_eq_byteAt, byteAt_beyond short, if_pos (by decide)] at faults
      cases faults
  · rintro ⟨length, there, signed, inside⟩
    exact ⟨_, getPasswordFromReleasePack_eq there signed inside⟩

/-! ## The commands that bytes bring -/

/-- The path in a connect command. -/
def pathOfBody (body : Bytes) : Bytes := Format.pathOf (urlOfBody body)

end RtmpManager

namespace ChunkDecoder

/-- The body of the message whose last chunk the bytes hold. -/
def lastBody (decoder : ChunkDecoder) (bytes : Bytes) : Bytes :=
  (decoder.behindLastChunk bytes).1.lastRtmpPack.buffer

/-- If the bytes bring releaseStream, it is well formed. -/
def ReleaseWellFormed (decoder : ChunkDecoder) (bytes : Bytes) : Prop :=
  decoder.HoldsLastChunk bytes → WellFormedRelease (decoder.lastBody bytes)

/-- If the bytes bring connect, it is well formed, and so is a releaseStream behind it. -/
def ConnectWellFormed (decoder : ChunkDecoder) (bytes : Bytes) : Prop :=
  decoder.HoldsLastChunk bytes → WellFormedConnect (decoder.lastBody bytes) ∧
    (decoder.behindLastChunk bytes).1.ReleaseWellFormed (decoder.behindLastChunk bytes).2

/-- If the bytes bring setChunkSize, what is behind it is well formed. -/
def SetChunkSizeWellFormed (decoder : ChunkDecoder) (bytes : Bytes) : Prop :=
  decoder.HoldsLastChunk bytes →
    (decoder.behindLastChunk bytes).1.ConnectWellFormed (decoder.behindLastChunk bytes).2

/-- If the bytes bring C2, what is behind it is well formed. -/
def C2WellFormed (build : Build) (decoder : ChunkDecoder) (bytes : Bytes) : Prop :=
  1536 ≤ bytes.length →
    if build.monitorMode then decoder.ConnectWellFormed (bytes.drop 1536)
    else decoder.SetChunkSizeWellFormed (bytes.drop 1536)

end ChunkDecoder

namespace RtmpManager

variable {build : Build} {manager : RtmpManager} {buffer : Bytes}

/-- The connect and releaseStream commands that the bytes bring are well formed. -/
def BringsWellFormed (build : Build) (manager : RtmpManager) (bytes : Bytes) : Prop :=
  match manager.shakeHandStatus with
  | .shakeRtmpC01 => 1537 ≤ bytes.length → manager.rtmpCodec.C2WellFormed build (bytes.drop 1537)
  | .shakeRtmpC2 => manager.rtmpCodec.C2WellFormed build bytes
  | .shakeRtmpSetChunkSize => manager.rtmpCodec.SetChunkSizeWellFormed bytes
  | .shakeRtmpConnect => manager.rtmpCodec.ConnectWellFormed bytes
  | .shakeRtmpReleaseStream => manager.rtmpCodec.ReleaseWellFormed bytes
  | _ => True

/-- Behind its stage the connect command is well formed. -/
def ConnectKnown (manager : RtmpManager) : Prop :=
  stagesLeft manager.shakeHandStatus ≤ 4 → WellFormedConnect manager.connectPack.buffer

theorem connectKnown_early (early : 4 < stagesLeft manager.shakeHandStatus) :
    manager.ConnectKnown := fun late => absurd late (Nat.not_le.mpr early)

theorem connectKnown_iff (late : stagesLeft manager.shakeHandStatus ≤ 4) :
    manager.ConnectKnown ↔ WellFormedConnect manager.connectPack.buffer :=
  ⟨fun known => known late, fun wellFormed _ => wellFormed⟩

theorem bringsWellFormed_late (late : stagesLeft manager.shakeHandStatus ≤ 3) :
    manager.BringsWellFormed build buffer := by
  cases status : manager.shakeHandStatus <;> rw [status] at late <;>
    first
    | exact absurd late (by decide)
    | simp only [BringsWellFormed, status]

/-- A block that is there is passed. -/
theorem parseBlock_goes {length : Nat} {stage next : ShakeHandPackType}
    (goes : shakeHandReturns (manager.parseBlock buffer length stage next).result = none) :
    length ≤ buffer.length ∧ manager.parseBlock buffer length stage next =
      ⟨{ manager with shakeHandStatus := next }, buffer.drop length, stage⟩ := by
  rw [parseBlock] at goes ⊢
  split at goes
  · cases goes
  · next enough => exact ⟨Nat.not_lt.mp enough, if_neg enough⟩

/-- A call reports the stage that it has finished, or that it waits or has failed. -/
theorem parseShakeHand_result (manager : RtmpManager) (buffer : Bytes) :
    (manager.parseShakeHand build buffer).result = manager.shakeHandStatus ∨
      (manager.parseShakeHand build buffer).result = .shakeDataNotEnough ∨
        (manager.parseShakeHand build buffer).result = .shakeFailed := by
  have message (keep : RtmpManager → RtmpPack → RtmpManager) (stage next : ShakeHandPackType) :
      (manager.parseMessage buffer keep stage next).result = stage ∨
        (manager.parseMessage buffer keep stage next).result = .shakeDataNotEnough ∨
          (manager.parseMessage buffer keep stage next).result = .shakeFailed := by
    simp only [parseMessage]
    split
    · exact .inl rfl
    · split
      · exact .inr (.inl rfl)
      · exact .inr (.inr rfl)
  have block (length : Nat) (stage next : ShakeHandPackType) :
      (manager.parseBlock buffer length stage next).result = stage ∨
        (manager.parseBlock buffer length stage next).result = .shakeDataNotEnough ∨
          (manager.parseBlock buffer length stage next).result = .shakeFailed := by
    rw [parseBlock]
    split
    · exact .inr (.inl rfl)
    · exact .inl rfl
  unfold RtmpManager.parseShakeHand
  cases status : manager.shakeHandStatus with
  | shakeRtmpC01 => exact block _ _ _
  | shakeRtmpC2 => exact block _ _ _
  | shakeRtmpSetChunkSize => exact message _ _ _
  | shakeRtmpConnect => exact message _ _ _
  | shakeRtmpReleaseStream => exact message _ _ _
  | shakeRtmpFcPublish => exact message _ _ _
  | shakeRtmpCreateStream =>
      cases buffer with
      | nil => exact .inr (.inl rfl)
      | cons first rest =>
          dsimp only
          split
          · exact .inl rfl
          · exact message _ _ _
  | shakeRtmpPublish => exact message _ _ _
  | shakeFailed => exact .inl rfl
  | shakeSuccess => exact .inl rfl
  | shakeDataNotEnough => exact .inl rfl

/-- Only the stage of releaseStream has the publisher authenticated. -/
theorem parseShakeHand_authenticates
    (returns : shakeHandReturns (manager.parseShakeHand build buffer).result =
      some .shakeAuthenticate) :
    manager.shakeHandStatus = .shakeRtmpReleaseStream := by
  have report : (manager.parseShakeHand build buffer).result = .shakeRtmpReleaseStream := by
    generalize (manager.parseShakeHand build buffer).result = reported at returns
    cases reported <;> first | rfl | cases returns
  rcases @parseShakeHand_result build manager buffer with same | waits | fails
  · exact same.symm.trans report
  · rw [waits] at report
    cases report
  · rw [fails] at report
    cases report

/-- A round that reports success has had it before. -/
theorem parseShakeHand_succeeds
    (returns : shakeHandReturns (manager.parseShakeHand build buffer).result =
      some .shakeSuccess) :
    (manager.parseShakeHand build buffer).manager.shakeHandStatus = .shakeSuccess := by
  have report : (manager.parseShakeHand build buffer).result = .shakeSuccess := by
    generalize (manager.parseShakeHand build buffer).result = reported at returns
    cases reported <;> first | rfl | cases returns
  rcases @parseShakeHand_result build manager buffer with same | waits | fails
  · have status : manager.shakeHandStatus = .shakeSuccess := same.symm.trans report
    simp only [RtmpManager.parseShakeHand, status]
  · rw [waits] at report
    cases report
  · rw [fails] at report
    cases report

/-- `ShakeHand` succeeds in the stage of success. -/
theorem shakeHand_succeeds (manager : RtmpManager) (buffer : Bytes) :
    (manager.shakeHand build buffer).result = .shakeSuccess →
      (manager.shakeHand build buffer).manager.shakeHandStatus = .shakeSuccess := by
  refine @shakeHand_induction build (fun _ _ outcome =>
    outcome.result = .shakeSuccess → outcome.manager.shakeHandStatus = .shakeSuccess)
    ?_ ?_ manager buffer
  · intro manager buffer result returns succeeded
    obtain rfl : result = .shakeSuccess := succeeded
    exact parseShakeHand_succeeds returns
  · intro manager buffer goes rest succeeded
    rw [shakeHand_goes goes] at succeeded ⊢
    exact rest succeeded


/-- A block that is not there yet is waited for. -/
theorem parseBlock_returns {length : Nat} {stage next : ShakeHandPackType}
    (goes_on : shakeHandReturns stage = none) {result : ShakeHandResult}
    (returns : shakeHandReturns (manager.parseBlock buffer length stage next).result =
      some result) :
    buffer.length < length ∧ (manager.parseBlock buffer length stage next).manager = manager := by
  rw [parseBlock] at returns ⊢
  split at returns
  · next short => exact ⟨short, by rw [if_pos short]⟩
  · rw [goes_on] at returns
    cases returns

/-- So is a message. -/
theorem parseMessage_returns {keep : RtmpManager → RtmpPack → RtmpManager}
    {stage next : ShakeHandPackType}
    (kept : ∀ manager pack, (keep manager pack).shakeHandStatus = manager.shakeHandStatus)
    (goes_on : shakeHandReturns stage = none)
    (unfailed : (manager.parseMessage buffer keep stage next).result ≠ .shakeFailed)
    {result : ShakeHandResult}
    (returns : shakeHandReturns (manager.parseMessage buffer keep stage next).result =
      some result) :
    ¬ manager.rtmpCodec.HoldsLastChunk buffer ∧
      (manager.parseMessage buffer keep stage next).manager.shakeHandStatus =
        manager.shakeHandStatus := by
  rcases @parseMessage_cases manager buffer keep stage next kept with
    ⟨-, finished, -⟩ | ⟨cut, ⟨-, same⟩ | ⟨fails, -⟩⟩
  · rw [finished, goes_on] at returns
    cases returns
  · exact ⟨cut, same⟩
  · exact absurd fails unfailed

theorem parseMessage_keeps_connectPack {stage next : ShakeHandPackType} :
    (manager.parseMessage buffer keepReleasePack stage next).manager.connectPack =
      manager.connectPack := by
  simp only [parseMessage]
  split
  · rfl
  · split <;> rfl

/-- **A round that goes on** hands the rest on: what is known of connect and brought is well
formed exactly when that is so behind the round. -/
theorem connectKnown_goes
    (goes : shakeHandReturns (manager.parseShakeHand build buffer).result = none) :
    manager.ConnectKnown ∧ manager.BringsWellFormed build buffer ↔
      (manager.parseShakeHand build buffer).manager.ConnectKnown ∧
        (manager.parseShakeHand build buffer).manager.BringsWellFormed build
          (manager.parseShakeHand build buffer).buffer := by
  have early {later : RtmpManager} {P Q : Prop} (now : 4 < stagesLeft manager.shakeHandStatus)
      (next : 4 < stagesLeft later.shakeHandStatus) (same : P ↔ Q) :
      manager.ConnectKnown ∧ P ↔ later.ConnectKnown ∧ Q :=
    and_congr (iff_of_true (connectKnown_early now) (connectKnown_early next)) same
  cases status : manager.shakeHandStatus with
  | shakeRtmpC01 =>
      simp only [parseShakeHand, status] at goes ⊢
      obtain ⟨enough, passed⟩ := parseBlock_goes goes
      rw [passed]
      refine early (by rw [status]; decide) (show 4 < 7 by decide) ?_
      simp only [BringsWellFormed, status, enough, true_imp_iff]
  | shakeRtmpC2 =>
      simp only [parseShakeHand, status] at goes ⊢
      obtain ⟨enough, passed⟩ := parseBlock_goes goes
      rw [passed]
      cases mode : build.monitorMode with
      | true =>
          refine early (by rw [status]; decide) (show 4 < 5 by decide) ?_
          simp only [BringsWellFormed, status, ChunkDecoder.C2WellFormed, enough, true_imp_iff,
            mode, if_true]
      | false =>
          refine early (by rw [status]; decide) (show 4 < 6 by decide) ?_
          simp only [BringsWellFormed, status, ChunkDecoder.C2WellFormed, enough, true_imp_iff,
            mode, Bool.false_eq_true, if_false]
  | shakeRtmpSetChunkSize =>
      simp only [parseShakeHand, status] at goes ⊢
      have holds := (parseMessage_goes (fun _ _ => rfl) goes).1
      rw [parseMessage_holds holds]
      refine early (by rw [status]; decide) (show 4 < 5 by decide) ?_
      simp only [BringsWellFormed, status, ChunkDecoder.SetChunkSizeWellFormed, holds,
        true_imp_iff, behindMessage, dropPack]
  | shakeRtmpConnect =>
      simp only [parseShakeHand, status] at goes ⊢
      have holds := (@parseMessage_goes manager buffer keepConnectPack _ _ (fun _ _ => rfl) goes).1
      rw [parseMessage_holds holds, and_iff_right (connectKnown_early (by rw [status]; decide)),
        @connectKnown_iff (manager.behindMessage buffer keepConnectPack .shakeRtmpReleaseStream)
          (Nat.le_refl 4)]
      simp only [BringsWellFormed, status, ChunkDecoder.ConnectWellFormed, holds, true_imp_iff,
        behindMessage, keepConnectPack, ChunkDecoder.lastBody]
  | shakeRtmpReleaseStream =>
      simp only [parseShakeHand, status] at goes
      cases (@parseMessage_goes manager buffer keepReleasePack _ _ (fun _ _ => rfl) goes).2
  | _ =>
      have late : stagesLeft manager.shakeHandStatus ≤ 3 := by rw [status]; decide
      obtain ⟨later, kept⟩ := @parseShakeHand_late build manager buffer late
      rw [and_iff_left (bringsWellFormed_late late), and_iff_left (bringsWellFormed_late later),
        connectKnown_iff (Nat.le_succ_of_le late), connectKnown_iff (Nat.le_succ_of_le later), kept]

/-- A round that waits for releaseStream and returns: it has the command, or not all of it. -/
theorem connectKnown_release (status : manager.shakeHandStatus = .shakeRtmpReleaseStream)
    (unfailed : (manager.parseShakeHand build buffer).result ≠ .shakeFailed)
    {result : ShakeHandResult}
    (returns : shakeHandReturns (manager.parseShakeHand build buffer).result = some result) :
    manager.ConnectKnown ∧ manager.BringsWellFormed build buffer ↔
      (manager.parseShakeHand build buffer).manager.ConnectKnown ∧
        (result = .shakeAuthenticate →
          WellFormedRelease (manager.parseShakeHand build buffer).manager.releasePack.buffer) := by
  simp only [parseShakeHand, status] at returns unfailed ⊢
  rw [connectKnown_iff (by rw [status]; decide)]
  by_cases holds : manager.rtmpCodec.HoldsLastChunk buffer
  · rw [parseMessage_holds holds] at returns ⊢
    obtain rfl := Option.some.inj returns
    rw [@connectKnown_iff (manager.behindMessage buffer keepReleasePack .shakeRtmpFcPublish)
      (Nat.le_succ 3)]
    simp only [BringsWellFormed, status, ChunkDecoder.ReleaseWellFormed, holds, true_imp_iff,
      behindMessage, keepReleasePack, ChunkDecoder.lastBody]
  · have brings : manager.BringsWellFormed build buffer := by
      simp only [BringsWellFormed, status]
      exact fun there => absurd there holds
    rcases @parseMessage_cases manager buffer keepReleasePack .shakeRtmpReleaseStream
      .shakeRtmpFcPublish fun _ _ => rfl with ⟨there, -⟩ | ⟨-, ⟨waiting, same⟩ | ⟨fails, -⟩⟩
    · exact absurd there holds
    · rw [waiting] at returns
      obtain rfl := Option.some.inj returns
      have quiet : ¬ ShakeHandResult.shakeDataNotEnough = .shakeAuthenticate := by decide
      rw [and_iff_left brings, and_iff_left fun asked => absurd asked quiet,
        connectKnown_iff (by rw [same, status]; decide), parseMessage_keeps_connectPack]
    · exact absurd fails unfailed

/-- **A round that returns** has the publisher authenticated with a well-formed releaseStream
command exactly when the one that is brought is well formed. -/
theorem connectKnown_returns (running : manager.shakeHandStatus ≠ .shakeFailed)
    {result : ShakeHandResult}
    (returns : shakeHandReturns (manager.parseShakeHand build buffer).result = some result) :
    manager.ConnectKnown ∧ manager.BringsWellFormed build buffer ↔
      (manager.parseShakeHand build buffer).manager.ConnectKnown ∧
        (result = .shakeAuthenticate →
          WellFormedRelease (manager.parseShakeHand build buffer).manager.releasePack.buffer) := by
  have asked (same : result = .shakeAuthenticate) :
      manager.shakeHandStatus = .shakeRtmpReleaseStream :=
    parseShakeHand_authenticates (same ▸ returns)
  have unfailed := (@parseShakeHand_not_failed build manager buffer running).1
  have waits {later : RtmpManager} (now : 4 < stagesLeft manager.shakeHandStatus)
      (same : later.shakeHandStatus = manager.shakeHandStatus)
      (brings : manager.BringsWellFormed build buffer) :
      manager.ConnectKnown ∧ manager.BringsWellFormed build buffer ↔
        later.ConnectKnown ∧
          (result = .shakeAuthenticate → WellFormedRelease later.releasePack.buffer) := by
    refine iff_of_true ⟨connectKnown_early now, brings⟩
      ⟨connectKnown_early (by rw [same]; exact now), fun authenticate => ?_⟩
    rw [asked authenticate] at now
    exact absurd now (by decide)
  cases status : manager.shakeHandStatus with
  | shakeRtmpC01 =>
      simp only [parseShakeHand, status] at returns ⊢
      obtain ⟨short, same⟩ := parseBlock_returns rfl returns
      refine waits (by rw [status]; decide) (by rw [same]) ?_
      simp only [BringsWellFormed, status]
      exact fun enough => absurd enough (Nat.not_le.mpr short)
  | shakeRtmpC2 =>
      simp only [parseShakeHand, status] at returns ⊢
      obtain ⟨short, same⟩ := parseBlock_returns rfl returns
      refine waits (by rw [status]; decide) (by rw [same]) ?_
      simp only [BringsWellFormed, status]
      exact fun enough => absurd enough (Nat.not_le.mpr short)
  | shakeRtmpSetChunkSize =>
      simp only [parseShakeHand, status] at returns unfailed ⊢
      obtain ⟨cut, same⟩ := parseMessage_returns (fun _ _ => rfl) rfl unfailed returns
      refine waits (by rw [status]; decide) same ?_
      simp only [BringsWellFormed, status]
      exact fun holds => absurd holds cut
  | shakeRtmpConnect =>
      simp only [parseShakeHand, status] at returns unfailed ⊢
      obtain ⟨cut, same⟩ :=
        @parseMessage_returns manager buffer keepConnectPack _ _ (fun _ _ => rfl) rfl unfailed _
          returns
      refine waits (by rw [status]; decide) same ?_
      simp only [BringsWellFormed, status]
      exact fun holds => absurd holds cut
  | shakeRtmpReleaseStream => exact connectKnown_release status unfailed returns
  | shakeFailed => exact absurd status running
  | _ =>
      have late : stagesLeft manager.shakeHandStatus ≤ 3 := by rw [status]; decide
      obtain ⟨later, kept⟩ := @parseShakeHand_late build manager buffer late
      have quiet : result ≠ .shakeAuthenticate := by
        intro same
        rw [asked same] at late
        exact absurd late (by decide)
      rw [and_iff_left (bringsWellFormed_late late), and_iff_left fun same => absurd same quiet,
        connectKnown_iff (Nat.le_succ_of_le late), connectKnown_iff (Nat.le_succ_of_le later), kept]

/-- **What `ShakeHand` makes of the commands.** The connect command is well formed behind its
stage, and releaseStream is when the publisher is to be authenticated, exactly when those that
were there and those that are brought are. -/
theorem connectKnown_shakeHand (manager : RtmpManager) (buffer : Bytes)
    (running : manager.shakeHandStatus ≠ .shakeFailed) :
    manager.ConnectKnown ∧ manager.BringsWellFormed build buffer ↔
      (manager.shakeHand build buffer).manager.ConnectKnown ∧
        ((manager.shakeHand build buffer).result = .shakeAuthenticate →
          WellFormedRelease (manager.shakeHand build buffer).manager.releasePack.buffer) := by
  refine @shakeHand_induction build (fun manager buffer outcome =>
    manager.shakeHandStatus ≠ .shakeFailed →
      (manager.ConnectKnown ∧ manager.BringsWellFormed build buffer ↔
        outcome.manager.ConnectKnown ∧ (outcome.result = .shakeAuthenticate →
          WellFormedRelease outcome.manager.releasePack.buffer)))
    ?_ ?_ manager buffer running
  · intro manager buffer result returns running
    exact connectKnown_returns running returns
  · intro manager buffer goes rest running
    rw [shakeHand_goes goes, connectKnown_goes goes]
    exact rest (parseShakeHand_not_failed running).2

/-- Publish is brought behind releaseStream only. -/
theorem bringsPublish_late (brings : manager.BringsPublish buffer) :
    stagesLeft manager.shakeHandStatus ≤ 3 := by
  cases status : manager.shakeHandStatus <;> simp only [BringsPublish, status] at brings <;> decide

end RtmpManager

open RtmpManager

/-! ## One read of a publisher -/

namespace Publisher

variable {build : Build} {environment : ReadEnvironment} {moment : LogMoment}
  {publisher : Publisher} {data : Bytes}

/-- The connect and releaseStream commands that a read brings are well formed; and if it brings
publish, the path in the connect command that came before has room in its record. -/
structure ReadsWellFormed (build : Build) (moment : LogMoment) (publisher : Publisher)
    (data : Bytes) : Prop where
  commands : publisher.pushConnection.rtmpManager.BringsWellFormed build
    (publisher.recvBuffer ++ data)
  path : publisher.pushConnection.rtmpManager.BringsPublish (publisher.recvBuffer ++ data) →
    publisher.HasRoomFor moment
      (pathOfBody publisher.pushConnection.rtmpManager.connectPack.buffer)

/-- What a read of a handshake should be like: it returns; behind a connect command from which
the path cannot be taken the handshake has failed; and if the publisher is to be authenticated,
the password is read inside the body. -/
structure ReadsSafely (build : Build) (environment : ReadEnvironment) (moment : LogMoment)
    (publisher : Publisher) (data : Bytes) : Prop where
  returns : ∃ outcome, publisher.loggedOnReadable build environment moment data = .ok outcome
  url : ∀ outcome, publisher.loggedOnReadable build environment moment data = .ok outcome →
    stagesLeft outcome.publisher.pushConnection.rtmpManager.shakeHandStatus ≤ 4 →
      outcome.publisher.pushConnection.rtmpManager.shakeHandStatus = .shakeFailed ∨
        ∃ path, outcome.publisher.pushConnection.getRtmpPath = .ok path
  password : (publisher.shakeHand build (publisher.recvBuffer ++ data)).2 = .shakeAuthenticate →
    ∃ password, ∀ behind, (publisher.shakeHand build
      (publisher.recvBuffer ++ data)).1.pushConnection.rtmpManager.getPasswordFromReleasePack
        behind = .ok password

/-- What a publisher keeps in its handshake. -/
def KnowsConnect (publisher : Publisher) : Prop :=
  publisher.newMessageCallback = .onConnectionShakeHand →
    publisher.pushConnection.rtmpManager.shakeHandStatus ≠ .shakeFailed ∧
      publisher.pushConnection.rtmpManager.ConnectKnown

theorem shakeHand_rtmpManager (buffer : Bytes) :
    (publisher.shakeHand build buffer).1.pushConnection.rtmpManager =
      (publisher.pushConnection.rtmpManager.shakeHand build buffer).manager := by
  rw [(shakeHand_continues build publisher buffer).pushConnection]

/-- Asking shows that the path and the password can be taken. -/
theorem authenticate_ok (wellFormed : WellFormedConnect
      publisher.pushConnection.rtmpManager.connectPack.buffer)
    (release : WellFormedRelease publisher.pushConnection.rtmpManager.releasePack.buffer)
    (environment : ReadEnvironment) :
    ∃ asked answer, publisher.authenticate environment = .ok (asked, answer) := by
  obtain ⟨path, known⟩ := (getRtmpPath_ok_iff publisher.pushConnection).mpr wellFormed
  obtain ⟨password, read⟩ :=
    (getPassword_inside_iff publisher.pushConnection.rtmpManager).mpr release
  rw [authenticate, known, read environment.behind]
  cases environment.authenticationCallback with
  | none => exact ⟨_, _, rfl⟩
  | some callback => exact ⟨_, _, rfl⟩

/-- A read of a handshake in which commands are well formed returns. -/
theorem onConnectionShakeHand_returns {buffer : Bytes}
    (after : (publisher.pushConnection.rtmpManager.shakeHand build buffer).manager.ConnectKnown)
    (release : (publisher.pushConnection.rtmpManager.shakeHand build buffer).result =
        .shakeAuthenticate →
      WellFormedRelease
        (publisher.pushConnection.rtmpManager.shakeHand build buffer).manager.releasePack.buffer)
    (environment : ReadEnvironment) :
    ∃ outcome, publisher.onConnectionShakeHand build environment buffer = .ok outcome := by
  have succeeded := @shakeHand_succeeds build publisher.pushConnection.rtmpManager buffer
  have result : (publisher.shakeHand build buffer).2 =
      (publisher.pushConnection.rtmpManager.shakeHand build buffer).result := rfl
  rw [← shakeHand_rtmpManager] at after release succeeded
  rw [← result] at release succeeded
  rw [onConnectionShakeHand]
  cases returned : (publisher.shakeHand build buffer).2 with
  | shakeAuthenticate =>
      have late := shakeHand_authenticate publisher.pushConnection.rtmpManager buffer
        (result ▸ returned)
      rw [← shakeHand_rtmpManager] at late
      obtain ⟨asked, answer, authenticated⟩ := @authenticate_ok (publisher.shakeHand build buffer).1
        (after (Nat.le_succ_of_le late)) (release returned) environment
      simp only [returned, authenticated]
      exact ⟨_, rfl⟩
  | shakeSuccess =>
      have connect := after (by rw [succeeded returned]; decide)
      obtain ⟨path, known⟩ :=
        (getRtmpPath_ok_iff (publisher.shakeHand build buffer).1.pushConnection).mpr connect
      simp only [returned, known]
      exact ⟨_, rfl⟩
  | shakeFailed =>
      simp only [returned]
      exact ⟨_, rfl⟩
  | shakeDataNotEnough =>
      simp only [returned]
      exact ⟨_, rfl⟩

/-- A read leaves the handshake to the loop of `ShakeHand`. -/
theorem onConnectionShakeHand_rtmpManager {buffer : Bytes} {outcome : ReadOutcome}
    (made : publisher.onConnectionShakeHand build environment buffer = .ok outcome) :
    outcome.publisher.pushConnection.rtmpManager =
      (publisher.pushConnection.rtmpManager.shakeHand build buffer).manager := by
  rw [onConnectionShakeHand_pushConnection made]

/-- The path that is taken from a connect command has room when the one in it has. -/
theorem hasRoomFor_pathOfBody {connection : RtmpPushConnection} {path : Bytes}
    (known : connection.getRtmpPath = .ok path) :
    publisher.HasRoomFor moment path ↔
      publisher.HasRoomFor moment (pathOfBody connection.rtmpManager.connectPack.buffer) := by
  have inside := ((getRtmpPath_ok_iff connection).mp ⟨path, known⟩).url
  simp only [RtmpPushConnection.getRtmpPath, getUrlFromConnectPack_eq inside, bind,
    Except.bind] at known
  rw [pathOfBody]
  rcases Format.getPathFromUrl_pathOf known with same | ⟨long, too_long⟩
  · rw [same]
  · have size : defaultLoggerBufferSize < npos - 2 := by decide
    refine or_congr_right (iff_of_false ?_ ?_)
    · omega
    · omega

/-- **A read that brings publish** registers the path of the connect command that came before. -/
theorem onConnectionShakeHand_registers {buffer : Bytes} {outcome : ReadOutcome}
    (inPhase : publisher.InPhase) (callback : publisher.newMessageCallback = .onConnectionShakeHand)
    (made : publisher.onConnectionShakeHand build environment buffer = .ok outcome) :
    (∀ path, outcome.registered = some path → publisher.HasRoomFor moment path) ↔
      (publisher.pushConnection.rtmpManager.BringsPublish buffer →
        publisher.HasRoomFor moment
          (pathOfBody publisher.pushConnection.rtmpManager.connectPack.buffer)) := by
  obtain ⟨-, -, media, -, registered⟩ := onConnectionShakeHand_inPhase inPhase callback made
  by_cases brings : publisher.pushConnection.rtmpManager.BringsPublish buffer
  · have running := (inPhase.shakeHand callback).1
    have success : (publisher.shakeHand build buffer).2 = .shakeSuccess :=
      (shakeHand_success_iff _ _ running).1.mpr brings
    obtain ⟨path, there, -⟩ := onConnectionShakeHand_success made success
    have known := onConnectionShakeHand_getRtmpPath made there
    have kept := (@shakeHand_late build publisher.pushConnection.rtmpManager buffer
      (bringsPublish_late brings)).2
    have room := @hasRoomFor_pathOfBody moment publisher _ path known
    rw [onConnectionShakeHand_rtmpManager made, kept] at room
    simp only [there, Option.some.injEq, forall_eq', brings, true_imp_iff]
    exact room
  · refine iff_of_true (fun path there => ?_) fun brought => absurd brought brings
    exact absurd (media.mp (registered (by rw [there]; exact Option.some_ne_none path))) brings

/-- **A read of a handshake is safe** exactly when what it brings is well formed. -/
theorem readsSafely_iff (inPhase : publisher.InPhase) (knows : publisher.KnowsConnect)
    (opened : publisher.connectionStatus ≠ .disconnected)
    (callback : publisher.newMessageCallback = .onConnectionShakeHand) :
    publisher.ReadsSafely build environment moment data ↔
      publisher.ReadsWellFormed build moment data := by
  obtain ⟨unfailed, known⟩ := knows callback
  have commands := @connectKnown_shakeHand build publisher.pushConnection.rtmpManager
    (publisher.recvBuffer ++ data) unfailed
  rw [and_iff_right known] at commands
  have reads : publisher.onReadable build environment data =
      publisher.onConnectionShakeHand build environment (publisher.recvBuffer ++ data) := by
    rw [onReadable, if_neg opened]
    simp only [callback]
  constructor
  · intro safely
    obtain ⟨outcome, logged⟩ := safely.returns
    obtain ⟨returned, room⟩ := loggedOnReadable_ok_iff.mp logged
    rw [reads] at returned
    have after := onConnectionShakeHand_rtmpManager returned
    refine ⟨commands.mpr ⟨fun late => ?_, fun asked => ?_⟩, ?_⟩
    · rw [← after] at late ⊢
      rcases safely.url outcome logged late with failed | path
      · rw [after] at failed
        exact absurd failed (shakeHand_not_failed unfailed).2
      · exact (getRtmpPath_ok_iff _).mp path
    · rw [← shakeHand_rtmpManager]
      exact (getPassword_inside_iff _).mp (safely.password asked)
    · exact (onConnectionShakeHand_registers inPhase callback returned).mp room
  · intro wellFormed
    obtain ⟨after, release⟩ := commands.mp wellFormed.commands
    refine ⟨?_, fun outcome logged late => .inr ?_, fun asked => ?_⟩
    · obtain ⟨outcome, returned⟩ := onConnectionShakeHand_returns after release environment
      have room := (onConnectionShakeHand_registers inPhase callback returned).mpr wellFormed.path
      exact ⟨outcome, loggedOnReadable_ok_iff.mpr ⟨reads.trans returned, room⟩⟩
    · have returned := (loggedOnReadable_ok_iff.mp logged).1
      rw [reads] at returned
      rw [← onConnectionShakeHand_rtmpManager returned] at after
      exact (getRtmpPath_ok_iff _).mpr (after late)
    · rw [shakeHand_rtmpManager]
      exact (getPassword_inside_iff _).mpr (release asked)

/-- A read in which commands are well formed keeps the connect command well formed. -/
theorem KnowsConnect.reads (knows : publisher.KnowsConnect) {outcome : ReadOutcome}
    (wellFormed : publisher.connectionStatus ≠ .disconnected →
      publisher.newMessageCallback = .onConnectionShakeHand →
        publisher.ReadsWellFormed build moment data)
    (read : publisher.onReadable build environment data = .ok outcome) :
    outcome.publisher.KnowsConnect := by
  rcases onReadable_cases read with ⟨-, rfl⟩ | ⟨opened, callback, shaking⟩ | ⟨-, media, rfl⟩
  · exact knows
  · intro _
    obtain ⟨unfailed, known⟩ := knows callback
    rw [onConnectionShakeHand_rtmpManager shaking]
    exact ⟨(shakeHand_not_failed unfailed).2, ((connectKnown_shakeHand _ _ unfailed).mp
      ⟨known, (wellFormed opened callback).commands⟩).1⟩
  · intro shaking
    exact absurd (media.symm.trans shaking) (by simp)

end Publisher

/-! ## Runs of the servers -/

namespace LiveServer

/-- If the event is a read of a handshake, it is safe. -/
def ReadsSafely (build : Build) (server : LiveServer) : LiveEvent × LogMoment → Prop
  | (.readable id data environment, moment) => ∀ publisher,
      server.publishers id = some publisher → publisher.connectionStatus ≠ .disconnected →
        publisher.newMessageCallback = .onConnectionShakeHand →
          publisher.ReadsSafely build environment moment data
  | _ => True

/-- If the event is a read of a handshake, what it brings is well formed. -/
def ReadsWellFormed (build : Build) (server : LiveServer) : LiveEvent × LogMoment → Prop
  | (.readable id data _, moment) => ∀ publisher,
      server.publishers id = some publisher → publisher.connectionStatus ≠ .disconnected →
        publisher.newMessageCallback = .onConnectionShakeHand →
          publisher.ReadsWellFormed build moment data
  | _ => True

/-- The servers are in phase, and every publisher in its handshake keeps what a handshake
keeps. -/
structure KnowsConnect (server : LiveServer) : Prop where
  inPhase : server.InPhase
  publishers : ∀ id publisher, server.publishers id = some publisher → publisher.KnowsConnect

variable {build : Build} {server next : LiveServer}

theorem KnowsConnect.readsSafely_iff (knows : server.KnowsConnect)
    (input : LiveEvent × LogMoment) :
    server.ReadsSafely build input ↔ server.ReadsWellFormed build input := by
  obtain ⟨event, moment⟩ := input
  cases event with
  | readable id data environment =>
      refine forall_congr' fun publisher => imp_congr_right fun there => ?_
      refine imp_congr_right fun opened => imp_congr_right fun callback => ?_
      exact Publisher.readsSafely_iff (knows.inPhase.publishers id publisher there)
        (knows.publishers id publisher there) opened callback
  | _ => exact Iff.rfl

theorem KnowsConnect.step (knows : server.KnowsConnect) {input : LiveEvent × LogMoment}
    (wellFormed : server.ReadsWellFormed build input)
    (made : server.step build input.1 = .ok next) : next.KnowsConnect := by
  refine ⟨knows.inPhase.step made, fun id publisher there => ?_⟩
  rcases step_publisher made there with ⟨-, name, unset, connect, release, -, rfl⟩ |
    ⟨earlier, known, changes⟩
  · intro _
    exact ⟨nofun, connectKnown_early (show 4 < 8 by decide)⟩
  · have before := knows.publishers id earlier known
    rcases changes.sameHandshake with same | ⟨data, environment, outcome, event, read, rfl⟩
    · intro callback
      obtain ⟨unfailed, connect⟩ := before (same.newMessageCallback ▸ callback)
      rw [ConnectKnown, same.shakeHandStatus, same.connectPack]
      exact ⟨unfailed, connect⟩
    · obtain ⟨_, moment⟩ := input
      obtain rfl := event
      exact before.reads (wellFormed earlier known) read

end LiveServer

open LiveServer

/-- **When handshake bytes are harmless.** In every run of the servers with their log statements,
whatever the publishers send and however it is cut into reads: every read of a handshake returns,
takes the password from inside the body and answers a connect command without a path by a failed
handshake, if and only if every connect and releaseStream command that a read of a handshake
brings is well formed, and the path has room in its record when a read brings publish. -/
theorem handshake_reads_safe_iff (build : Build) (inputs : List (LiveEvent × LogMoment)) :
    (∀ before input, before ++ [input] <+: inputs → ∀ server,
        (loggedMachine build).run (.ok .empty) before = .ok server →
          server.ReadsSafely build input) ↔
      ∀ before input, before ++ [input] <+: inputs → ∀ server,
        (loggedMachine build).run (.ok .empty) before = .ok server →
          server.ReadsWellFormed build input := by
  refine Machine.faulting_steps_iff
    (fun server input next knows wellFormed made => KnowsConnect.step knows wellFormed
      ((loggedStep_ok_iff server input next).mp made).2)
    (fun _ input knows => KnowsConnect.readsSafely_iff knows input) ⟨inPhase_empty, ?_⟩ inputs
  intro id publisher there
  cases there

/-- A command with this body, in one chunk. -/
def commandWithBody (body : Bytes) : Bytes :=
  [3, 0, 0, 0, 0, UInt8.ofNat (body.length / 256), UInt8.ofNat body.length, 20, 0, 0, 0, 0] ++
    body

/-- A publisher sends a handshake up to releaseStream, with these bodies of connect and
releaseStream. -/
def handshakeWithBodies (connect release : Bytes) : List (LiveEvent × LogMoment) :=
  [(.connect 0 [99] ⟨0, false, .zero, .zero⟩ .zero .zero, infoMoment),
    (.readable 0 (List.replicate 3073 0 ++ commandWithBody [0, 0, 16, 0] ++
      commandWithBody connect ++ commandWithBody release) ⟨none, fun _ => 0, 0⟩, infoMoment)]

/-- A publisher with this path sends a handshake. -/
def handshakeWithPath (path : Bytes) : List (LiveEvent × LogMoment) :=
  handshakeWithBodies ([114, 116, 109, 112, 58, 47, 47, 104, 47] ++ path) (List.replicate 29 0) ++
    [(.readable 0 handshakeFromFcPublish ⟨none, fun _ => 0, 0⟩, infoMoment)]

/-- Whether a run ends in this fault can be decided without comparing the states of runs that
do not. -/
def endsIn {α : Type} (fault : Fault) : Except Fault α → Bool
  | .error other => decide (other = fault)
  | .ok _ => false

theorem eq_error_of_endsIn {α : Type} {fault : Fault} {ran : Except Fault α}
    (ends : endsIn fault ran = true) : ran = .error fault := by
  cases ran with
  | error other => rw [of_decide_eq_true ends]
  | ok value => cases ends

/-- **Handshakes end the process**: a connect body without `rtmp`, one without a path, a
releaseStream body with a password of length 128, and a path of 500 letters. -/
theorem malformed_commands_fault :
    (loggedMachine .standard).run (.ok .empty)
        (handshakeWithBodies [99] (List.replicate 29 0)) = .error .outOfBounds ∧
      (loggedMachine .standard).run (.ok .empty)
        (handshakeWithBodies [114, 116, 109, 112, 58, 47, 47, 104] (List.replicate 29 0)) =
          .error .outOfRange ∧
      (loggedMachine .standard).run (.ok .empty)
        (handshakeWithBodies [114, 116, 109, 112, 58, 47, 47, 104, 47, 112]
          (List.replicate 28 0 ++ [128])) = .error .lengthError ∧
      (loggedMachine .standard).run (.ok .empty)
        (handshakeWithPath (List.replicate 500 97)) = .error .outOfBounds := by
  refine ⟨?_, ?_, ?_, ?_⟩
  · apply eq_error_of_endsIn
    decide +kernel
  · apply eq_error_of_endsIn
    decide +kernel
  · apply eq_error_of_endsIn
    decide +kernel
  · apply eq_error_of_endsIn
    decide +kernel

end LiveBroadcast
