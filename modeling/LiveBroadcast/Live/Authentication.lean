import LiveBroadcast.Codec.PackDecoding
import LiveBroadcast.Live.RtmpPushServer

/-!
# What a rejected publisher can still do

When the authentication callback says no, `OnConnectionShakeHand` shuts down the write half
of the connection and returns. The stage of the handshake has moved on to FCPublish by then,
the callback stays installed, and the peer may go on sending.

So a rejected publisher is kept out of the registry exactly as long as no read brings it the
messages that its handshake still waits for, FCPublish, createStream and publish or the rest of
them (`rejected_stays_out_iff`). Whether a read does is read off the stage, the decoder and the
bytes before it is made (`BringsPublish`).
-/

set_option autoImplicit false

namespace LiveBroadcast

/-! ## Complete messages -/

namespace ChunkDecoder

/-- The unread bytes hold the last chunk of a message to its end. -/
def HoldsLastChunk (decoder : ChunkDecoder) : Bytes → Prop
  | [] => False
  | first :: rest =>
      match decoder.decodePackStatus with
      | .parseRtmpHeader =>
          RtmpPack.HeaderComplete (first :: rest) ∧
            (decoder.openBody (first :: rest)).isChunkOver = true ∧
            (decoder.openBody (first :: rest)).chunkNeed ≤
              ((first :: rest).drop (RtmpPack.headerSize first)).length
      | .parseRtmpBody =>
          decoder.isChunkOver = true ∧ 0 < decoder.chunkNeed ∧
            decoder.chunkNeed ≤ (first :: rest).length

/-- The body of a chunk finishes a pack if it is the last chunk and there to its end. -/
theorem decodePackBody_finishes_iff {decoder : ChunkDecoder} {buffer : Bytes} (readLength : Nat)
    (inBody : decoder.decodePackStatus = .parseRtmpBody) :
    (decoder.decodePackBody buffer readLength).packFinish = true ∧
        0 < (decoder.decodePackBody buffer readLength).result ↔
      decoder.isChunkOver = true ∧ 0 < readLength + decoder.chunkNeed ∧
        decoder.chunkNeed ≤ buffer.length := by
  rcases Nat.lt_or_ge buffer.length decoder.chunkNeed with short | enough
  · rw [decodePackBody_short _ inBody short]
    exact iff_of_false (fun both => nomatch both.1) (fun all => absurd all.2.2 (by omega))
  · rw [decodePackBody_enough _ inBody enough]
    refine and_congr_right fun _ => ?_
    rw [and_iff_left enough]
    dsimp only
    omega

/-- **A call finishes a pack when the bytes hold the last chunk.** -/
theorem decodePack_finishes_iff (decoder : ChunkDecoder) (buffer : Bytes) :
    (decoder.decodePack buffer).packFinish = true ∧ 0 < (decoder.decodePack buffer).result ↔
      decoder.HoldsLastChunk buffer := by
  cases buffer with
  | nil => exact iff_of_false (fun both => nomatch both.1) id
  | cons first rest =>
      cases status : decoder.decodePackStatus with
      | parseRtmpHeader =>
          simp only [HoldsLastChunk, status]
          by_cases complete : RtmpPack.HeaderComplete (first :: rest)
          · have size := RtmpPack.headerSize_pos first
            rw [decodePack_header status complete, decodePackBody_finishes_iff _ rfl]
            refine ⟨fun all => ⟨complete, all.1, all.2.2⟩, fun all => ⟨all.2.1, ?_, all.2.2⟩⟩
            omega
          · rw [decodePack_cut status complete]
            exact iff_of_false (fun both => nomatch both.1) fun all => complete all.1
      | parseRtmpBody =>
          have body := @decodePackBody_finishes_iff decoder (first :: rest) 0 status
          rw [Nat.zero_add] at body
          simp only [HoldsLastChunk, status]
          rw [decodePack_inBody status (List.cons_ne_nil _ _)]
          exact body

/-- What such bytes leave: the decoder behind the message, and the bytes behind its last
chunk. -/
def behindLastChunk (decoder : ChunkDecoder) : Bytes → ChunkDecoder × Bytes
  | [] => (decoder, [])
  | first :: rest =>
      let (opened, body) :=
        match decoder.decodePackStatus with
        | .parseRtmpHeader =>
            (decoder.openBody (first :: rest), (first :: rest).drop (RtmpPack.headerSize first))
        | .parseRtmpBody => (decoder, first :: rest)
      (opened.closeChunk (body.take opened.chunkNeed), body.drop opened.chunkNeed)

/-- A call that finishes a pack leaves the decoder and the bytes behind it. -/
theorem decodePack_behind {decoder : ChunkDecoder} {buffer : Bytes}
    (holds : decoder.HoldsLastChunk buffer) :
    (decoder.decodePack buffer).decoder = (decoder.behindLastChunk buffer).1 ∧
      (decoder.decodePack buffer).buffer = (decoder.behindLastChunk buffer).2 := by
  cases buffer with
  | nil => exact holds.elim
  | cons first rest =>
      cases status : decoder.decodePackStatus with
      | parseRtmpHeader =>
          simp only [HoldsLastChunk, status] at holds
          obtain ⟨complete, -, enough⟩ := holds
          simp only [behindLastChunk, status]
          rw [decodePack_header status complete, decodePackBody_enough _ rfl enough]
          exact ⟨rfl, rfl⟩
      | parseRtmpBody =>
          simp only [HoldsLastChunk, status] at holds
          obtain ⟨-, -, enough⟩ := holds
          simp only [behindLastChunk, status]
          rw [decodePack_inBody status (List.cons_ne_nil _ _),
            decodePackBody_enough _ status enough]
          exact ⟨rfl, rfl⟩

/-! ## The messages behind releaseStream -/

/-- The bytes bring createStream and publish, or the 26 bytes that are skipped for a
createStream that starts with `0xc3` and then publish. -/
def BringsCreateStream (decoder : ChunkDecoder) : Bytes → Prop
  | [] => False
  | first :: rest =>
      if first = 0xc3 then decoder.HoldsLastChunk ((first :: rest).drop 26)
      else
        decoder.HoldsLastChunk (first :: rest) ∧
          (decoder.behindLastChunk (first :: rest)).1.HoldsLastChunk
            (decoder.behindLastChunk (first :: rest)).2

/-- The bytes bring FCPublish, createStream and publish. -/
def BringsFcPublish (decoder : ChunkDecoder) (bytes : Bytes) : Prop :=
  decoder.HoldsLastChunk bytes ∧
    (decoder.behindLastChunk bytes).1.BringsCreateStream (decoder.behindLastChunk bytes).2

end ChunkDecoder

namespace RtmpManager

variable {build : Build}

/-- The bytes bring every message that the handshake still waits for behind releaseStream,
publish included. -/
def BringsPublish (manager : RtmpManager) (bytes : Bytes) : Prop :=
  match manager.shakeHandStatus with
  | .shakeRtmpFcPublish => manager.rtmpCodec.BringsFcPublish bytes
  | .shakeRtmpCreateStream => manager.rtmpCodec.BringsCreateStream bytes
  | .shakeRtmpPublish => manager.rtmpCodec.HoldsLastChunk bytes
  | _ => False

/-! ## Completing the handshake -/

/-- A stage that waits for a message moves on when the bytes hold its last chunk. -/
theorem parseMessage_cases {manager : RtmpManager} {buffer : Bytes}
    {keep : RtmpManager → RtmpPack → RtmpManager} {stage next : ShakeHandPackType}
    (kept : ∀ manager pack, (keep manager pack).shakeHandStatus = manager.shakeHandStatus) :
    manager.rtmpCodec.HoldsLastChunk buffer ∧
        (manager.parseMessage buffer keep stage next).result = stage ∧
        (manager.parseMessage buffer keep stage next).manager.shakeHandStatus = next ∨
      ¬ manager.rtmpCodec.HoldsLastChunk buffer ∧
        ((manager.parseMessage buffer keep stage next).result = .shakeDataNotEnough ∧
            (manager.parseMessage buffer keep stage next).manager.shakeHandStatus =
              manager.shakeHandStatus ∨
          (manager.parseMessage buffer keep stage next).result = .shakeFailed ∧
            (manager.parseMessage buffer keep stage next).manager.shakeHandStatus =
              .shakeFailed) := by
  have positive : 0 < (manager.parseHeaderAndBody buffer).2.2.1 ↔
      manager.rtmpCodec.HoldsLastChunk buffer := by
    rw [← ChunkDecoder.decodePack_finishes_iff, parseHeaderAndBody]
    cases (manager.rtmpCodec.decodePack buffer).packFinish <;> simp
  simp only [parseMessage]
  by_cases parsed : 0 < (manager.parseHeaderAndBody buffer).2.2.1
  · rw [if_pos parsed]
    exact Or.inl ⟨positive.mp parsed, rfl, rfl⟩
  · rw [if_neg parsed]
    refine Or.inr ⟨fun holds => parsed (positive.mpr holds), ?_⟩
    split
    · exact Or.inl ⟨rfl, kept _ _⟩
    · exact Or.inr ⟨rfl, rfl⟩

/-- The stage of publish ends the handshake when the bytes hold the message. -/
theorem parseShakeHand_publish {manager : RtmpManager} {buffer : Bytes}
    (publish : manager.shakeHandStatus = .shakeRtmpPublish) :
    manager.rtmpCodec.HoldsLastChunk buffer ∧
        shakeHandReturns (manager.parseShakeHand build buffer).result = none ∧
        (manager.parseShakeHand build buffer).manager.shakeHandStatus = .shakeSuccess ∨
      ¬ manager.rtmpCodec.HoldsLastChunk buffer ∧
        (∃ result, shakeHandReturns (manager.parseShakeHand build buffer).result = some result ∧
          result ≠ .shakeSuccess) ∧
        (manager.parseShakeHand build buffer).manager.shakeHandStatus ≠ .shakeSuccess := by
  simp only [parseShakeHand, publish]
  rcases @parseMessage_cases manager buffer dropPack .shakeRtmpPublish .shakeSuccess
    fun _ _ => rfl with ⟨holds, result, status⟩ | ⟨cut, ⟨result, status⟩ | ⟨result, status⟩⟩
  · exact Or.inl ⟨holds, by rw [result]; rfl, status⟩
  · refine Or.inr ⟨cut, ⟨.shakeDataNotEnough, by rw [result]; rfl, nofun⟩, ?_⟩
    rw [status, publish]
    exact nofun
  · refine Or.inr ⟨cut, ⟨.shakeFailed, by rw [result]; rfl, nofun⟩, ?_⟩
    rw [status]
    exact nofun

/-- No other stage ends it. -/
theorem parseShakeHand_other {manager : RtmpManager} {buffer : Bytes}
    (running : manager.shakeHandStatus ≠ .shakeSuccess)
    (other : manager.shakeHandStatus ≠ .shakeRtmpPublish) :
    shakeHandReturns (manager.parseShakeHand build buffer).result ≠ some .shakeSuccess ∧
      (manager.parseShakeHand build buffer).manager.shakeHandStatus ≠ .shakeSuccess := by
  have message {keep : RtmpManager → RtmpPack → RtmpManager} {stage next : ShakeHandPackType}
      (kept : ∀ manager pack, (keep manager pack).shakeHandStatus = manager.shakeHandStatus)
      (goes : shakeHandReturns stage ≠ some .shakeSuccess) (more : next ≠ .shakeSuccess) :
      shakeHandReturns (manager.parseMessage buffer keep stage next).result ≠ some .shakeSuccess ∧
        (manager.parseMessage buffer keep stage next).manager.shakeHandStatus ≠ .shakeSuccess := by
    rcases @parseMessage_cases manager buffer keep stage next kept with
      ⟨-, result, status⟩ | ⟨-, ⟨result, status⟩ | ⟨result, status⟩⟩
    · rw [result, status]
      exact ⟨goes, more⟩
    · rw [result, status]
      exact ⟨nofun, running⟩
    · rw [result, status]
      exact ⟨nofun, nofun⟩
  have block {length : Nat} {stage next : ShakeHandPackType}
      (goes : shakeHandReturns stage ≠ some .shakeSuccess) (more : next ≠ .shakeSuccess) :
      shakeHandReturns (manager.parseBlock buffer length stage next).result ≠ some .shakeSuccess ∧
        (manager.parseBlock buffer length stage next).manager.shakeHandStatus ≠ .shakeSuccess := by
    rw [parseBlock]
    split
    · exact ⟨nofun, running⟩
    · exact ⟨goes, more⟩
  cases status : manager.shakeHandStatus with
  | shakeRtmpC01 =>
      simp only [parseShakeHand, status]
      exact block nofun nofun
  | shakeRtmpC2 =>
      simp only [parseShakeHand, status]
      refine block nofun ?_
      cases build.monitorMode <;> exact nofun
  | shakeRtmpCreateStream =>
      simp only [parseShakeHand, status]
      cases buffer with
      | nil => exact ⟨nofun, running⟩
      | cons first rest =>
          by_cases skip : first = 0xc3
          · simp only [skip, if_true]
            exact ⟨nofun, nofun⟩
          · simp only [skip, if_false]
            exact message (fun _ _ => rfl) nofun nofun
  | shakeRtmpPublish => exact absurd status other
  | shakeSuccess => exact absurd status running
  | shakeFailed =>
      simp only [parseShakeHand, status]
      exact ⟨nofun, nofun⟩
  | shakeDataNotEnough =>
      simp only [parseShakeHand, status]
      exact ⟨nofun, nofun⟩
  | _ =>
      simp only [parseShakeHand, status]
      exact message (fun _ _ => rfl) nofun nofun

/-- The manager behind a message. -/
def behindMessage (manager : RtmpManager) (buffer : Bytes)
    (keep : RtmpManager → RtmpPack → RtmpManager) (next : ShakeHandPackType) : RtmpManager :=
  let decoder := (manager.rtmpCodec.behindLastChunk buffer).1
  let read := { manager with
    rtmpCodec := { manager.rtmpCodec with toChunkDecoder := decoder } }
  { keep read decoder.lastRtmpPack with shakeHandStatus := next }

/-- A stage that waits for a message goes on behind it when the bytes hold its last chunk. -/
theorem parseMessage_holds {manager : RtmpManager} {buffer : Bytes}
    (holds : manager.rtmpCodec.HoldsLastChunk buffer)
    (keep : RtmpManager → RtmpPack → RtmpManager) (stage next : ShakeHandPackType) :
    manager.parseMessage buffer keep stage next =
      ⟨manager.behindMessage buffer keep next, (manager.rtmpCodec.behindLastChunk buffer).2,
        stage⟩ := by
  obtain ⟨decoder, rest⟩ := ChunkDecoder.decodePack_behind holds
  obtain ⟨finish, positive⟩ := (ChunkDecoder.decodePack_finishes_iff _ _).mpr holds
  simp only [parseMessage, parseHeaderAndBody, finish, if_true, if_pos positive, decoder, rest,
    behindMessage]

/-- A stage that waits for a message returns when the bytes do not hold its last chunk. -/
theorem parseMessage_goes {manager : RtmpManager} {buffer : Bytes}
    {keep : RtmpManager → RtmpPack → RtmpManager} {stage next : ShakeHandPackType}
    (kept : ∀ manager pack, (keep manager pack).shakeHandStatus = manager.shakeHandStatus)
    (goes : shakeHandReturns (manager.parseMessage buffer keep stage next).result = none) :
    manager.rtmpCodec.HoldsLastChunk buffer ∧ shakeHandReturns stage = none := by
  rcases @parseMessage_cases manager buffer keep stage next kept with
    ⟨holds, result, -⟩ | ⟨-, ⟨waits, -⟩ | ⟨fails, -⟩⟩
  · exact ⟨holds, result ▸ goes⟩
  · rw [waits] at goes
    cases goes
  · rw [fails] at goes
    cases goes

/-- **A round that goes on** hands the rest on: the bytes bring publish exactly when those that
it leaves bring what is missing behind it. -/
theorem bringsPublish_goes {manager : RtmpManager} {buffer : Bytes}
    (other : manager.shakeHandStatus ≠ .shakeRtmpPublish)
    (goes : shakeHandReturns (manager.parseShakeHand build buffer).result = none) :
    manager.BringsPublish buffer ↔
      (manager.parseShakeHand build buffer).manager.BringsPublish
        (manager.parseShakeHand build buffer).buffer := by
  have early {later : RtmpManager} {rest : Bytes} (status : 4 ≤ stagesLeft later.shakeHandStatus) :
      ¬ later.BringsPublish rest := by
    intro brings
    cases stage : later.shakeHandStatus <;> simp only [BringsPublish, stage] at brings status <;>
      exact absurd status (by decide)
  cases status : manager.shakeHandStatus with
  | shakeRtmpC01 =>
      simp only [parseShakeHand, status] at goes ⊢
      refine iff_of_false (early (by rw [status]; decide)) (early ?_)
      rw [parseBlock_advances goes]
      decide
  | shakeRtmpC2 =>
      simp only [parseShakeHand, status] at goes ⊢
      refine iff_of_false (early (by rw [status]; decide)) (early ?_)
      rw [parseBlock_advances goes]
      cases build.monitorMode <;> decide
  | shakeRtmpSetChunkSize =>
      simp only [parseShakeHand, status] at goes ⊢
      refine iff_of_false (early (by rw [status]; decide)) (early ?_)
      rw [parseMessage_advances goes]
      decide
  | shakeRtmpConnect =>
      simp only [parseShakeHand, status] at goes ⊢
      refine iff_of_false (early (by rw [status]; decide)) (early ?_)
      rw [parseMessage_advances goes]
      decide
  | shakeRtmpReleaseStream =>
      simp only [parseShakeHand, status] at goes
      cases (@parseMessage_goes manager buffer keepReleasePack _ _ (fun _ _ => rfl) goes).2
  | shakeRtmpFcPublish =>
      simp only [parseShakeHand, status] at goes ⊢
      have holds := (parseMessage_goes (fun _ _ => rfl) goes).1
      rw [parseMessage_holds holds]
      simp only [BringsPublish, status, ChunkDecoder.BringsFcPublish, holds, true_and,
        behindMessage, dropPack]
  | shakeRtmpCreateStream =>
      simp only [parseShakeHand, status] at goes ⊢
      cases buffer with
      | nil => cases goes
      | cons first rest =>
          by_cases skip : first = 0xc3
          · simp only [BringsPublish, status, ChunkDecoder.BringsCreateStream, skip, if_true]
          · simp only [skip, if_false] at goes ⊢
            have holds := (parseMessage_goes (fun _ _ => rfl) goes).1
            rw [parseMessage_holds holds]
            simp only [BringsPublish, status, ChunkDecoder.BringsCreateStream, skip, if_false,
              holds, true_and, behindMessage, dropPack]
  | shakeRtmpPublish => exact absurd status other
  | shakeSuccess =>
      simp only [parseShakeHand, status] at goes
      cases goes
  | shakeFailed =>
      simp only [parseShakeHand, status] at goes
      cases goes
  | shakeDataNotEnough =>
      simp only [parseShakeHand, status] at goes
      cases goes

/-- A round that returns before publish is not brought it. -/
theorem bringsPublish_returns {manager : RtmpManager} {buffer : Bytes} {result : ShakeHandResult}
    (other : manager.shakeHandStatus ≠ .shakeRtmpPublish)
    (returns : shakeHandReturns (manager.parseShakeHand build buffer).result = some result) :
    ¬ manager.BringsPublish buffer := by
  intro brings
  cases status : manager.shakeHandStatus with
  | shakeRtmpFcPublish =>
      simp only [BringsPublish, status] at brings
      simp only [parseShakeHand, status, parseMessage_holds brings.1] at returns
      cases returns
  | shakeRtmpCreateStream =>
      simp only [BringsPublish, status] at brings
      cases buffer with
      | nil => exact brings
      | cons first rest =>
          by_cases skip : first = 0xc3
          · simp only [parseShakeHand, status, skip, if_true] at returns
            cases returns
          · simp only [ChunkDecoder.BringsCreateStream, skip, if_false] at brings
            simp only [parseShakeHand, status, skip, if_false,
              parseMessage_holds brings.1] at returns
            cases returns
  | shakeRtmpPublish => exact other status
  | _ => simp only [BringsPublish, status] at brings

theorem shakeHand_of_success {manager : RtmpManager}
    (success : manager.shakeHandStatus = .shakeSuccess) (buffer : Bytes) :
    (manager.shakeHand build buffer).result = .shakeSuccess := by
  have round : shakeHandReturns (manager.parseShakeHand build buffer).result =
      some .shakeSuccess := by
    simp only [parseShakeHand, success]
    rfl
  rw [shakeHand_returns round]

/-- **`ShakeHand` succeeds when the bytes bring publish**, and only then leaves the stage of
success. -/
theorem shakeHand_success_iff (manager : RtmpManager) (buffer : Bytes)
    (running : manager.shakeHandStatus ≠ .shakeSuccess) :
    ((manager.shakeHand build buffer).result = .shakeSuccess ↔ manager.BringsPublish buffer) ∧
      ((manager.shakeHand build buffer).result ≠ .shakeSuccess →
        (manager.shakeHand build buffer).manager.shakeHandStatus ≠ .shakeSuccess) := by
  refine @shakeHand_induction build (fun manager buffer outcome =>
    manager.shakeHandStatus ≠ .shakeSuccess →
      (outcome.result = .shakeSuccess ↔ manager.BringsPublish buffer) ∧
        (outcome.result ≠ .shakeSuccess → outcome.manager.shakeHandStatus ≠ .shakeSuccess))
    ?_ ?_ manager buffer running
  · intro manager buffer result returns running
    by_cases publish : manager.shakeHandStatus = .shakeRtmpPublish
    · rcases @parseShakeHand_publish build manager buffer publish with
        ⟨-, goes, -⟩ | ⟨cut, ⟨other, same, fails⟩, status⟩
      · rw [returns] at goes
        cases goes
      · obtain rfl := Option.some.inj (returns.symm.trans same)
        refine ⟨iff_of_false fails ?_, fun _ => status⟩
        simp only [BringsPublish, publish]
        exact cut
    · obtain ⟨fails, status⟩ := @parseShakeHand_other build manager buffer running publish
      rw [returns] at fails
      exact ⟨iff_of_false (fun same => fails (congrArg some same))
        (bringsPublish_returns publish returns), fun _ => status⟩
  · intro manager buffer goes rest running
    rw [shakeHand_goes goes]
    by_cases publish : manager.shakeHandStatus = .shakeRtmpPublish
    · rcases @parseShakeHand_publish build manager buffer publish with
        ⟨holds, -, status⟩ | ⟨-, ⟨other, same, -⟩, -⟩
      · have success : ((manager.parseShakeHand build buffer).manager.shakeHand build
            (manager.parseShakeHand build buffer).buffer).result = .shakeSuccess :=
          shakeHand_of_success status _
        refine ⟨iff_of_true success ?_, fun fails => absurd success fails⟩
        simp only [BringsPublish, publish]
        exact holds
      · rw [goes] at same
        cases same
    · obtain ⟨-, status⟩ := @parseShakeHand_other build manager buffer running publish
      rw [bringsPublish_goes publish goes]
      exact rest status

/-! ## Behind the connect message -/

/-- Behind releaseStream the connect pack stays. -/
theorem parseShakeHand_late {manager : RtmpManager} {buffer : Bytes}
    (late : stagesLeft manager.shakeHandStatus ≤ 3) :
    stagesLeft (manager.parseShakeHand build buffer).manager.shakeHandStatus ≤ 3 ∧
      (manager.parseShakeHand build buffer).manager.connectPack = manager.connectPack := by
  have message {stage next : ShakeHandPackType} (more : stagesLeft next ≤ 3) :
      stagesLeft (manager.parseMessage buffer dropPack stage next).manager.shakeHandStatus ≤ 3 ∧
        (manager.parseMessage buffer dropPack stage next).manager.connectPack =
          manager.connectPack := by
    simp only [parseMessage]
    split
    · exact ⟨more, rfl⟩
    · split
      · exact ⟨late, rfl⟩
      · exact ⟨Nat.zero_le _, rfl⟩
  cases status : manager.shakeHandStatus with
  | shakeRtmpFcPublish =>
      simp only [parseShakeHand, status]
      exact message (by decide)
  | shakeRtmpCreateStream =>
      simp only [parseShakeHand, status]
      cases buffer with
      | nil => exact ⟨late, rfl⟩
      | cons first rest =>
          by_cases skip : first = 0xc3
          · simp only [skip, if_true]
            exact ⟨by decide, trivial⟩
          · simp only [skip, if_false]
            exact message (by decide)
  | shakeRtmpPublish =>
      simp only [parseShakeHand, status]
      exact message (by decide)
  | shakeSuccess =>
      simp only [parseShakeHand, status]
      exact ⟨Nat.zero_le _, trivial⟩
  | shakeFailed =>
      simp only [parseShakeHand, status]
      exact ⟨Nat.zero_le _, trivial⟩
  | shakeDataNotEnough =>
      simp only [parseShakeHand, status]
      exact ⟨Nat.zero_le _, trivial⟩
  | _ => exact absurd (status ▸ late) (by decide)

theorem shakeHand_late (manager : RtmpManager) (buffer : Bytes)
    (late : stagesLeft manager.shakeHandStatus ≤ 3) :
    stagesLeft (manager.shakeHand build buffer).manager.shakeHandStatus ≤ 3 ∧
      (manager.shakeHand build buffer).manager.connectPack = manager.connectPack := by
  refine @shakeHand_induction build (fun manager buffer outcome =>
    stagesLeft manager.shakeHandStatus ≤ 3 →
      stagesLeft outcome.manager.shakeHandStatus ≤ 3 ∧
        outcome.manager.connectPack = manager.connectPack) ?_ ?_ manager buffer late
  · intro manager buffer result _ late
    exact parseShakeHand_late late
  · intro manager buffer goes rest late
    obtain ⟨still, same⟩ := @parseShakeHand_late build manager buffer late
    obtain ⟨later, kept⟩ := rest still
    rw [shakeHand_goes goes]
    exact ⟨later, kept.trans same⟩

/-- Only the stage of releaseStream reports it. -/
theorem parseShakeHand_release {manager : RtmpManager} {buffer : Bytes}
    (asked : (manager.parseShakeHand build buffer).result = .shakeRtmpReleaseStream) :
    (manager.parseShakeHand build buffer).manager.shakeHandStatus = .shakeRtmpFcPublish := by
  have message {keep : RtmpManager → RtmpPack → RtmpManager} {stage next : ShakeHandPackType}
      (asked : (manager.parseMessage buffer keep stage next).result = .shakeRtmpReleaseStream) :
      stage = .shakeRtmpReleaseStream ∧
        (manager.parseMessage buffer keep stage next).manager.shakeHandStatus = next := by
    simp only [parseMessage] at asked ⊢
    split at asked
    · exact ⟨asked, by rw [if_pos (by assumption)]⟩
    · split at asked <;> cases asked
  have block {length : Nat} {stage next : ShakeHandPackType}
      (asked : (manager.parseBlock buffer length stage next).result = .shakeRtmpReleaseStream) :
      stage = .shakeRtmpReleaseStream := by
    rw [parseBlock] at asked
    split at asked
    · cases asked
    · exact asked
  cases status : manager.shakeHandStatus with
  | shakeRtmpReleaseStream =>
      simp only [parseShakeHand, status] at asked ⊢
      exact (message asked).2
  | shakeRtmpC01 =>
      simp only [parseShakeHand, status] at asked
      cases block asked
  | shakeRtmpC2 =>
      simp only [parseShakeHand, status] at asked
      cases block asked
  | shakeRtmpCreateStream =>
      simp only [parseShakeHand, status] at asked
      cases buffer with
      | nil => cases asked
      | cons first rest =>
          by_cases skip : first = 0xc3
          · simp only [skip, if_true] at asked
            cases asked
          · simp only [skip, if_false] at asked
            cases (message asked).1
  | shakeFailed =>
      simp only [parseShakeHand, status] at asked
      cases asked
  | shakeSuccess =>
      simp only [parseShakeHand, status] at asked
      cases asked
  | shakeDataNotEnough =>
      simp only [parseShakeHand, status] at asked
      cases asked
  | _ =>
      simp only [parseShakeHand, status] at asked
      cases (message asked).1

/-- The publisher is authenticated behind releaseStream. -/
theorem shakeHand_authenticate (manager : RtmpManager) (buffer : Bytes)
    (asked : (manager.shakeHand build buffer).result = .shakeAuthenticate) :
    stagesLeft (manager.shakeHand build buffer).manager.shakeHandStatus ≤ 3 := by
  refine @shakeHand_induction build (fun _ _ outcome => outcome.result = .shakeAuthenticate →
    stagesLeft outcome.manager.shakeHandStatus ≤ 3) ?_ ?_ manager buffer asked
  · intro manager buffer result returns asked
    obtain rfl : result = .shakeAuthenticate := asked
    have release : (manager.parseShakeHand build buffer).result = .shakeRtmpReleaseStream := by
      generalize (manager.parseShakeHand build buffer).result = reported at returns
      cases reported <;> first | rfl | cases returns
    dsimp only
    rw [parseShakeHand_release release]
    decide
  · intro manager buffer goes rest asked
    rw [shakeHand_goes goes] at asked ⊢
    exact rest asked

end RtmpManager

/-! ## One publisher -/

namespace Publisher

/-- The authentication callback has said no. -/
def Rejected (publisher : Publisher) : Prop :=
  ∃ username password, .authenticated username password false ∈ publisher.effects

/-- The handshake success callback is not invoked behind a no. -/
def Gated (publisher : Publisher) : Prop :=
  ∀ before path after, publisher.effects = before ++ .shakeHandSuccess path :: after →
    ∀ username password, .authenticated username password false ∉ before

/-- What every publisher keeps: during the handshake nothing has succeeded, and in the media
phase the success is the last effect; and behind a no the path stays known. -/
structure InPhase (publisher : Publisher) : Prop where
  shakeHand : publisher.newMessageCallback = .onConnectionShakeHand →
    publisher.pushConnection.rtmpManager.shakeHandStatus ≠ .shakeSuccess ∧
      ∀ path, .shakeHandSuccess path ∉ publisher.effects
  bodyData : publisher.newMessageCallback = .onBodyData →
    ∃ before path, publisher.effects = before ++ [.shakeHandSuccess path]
  rejected : publisher.Rejected →
    RtmpManager.stagesLeft publisher.pushConnection.rtmpManager.shakeHandStatus ≤ 3 ∧
      ∃ path, publisher.pushConnection.getRtmpPath = .ok path

variable {build : Build} {environment : ReadEnvironment} {publisher later : Publisher}

/-- A publisher is gated when it is not rejected and in its media phase. -/
theorem InPhase.gated_iff (inPhase : publisher.InPhase) :
    publisher.Gated ↔
      (publisher.Rejected → publisher.newMessageCallback = .onConnectionShakeHand) := by
  cases callback : publisher.newMessageCallback with
  | onConnectionShakeHand =>
      refine iff_of_true (fun before path after shape => ?_) fun _ => rfl
      have success : .shakeHandSuccess path ∈ publisher.effects := by
        rw [shape]
        exact List.mem_append_right _ List.mem_cons_self
      exact absurd success ((inPhase.shakeHand callback).2 path)
  | onBodyData =>
      obtain ⟨before, path, shape⟩ := inPhase.bodyData callback
      constructor
      · rintro gated ⟨username, password, rejected⟩
        rw [shape] at rejected
        rcases List.mem_append.mp rejected with earlier | last
        · exact absurd earlier (gated before path [] shape username password)
        · simp at last
      · intro accepted front other after cut username password rejected
        have whole : .authenticated username password false ∈ publisher.effects := by
          rw [cut]
          exact List.mem_append_left _ rejected
        cases accepted ⟨username, password, whole⟩

/-- The parts of a publisher that the phase is about stay. -/
structure SameHandshake (publisher later : Publisher) : Prop where
  effects : later.effects = publisher.effects
  newMessageCallback : later.newMessageCallback = publisher.newMessageCallback
  shakeHandStatus : later.pushConnection.rtmpManager.shakeHandStatus =
    publisher.pushConnection.rtmpManager.shakeHandStatus
  connectPack : later.pushConnection.rtmpManager.connectPack =
    publisher.pushConnection.rtmpManager.connectPack

theorem SameHandshake.refl (publisher : Publisher) : SameHandshake publisher publisher :=
  ⟨rfl, rfl, rfl, rfl⟩

theorem getRtmpPath_congr {connection other : RtmpPushConnection}
    (same : other.rtmpManager.connectPack = connection.rtmpManager.connectPack) :
    other.getRtmpPath = connection.getRtmpPath := by
  simp only [RtmpPushConnection.getRtmpPath, RtmpManager.getUrlFromConnectPack, same]

theorem SameHandshake.rejected_iff (same : SameHandshake publisher later) :
    later.Rejected ↔ publisher.Rejected := by
  rw [Rejected, Rejected, same.effects]

theorem SameHandshake.inPhase (same : SameHandshake publisher later)
    (inPhase : publisher.InPhase) : later.InPhase where
  shakeHand callback := by
    rw [same.shakeHandStatus, same.effects]
    exact inPhase.shakeHand (same.newMessageCallback ▸ callback)
  bodyData callback := by
    rw [same.effects]
    exact inPhase.bodyData (same.newMessageCallback ▸ callback)
  rejected rejected := by
    obtain ⟨late, path⟩ := inPhase.rejected (same.rejected_iff.mp rejected)
    rw [same.shakeHandStatus, getRtmpPath_congr same.connectPack]
    exact ⟨late, path⟩

theorem inPhase_new (connectionName : Bytes) (unset : UnsetMembers)
    (connectPack releasePack : RtmpPack) :
    (new connectionName (.construct build unset connectPack releasePack)).InPhase where
  shakeHand _ := ⟨nofun, fun _ => List.not_mem_nil⟩
  bodyData callback := nomatch callback
  rejected rejected := by
    obtain ⟨username, password, made⟩ := rejected
    cases made

/-! ### Reads -/

theorem record_rejected {effects : List PublisherEffect}
    (quiet : ∀ username password, .authenticated username password false ∉ effects) :
    (publisher.record effects).Rejected ↔ publisher.Rejected := by
  simp only [Rejected, record_effects, List.mem_append, quiet, or_false]

theorem send_rejected (replies : List Bytes) :
    (publisher.send replies).Rejected ↔ publisher.Rejected := by
  rw [send]
  split
  · exact record_rejected (by simp)
  · exact Iff.rfl

theorem shutdown_rejected : publisher.shutdown.Rejected ↔ publisher.Rejected := by
  rw [shutdown]
  split
  · exact @record_rejected publisher [.shutdown] (by simp)
  · exact Iff.rfl

/-- The replies of the handshake reject nobody. -/
theorem shakeHand_rejected (buffer : Bytes) :
    (publisher.shakeHand build buffer).1.Rejected ↔ publisher.Rejected := send_rejected _

/-- A rejection needs a path, and is made behind releaseStream. -/
theorem onConnectionShakeHand_rejects {buffer : Bytes} {outcome : ReadOutcome}
    (made : publisher.onConnectionShakeHand build environment buffer = .ok outcome)
    (rejected : outcome.publisher.Rejected) :
    publisher.Rejected ∨ (publisher.shakeHand build buffer).2 = .shakeAuthenticate ∧
      ∃ path, (publisher.shakeHand build buffer).1.pushConnection.getRtmpPath = .ok path := by
  have shaken := @shakeHand_rejected build publisher buffer
  rcases onConnectionShakeHand_cases made with ⟨result, -, asked, answer, authenticated, after⟩ |
    ⟨-, path, -, after⟩ | ⟨-, -, after | ⟨-, after⟩⟩
  · obtain ⟨path, known, -⟩ := authenticate_cases authenticated
    exact Or.inr ⟨result, path, known⟩
  · left
    have recorded : ((publisher.shakeHand build buffer).1.record
        [.shakeHandSuccess path]).Rejected := by
      rw [after] at rejected
      exact rejected
    exact shaken.mp ((record_rejected (by simp)).mp recorded)
  · left
    exact shaken.mp (after ▸ rejected)
  · left
    exact shaken.mp (shutdown_rejected.mp (after ▸ rejected))

/-- A read in the media phase leaves the handshake alone. -/
theorem onBodyData_sameHandshake (buffer : Bytes) :
    SameHandshake publisher (publisher.onBodyData build environment buffer).publisher := by
  have manager := RtmpPushConnection.parseData_rtmpManager build environment.unset
    publisher.pushConnection buffer
  exact ⟨rfl, rfl, (congrArg RtmpManager.shakeHandStatus manager).trans rfl,
    (congrArg RtmpManager.connectPack manager).trans rfl⟩

/-- A rejection is not taken back. -/
theorem Continues.rejected (continues : Continues publisher later) (rejected : publisher.Rejected) :
    later.Rejected := by
  obtain ⟨username, password, made⟩ := rejected
  obtain ⟨more, shape, -⟩ := continues.effects
  exact ⟨username, password, by rw [shape]; exact List.mem_append_left _ made⟩

/-- **A read during the handshake** keeps the phase, and ends it when it brings publish. -/
theorem onConnectionShakeHand_inPhase {buffer : Bytes} {outcome : ReadOutcome}
    (inPhase : publisher.InPhase) (callback : publisher.newMessageCallback = .onConnectionShakeHand)
    (made : publisher.onConnectionShakeHand build environment buffer = .ok outcome) :
    outcome.publisher.InPhase ∧ (publisher.Rejected → outcome.publisher.Rejected) ∧
      (outcome.publisher.newMessageCallback = .onBodyData ↔
        publisher.pushConnection.rtmpManager.BringsPublish buffer) ∧
      (outcome.publisher.newMessageCallback = .onBodyData → outcome.publisher.Rejected →
        publisher.Rejected) ∧
      (outcome.registered ≠ none → outcome.publisher.newMessageCallback = .onBodyData) := by
  obtain ⟨running, unpublished⟩ := inPhase.shakeHand callback
  obtain ⟨brings, running_after⟩ :=
    @RtmpManager.shakeHand_success_iff build publisher.pushConnection.rtmpManager buffer running
  have result : (publisher.shakeHand build buffer).2 =
      (publisher.pushConnection.rtmpManager.shakeHand build buffer).result := rfl
  have shaken := shakeHand_continues build publisher buffer
  have late (rejected : outcome.publisher.Rejected)
      (same : outcome.publisher.pushConnection =
        (publisher.shakeHand build buffer).1.pushConnection) :
      RtmpManager.stagesLeft outcome.publisher.pushConnection.rtmpManager.shakeHandStatus ≤ 3 ∧
        ∃ path, outcome.publisher.pushConnection.getRtmpPath = .ok path := by
    rw [same]
    rcases onConnectionShakeHand_rejects made rejected with before | ⟨asked, path⟩
    · obtain ⟨stages, path, known⟩ := inPhase.rejected before
      obtain ⟨still, kept⟩ := @RtmpManager.shakeHand_late build
        publisher.pushConnection.rtmpManager buffer stages
      rw [shaken.pushConnection]
      exact ⟨still, path, (getRtmpPath_congr kept).trans known⟩
    · refine ⟨?_, path⟩
      rw [shaken.pushConnection]
      exact RtmpManager.shakeHand_authenticate _ _ (result ▸ asked)
  by_cases success : (publisher.shakeHand build buffer).2 = .shakeSuccess
  · obtain ⟨path, registered, after⟩ := onConnectionShakeHand_success made success
    have media : outcome.publisher.newMessageCallback = .onBodyData := by rw [after]
    refine ⟨⟨fun other => ?_, fun _ => ?_, fun rejected => late rejected (by rw [after]; rfl)⟩, ?_,
      iff_of_true media (brings.mp (result ▸ success)), fun _ rejected => ?_, fun _ => media⟩
    · rw [media] at other
      cases other
    · rw [after]
      exact ⟨_, path, rfl⟩
    · intro rejected
      have recorded : ((publisher.shakeHand build buffer).1.record
          [.shakeHandSuccess path]).Rejected :=
        (record_rejected (by simp)).mpr ((shakeHand_rejected buffer).mpr rejected)
      rw [after]
      exact recorded
    · rcases onConnectionShakeHand_rejects made rejected with before | ⟨asked, -⟩
      · exact before
      · rw [success] at asked
        cases asked
  · obtain ⟨none, continues⟩ := onConnectionShakeHand_continues made success
    have whole := shaken.trans continues
    have handshake : outcome.publisher.newMessageCallback = .onConnectionShakeHand :=
      whole.newMessageCallback.trans callback
    refine ⟨⟨fun _ => ⟨?_, ?_⟩, fun media => ?_, fun rejected => late rejected
      continues.pushConnection⟩, fun rejected => whole.rejected rejected, ?_, fun media => ?_,
      fun registered => absurd none registered⟩
    · rw [whole.pushConnection]
      exact running_after (result ▸ success)
    · intro path made
      obtain ⟨more, shape, quiet⟩ := whole.effects
      rw [shape] at made
      rcases List.mem_append.mp made with before | now
      · exact unpublished path before
      · exact quiet path now
    · rw [handshake] at media
      cases media
    · refine iff_of_false ?_ fun all => success (result ▸ brings.mpr all)
      rw [handshake]
      exact nofun
    · rw [handshake] at media
      cases media

/-- What a read leaves of the phase: the publisher is in its media phase behind it if it was
before or is brought publish now, and is rejected behind it if it was before. -/
structure ReadsInPhase (publisher : Publisher) (data : Bytes) (outcome : ReadOutcome) :
    Prop where
  inPhase : outcome.publisher.InPhase
  rejected : publisher.Rejected → outcome.publisher.Rejected
  media : outcome.publisher.newMessageCallback = .onBodyData ↔
    publisher.newMessageCallback = .onBodyData ∨
      publisher.connectionStatus ≠ .disconnected ∧
        publisher.newMessageCallback = .onConnectionShakeHand ∧
        publisher.pushConnection.rtmpManager.BringsPublish (publisher.recvBuffer ++ data)
  before : outcome.publisher.newMessageCallback = .onBodyData → outcome.publisher.Rejected →
    publisher.Rejected
  registered : outcome.registered ≠ none → outcome.publisher.newMessageCallback = .onBodyData

/-- **What a read does to the phase.** -/
theorem onReadable_inPhase {data : Bytes} {outcome : ReadOutcome} (inPhase : publisher.InPhase)
    (read : publisher.onReadable build environment data = .ok outcome) :
    ReadsInPhase publisher data outcome := by
  rcases onReadable_cases read with ⟨closed, rfl⟩ | ⟨opened, callback, shaking⟩ | ⟨-, media, rfl⟩
  · refine ⟨inPhase, id, ?_, fun _ => id, fun registered => absurd rfl registered⟩
    exact (or_iff_left fun other => other.1 closed).symm
  · obtain ⟨after, kept, media, before, registered⟩ :=
      onConnectionShakeHand_inPhase inPhase callback shaking
    refine ⟨after, kept, media.trans ?_, before, registered⟩
    simp [callback, opened]
  · have same := @onBodyData_sameHandshake build environment publisher
      (publisher.recvBuffer ++ data)
    refine ⟨same.inPhase inPhase, same.rejected_iff.mpr, ?_, fun _ => same.rejected_iff.mp,
      fun registered => absurd rfl registered⟩
    exact iff_of_true (same.newMessageCallback.trans media) (Or.inl media)

/-- A rejected publisher that is brought publish is taken to its media phase. -/
theorem onReadable_brings {data : Bytes} (inPhase : publisher.InPhase)
    (rejected : publisher.Rejected) (opened : publisher.connectionStatus ≠ .disconnected)
    (callback : publisher.newMessageCallback = .onConnectionShakeHand)
    (brings : publisher.pushConnection.rtmpManager.BringsPublish (publisher.recvBuffer ++ data)) :
    ∃ outcome, publisher.onReadable build environment data = .ok outcome := by
  have running := (inPhase.shakeHand callback).1
  have success : (publisher.shakeHand build (publisher.recvBuffer ++ data)).2 = .shakeSuccess :=
    (RtmpManager.shakeHand_success_iff _ _ running).1.mpr brings
  obtain ⟨late, path, known⟩ := inPhase.rejected rejected
  have same :
      (publisher.shakeHand build (publisher.recvBuffer ++ data)).1.pushConnection.getRtmpPath =
        .ok path := by
    rw [← known, (shakeHand_continues build publisher _).pushConnection]
    exact getRtmpPath_congr (RtmpManager.shakeHand_late _ _ late).2
  rw [onReadable, if_neg opened]
  simp only [callback, onConnectionShakeHand, success, same]
  exact ⟨_, rfl⟩

end Publisher

/-! ## Runs of the servers -/

namespace LiveServer

/-- What the servers keep: every publisher is in its phase, and the registry has publishers
in their media phase only. -/
structure InPhase (server : LiveServer) : Prop where
  publishers : ∀ id publisher, server.publishers id = some publisher → publisher.InPhase
  registry : ∀ path id, server.registry.getPushConnByUrl path = some id →
    ∃ publisher, server.publishers id = some publisher ∧
      publisher.newMessageCallback = .onBodyData

/-- Rejected publishers are kept out: their handshake success callback is not invoked behind
the rejection, and the registry does not have them. -/
def KeepsRejectedOut (server : LiveServer) : Prop :=
  ∀ id publisher, server.publishers id = some publisher →
    publisher.Gated ∧
      (publisher.Rejected → ∀ path, server.registry.getPushConnByUrl path ≠ some id)

/-- The event is no read that brings a rejected publisher all that its handshake still waits
for. -/
def NoRejectedPublish (server : LiveServer) : LiveEvent → Prop
  | .readable id data _ => ∀ publisher, server.publishers id = some publisher →
      publisher.connectionStatus ≠ .disconnected → publisher.Rejected →
        ¬ publisher.pushConnection.rtmpManager.BringsPublish (publisher.recvBuffer ++ data)
  | _ => True

variable {build : Build} {server next : LiveServer}

theorem inPhase_empty : InPhase .empty where
  publishers _ _ there := by cases there
  registry _ _ listed := by cases listed

/-- Rejected publishers are out when they are still in their handshake. -/
theorem InPhase.keepsRejectedOut_iff (inPhase : server.InPhase) :
    server.KeepsRejectedOut ↔ ∀ id publisher, server.publishers id = some publisher →
      publisher.Rejected → publisher.newMessageCallback = .onConnectionShakeHand := by
  constructor
  · intro out id publisher there
    exact (inPhase.publishers id publisher there).gated_iff.mp (out id publisher there).1
  · intro waits id publisher there
    refine ⟨(inPhase.publishers id publisher there).gated_iff.mpr (waits id publisher there), ?_⟩
    intro rejected path listed
    obtain ⟨other, same, media⟩ := inPhase.registry path id listed
    rw [there] at same
    obtain rfl := Option.some.inj same
    rw [waits id publisher there rejected] at media
    cases media

/-- What is not a read leaves the handshake. -/
theorem Changes.sameHandshake {id : Nat} {event : LiveEvent} {publisher later : Publisher}
    (changes : Changes build server id publisher event later) :
    Publisher.SameHandshake publisher later ∨
      ∃ data environment outcome, event = .readable id data environment ∧
        publisher.onReadable build environment data = .ok outcome ∧
        later = outcome.publisher := by
  cases changes with
  | stays => exact Or.inl (.refl publisher)
  | reads read => exact Or.inr ⟨_, _, _, rfl, read, rfl⟩
  | closes => exact Or.inl ⟨rfl, rfl, rfl, rfl⟩
  | attaches found added =>
      have manager := RtmpPushConnection.addClientConnection_rtmpManager added
      exact Or.inl ⟨rfl, rfl, congrArg RtmpManager.shakeHandStatus manager,
        congrArg RtmpManager.connectPack manager⟩
  | detaches => exact Or.inl ⟨rfl, rfl, rfl, rfl⟩

/-- **Every event keeps the servers in phase.** -/
theorem InPhase.step (inPhase : server.InPhase) {event : LiveEvent}
    (made : server.step build event = .ok next) : next.InPhase where
  publishers id publisher there := by
    rcases step_publisher made there with ⟨-, name, unset, connect, release, -, rfl⟩ |
      ⟨earlier, known, changes⟩
    · exact Publisher.inPhase_new name unset connect release
    · have before := inPhase.publishers id earlier known
      rcases changes.sameHandshake with same | ⟨data, environment, outcome, -, read, rfl⟩
      · exact same.inPhase before
      · exact (Publisher.onReadable_inPhase before read).inPhase
  registry path id listed := by
    rcases step_registry made listed with earlier |
      ⟨data, environment, publisher, outcome, -, known, after, read, registered⟩
    · obtain ⟨publisher, known, media⟩ := inPhase.registry path id earlier
      obtain ⟨later, there, changes⟩ := step_changes made known
      refine ⟨later, there, ?_⟩
      rcases changes.sameHandshake with same | ⟨data, environment, outcome, -, read, rfl⟩
      · exact same.newMessageCallback.trans media
      · have reads := Publisher.onReadable_inPhase (inPhase.publishers id publisher known) read
        exact reads.media.mpr (Or.inl media)
    · have reads := Publisher.onReadable_inPhase (inPhase.publishers id publisher known) read
      exact ⟨outcome.publisher, after, reads.registered (by simp [registered])⟩

/-- **The event that lets a rejected publisher in is the one that takes it through
publish.** -/
theorem InPhase.keepsRejectedOut_step (inPhase : server.InPhase) (out : server.KeepsRejectedOut)
    (event : LiveEvent) :
    (∀ next, server.step build event = .ok next → next.KeepsRejectedOut) ↔
      server.NoRejectedPublish event := by
  have waits := inPhase.keepsRejectedOut_iff.mp out
  constructor
  · intro keeps
    cases event with
    | readable id data environment =>
        intro publisher known opened rejected brings
        have before := inPhase.publishers id publisher known
        have callback := waits id publisher known rejected
        obtain ⟨outcome, read⟩ := @Publisher.onReadable_brings build environment publisher data
          before rejected opened callback brings
        have reads := Publisher.onReadable_inPhase before read
        obtain ⟨next, made, there⟩ := step_reads known read
        have still := (inPhase.step made).keepsRejectedOut_iff.mp
          (keeps next made) id outcome.publisher there (reads.rejected rejected)
        rw [reads.media.mpr (Or.inr ⟨opened, callback, brings⟩)] at still
        cases still
    | _ => trivial
  · intro allowed next made
    rw [(inPhase.step made).keepsRejectedOut_iff]
    intro id publisher there rejected
    rcases step_publisher made there with ⟨-, name, unset, connect, release, -, rfl⟩ |
      ⟨earlier, known, changes⟩
    · rfl
    · have before := inPhase.publishers id earlier known
      rcases changes.sameHandshake with same | ⟨data, environment, outcome, rfl, read, rfl⟩
      · exact same.newMessageCallback.trans
          (waits id earlier known (same.rejected_iff.mp rejected))
      · have reads := Publisher.onReadable_inPhase before read
        cases callback : outcome.publisher.newMessageCallback with
        | onConnectionShakeHand => rfl
        | onBodyData =>
            exfalso
            have was := reads.before callback rejected
            rcases reads.media.mp callback with media | ⟨opened, -, brings⟩
            · rw [waits id earlier known was] at media
              cases media
            · exact allowed earlier known opened was brings

end LiveServer

open LiveServer

/-- **A rejected publisher is kept out exactly as long as it does not bring the rest of the
handshake.** In every run of the servers, whatever the publishers send, however it is cut into
reads and whatever the authentication callbacks answer: the handshake success callback of a
rejected connection is never invoked and the registry never has it, if and only if no read of a
rejected connection brings the messages from its stage on through publish. -/
theorem rejected_stays_out_iff (build : Build) (events : List LiveEvent) :
    (∀ before, before <+: events → ∀ server,
        (LiveServer.machine build).run (.ok .empty) before = .ok server →
          server.KeepsRejectedOut) ↔
      ∀ before event, before ++ [event] <+: events → ∀ server,
        (LiveServer.machine build).run (.ok .empty) before = .ok server →
          server.NoRejectedPublish event := by
  refine Machine.faulting_always_iff (fun _ _ _ inPhase made => InPhase.step inPhase made)
    (fun _ event inPhase out => InPhase.keepsRejectedOut_step inPhase out event) inPhase_empty ?_
    events
  intro id publisher there
  cases there

/-- A publisher is rejected, and goes on. -/
def rejectedPublisher : List LiveEvent :=
  let environment : ReadEnvironment := ⟨some fun _ _ => false, fun _ => 0, 0⟩
  [.connect 0 [99] ⟨0, false, .zero, .zero⟩ .zero .zero,
    .readable 0 handshakeUpToRelease environment, .readable 0 handshakeFromFcPublish environment]

/-- **A rejected publisher gets in.** It is found under its path. -/
theorem rejected_publisher_gets_in :
    ∃ server publisher, (LiveServer.machine .standard).run (.ok .empty) rejectedPublisher =
        .ok server ∧
      server.publishers 0 = some publisher ∧ publisher.Rejected ∧ ¬ publisher.Gated ∧
      server.registry.getPushConnByUrl [112] = some 0 := by
  have inside : ((LiveServer.machine .standard).run (.ok .empty) rejectedPublisher).toOption.any
      (fun server =>
        decide (server.registry.getPushConnByUrl [112] = some 0) &&
          (server.publishers 0).any fun publisher =>
            decide (publisher.effects = publisher.effects.dropLast ++ [.shakeHandSuccess [112]] ∧
              .authenticated [112] [] false ∈ publisher.effects.dropLast)) = true := by
    decide +kernel
  obtain ⟨server, reached, checked⟩ := Machine.exists_of_any inside
  rw [Bool.and_eq_true] at checked
  obtain ⟨publisher, known, both⟩ := (Option.any_eq_true _ _).mp checked.2
  obtain ⟨shape, rejected⟩ := of_decide_eq_true both
  refine ⟨server, publisher, reached, known, ⟨[112], [], List.dropLast_subset _ rejected⟩, ?_,
    of_decide_eq_true checked.1⟩
  exact fun gated => gated _ _ [] shape [112] [] rejected

end LiveBroadcast
