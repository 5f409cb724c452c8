import LiveBroadcast.Live.HandshakeRoute

/-!
# What the commands of a handshake leave behind

The manager keeps two of the commands: the pack of connect, from which the path of the publisher
is taken, and the pack of releaseStream, from which the password is. While such a command arrives,
each call writes the last pack there, whatever that is; the call with the last chunk writes the
pack of the command itself. From then on nobody writes it (`Keeps`).

So the calls of `ParseShakeHand` lead along the pieces of a handshake past managers that have kept
what was sent, to the end of the handshake (`Handshake.route_keeps`).
-/

set_option autoImplicit false

namespace LiveBroadcast

namespace RtmpManager

/-- What is kept of the commands so far: behind connect its body, behind releaseStream its
body. -/
structure Keeps (command : CommandStage → Command) (manager : RtmpManager) : Prop where
  connect : stagesLeft manager.shakeHandStatus < stagesLeft .shakeRtmpConnect →
    manager.connectPack.buffer = (command .connect).sent.message.body
  releaseStream : stagesLeft manager.shakeHandStatus < stagesLeft .shakeRtmpReleaseStream →
    manager.releasePack.buffer = (command .releaseStream).sent.message.body

/-- The managers along a route have kept what was sent, and the handshake goes on until the
route ends. -/
def KeepsAlong (command : CommandStage → Command) :
    RtmpManager → List (Piece UInt8 Bytes × RtmpManager) → Prop
  | _, [] => True
  | manager, (_, after) :: rest =>
      manager.shakeHandStatus ≠ .shakeSuccess ∧ after.Keeps command ∧ KeepsAlong command after rest

/-- Pieces lead to a state, past managers that have kept what was sent. -/
def LeadsKeeping (build : Build) (command : CommandStage → Command) (manager : RtmpManager)
    (pieces : List (Piece UInt8 Bytes)) (after : RtmpManager) : Prop :=
  ∃ route, (handshakeLoop build).Route manager route ∧ EarlyReturn.pieces route = pieces ∧
    EarlyReturn.behind manager route = after ∧ KeepsAlong command manager route

section

variable {build : Build} {command : CommandStage → Command} {manager between after : RtmpManager}
  {stage : CommandStage} {decoder : ChunkDecoder} {pieces : List (Piece UInt8 Bytes)}

theorem KeepsAlong.append {route further : List (Piece UInt8 Bytes × RtmpManager)} :
    KeepsAlong command manager (route ++ further) ↔
      KeepsAlong command manager route ∧
        KeepsAlong command (EarlyReturn.behind manager route) further := by
  induction route generalizing manager with
  | nil => exact (and_iff_right trivial).symm
  | cons one route ih =>
      obtain ⟨piece, after⟩ := one
      rw [List.cons_append, KeepsAlong, KeepsAlong, ih, EarlyReturn.behind]
      exact ⟨fun all => ⟨⟨all.1, all.2.1, all.2.2.1⟩, all.2.2.2⟩,
        fun all => ⟨all.1.1, all.1.2.1, all.1.2.2, all.2⟩⟩

/-- What is kept somewhere along the route. -/
theorem KeepsAlong.behind {route : List (Piece UInt8 Bytes × RtmpManager)}
    (along : KeepsAlong command manager route) (keeps : manager.Keeps command) :
    (EarlyReturn.behind manager route).Keeps command := by
  induction route generalizing manager with
  | nil => exact keeps
  | cons one route ih =>
      obtain ⟨-, kept, along⟩ := along
      exact ih along kept

theorem LeadsKeeping.refl (manager : RtmpManager) :
    LeadsKeeping build command manager [] manager :=
  ⟨[], .done manager, rfl, rfl, trivial⟩

theorem LeadsKeeping.next {piece : Piece UInt8 Bytes}
    (takes : (handshakeLoop build).Takes manager piece between)
    (running : manager.shakeHandStatus ≠ .shakeSuccess) (keeps : between.Keeps command)
    (leads : LeadsKeeping build command between pieces after) :
    LeadsKeeping build command manager (piece :: pieces) after := by
  obtain ⟨route, taken, rfl, rfl, along⟩ := leads
  exact ⟨(piece, between) :: route, .next takes taken, rfl, rfl, running, keeps, along⟩

theorem LeadsKeeping.append {further : List (Piece UInt8 Bytes)}
    (leads : LeadsKeeping build command manager pieces between)
    (later : LeadsKeeping build command between further after) :
    LeadsKeeping build command manager (pieces ++ further) after := by
  obtain ⟨route, taken, rfl, rfl, along⟩ := leads
  obtain ⟨route', taken', rfl, rfl, along'⟩ := later
  exact ⟨route ++ route', taken.append taken', EarlyReturn.pieces_append route route',
    EarlyReturn.behind_append _ _ _, KeepsAlong.append.mpr ⟨along, along'⟩⟩

/-- A manager that waits for a command has not succeeded. -/
theorem running_of_packType (status : manager.shakeHandStatus = stage.packType) :
    manager.shakeHandStatus ≠ .shakeSuccess := by
  rw [status]
  cases stage <;> decide

/-! ## One call -/

/-- A call in the middle of a command writes no pack but that of its own stage. -/
theorem Keeps.store (keeps : manager.Keeps command)
    (status : manager.shakeHandStatus = stage.packType) (decoder : ChunkDecoder) :
    (stage.store manager decoder).Keeps command := by
  obtain ⟨connect, releaseStream⟩ := keeps
  rw [status] at connect releaseStream
  refine ⟨fun behind => ?_, fun behind => ?_⟩
  · rw [CommandStage.store_shakeHandStatus, status] at behind
    cases stage with
    | setChunkSize | connect => exact absurd behind (by decide)
    | releaseStream | fcPublish | createStream | publish => exact connect behind
  · rw [CommandStage.store_shakeHandStatus, status] at behind
    cases stage with
    | setChunkSize | connect | releaseStream => exact absurd behind (by decide)
    | fcPublish | createStream | publish => exact releaseStream behind

/-- The call with the last chunk of a command. -/
theorem Keeps.finish (keeps : manager.Keeps command)
    (status : manager.shakeHandStatus = stage.packType)
    (body : decoder.lastRtmpPack.buffer = (command stage).sent.message.body) :
    ({ stage.store manager decoder with shakeHandStatus := stage.next } :
      RtmpManager).Keeps command := by
  obtain ⟨connect, releaseStream⟩ := keeps
  rw [status] at connect releaseStream
  refine ⟨fun behind => ?_, fun behind => ?_⟩
  · change stagesLeft stage.next < _ at behind
    cases stage with
    | setChunkSize => exact absurd behind (by decide)
    | connect => exact body
    | releaseStream | fcPublish | createStream | publish => exact connect (by decide)
  · change stagesLeft stage.next < _ at behind
    cases stage with
    | setChunkSize | connect => exact absurd behind (by decide)
    | releaseStream => exact body
    | fcPublish | createStream | publish => exact releaseStream (by decide)

/-- The skip of createStream writes nothing. -/
theorem Keeps.skip (keeps : manager.Keeps command)
    (status : manager.shakeHandStatus = .shakeRtmpCreateStream) :
    ({ manager with shakeHandStatus := .shakeRtmpPublish } : RtmpManager).Keeps command := by
  obtain ⟨connect, releaseStream⟩ := keeps
  rw [status] at connect releaseStream
  exact ⟨fun _ => connect (by decide), fun _ => releaseStream (by decide)⟩

/-! ## One command -/

/-- Pieces lead to the next stage, with the decoder ready behind the command. -/
def KeepsUntil (build : Build) (chunkSize : Nat) (command : CommandStage → Command)
    (manager : RtmpManager) (pieces : List (Piece UInt8 Bytes)) (stage : CommandStage) : Prop :=
  ∃ after, LeadsKeeping build command manager pieces after ∧ after.shakeHandStatus = stage.next ∧
    after.Keeps command ∧
    after.rtmpCodec.toChunkDecoder.Ready chunkSize (some (command stage).sent.message)

variable {chunkSize : Nat} {received rest : Bytes} {csid first : UInt8} {fields : Bytes}

/-- The last chunk of a command. -/
theorem Keeps.last (keeps : manager.Keeps command)
    (status : manager.shakeHandStatus = stage.packType)
    (chunk : manager.rtmpCodec.toChunkDecoder.Delimits first fields (rest.take chunkSize))
    (opened : (manager.rtmpCodec.openBody (first :: fields)).Holding chunkSize
      (command stage).sent.message received rest)
    (fits : rest.length ≤ chunkSize)
    (middle : stage = .createStream → first = 0xc3 →
      manager.rtmpCodec.currentRtmpPack.buffer ≠ []) :
    KeepsUntil build chunkSize command manager
      [chunkPiece build stage (first :: fields ++ rest) true] stage := by
  rw [List.take_of_length_le fits] at chunk
  have takes := @takes_chunk build manager stage _ _ _ status chunk middle
  have finished := opened.closeChunk_last fits
  rw [(opened.last fits).1, afterChunk, if_pos rfl] at takes
  have kept := keeps.finish status finished.body
  refine ⟨_, .next takes (running_of_packType status) kept (.refl _), rfl, kept, ?_⟩
  simpa using finished.ready

/-- The rest of a command in continuation chunks. -/
theorem Keeps.continuation (keeps : manager.Keeps command) (small : csid < 64)
    (status : manager.shakeHandStatus = stage.packType)
    (holding : manager.rtmpCodec.toChunkDecoder.Holding chunkSize (command stage).sent.message
      received rest)
    (inHeader : manager.rtmpCodec.decodePackStatus = .parseRtmpHeader) (begun : received ≠ []) :
    KeepsUntil build chunkSize command manager
      (chunkPieces build stage (continuationChunks chunkSize csid rest)) stage := by
  induction length : rest.length using Nat.strongRecOn generalizing manager received rest with
  | ind n ih =>
      subst length
      obtain ⟨opened, -⟩ := holding.openBody small
      have chunk := delimits_of_holding (holding.between inHeader).sane inHeader
        (headerSize_basicHeader .fmt3 small) opened
      have middle (_ : stage = .createStream) (_ : basicHeader .fmt3 csid = 0xc3) :
          manager.rtmpCodec.currentRtmpPack.buffer ≠ [] := by
        rw [holding.stored]
        exact begun
      have positive := holding.chunkSize_pos
      rw [continuationChunks, bodyPieces]
      rcases Nat.lt_or_ge chunkSize rest.length with longer | fits
      · rw [if_neg (by omega), List.map_cons, ← continuationChunks, chunkPieces,
          continuationChunks_isEmpty]
        obtain ⟨holding', inHeader'⟩ := opened.closeChunk_split longer
        have takes := @takes_split build manager stage _ _ _ _ _ _ status chunk opened longer middle
        have kept := keeps.store status
          ((manager.rtmpCodec.openBody (basicHeader .fmt3 csid :: [])).closeChunk
            (rest.take chunkSize))
        have fewer : (rest.drop chunkSize).length < rest.length := by
          rw [List.length_drop]
          omega
        have more : received ++ rest.take chunkSize ≠ [] := by simp [begun]
        obtain ⟨after, leads, arrived⟩ := ih _ fewer kept (by simpa using status)
          (by simpa using holding') (by simpa using inHeader') more rfl
        exact ⟨after, leads.next takes (running_of_packType status) kept, arrived⟩
      · rw [if_pos (.inl fits)]
        exact keeps.last status chunk opened fits middle

/-- **A command**, from the stage that waits for it to the next. -/
theorem Keeps.through {previous : Option Message} (keeps : manager.Keeps command)
    (status : manager.shakeHandStatus = stage.packType)
    (ready : manager.rtmpCodec.toChunkDecoder.Ready chunkSize previous)
    (compressed : WellCompressed previous [(command stage).sent])
    (fixed : stage = .createStream → (command stage).first = 0xc3 →
      ((command stage).encode chunkSize).length = createStreamSkip) :
    KeepsUntil build chunkSize command manager
      (commandPieces build chunkSize stage (command stage)) stage := by
  rw [commandPieces]
  split
  · next both =>
      -- the message is skipped
      obtain ⟨rfl, skip⟩ := both
      obtain ⟨rest, encode⟩ := (command .createStream).encode_eq chunkSize
      have length := fixed rfl skip
      rw [skip] at encode
      rw [encode] at length ⊢
      have takes := @takes_skip build manager status ready.inHeader ready.empty _ length
      have kept := keeps.skip status
      exact ⟨_, .next takes (running_of_packType status) kept (.refl _), rfl, kept,
        ready.skip compressed (Command.fmt_of_first skip)⟩
  · next read =>
      -- the message is read chunk by chunk
      have middle (here : stage = .createStream) (skip : (command stage).first = 0xc3) :
          manager.rtmpCodec.currentRtmpPack.buffer ≠ [] := absurd ⟨here, skip⟩ read
      obtain ⟨opened, -⟩ := ready.openBody compressed (command stage).small
      have chunk := delimits_of_holding ready.sane ready.inHeader
        (by rw [headerSize_basicHeader _ (command stage).small, Message.length_header]) opened
      rw [Command.chunks, Message.chunks]
      rcases Nat.lt_or_ge chunkSize (command stage).sent.message.body.length with longer | fits
      · rw [if_neg (Nat.not_le.mpr longer), chunkPieces, continuationChunks_isEmpty]
        obtain ⟨holding, inHeader⟩ := opened.closeChunk_split longer
        have takes := @takes_split build manager stage _ _ _ _ _ _ status chunk opened longer middle
        have kept := keeps.store status
          ((manager.rtmpCodec.openBody ((command stage).sent.message.firstHeader
            (command stage).csid (command stage).sent.fmt)).closeChunk
              ((command stage).sent.message.body.take chunkSize))
        have begun : ([] : Bytes) ++ (command stage).sent.message.body.take chunkSize ≠ [] := by
          have some_taken := opened.chunkSize_pos
          rw [List.nil_append, ← List.length_pos_iff, List.length_take]
          omega
        obtain ⟨after, leads, arrived⟩ := @Keeps.continuation build command _ stage chunkSize _ _ _
          kept (command stage).small (by simpa using status) (by simpa using holding)
          (by simpa using inHeader) begun
        exact ⟨after, leads.next takes (running_of_packType status) kept, arrived⟩
      · rw [if_pos fits]
        exact keeps.last status chunk opened fits middle

/-! ## All commands -/

/-- The commands of some stages, one after the other. -/
theorem Keeps.commands {stages : List CommandStage} {previous : Option Message}
    (keeps : manager.Keeps command)
    (inOrder : CommandStage.InOrder manager.shakeHandStatus stages)
    (ready : manager.rtmpCodec.toChunkDecoder.Ready chunkSize previous)
    (compressed : WellCompressed previous (stages.map fun stage => (command stage).sent))
    (fixed : (command .createStream).first = 0xc3 →
      ((command .createStream).encode chunkSize).length = createStreamSkip) :
    ∃ after, LeadsKeeping build command manager
        (stages.flatMap fun stage => commandPieces build chunkSize stage (command stage)) after ∧
      after.rtmpCodec.toChunkDecoder.Ready chunkSize none ∧
      after.shakeHandStatus = (stages.getLast?.map CommandStage.next).getD
        manager.shakeHandStatus := by
  induction stages generalizing manager previous with
  | nil => exact ⟨manager, .refl _, { ready with fields := nofun }, rfl⟩
  | cons stage stages ih =>
      obtain ⟨status, others⟩ := inOrder
      obtain ⟨head, tail⟩ := compressed.head
      obtain ⟨between, leads, status', kept, ready'⟩ := @Keeps.through build command manager stage
        chunkSize _ keeps status.symm ready head (fun here => by rw [here]; exact fixed)
      rw [← status'] at others
      obtain ⟨after, further, settled, last⟩ := ih kept others ready' tail
      rw [List.flatMap_cons]
      refine ⟨after, leads.append further, settled, ?_⟩
      rw [last, status', List.getLast?_cons]
      cases stages.getLast? <;> rfl

end

end RtmpManager

open RtmpManager

/-- **The route of a handshake** goes past managers that have kept what was sent, and ends at its
end, with the decoder ready for what comes next. -/
theorem Handshake.route_keeps {build : Build} {chunkSize : Nat}
    (handshake : Handshake build chunkSize) {manager : RtmpManager}
    (start : manager.shakeHandStatus = .shakeRtmpC01)
    (ready : manager.rtmpCodec.toChunkDecoder.Ready chunkSize none) :
    ∃ after, LeadsKeeping build handshake.command manager handshake.pieces after ∧
      after.rtmpCodec.toChunkDecoder.Ready chunkSize none ∧
      after.shakeHandStatus = .shakeSuccess := by
  have nonempty {block : Bytes} {n : Nat} (length : block.length = n + 1) : block ≠ [] :=
    List.length_pos_iff.mp (by omega)
  have first : (handshakeLoop build).Takes manager
      (blockPiece build .shakeRtmpC01 handshake.c01)
      { manager with shakeHandStatus := .shakeRtmpC2 } := by
    refine takes_block (fun buffer => ?_) (nonempty handshake.c01_length) rfl (by simp [start])
    simp only [parseShakeHand, start, handshake.c01_length]
  have second : (handshakeLoop build).Takes { manager with shakeHandStatus := .shakeRtmpC2 }
      (blockPiece build .shakeRtmpC2 handshake.c2)
      { manager with
        shakeHandStatus :=
          if build.monitorMode then .shakeRtmpConnect else .shakeRtmpSetChunkSize } := by
    refine takes_block (fun buffer => ?_) (nonempty handshake.c2_length) rfl
      (fun status => by cases status)
    simp only [parseShakeHand, handshake.c2_length]
  have waiting (status : ShakeHandPackType) (early : stagesLeft .shakeRtmpConnect ≤
      stagesLeft status) :
      ({ manager with shakeHandStatus := status } : RtmpManager).Keeps handshake.command :=
    ⟨fun behind => absurd behind (Nat.not_lt.mpr early),
      fun behind => absurd (Nat.lt_trans behind (by decide)) (Nat.not_lt.mpr early)⟩
  have commands : stagesLeft .shakeRtmpConnect ≤ stagesLeft
      (if build.monitorMode then .shakeRtmpConnect else .shakeRtmpSetChunkSize) := by
    cases build.monitorMode <;> decide
  obtain ⟨after, leads, settled, last⟩ :=
    (waiting _ commands).commands (CommandStage.all_inOrder build) ready handshake.compressed
      handshake.createStream_length
  refine ⟨after, .next first (by simp [start]) (waiting _ (by decide))
    (.next second (by simp) (waiting _ commands) leads), settled, ?_⟩
  rw [last]
  cases build with
  | mk monitorMode => cases monitorMode <;> rfl

end LiveBroadcast
