import LiveBroadcast.Live.Addresses
import LiveBroadcast.Live.HandshakeCompletion
import LiveBroadcast.Live.HeaderReadiness
import LiveBroadcast.Live.Relay
import LiveBroadcast.Live.WholeServer

/-!
# From a publisher's connection to what its viewers are sent

The whole way of a stream through the servers. A publisher connects and performs its handshake,
while other publishers and viewers do what they like. Up to the read that completes the handshake
nobody is attached to its connection, and its codec has seen no media (`Bare`). From there on its
connection is a broadcast: what it sees of the run is its reads, and the viewers that join and
leave. A viewer that was attached once, to this publisher, and is still connected has joined the
broadcast once and stayed (`run_joins`). So it has been sent the messages of the publisher that
were delivered behind its join (`publication_reaches_viewer`).
-/

set_option autoImplicit false

namespace LiveBroadcast

open RtmpManager LiveServer

/-! ## Up to the end of the handshake -/

namespace Publisher

variable {build : Build} {environment : ReadEnvironment} {publisher : Publisher} {data : Bytes}

/-- Nobody has been attached to the connection, and no media has come. -/
structure Bare (publisher : Publisher) : Prop where
  connection : publisher.pushConnection =
    .new publisher.pushConnection.connectionName publisher.pushConnection.rtmpManager
  phase : publisher.pushConnection.rtmpManager.rtmpCodec.toHeaderPhase =
    ⟨.parseFirstHeader, none, none, none⟩

/-- A read of the handshake. -/
theorem Bare.read (bare : publisher.Bare)
    (callback : publisher.newMessageCallback = .onConnectionShakeHand) {outcome : ReadOutcome}
    (read : publisher.onReadable build environment data = .ok outcome) :
    outcome.publisher.Bare := by
  rcases onReadable_cases read with ⟨-, rfl⟩ | ⟨-, -, shaking⟩ | ⟨-, media, -⟩
  · exact bare
  · have left := onConnectionShakeHand_pushConnection shaking
    refine ⟨?_, ?_⟩
    · rw [left, bare.connection]
      rfl
    · rw [left]
      exact (shakeHand_phase _ _ _).trans bare.phase
  · rw [callback] at media
    cases media

end Publisher

namespace LiveServer

variable {build : Build} {server next : LiveServer}

/-- Every publisher in its handshake is bare. -/
def BareInHandshake (server : LiveServer) : Prop :=
  ∀ id publisher, server.publishers id = some publisher →
    publisher.newMessageCallback = .onConnectionShakeHand → publisher.Bare

/-- A publisher that a request finds is registered. -/
theorem getPushConn_listed {data : Bytes} {id : Nat} {publisher : Publisher}
    (found : server.getPushConn data = .ok (some (id, publisher))) :
    ∃ path, server.registry.getPushConnByUrl path = some id := by
  rw [getPushConn_eq] at found
  cases key : requestKey data with
  | error fault =>
      rw [key] at found
      cases found
  | ok path =>
      rw [key] at found
      obtain ⟨other, listed, both⟩ := Option.bind_eq_some_iff.mp (Except.ok.inj found)
      obtain ⟨_, -, same⟩ := Option.map_eq_some_iff.mp both
      obtain rfl := (Prod.mk.inj same).1
      exact ⟨path, listed⟩

/-- Viewers are attached to publishers in their media phase. -/
theorem InPhase.attached_media (inPhase : server.InPhase) {event : LiveEvent}
    {publisher : Publisher} {unset : HeaderUnset}
    (found : server.attached event = some (publisher, unset)) :
    publisher.newMessageCallback = .onBodyData := by
  cases event with
  | clientMessage connectionName data given =>
      rw [attached] at found
      split at found
      · next id other request =>
          obtain rfl := (Prod.mk.inj (Option.some.inj found)).1
          obtain ⟨path, listed⟩ := getPushConn_listed request
          obtain ⟨publisher, known, media⟩ := inPhase.registry path id listed
          rw [getPushConn_publisher request] at known
          obtain rfl := Option.some.inj known
          exact media
      · cases found
  | _ => cases found

/-- **Every event leaves publishers bare in their handshake.** -/
theorem BareInHandshake.step (bare : server.BareInHandshake) (inPhase : server.InPhase)
    {event : LiveEvent} (made : server.step build event = .ok next) : next.BareInHandshake := by
  intro id publisher there callback
  rcases step_publisher made there with
    ⟨-, connectionName, unset, connectPack, releasePack, -, rfl⟩ | ⟨earlier, known, changes⟩
  · exact ⟨rfl, rfl⟩
  · cases changes with
    | stays => exact bare id publisher known callback
    | reads read =>
        have before : earlier.newMessageCallback = .onConnectionShakeHand := by
          cases before : earlier.newMessageCallback with
          | onConnectionShakeHand => rfl
          | onBodyData =>
              have media := (Publisher.onReadable_inPhase
                (inPhase.publishers id earlier known) read).media.mpr (.inl before)
              rw [callback] at media
              cases media
        exact (bare id earlier known before).read before read
    | closes =>
        obtain ⟨connection, phase⟩ := bare id earlier known callback
        exact ⟨connection, phase⟩
    | attaches found added =>
        rw [inPhase.attached_media found] at callback
        cases callback
    | detaches connectionName =>
        obtain ⟨connection, phase⟩ := bare id earlier known callback
        refine ⟨?_, phase⟩
        rw [connection]
        rfl

theorem bareInHandshake_run {events : List LiveEvent}
    (reached : (LiveServer.machine build).run (.ok .empty) events = .ok server) :
    server.InPhase ∧ server.BareInHandshake := by
  have preserved (before : LiveServer) (event : LiveEvent) (after : LiveServer)
      (both : before.InPhase ∧ before.BareInHandshake)
      (made : before.step build event = .ok after) : after.InPhase ∧ after.BareInHandshake :=
    ⟨both.1.step made, both.2.step both.1 made⟩
  refine Machine.faulting_invariant preserved ⟨inPhase_empty, ?_⟩ reached
  intro id publisher absent
  cases absent

end LiveServer

/-! ## The servers without their viewers -/

namespace PullServer

variable {build : Build} {id : Nat} {state next start : PullServer} {viewer : Bytes}

/-- What an event is to the servers. -/
def heard (state : PullServer) (event : PullEvent) : List LiveEvent :=
  if state.isClosed event then []
  else
    match event with
    | .loop event => [event]
    | .sendFails _ => []

/-- **The servers do not notice the connections of the viewers.** -/
theorem refines_live (build : Build) :
    Machine.Refines (PullServer.step build) (LiveServer.step build) heard
      (fun state live => state.live = live) where
  matched {state event next live} same made := by
    subst same
    unfold heard
    by_cases closed : state.isClosed event = true
    · rw [if_pos closed]
      have ignored : state.step build event = .ok state := by
        unfold PullServer.step
        rw [if_pos closed]
      obtain rfl := Except.ok.inj (ignored.symm.trans made)
      exact Machine.matched_nil rfl
    · rw [if_neg closed]
      rw [Bool.not_eq_true] at closed
      cases event with
      | sendFails changed =>
          have used : state.usesDestroyed (.sendFails changed) = false := rfl
          unfold PullServer.step at made
          rw [closed, used, if_neg (by simp), if_neg (by simp)] at made
          obtain rfl := Except.ok.inj made
          exact Machine.matched_nil rfl
      | loop event =>
          cases event with
          | clientMessage reader data unset =>
              rw [step_clientMessage closed, onClientMessage] at made
              cases found : state.live.getPushConn data with
              | error fault =>
                  rw [found] at made
                  cases made
              | ok answer =>
                  cases stepped : state.live.onClientMessage build reader data unset with
                  | error fault =>
                      simp only [found, stepped, bind, Except.bind] at made
                      cases made
                  | ok live =>
                      simp only [found, stepped, bind, Except.bind] at made
                      obtain rfl := Except.ok.inj made
                      exact Machine.matched_singleton stepped rfl
          | clientClose reader =>
              obtain rfl := step_clientClose closed made
              exact Machine.matched_singleton rfl rfl
          | connect newId name unset connectPack releasePack =>
              obtain ⟨live, stepped, rfl⟩ := step_fromPublisher (by exact trivial) made
              exact Machine.matched_singleton stepped rfl
          | readable reader data environment =>
              obtain ⟨live, stepped, rfl⟩ := step_fromPublisher (by exact trivial) made
              exact Machine.matched_singleton stepped rfl
          | close closing =>
              obtain ⟨live, stepped, rfl⟩ := step_fromPublisher (by exact trivial) made
              exact Machine.matched_singleton stepped rfl

/-- The calls of the loops. -/
def calls (events : List PullEvent) : List LiveEvent :=
  events.filterMap fun
    | .loop event => some event
    | .sendFails _ => none

/-- What the servers hear of a run: calls of its loops, and all reads among them. -/
theorem heard_run {events : List PullEvent}
    (ran : (PullServer.machine build).run (.ok start) events = .ok state) :
    (∀ event ∈ (PullServer.machine build).emitted (Machine.ofOk heard) (.ok start) events,
        .loop event ∈ events) ∧
      readsOf id ((PullServer.machine build).emitted (Machine.ofOk heard) (.ok start) events) =
        readsOf id (calls events) := by
  induction events using List.reverseRecOn generalizing state with
  | nil =>
      rw [Machine.emitted]
      exact ⟨List.forall_mem_nil _, rfl⟩
  | append_singleton events event ih =>
      rw [machine, Machine.faulting_run_concat] at ran
      cases earlier : (Machine.faulting (PullServer.step build)).run (.ok start) events with
      | error fault =>
          rw [earlier] at ran
          cases ran
      | ok before =>
          obtain ⟨inside, reads⟩ := ih earlier
          rw [Machine.emitted_concat, machine, earlier, Machine.ofOk]
          rw [machine] at inside reads
          refine ⟨fun heardOne there => ?_, ?_⟩
          · rcases List.mem_append.mp there with there | there
            · exact List.mem_append_left _ (inside heardOne there)
            · refine List.mem_append_right _ ?_
              unfold heard at there
              split at there
              · cases there
              · cases event with
                | sendFails changed => cases there
                | loop event => simpa using there
          · rw [calls, List.filterMap_append, ← calls, readsOf, List.filterMap_append, ← readsOf,
              reads, readsOf, readsOf, List.filterMap_append]
            refine congrArg _ ?_
            unfold heard
            cases event with
            | sendFails changed =>
                split <;> rfl
            | loop event =>
                cases event with
                | clientMessage | clientClose => split <;> rfl
                | connect | readable | close => rfl

/-! ## What a connected viewer did -/

/-- What an event leaves of a viewer that is connected behind it, when it is not attached to the
publisher. -/
def Stays (id : Nat) (viewer : Bytes) (state next : PullServer) : Prop :=
  (state.viewers viewer).connectionStatus = .connected ∧
    ((next.viewers viewer).attachments = (state.viewers viewer).attachments ∨
      ∃ other, other ≠ id ∧
        (next.viewers viewer).attachments = (state.viewers viewer).attachments ++ [other])

/-- What comes from a publisher leaves the viewers to what they are sent. -/
theorem stays_fromPublisher {event : LiveEvent} (kind : FromPublisher event)
    (made : state.step build (.loop event) = .ok next)
    (connected : (next.viewers viewer).connectionStatus = .connected) :
    Stays id viewer state next := by
  obtain ⟨live, -, rfl⟩ := step_fromPublisher kind made
  rw [deliver, Viewer.send_connectionStatus] at connected
  exact ⟨connected, .inl (Viewer.send_attachments _ _)⟩

/-- A viewer is shut down; another one is connected behind that. -/
theorem stays_shutdown {changed : Bytes}
    (connected : ((state.setViewer changed
      (state.viewers changed).shutdown).viewers viewer).connectionStatus = .connected) :
    Stays id viewer state (state.setViewer changed (state.viewers changed).shutdown) := by
  rw [setViewer_viewers] at connected
  split at connected
  · exact absurd connected (Viewer.shutdown_not_connected _)
  · next other =>
      refine ⟨connected, .inl ?_⟩
      rw [setViewer_viewers, if_neg other]

/-- **What a connected viewer did.** An event attaches it to the publisher, or the publisher does
not see it join or leave. -/
theorem seenBy_viewer {event : PullEvent} (made : state.step build event = .ok next)
    (connected : (next.viewers viewer).connectionStatus = .connected) :
    (∃ unset, seenBy id state event = [.addClientConnection unset viewer] ∧
        (next.viewers viewer).attachments = (state.viewers viewer).attachments ++ [id]) ∨
      (∀ seen ∈ seenBy id state event, seen.LeavesAlone viewer) ∧ Stays id viewer state next := by
  unfold seenBy
  by_cases closed : state.isClosed event = true
  · rw [if_pos closed]
    have ignored : state.step build event = .ok state := by
      unfold PullServer.step
      rw [if_pos closed]
    obtain rfl := Except.ok.inj (ignored.symm.trans made)
    exact .inr ⟨List.forall_mem_nil _, connected, .inl rfl⟩
  · rw [if_neg closed]
    rw [Bool.not_eq_true] at closed
    cases event with
    | sendFails changed =>
        refine .inr ⟨List.forall_mem_nil _, ?_⟩
        cases step_becomes made with
        | ignores => exact ⟨connected, .inl rfl⟩
        | shutsDown => exact stays_shutdown connected
    | loop event =>
        cases event with
        | connect newId name unset connectPack releasePack =>
            have stays := @stays_fromPublisher build id state next viewer _ (by exact trivial) made
              connected
            exact .inr ⟨List.forall_mem_nil _, stays⟩
        | readable reader data environment =>
            refine .inr ⟨?_, stays_fromPublisher (by exact trivial) made connected⟩
            dsimp only
            split
            · exact List.forall_mem_singleton.mpr trivial
            · exact List.forall_mem_nil _
        | close closing =>
            have stays := @stays_fromPublisher build id state next viewer _ (by exact trivial) made
              connected
            exact .inr ⟨List.forall_mem_nil _, stays⟩
        | clientClose reader =>
            obtain rfl := step_clientClose closed made
            have other : viewer ≠ reader := by
              rintro rfl
              have gone : ((state.onClose viewer).viewers viewer).connectionStatus =
                  .disconnected := by
                rw [onClose]
                dsimp only
                rw [setViewer_viewers, if_pos rfl]
                rfl
              rw [gone] at connected
              cases connected
            obtain ⟨attachments, -, before⟩ := onClose_viewers state reader viewer
            refine .inr ⟨?_, before connected, .inl attachments⟩
            dsimp only
            split
            · exact List.forall_mem_singleton.mpr (Ne.symm other)
            · exact List.forall_mem_nil _
        | clientMessage reader data unset =>
            dsimp only
            rw [step_clientMessage closed] at made
            cases found : state.live.getPushConn data with
            | error fault =>
                rw [onClientMessage, found] at made
                cases made
            | ok answer =>
                cases answer with
                | none =>
                    rw [onClientMessage_refuses found] at made
                    obtain rfl := Except.ok.inj made
                    exact .inr ⟨List.forall_mem_nil _, stays_shutdown connected⟩
                | some entry =>
                    obtain ⟨other, publisher⟩ := entry
                    rw [onClientMessage_attaches found] at made
                    cases added : publisher.pushConnection.addClientConnection build unset
                        (.new reader) with
                    | error fault =>
                        rw [added] at made
                        cases made
                    | ok both =>
                        rw [added] at made
                        obtain rfl := Except.ok.inj made
                        have viewers := attach_viewers state reader viewer other publisher both.1
                          both.2
                        rw [viewers] at connected
                        by_cases own : viewer = reader
                        · subst own
                          rw [if_pos rfl] at connected viewers
                          rw [Viewer.send_connectionStatus, Viewer.record_connectionStatus]
                            at connected
                          have joined := congrArg Viewer.attachments viewers
                          rw [Viewer.attach_attachments] at joined
                          dsimp only
                          by_cases here : other = id
                          · subst here
                            rw [if_pos rfl]
                            exact .inl ⟨unset, rfl, joined⟩
                          · rw [if_neg here]
                            exact .inr ⟨List.forall_mem_nil _, connected,
                              .inr ⟨other, here, joined⟩⟩
                        · rw [if_neg own] at connected viewers
                          refine .inr ⟨?_, connected, .inl (congrArg Viewer.attachments viewers)⟩
                          dsimp only
                          split
                          · exact List.forall_mem_singleton.mpr (Ne.symm own)
                          · exact List.forall_mem_nil _

/-- **A viewer that was attached once, to this publisher, and is connected** has joined its
broadcast once, and stayed. -/
theorem run_joins (fresh : (start.viewers viewer).attachments = []) {events : List PullEvent}
    (ran : (PullServer.machine build).run (.ok start) events = .ok state)
    (attached : (state.viewers viewer).attachments = [id])
    (connected : (state.viewers viewer).connectionStatus = .connected) :
    ∃ before unset after,
      (PullServer.machine build).emitted (Machine.ofOk (seenBy id)) (.ok start) events =
        before ++ .addClientConnection unset viewer :: after ∧
      ∀ event ∈ after, event.LeavesAlone viewer := by
  induction events using List.reverseRecOn generalizing state with
  | nil =>
      obtain rfl := Except.ok.inj ran
      rw [fresh] at attached
      cases attached
  | append_singleton events event ih =>
      rw [machine, Machine.faulting_run_concat] at ran
      cases earlier : (Machine.faulting (PullServer.step build)).run (.ok start) events with
      | error fault =>
          rw [earlier] at ran
          cases ran
      | ok between =>
          rw [earlier] at ran
          rw [Machine.emitted_concat, machine, earlier, Machine.ofOk]
          rcases @seenBy_viewer build id between state viewer event ran connected with
            ⟨unset, seen, joined⟩ | ⟨alone, stayed, same | ⟨other, away, joined⟩⟩
          · rw [seen]
            exact ⟨_, unset, [], rfl, List.forall_mem_nil _⟩
          · obtain ⟨before, unset, after, split, stays⟩ := ih earlier (same ▸ attached) stayed
            rw [machine] at split
            refine ⟨before, unset, after ++ seenBy id between event, ?_, ?_⟩
            · rw [split, List.append_assoc, List.cons_append]
            · exact List.forall_mem_append.mpr ⟨stays, alone⟩
          · rw [attached] at joined
            exact absurd (last_of_concat joined.symm).2 away

/-- What a viewer was attached to stays, and a connected viewer was connected before. -/
theorem Serving.grows (serving : state.Serving viewer) {event : PullEvent}
    (made : state.step build event = .ok next) :
    (state.viewers viewer).attachments <+: (next.viewers viewer).attachments ∧
      ((next.viewers viewer).connectionStatus = .connected →
        (state.viewers viewer).connectionStatus = .connected) := by
  have received := serving.receives made
  generalize next.viewers viewer = later at received ⊢
  cases received with
  | nothing attachments sent status => exact ⟨attachments ▸ List.prefix_rfl, status⟩
  | tags chunks attached =>
      rw [Viewer.send_attachments, Viewer.send_connectionStatus]
      exact ⟨List.prefix_rfl, id⟩
  | header opened found buffer starts =>
      rw [Viewer.attach_attachments, Viewer.send_connectionStatus, Viewer.record_connectionStatus]
      exact ⟨List.prefix_append _ _, id⟩

/-- A viewer that was attached once, to a publisher, and is connected was not attached to anyone
while nobody was to the publisher. -/
theorem fresh_of_bare {publisher : Publisher} (bare : publisher.Bare)
    {whole events : List PullEvent}
    (reached : (PullServer.machine build).run (.ok .empty) whole = .ok start)
    (known : start.live.publishers id = some publisher)
    (ran : (PullServer.machine build).run (.ok start) events = .ok state)
    (attached : (state.viewers viewer).attachments = [id])
    (connected : (state.viewers viewer).connectionStatus = .connected) :
    (start.viewers viewer).attachments = [] := by
  have serving : start.Serving viewer :=
    Machine.faulting_invariant (fun _ _ _ serving made => serving.step made) serving_empty reached
  obtain ⟨-, grows, before⟩ := @Machine.faulting_invariant _ _ (fun later : PullServer =>
      later.Serving viewer ∧
        (start.viewers viewer).attachments <+: (later.viewers viewer).attachments ∧
        ((later.viewers viewer).connectionStatus = .connected →
          (start.viewers viewer).connectionStatus = .connected)) _ _
    (fun between event later ⟨serving, grew, before⟩ made =>
      ⟨serving.step made, grew.trans (serving.grows made).1,
        fun connected => before ((serving.grows made).2 connected)⟩)
    _ _ ⟨serving, List.prefix_rfl, fun connected => connected⟩ _ ran
  rw [attached] at grows
  rcases List.prefix_cons_iff.mp grows with none | ⟨rest, one, -⟩
  · exact none
  · have client := serving.attached.stays (by rw [before connected]; exact nofun) id
      (by rw [one]; exact List.mem_cons_self)
    rw [LiveServer.hasClient_of_known known, bare.connection] at client
    exact absurd rfl client

end PullServer

/-! ## The publication -/

open PullServer Broadcast ChunkDecoder ChunkedTransfer

/-- A publisher connects and performs its handshake, up to a read that leaves nothing of it
behind, while the others do what they like. -/
structure Performs (build : Build)
    (handshake : Handshake build (RtmpCodec.initialChunkSize build)) (id : Nat)
    (earlier start : PullServer) : Prop where
  free : earlier.live.publishers id = none
  shakes : ∃ connectionName unset connectPack releasePack during data environment,
    UnsetMembers.readChunkSize unset = 0 ∧ .loop (.close id) ∉ during ∧
    (PullServer.machine build).run (.ok earlier)
      (.loop (.connect id connectionName unset connectPack releasePack) ::
        (during ++ [.loop (.readable id data environment)])) = .ok start ∧
    handshake.CutInto (readsOf id (calls during) ++ [(data, environment)]) ∧
    handshake.leftBehind handshake.pieces.length
      ((readsOf id (calls during) ++ [(data, environment)]).map Prod.fst) = []

/-- What comes in is the beginning of a stream of messages on one chunk stream, the first of
which complete the sequence headers. -/
structure SendsMessages (build : Build) (chunkSize : Nat) (csid : UInt8)
    (headers media : List SentMessage) (received : Bytes) : Prop where
  oneByte : 2 ≤ csid ∧ csid ≤ 63
  compressed : WellCompressed none (headers ++ media)
  completes : CompletesHeaders build headers
  part : received <+: encodeMessages chunkSize csid (headers ++ media)

section

variable {build : Build} {handshake : Handshake build (RtmpCodec.initialChunkSize build)}
  {connect : ConnectCommand} {release : ReleaseCommand} {id : Nat} {earlier start : PullServer}
  {before : List PullEvent}

/-- **Behind its handshake** a publisher is in its media phase, its connection is as the
constructor leaves it but for the manager, and its decoder is ready for media. -/
theorem Performs.publisher (performs : Performs build handshake id earlier start)
    (sends : handshake.Sends connect release)
    (arrived : (PullServer.machine build).run (.ok .empty) before = .ok earlier) :
    ∃ events publisher, (PullServer.machine build).run (.ok .empty) events = .ok start ∧
      start.live.publishers id = some publisher ∧
      publisher.newMessageCallback = .onBodyData ∧ publisher.recvBuffer = [] ∧ publisher.Bare ∧
      publisher.pushConnection.rtmpManager.rtmpCodec.toChunkDecoder.Ready
        (RtmpCodec.initialChunkSize build) none := by
  obtain ⟨free, connectionName, unset, connectPack, releasePack, during, data, environment, atStart,
    stays, shaken, cutInto, nothing⟩ := performs
  have whole : (PullServer.machine build).run (.ok .empty)
      (before ++ .loop (.connect id connectionName unset connectPack releasePack) ::
        (during ++ [.loop (.readable id data environment)])) = .ok start := by
    rw [Machine.run_append, arrived]
    exact shaken
  rw [← List.cons_append, PullServer.machine, Machine.faulting_run_concat] at shaken
  cases ran : (Machine.faulting (PullServer.step build)).run (.ok earlier)
      (.loop (.connect id connectionName unset connectPack releasePack) :: during) with
  | error fault =>
      rw [ran] at shaken
      cases shaken
  | ok waiting =>
      rw [ran] at shaken
      -- what the servers hear up to the last read
      obtain ⟨live, heard, rfl⟩ := (refines_live build).run rfl ran
      obtain ⟨inside, reads⟩ := @heard_run build id waiting earlier _ ran
      have opened : LiveEvent.close id ∉ (PullServer.machine build).emitted
          (Machine.ofOk PullServer.heard)
          ((PullServer.machine build).step (.ok earlier)
            (.loop (.connect id connectionName unset connectPack releasePack))) during := by
        intro there
        rcases List.mem_cons.mp (inside _ (List.mem_cons_of_mem _ there)) with same | called
        · cases same
        · exact stays called
      have bytes : readsOf id ((PullServer.machine build).emitted (Machine.ofOk PullServer.heard)
          ((PullServer.machine build).step (.ok earlier)
            (.loop (.connect id connectionName unset connectPack releasePack))) during) =
          readsOf id (calls during) := reads
      rw [← bytes] at cutInto nothing
      obtain ⟨manager, route, publisher, -, kept, known, inHandshake⟩ :=
        connect_inHandshake sends atStart free heard opened cutInto.init
      -- the last read
      obtain ⟨outcome, read, further, -⟩ := read_inHandshake inHandshake kept sends cutInto
      rw [Handshake.leftBehind_eq] at nothing
      obtain ⟨ready, unread⟩ := kept.finished further.reached nothing
      obtain ⟨live, stepped, rfl⟩ := step_fromPublisher (by exact trivial) shaken
      obtain ⟨again, read', publishers, -⟩ := LiveServer.onReadable_outcome known stepped
      obtain rfl := Except.ok.inj (read.symm.trans read')
      have callback := callback_inHandshake inHandshake kept cutInto
      have until_here : (PullServer.machine build).run (.ok .empty) (before ++
          .loop (.connect id connectionName unset connectPack releasePack) :: during) =
            .ok waiting := by
        rw [Machine.run_append, arrived]
        exact ran
      obtain ⟨steps, reached⟩ := live_run until_here
      have bare := (bareInHandshake_run reached).2 id publisher known callback
      refine ⟨_, outcome.publisher, whole, ?_, further.media.mpr nothing, unread,
        bare.read callback read, ready⟩
      rw [deliver, publishers, Function.update_self]

end

/-- **From a publisher's connection to what a viewer is sent.** A publisher connects to the
servers in any state that they reach, and performs its handshake while the others do what they
like. Then messages on one chunk stream come from it, in any reads that deliver, and anything else
may happen. A viewer that has been attached once, to this publisher, and is still connected has
been handed the response header and HTTP chunks. The chunks read back, and their data splits as
FLV into tags: a script, a video and perhaps an audio message first, and then one tag for each
message delivered behind the join, in order, with its type, its size and its body, and with the
time of the tag before it plus the timestamp of the message. -/
theorem publication_reaches_viewer {build : Build}
    {handshake : Handshake build (RtmpCodec.initialChunkSize build)} {connect : ConnectCommand}
    {release : ReleaseCommand} (sends : handshake.Sends connect release) {id : Nat}
    {earlier start state : PullServer} {before events : List PullEvent}
    (arrived : (PullServer.machine build).run (.ok .empty) before = .ok earlier)
    (performs : Performs build handshake id earlier start)
    {viewer : Bytes} (ran : (PullServer.machine build).run (.ok start) events = .ok state)
    (attached : (state.viewers viewer).attachments = [id])
    (connected : (state.viewers viewer).connectionStatus = .connected)
    {csid : UInt8} {headers media : List SentMessage}
    (messages : SendsMessages build (RtmpCodec.initialChunkSize build) csid headers media
      (reads ((PullServer.machine build).emitted (Machine.ofOk (seenBy id)) (.ok start)
        events)).flatten)
    (delivers : ∀ publisher, start.live.publishers id = some publisher → ∀ part data,
      part ++ [data] <+: reads ((PullServer.machine build).emitted (Machine.ofOk (seenBy id))
        (.ok start) events) →
      CallDelivers (RtmpCodec.initialChunkSize build) csid (headers ++ media) headers.length
        ((RtmpManager.delivery build).feedAll (publisher.pushConnection.rtmpManager, []) part).1
        part.flatten.length data) :
    ∃ publisher joined unset after pieces items headerTags liveTags time,
      start.live.publishers id = some publisher ∧
      (PullServer.machine build).emitted (Machine.ofOk (seenBy id)) (.ok start) events =
        joined ++ .addClientConnection unset viewer :: after ∧
      (state.viewers viewer).sent.flatten =
        HttpPullConnection.responseHeader ++ pieces.flatMap encodeChunk ∧
      Reader.readToEnd decodeChunk (pieces.flatMap encodeChunk) = some pieces ∧
      splitFlv pieces.flatten = some (FlvHeader.defaultHeader, items) ∧
      items.map FlvItem.tag = headerTags ++ liveTags ∧
      ShowsHeaders (headers ++ media) headerTags ∧
      Shows build time liveTags
        (((expected build publisher.pushConnection.rtmpManager (RtmpCodec.initialChunkSize build)
          csid headers media (joined ++ .addClientConnection unset viewer :: after)).drop
            (expected build publisher.pushConnection.rtmpManager
              (RtmpCodec.initialChunkSize build) csid headers media joined).length).map
          SentMessage.frame) := by
  obtain ⟨whole, publisher, reached, known, media_phase, unread, bare, ready⟩ :=
    performs.publisher sends arrived
  have fresh := fresh_of_bare bare reached known ran attached connected
  obtain ⟨joined, unset, after, split, stays⟩ := run_joins fresh ran attached connected
  -- the servers are the broadcast of the publisher
  obtain ⟨broadcast, later, made, -, -, -, receives⟩ := @servers_refine_broadcast build id viewer
    whole events start state publisher
    (.new publisher.pushConnection.connectionName publisher.pushConnection.rtmpManager) reached
    known media_phase ⟨bare.connection.symm, unread.symm⟩ fresh ran
  obtain ⟨stream, shown, -, all⟩ := receives attached
  -- and the broadcast hands the messages on
  rw [split] at made messages
  have comes : ReceivesMessages build publisher.pushConnection.rtmpManager
      (RtmpCodec.initialChunkSize build) csid headers media
      (reads (joined ++ .addClientConnection unset viewer :: after)).flatten :=
    { messages with ready := ready, phase := bare.phase }
  have delivered := delivers publisher known
  rw [split] at delivered
  obtain ⟨stream', pieces, items, headerTags, liveTags, time, same, sent, chunks, flv, tags,
    first, live⟩ := viewer_receives_messages build _ _ stays comes delivered made
  obtain rfl := Option.some.inj (shown.symm.trans same)
  exact ⟨publisher, joined, unset, after, pieces, items, headerTags, liveTags, time, known, split,
    (all connected).trans sent, chunks, flv, tags, first, live⟩

/-! ## A publication with one viewer -/

/-- A publisher performs its handshake in two reads. -/
def appShakes : List PullEvent :=
  .loop (.connect 0 [99] ⟨0, false, .zero, .zero⟩ .zero .zero) ::
    (appReads.map .loop ++ [.loop (.readable 0 appFromFcPublish openEnvironment)])

def roomB : RoomPath := ⟨[98], by decide, by decide, by decide, by decide⟩

/-- Its sequence headers and a frame come, a viewer requests `/b`, and another frame comes. -/
def appViewed : List PullEvent :=
  [.loop (.readable 0 (encodeMessages 4096 4 (longHeaders ++ oneFrame)) openEnvironment),
    .loop (.clientMessage [118] (requestLine roomB false) ⟨0, 0, 0⟩),
    .loop (.readable 0 (encodeMessages 4096 4 nextFrame) openEnvironment)]

/-- What the publisher reads behind its handshake. -/
def appMedia : List Bytes :=
  [encodeMessages 4096 4 (longHeaders ++ oneFrame), encodeMessages 4096 4 nextFrame]

theorem appShakes_performs {start : PullServer}
    (ran : (PullServer.machine .standard).run (.ok .empty) appShakes = .ok start) :
    Performs .standard appHandshake 0 .empty start where
  free := rfl
  shakes := ⟨[99], ⟨0, false, .zero, .zero⟩, .zero, .zero, appReads.map .loop, appFromFcPublish,
    openEnvironment, rfl, by simp [appReads], ran, appReads_cutInto, by decide +kernel⟩

/-- The two reads deliver. -/
theorem appMedia_delivers {manager : RtmpManager}
    (first : manager.rtmpCodec.decodeDataStatus = .parseFirstHeader)
    (second : ((RtmpManager.delivery .standard).feedAll (manager, [])
      [encodeMessages 4096 4 (longHeaders ++ oneFrame)]).1.1.rtmpCodec.decodeDataStatus =
        .parseDataPack) {part : List Bytes} {data : Bytes} (le : part ++ [data] <+: appMedia) :
    CallDelivers (RtmpCodec.initialChunkSize .standard) 4 (longHeaders ++ (oneFrame ++ nextFrame))
      longHeaders.length ((RtmpManager.delivery .standard).feedAll (manager, []) part).1
      part.flatten.length data := by
  cases part with
  | nil =>
      have same := (List.cons_prefix_cons.mp le).1
      simp only [CallDelivers, Consumer.feedAll, first, same]
      exact fun _ _ => by decide +kernel
  | cons one part =>
      obtain ⟨head, later⟩ := List.cons_prefix_cons.mp le
      obtain ⟨last, same⟩ := concat_prefix_singleton.mp later
      rw [head, last, same, CallDelivers, second]
      dsimp only
      decide +kernel

theorem publication_reaches_viewer_nextFrame :
    ∃ (start state : PullServer) (pieces : List Bytes) (items : List FlvItem),
      (PullServer.machine .standard).run (.ok .empty) appShakes = .ok start ∧
      (PullServer.machine .standard).run (.ok start) appViewed = .ok state ∧
      (state.viewers [118]).sent.flatten =
        HttpPullConnection.responseHeader ++ pieces.flatMap encodeChunk ∧
      splitFlv pieces.flatten = some (FlvHeader.defaultHeader, items) := by
  have checked : ((PullServer.machine .standard).run (.ok .empty) appShakes).toOption.any
      (fun start =>
        (start.live.publishers 0).any (fun publisher =>
          decide (publisher.pushConnection.rtmpManager.rtmpCodec.decodeDataStatus =
              .parseFirstHeader ∧
            ((RtmpManager.delivery .standard).feedAll (publisher.pushConnection.rtmpManager, [])
              [encodeMessages 4096 4 (longHeaders ++ oneFrame)]).1.1.rtmpCodec.decodeDataStatus =
                .parseDataPack)) &&
        decide (reads ((PullServer.machine .standard).emitted (Machine.ofOk (seenBy 0)) (.ok start)
          appViewed) = appMedia) &&
        ((PullServer.machine .standard).run (.ok start) appViewed).toOption.any (fun state =>
          decide ((state.viewers [118]).attachments = [0] ∧
            (state.viewers [118]).connectionStatus = .connected))) = true := by
    decide +kernel
  obtain ⟨start, shaken, checked⟩ := Machine.exists_of_any checked
  rw [Bool.and_eq_true, Bool.and_eq_true, decide_eq_true_eq] at checked
  obtain ⟨⟨phase, two⟩, checked⟩ := checked
  obtain ⟨state, ran, checked⟩ := Machine.exists_of_any checked
  obtain ⟨attached, connected⟩ := of_decide_eq_true checked
  have whole : (reads ((PullServer.machine .standard).emitted (Machine.ofOk (seenBy 0)) (.ok start)
      appViewed)).flatten = encodeMessages 4096 4 (longHeaders ++ (oneFrame ++ nextFrame)) := by
    rw [two, appMedia, List.flatten_cons, List.flatten_singleton, encodeMessages, encodeMessages,
      encodeMessages, ← List.flatMap_append, List.append_assoc]
  have messages : SendsMessages .standard (RtmpCodec.initialChunkSize .standard) 4 longHeaders
      (oneFrame ++ nextFrame) (reads ((PullServer.machine .standard).emitted
        (Machine.ofOk (seenBy 0)) (.ok start) appViewed)).flatten :=
    ⟨by decide, ⟨rfl, trivial, trivial, trivial, trivial, trivial⟩, completesHeaders_longHeaders,
      whole ▸ List.prefix_rfl⟩
  obtain ⟨publisher, -, -, -, pieces, items, -, -, -, -, -, sent, -, split, -⟩ :=
    @publication_reaches_viewer _ _ _ _ appHandshake_sends 0 _ _ _ [] _ rfl
      (appShakes_performs shaken) _ ran attached connected _ _ _ messages (by
        intro publisher known part data le
        rw [known, Option.any_some] at phase
        obtain ⟨first, second⟩ := of_decide_eq_true phase
        exact appMedia_delivers first second (two ▸ le))
  exact ⟨start, state, pieces, items, shaken, ran, sent, split⟩

end LiveBroadcast
