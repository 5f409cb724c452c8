import LiveBroadcast.Live.HeaderReadiness
import LiveBroadcast.Live.PullServer

/-!
# Closed viewers

When a viewer's connection closes, its connection callback reaches the `HttpPullConnection`
that was made last, and through that one publisher, whose `OnConnectionClose` erases the
viewer from its map. An earlier request of the viewer may have found another publisher; its
map keeps the entry, with the closed connection, and every tag is still converted for it.

So closed viewers are forgotten exactly as long as the requests of each viewer, up to its
close, found one publisher, publishers that are destroyed by then not counted
(`closed_viewers_forgotten_iff`). Entries of other viewers are never touched.
-/

set_option autoImplicit false

namespace LiveBroadcast

namespace PullServer

/-- No publisher that is there has an entry for a closed viewer. -/
def ClosedForgotten (state : PullServer) : Prop :=
  ∀ connectionName, (state.viewers connectionName).connectionStatus = .disconnected →
    ∀ id, state.live.owned id = true → ¬ state.live.HasClient id connectionName

/-- If the event closes a viewer, its granted requests found the publisher of the last one
only, as far as publishers are still there. -/
def FoundOnePublisher (state : PullServer) : PullEvent → Prop
  | .loop (.clientClose connectionName) =>
      (state.viewers connectionName).connectionStatus ≠ .disconnected →
        ∀ last, (state.viewers connectionName).attachments.getLast? = some last →
          state.live.owned last = true →
            ∀ id ∈ (state.viewers connectionName).attachments,
              state.live.owned id = true → id = last
  | _ => True

variable {build : Build} {state next : PullServer}

theorem closedForgotten_empty : ClosedForgotten empty := by
  intro connectionName closed
  cases closed

/-! ## Events that close no viewer -/

/-- What closes no viewer, brings no entry for a closed one and gives no publisher an owner. -/
theorem ClosedForgotten.of_fewer (forgotten : state.ClosedForgotten)
    (closed : ∀ connectionName, (next.viewers connectionName).connectionStatus = .disconnected →
      (state.viewers connectionName).connectionStatus = .disconnected)
    (clients : ∀ connectionName,
      (state.viewers connectionName).connectionStatus = .disconnected →
        ∀ id, next.live.HasClient id connectionName → state.live.HasClient id connectionName)
    (owners : ∀ id connectionName, state.live.HasClient id connectionName →
      next.live.owned id = true → state.live.owned id = true) : next.ClosedForgotten := by
  intro connectionName gone id owned there
  have before := clients connectionName (closed connectionName gone) id there
  exact forgotten connectionName (closed connectionName gone) id
    (owners id connectionName before owned) before

theorem ClosedForgotten.shutdown (forgotten : state.ClosedForgotten) (changed : Bytes) :
    (state.setViewer changed (state.viewers changed).shutdown).ClosedForgotten := by
  refine forgotten.of_fewer (fun connectionName gone => ?_) (fun _ _ _ there => there)
    fun _ _ _ owned => owned
  rw [setViewer_viewers] at gone
  split at gone
  · next same =>
      rw [same]
      exact (Viewer.shutdown_disconnected_iff _).mp gone
  · exact gone

/-- An open viewer is attached. -/
theorem ClosedForgotten.attach (forgotten : state.ClosedForgotten) {joined data : Bytes}
    {unset : HeaderUnset} {id : Nat} {publisher : Publisher} {connection : RtmpPushConnection}
    {header : Bytes} (opened : (state.viewers joined).connectionStatus ≠ .disconnected)
    (found : state.live.getPushConn data = .ok (some (id, publisher)))
    (added : publisher.pushConnection.addClientConnection build unset (.new joined) =
      .ok (connection, header)) :
    (state.attach joined id publisher connection header).ClosedForgotten := by
  have known := LiveServer.getPushConn_publisher found
  refine forgotten.of_fewer (fun connectionName gone => ?_) (fun connectionName closed other => ?_)
    fun other _ _ owned => ?_
  · rw [attach_viewers] at gone
    split at gone
    · next same =>
        rw [same]
        simpa using gone
    · exact gone
  · rw [hasClient_attach known added]
    rintro (there | ⟨-, rfl⟩)
    · exact there
    · exact absurd closed opened
  · rwa [owned_attach state joined known] at owned

theorem ClosedForgotten.passesOn (forgotten : state.ClosedForgotten) {event : LiveEvent}
    {live : LiveServer} (kind : FromPublisher event)
    (used : state.usesDestroyed (.loop event) = false)
    (made : state.live.step build event = .ok live) : (state.deliver live).ClosedForgotten := by
  have usable (reader : Nat) (data : Bytes) (environment : ReadEnvironment)
      (reads : event = .readable reader data environment) (publisher : Publisher)
      (known : state.live.publishers reader = some publisher)
      (opened : publisher.connectionStatus ≠ .disconnected) :
      state.live.owned reader = true := by
    subst reads
    simpa [usesDestroyed, known, opened] using used
  refine forgotten.of_fewer (fun connectionName gone => ?_)
    (fun connectionName _ id => (LiveServer.hasClient_of_fromPublisher kind made id _).mp)
    fun id connectionName there owned => ?_
  · rwa [deliver, Viewer.send_connectionStatus] at gone
  · obtain ⟨publisher, known, -⟩ := there
    exact LiveServer.owned_of_fromPublisher kind usable made known owned

/-! ## A close -/

/-- **A close forgets the viewer** if its requests found one publisher. -/
theorem ClosedForgotten.close (forgotten : state.ClosedForgotten) {closed : Bytes}
    (attached : state.Attached closed)
    (opened : (state.viewers closed).connectionStatus ≠ .disconnected)
    (reached : ∀ id, state.live.closeConnectionCallback closed = some id →
      state.live.owned id = true)
    (one : state.FoundOnePublisher (.loop (.clientClose closed))) :
    (state.onClose closed).ClosedForgotten := by
  intro connectionName gone id owned there
  have still : state.live.owned id = true :=
    (LiveServer.owned_onClientClose closed id).symm.trans owned
  obtain ⟨before, kept⟩ := (LiveServer.hasClient_onClientClose closed id connectionName).mp there
  by_cases same : connectionName = closed
  · subst same
    have inside := attached.granted id before
    obtain ⟨last, final⟩ := Option.isSome_iff_exists.mp
      (List.getLast?_isSome.mpr (List.ne_nil_of_mem inside))
    have named := attached.callback.trans final
    have here := one opened last final (reached last named) id inside still
    exact kept ⟨rfl, here ▸ named⟩
  · have viewer : (state.onClose closed).viewers connectionName = state.viewers connectionName :=
      Function.update_of_ne same _ _
    rw [viewer] at gone
    exact forgotten connectionName gone id still before

/-- A close whose callback is there does come to pass. -/
theorem step_closes {closed : Bytes}
    (opened : (state.viewers closed).connectionStatus ≠ .disconnected)
    (reached : ∀ id, state.live.closeConnectionCallback closed = some id →
      state.live.owned id = true) :
    state.step build (.loop (.clientClose closed)) = .ok (state.onClose closed) := by
  have open_ : state.isClosed (.loop (.clientClose closed)) = false := by
    simp [isClosed, opened]
  have usable : state.usesDestroyed (.loop (.clientClose closed)) = false := by
    rw [usesDestroyed]
    cases named : state.live.closeConnectionCallback closed with
    | none => rfl
    | some id => simp [reached id named]
  unfold step
  simp only [open_, usable, Bool.false_eq_true, if_false]

/-- **The closes that forget a viewer** are those behind requests that found one publisher. -/
theorem ClosedForgotten.step_iff (forgotten : state.ClosedForgotten)
    (attached : ∀ connectionName, state.Attached connectionName) (event : PullEvent) :
    (∀ next, state.step build event = .ok next → next.ClosedForgotten) ↔
      state.FoundOnePublisher event := by
  constructor
  · intro keeps
    cases event with
    | sendFails other => trivial
    | loop event =>
        cases event with
        | clientClose closed =>
            intro opened last final lastOwned id inside owned
            have named := (attached closed).callback.trans final
            by_contra other
            have made := @step_closes build state closed opened fun found same => by
              obtain rfl := Option.some.inj (named.symm.trans same)
              exact lastOwned
            have gone : ((state.onClose closed).viewers closed).connectionStatus =
                .disconnected := by
              rw [onClose, setViewer_viewers, if_pos rfl]
              rfl
            refine keeps _ made closed gone id
              ((LiveServer.owned_onClientClose closed id).trans owned) ?_
            refine (LiveServer.hasClient_onClientClose closed id closed).mpr
              ⟨(attached closed).stays opened id inside, fun both => other ?_⟩
            exact Option.some.inj (both.2.symm.trans named)
        | _ => trivial
  · intro one next made
    cases step_becomes made with
    | ignores => exact forgotten
    | refuses found => exact forgotten.shutdown _
    | shutsDown changed => exact forgotten.shutdown changed
    | attaches joined data unset id publisher connection header opened found added =>
        exact forgotten.attach opened found added
    | closes closed opened reached => exact forgotten.close (attached closed) opened reached one
    | passesOn kind used stepped => exact forgotten.passesOn kind used stepped

/-- A close takes away no entry of another viewer. -/
theorem onClose_keeps_others {closed other : Bytes} (differ : other ≠ closed)
    (made : state.step build (.loop (.clientClose closed)) = .ok next) {id : Nat}
    (there : state.live.HasClient id other) : next.live.HasClient id other := by
  cases step_becomes made with
  | ignores => exact there
  | closes _ opened reached =>
      exact (LiveServer.hasClient_onClientClose closed id other).mpr
        ⟨there, fun both => differ both.1⟩
  | passesOn kind used stepped => exact kind.elim

end PullServer

open PullServer

/-- **Closed viewers are forgotten exactly as long as their requests found one publisher.** In
every run, with any requests of any viewers, publishers' traffic and closes: no publisher
that is there has an entry for a closed viewer, and no close takes away an entry of another
viewer, if and only if each viewer that closes was only granted requests that found the
publisher of the last one, publishers that are destroyed by then not counted. -/
theorem closed_viewers_forgotten_iff (build : Build) (events : List PullEvent) :
    ((∀ before, before <+: events → ∀ state,
          (PullServer.machine build).run (.ok .empty) before = .ok state →
            state.ClosedForgotten) ∧
        ∀ before closed, before ++ [.loop (.clientClose closed)] <+: events →
          ∀ state next, (PullServer.machine build).run (.ok .empty) before = .ok state →
            state.step build (.loop (.clientClose closed)) = .ok next →
              ∀ other, other ≠ closed → ∀ id, state.live.HasClient id other →
                next.live.HasClient id other) ↔
      ∀ before event, before ++ [event] <+: events → ∀ state,
        (PullServer.machine build).run (.ok .empty) before = .ok state →
          state.FoundOnePublisher event := by
  have others (before : List PullEvent) (closed : Bytes)
      (_ : before ++ [.loop (.clientClose closed)] <+: events) (state next : PullServer)
      (_ : (PullServer.machine build).run (.ok .empty) before = .ok state)
      (made : state.step build (.loop (.clientClose closed)) = .ok next) (other : Bytes)
      (differ : other ≠ closed) (id : Nat) (there : state.live.HasClient id other) :
      next.live.HasClient id other := onClose_keeps_others differ made there
  have attached (before : PullServer) (event : PullEvent) (after : PullServer)
      (kept : ∀ connectionName, before.Attached connectionName)
      (made : before.step build event = .ok after) (connectionName : Bytes) :
      after.Attached connectionName := (kept connectionName).step made
  have steps (state : PullServer) (event : PullEvent)
      (kept : ∀ connectionName, state.Attached connectionName)
      (holds : state.ClosedForgotten) :
      (∀ next, state.step build event = .ok next → next.ClosedForgotten) ↔
        state.FoundOnePublisher event := holds.step_iff kept event
  rw [and_iff_left others, PullServer.machine, Machine.faulting_always_iff attached steps
    (fun _ => attached_empty) closedForgotten_empty events]

/-- The handshake up to releaseStream for `rtmp://h/q`. -/
def otherHandshakeUpToRelease : Bytes :=
  List.replicate 3073 0 ++
    encodeMessages 4096 3 [plainSetChunkSize,
      plainMessage 20 [114, 116, 109, 112, 58, 47, 47, 104, 47, 113] (by decide),
      plainReleaseStream]

/-- Two publishers broadcast under `p` and `q`, a viewer asks for the one and then for the
other, and closes. -/
def twoPublishers : List PullEvent :=
  let environment : ReadEnvironment := ⟨none, fun _ => 0, 0⟩
  [LiveEvent.connect 0 [99] ⟨0, false, .zero, .zero⟩ .zero .zero,
    .readable 0 handshakeUpToRelease environment, .readable 0 handshakeFromFcPublish environment,
    .readable 0 (encodeMessages 4096 4 longHeaders) environment,
    .connect 1 [100] ⟨0, false, .zero, .zero⟩ .zero .zero,
    .readable 1 otherHandshakeUpToRelease environment,
    .readable 1 handshakeFromFcPublish environment,
    .readable 1 (encodeMessages 4096 4 longHeaders) environment, requestForP,
    .clientMessage [118] [71, 69, 84, 32, 47, 113, 32] ⟨0, 0, 0⟩, .clientClose [118]].map .loop

/-- **A closed viewer stays in the map of the first publisher**, which is there. -/
theorem closed_viewer_stays :
    ∃ state, (PullServer.machine .standard).run (.ok .empty) twoPublishers = .ok state ∧
      (state.viewers [118]).connectionStatus = .disconnected ∧ state.live.owned 0 = true ∧
      state.live.HasClient 0 [118] ∧ ¬ state.ClosedForgotten := by
  have stays : ((PullServer.machine .standard).run (.ok .empty) twoPublishers).toOption.any
      (fun state => decide ((state.viewers [118]).connectionStatus = .disconnected) &&
        (state.live.owned 0 && (state.live.publishers 0).any fun publisher =>
          (publisher.pushConnection.clientConnectionMap.lookup [118]).isSome)) = true := by
    decide +kernel
  obtain ⟨state, reached, checked⟩ := Machine.exists_of_any stays
  rw [Bool.and_eq_true, Bool.and_eq_true, decide_eq_true_eq] at checked
  obtain ⟨closed, owned, listed⟩ := checked
  obtain ⟨publisher, known, there⟩ := (Option.any_eq_true _ _).mp listed
  have entry : state.live.HasClient 0 [118] :=
    ⟨publisher, known, Option.isSome_iff_ne_none.mp there⟩
  exact ⟨state, reached, closed, owned, entry,
    fun forgotten => forgotten [118] closed 0 owned entry⟩

end LiveBroadcast
