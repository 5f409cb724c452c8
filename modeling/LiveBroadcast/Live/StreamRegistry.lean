import LiveBroadcast.Foundation.Runs
import LiveBroadcast.Utils.Bytes

/-!
# The stream registry

`RtmpPushServer` keeps the publisher of each path in `rtmp_connection_map_`. A completed
handshake enters the connection under its path; a closed TCP connection erases the entry
under the connection's *name*.

`publishers` is what the registry is for: the last connection that completed a handshake for
a path, until that connection closes (`publishers_eq_some` says so in terms of the events).
Registry and purpose agree all along a run exactly when each close finds the connection to
be the publisher of the path that equals its name and of no other (`registry_tracks_iff`).
-/

set_option autoImplicit false

namespace LiveBroadcast

universe u

/-- `rtmp_connection_map_`: a `std::map` from paths to connections. -/
structure StreamRegistry (Connection : Type u) where
  rtmpConnectionMap : Bytes → Option Connection

namespace StreamRegistry

variable {Connection : Type u}

/-- The empty map. -/
def empty : StreamRegistry Connection := ⟨fun _ => none⟩

/-- `GetPushConnByUrl`. -/
def getPushConnByUrl (registry : StreamRegistry Connection) (url : Bytes) : Option Connection :=
  registry.rtmpConnectionMap url

/-- `OnShakeHandSuccess`, for a connection with this path. -/
def onShakeHandSuccess (registry : StreamRegistry Connection) (path : Bytes)
    (connection : Connection) : StreamRegistry Connection :=
  ⟨Function.update registry.rtmpConnectionMap path (some connection)⟩

/-- `RemoveRtmpPushConnection`, for a connection with this name. -/
def removeRtmpPushConnection (registry : StreamRegistry Connection) (connectionName : Bytes) :
    StreamRegistry Connection :=
  ⟨Function.update registry.rtmpConnectionMap connectionName none⟩

theorem getPushConnByUrl_onShakeHandSuccess (registry : StreamRegistry Connection)
    (path : Bytes) (connection : Connection) (url : Bytes) :
    (registry.onShakeHandSuccess path connection).getPushConnByUrl url =
      if url = path then some connection else registry.getPushConnByUrl url := by
  simp only [getPushConnByUrl, onShakeHandSuccess, Function.update_apply]

theorem getPushConnByUrl_removeRtmpPushConnection (registry : StreamRegistry Connection)
    (connectionName url : Bytes) :
    (registry.removeRtmpPushConnection connectionName).getPushConnByUrl url =
      if url = connectionName then none else registry.getPushConnByUrl url := by
  simp only [getPushConnByUrl, removeRtmpPushConnection, Function.update_apply]

end StreamRegistry

/-- What the registry is told. -/
inductive RegistryEvent (Connection : Type u) where
  /-- A connection completes its handshake for a path. -/
  | shakeHandSuccess (connection : Connection) (path : Bytes)
  /-- The TCP connection of a publisher closes. -/
  | close (connection : Connection)
  deriving DecidableEq, Repr

variable {Connection : Type u}

/-- The registry as a machine: a close reaches `RtmpPushServer::OnConnection`, which removes
by connection name. -/
def StreamRegistry.machine (getConnectionName : Connection → Bytes) :
    Machine (StreamRegistry Connection) (RegistryEvent Connection) where
  step registry
    | .shakeHandSuccess connection path => registry.onShakeHandSuccess path connection
    | .close connection => registry.removeRtmpPushConnection (getConnectionName connection)

/-! ## What the registry is for -/

/-- The connection is the last that completed a handshake for the path, and has not closed
since. -/
def IsPublisher (events : List (RegistryEvent Connection)) (path : Bytes)
    (connection : Connection) : Prop :=
  ∃ before after, events = before ++ .shakeHandSuccess connection path :: after ∧
    (∀ other, .shakeHandSuccess other path ∉ after) ∧ .close connection ∉ after

/-- The last event makes a publisher, or leaves one alone. -/
theorem isPublisher_concat {events : List (RegistryEvent Connection)}
    {event : RegistryEvent Connection} {path : Bytes} {connection : Connection} :
    IsPublisher (events ++ [event]) path connection ↔
      event = .shakeHandSuccess connection path ∨
        (IsPublisher events path connection ∧
          (∀ other, event ≠ .shakeHandSuccess other path) ∧ event ≠ .close connection) := by
  constructor
  · rintro ⟨before, after, shape, last, stays⟩
    rcases List.eq_nil_or_concat' after with rfl | ⟨after, final, rfl⟩
    · exact .inl (List.singleton_inj.mp (List.append_inj' shape rfl).2)
    · rw [← List.cons_append, ← List.append_assoc] at shape
      obtain ⟨rfl, same⟩ := List.append_inj' shape rfl
      obtain rfl := List.singleton_inj.mp same
      refine .inr ⟨⟨before, after, rfl, fun other seen => ?_, fun seen => ?_⟩, ?_, ?_⟩
      · exact last other (List.mem_append_left _ seen)
      · exact stays (List.mem_append_left _ seen)
      · rintro other rfl
        exact last other (by simp)
      · rintro rfl
        exact stays (by simp)
  · rintro (rfl | ⟨⟨before, after, rfl, last, stays⟩, unlike, open_⟩)
    · exact ⟨events, [], rfl, fun _ => List.not_mem_nil, List.not_mem_nil⟩
    · refine ⟨before, after ++ [event], by simp, fun other seen => ?_, fun seen => ?_⟩
      · rcases List.mem_append.mp seen with seen | seen
        · exact last other seen
        · exact unlike other (List.mem_singleton.mp seen).symm
      · rcases List.mem_append.mp seen with seen | seen
        · exact stays seen
        · exact open_ (List.mem_singleton.mp seen).symm

variable [DecidableEq Connection]

/-- The publisher of each path. -/
def publishers : Machine (Bytes → Option Connection) (RegistryEvent Connection) where
  step current
    | .shakeHandSuccess connection path => Function.update current path (some connection)
    | .close connection =>
        fun path => if current path = some connection then none else current path

theorem publishers_shakeHandSuccess (current : Bytes → Option Connection)
    (connection : Connection) (path : Bytes) :
    publishers.step current (.shakeHandSuccess connection path) =
      Function.update current path (some connection) := rfl

theorem publishers_close (current : Bytes → Option Connection) (connection : Connection)
    (path : Bytes) :
    publishers.step current (.close connection) path =
      if current path = some connection then none else current path := rfl

/-- **The publisher of a path, in terms of the events.** -/
theorem publishers_eq_some (events : List (RegistryEvent Connection)) (path : Bytes)
    (connection : Connection) :
    publishers.run (fun _ => none) events path = some connection ↔
      IsPublisher events path connection := by
  induction events using List.reverseRecOn generalizing connection with
  | nil =>
      refine ⟨(nomatch ·), ?_⟩
      rintro ⟨before, after, shape, -⟩
      simp at shape
  | append_singleton events event ih =>
      rw [Machine.run_append, isPublisher_concat, ← ih, Machine.run_cons, Machine.run_nil]
      cases event with
      | shakeHandSuccess newer other =>
          rw [publishers_shakeHandSuccess]
          by_cases same : path = other
          · subst same
            simp
          · simp [same, Ne.symm same]
      | close closed =>
          rw [publishers_close]
          by_cases mine : publishers.run (fun _ => none) events path = some closed
          · simp [mine]
          · simp only [mine, if_false, reduceCtorEq, false_or, ne_eq, not_false_eq_true,
              implies_true, true_and, RegistryEvent.close.injEq]
            refine ⟨fun found => ⟨found, ?_⟩, And.left⟩
            rintro rfl
            exact mine found

/-! ## When the registry tracks the publishers -/

/-- A close erases what it should: the closing connection is the publisher of the path that
equals its name, if that path has one, and of no other path. -/
def ClosesOwnName (getConnectionName : Connection → Bytes) (current : Bytes → Option Connection) :
    RegistryEvent Connection → Prop
  | .shakeHandSuccess _ _ => True
  | .close connection => ∀ path, current path = some connection ↔
      path = getConnectionName connection ∧ current path ≠ none

/-- Erasing by name and erasing the closed connection agree exactly when the connection
closes its own name. -/
theorem update_none_eq_iff (current : Bytes → Option Connection) (connection : Connection)
    (connectionName : Bytes) :
    Function.update current connectionName none =
        (fun path => if current path = some connection then none else current path) ↔
      ∀ path, current path = some connection ↔ path = connectionName ∧ current path ≠ none := by
  rw [funext_iff]
  refine forall_congr' fun path => ?_
  by_cases named : path = connectionName
  · subst named
    rw [Function.update_self]
    cases current path with
    | none => simp
    | some other =>
        by_cases mine : other = connection
        · simp [mine]
        · simp [mine]
  · rw [Function.update_of_ne named]
    by_cases mine : current path = some connection
    · simp [mine, named]
    · simp [mine, named]

/-- The registry and the publishers stay equal in exactly the steps that meet the
condition. -/
theorem registry_exact (getConnectionName : Connection → Bytes) :
    ((StreamRegistry.machine getConnectionName).prod publishers).Exact
      (fun state => ClosesOwnName getConnectionName state.2)
      (fun state => state.1.rtmpConnectionMap = state.2) where
  step := by
    rintro ⟨registry, current⟩ event same
    dsimp only at same
    subst same
    cases event with
    | shakeHandSuccess connection path => exact iff_of_true rfl trivial
    | close connection => exact update_none_eq_iff _ connection (getConnectionName connection)

/-- **The registry tracks live publishers exactly when closes meet the names they erase.**
All along a run `GetPushConnByUrl` returns, for every path, the last connection that
completed a handshake for it and has not closed, if and only if every close finds the
closing connection to be the publisher of the path that equals its connection name, when
that path has a publisher, and of no other path. -/
theorem registry_tracks_iff (getConnectionName : Connection → Bytes)
    (events : List (RegistryEvent Connection)) :
    (∀ before, before <+: events → ∀ path connection,
        ((StreamRegistry.machine getConnectionName).run .empty before).getPushConnByUrl path =
          some connection ↔ IsPublisher before path connection) ↔
      ∀ before connection, before ++ [.close connection] <+: events → ∀ path,
        IsPublisher before path connection ↔
          path = getConnectionName connection ∧ ∃ other, IsPublisher before path other := by
  have start : (StreamRegistry.empty : StreamRegistry Connection).rtmpConnectionMap =
      fun _ => none := rfl
  have tracks := @Machine.Exact.always_iff _ _ _ _ _ (registry_exact getConnectionName)
    (.empty, fun _ => none) start events
  rw [Machine.guarded_iff] at tracks
  simp only [Machine.Always, Machine.run_prod] at tracks
  refine Iff.trans (Iff.trans ?_ tracks) ?_
  · refine forall_congr' fun before => imp_congr_right fun _ => ?_
    simp only [← publishers_eq_some]
    rw [funext_iff]
    exact forall_congr' fun path => Option.ext_iff.symm
  · simp only [← publishers_eq_some, ← Option.ne_none_iff_exists']
    constructor
    · exact fun guarded before connection reached => guarded before (.close connection) reached
    · intro closes before event reached
      cases event with
      | shakeHandSuccess connection path => trivial
      | close connection => exact closes before connection reached

/-- **A closed publisher is still found.** It closes right after its handshake for the path
`a`, and its name is another. -/
theorem closed_publisher_found :
    let events : List (RegistryEvent Nat) := [.shakeHandSuccess 0 [97], .close 0]
    ((StreamRegistry.machine fun _ => [99]).run .empty events).getPushConnByUrl [97] = some 0 ∧
      ¬ IsPublisher events [97] 0 := by
  refine ⟨rfl, ?_⟩
  rw [← publishers_eq_some]
  decide

end LiveBroadcast
