import LiveBroadcast.Live.Authentication

/-!
# Who owns a publisher

An `RtmpPushConnection` is kept alive by shared pointers: the closure that handles its
handshake holds one, and `rtmp_connection_map_` one for each of its entries. When the
handshake succeeds, the connection is entered into the map and the closure is replaced by one
that captures the raw `this`. From then on the map entry is the only owner, and any other
connection may take it away: by completing a handshake for the same path, or by closing when
its name equals the path.

The connections run in different threads, so here the two halves of a success are separate
steps with anything in between. An open publisher with the raw closure has its owner in every
state of a run exactly when no step takes an entry away that is in use
(`raw_callback_owned_iff`). `simulates_step` connects this to the servers.
-/

set_option autoImplicit false

namespace LiveBroadcast

/-! ## Callback slots and map entries -/

/-- What `newmessage_callback_` of a publisher's connection holds: the closure with the shared
pointer, before and behind `OnShakeHandSuccess`, or the closure with the raw `this`. -/
inductive CallbackSlot where
  | shakeHand
  | registered (path : Bytes)
  | rawThis (path : Bytes)
  deriving DecidableEq, Repr

/-- The TCP connection of a publisher, as far as ownership is concerned. -/
structure PublisherSlot where
  connectionName : Bytes
  opened : Bool
  callback : CallbackSlot
  deriving DecidableEq, Repr

/-- The connections by number and the map. -/
structure Ownership where
  slots : Nat → Option PublisherSlot
  registry : StreamRegistry Nat

/-- A connection is made, its handshake succeeds, its callback is replaced, it closes. -/
inductive OwnershipEvent where
  | onConnection (id : Nat) (connectionName : Bytes)
  | onShakeHandSuccess (id : Nat) (path : Bytes)
  | setNewMessageCallback (id : Nat)
  | onClose (id : Nat)
  deriving DecidableEq, Repr

namespace Ownership

/-- No connection, and an empty map. -/
def empty : Ownership := ⟨fun _ => none, .empty⟩

def setSlot (state : Ownership) (id : Nat) (slot : PublisherSlot) : Ownership :=
  { state with slots := Function.update state.slots id (some slot) }

/-- `OnConnection` for a new connection: the closure is installed. -/
def onConnection (state : Ownership) (id : Nat) (connectionName : Bytes) : Ownership :=
  match state.slots id with
  | none => state.setSlot id ⟨connectionName, true, .shakeHand⟩
  | some _ => state

/-- The first half of a success: the connection is entered into the map. -/
def onShakeHandSuccess (state : Ownership) (id : Nat) (path : Bytes) : Ownership :=
  match state.slots id with
  | some ⟨connectionName, true, .shakeHand⟩ =>
      { state.setSlot id ⟨connectionName, true, .registered path⟩ with
        registry := state.registry.onShakeHandSuccess path id }
  | _ => state

/-- The second half: the closure is replaced. -/
def setNewMessageCallback (state : Ownership) (id : Nat) : Ownership :=
  match state.slots id with
  | some ⟨connectionName, opened, .registered path⟩ =>
      state.setSlot id ⟨connectionName, opened, .rawThis path⟩
  | _ => state

/-- The connection closes, and is removed by name. Its own thread is not between the halves of
a success then. -/
def onClose (state : Ownership) (id : Nat) : Ownership :=
  match state.slots id with
  | none => state
  | some ⟨_, _, .registered _⟩ => state
  | some slot =>
      { state.setSlot id { slot with opened := false } with
        registry := state.registry.removeRtmpPushConnection slot.connectionName }

end Ownership

/-- Ownership as a machine. -/
def ownership : Machine Ownership OwnershipEvent where
  step state
    | .onConnection id connectionName => state.onConnection id connectionName
    | .onShakeHandSuccess id path => state.onShakeHandSuccess id path
    | .setNewMessageCallback id => state.setNewMessageCallback id
    | .onClose id => state.onClose id

namespace Ownership

/-- Some map entry holds a shared pointer to the connection. -/
def HasEntry (state : Ownership) (id : Nat) : Prop :=
  ∃ path, state.registry.getPushConnByUrl path = some id

/-- The connection is open and its callback captures the raw `this`. -/
def InUse (state : Ownership) (id : Nat) : Prop :=
  ∃ connectionName path, state.slots id = some ⟨connectionName, true, .rawThis path⟩

/-- Every connection that is used through the raw `this` still has an owner. -/
def RawOwned (state : Ownership) : Prop := ∀ id, state.InUse id → state.HasEntry id

/-- The step takes no entry away that is in use: a success does not overwrite the entry of
another connection in use, the callback is replaced while the entry is still there, and a
close removes no entry of another connection in use. -/
def KeepsEntries (state : Ownership) : OwnershipEvent → Prop
  | .onConnection _ _ => True
  | .onShakeHandSuccess id path =>
      ∀ connectionName, state.slots id = some ⟨connectionName, true, .shakeHand⟩ →
        ∀ other, state.registry.getPushConnByUrl path = some other → ¬ state.InUse other
  | .setNewMessageCallback id =>
      ∀ connectionName path, state.slots id = some ⟨connectionName, true, .registered path⟩ →
        state.registry.getPushConnByUrl path = some id
  | .onClose id =>
      ∀ slot, state.slots id = some slot → (∀ path, slot.callback ≠ .registered path) →
        ∀ other, other ≠ id →
          state.registry.getPushConnByUrl slot.connectionName = some other → ¬ state.InUse other

/-- Entries are there for the path under which their connection was entered. -/
def Entered (state : Ownership) : Prop :=
  ∀ path id, state.registry.getPushConnByUrl path = some id →
    ∃ slot, state.slots id = some slot ∧
      (slot.callback = .registered path ∨ slot.callback = .rawThis path)

variable {state : Ownership}

theorem entered_empty : empty.Entered := by
  intro path id listed
  cases listed

theorem rawOwned_empty : empty.RawOwned := by
  rintro id ⟨connectionName, path, there⟩
  cases there

theorem setSlot_slots (state : Ownership) (id : Nat) (slot : PublisherSlot) (other : Nat) :
    (state.setSlot id slot).slots other = if other = id then some slot else state.slots other := by
  simp only [setSlot, Function.update_apply]

/-! ## What the steps do -/

/-- A new connection is not in use, and the others and the map stay. -/
theorem onConnection_cases (state : Ownership) (id : Nat) (connectionName : Bytes) :
    state.onConnection id connectionName = state ∨
      state.slots id = none ∧
        state.onConnection id connectionName =
          state.setSlot id ⟨connectionName, true, .shakeHand⟩ := by
  rw [onConnection]
  cases there : state.slots id with
  | none => exact .inr ⟨rfl, rfl⟩
  | some slot => exact .inl rfl

theorem onShakeHandSuccess_cases (state : Ownership) (id : Nat) (path : Bytes) :
    state.onShakeHandSuccess id path = state ∧
        (∀ connectionName, state.slots id ≠ some ⟨connectionName, true, .shakeHand⟩) ∨
      ∃ connectionName, state.slots id = some ⟨connectionName, true, .shakeHand⟩ ∧
        state.onShakeHandSuccess id path =
          { state.setSlot id ⟨connectionName, true, .registered path⟩ with
            registry := state.registry.onShakeHandSuccess path id } := by
  rw [onShakeHandSuccess]
  split
  · next connectionName there => exact .inr ⟨connectionName, there, rfl⟩
  · next other => exact .inl ⟨rfl, other⟩

theorem setNewMessageCallback_cases (state : Ownership) (id : Nat) :
    state.setNewMessageCallback id = state ∧
        (∀ connectionName opened path,
          state.slots id ≠ some ⟨connectionName, opened, .registered path⟩) ∨
      ∃ connectionName opened path,
        state.slots id = some ⟨connectionName, opened, .registered path⟩ ∧
        state.setNewMessageCallback id =
          state.setSlot id ⟨connectionName, opened, .rawThis path⟩ := by
  rw [setNewMessageCallback]
  split
  · next connectionName opened path there =>
      exact .inr ⟨connectionName, opened, path, there, rfl⟩
  · next other => exact .inl ⟨rfl, other⟩

theorem onClose_cases (state : Ownership) (id : Nat) :
    state.onClose id = state ∧
        (∀ slot, state.slots id = some slot → ∃ path, slot.callback = .registered path) ∨
      ∃ slot, state.slots id = some slot ∧ (∀ path, slot.callback ≠ .registered path) ∧
        state.onClose id =
          { state.setSlot id { slot with opened := false } with
            registry := state.registry.removeRtmpPushConnection slot.connectionName } := by
  rw [onClose]
  split
  · next gone =>
      refine .inl ⟨rfl, fun slot there => ?_⟩
      rw [gone] at there
      cases there
  · next connectionName opened path there =>
      refine .inl ⟨rfl, fun slot same => ?_⟩
      rw [there] at same
      obtain rfl := Option.some.inj same
      exact ⟨path, rfl⟩
  · next slot other there =>
      refine .inr ⟨slot, there, fun path registered => ?_, rfl⟩
      obtain ⟨connectionName, opened, callback⟩ := slot
      obtain rfl : callback = .registered path := registered
      exact other connectionName opened path rfl

/-! ## Entries -/

/-- An entry of a connection in use is under the path of its slot. -/
theorem Entered.path_eq (entered : state.Entered) {id : Nat} {connectionName path url : Bytes}
    {opened : Bool} {callback : CallbackSlot}
    (there : state.slots id = some ⟨connectionName, opened, callback⟩)
    (is_path : callback = .registered path ∨ callback = .rawThis path)
    (listed : state.registry.getPushConnByUrl url = some id) : url = path := by
  obtain ⟨slot, same, under⟩ := entered url id listed
  rw [there] at same
  obtain rfl := Option.some.inj same
  rcases is_path with rfl | rfl
  · rcases under with eq | eq
    · exact (CallbackSlot.registered.inj eq).symm
    · cases eq
  · rcases under with eq | eq
    · cases eq
    · exact (CallbackSlot.rawThis.inj eq).symm

theorem Entered.onConnection (entered : state.Entered) (id : Nat) (connectionName : Bytes) :
    (state.onConnection id connectionName).Entered := by
  rcases onConnection_cases state id connectionName with same | ⟨fresh, after⟩
  · rw [same]
    exact entered
  · rw [after]
    intro path other listed
    obtain ⟨slot, there, under⟩ := entered path other listed
    refine ⟨slot, ?_, under⟩
    rw [setSlot_slots, if_neg ?_, there]
    rintro rfl
    rw [fresh] at there
    cases there

/-- The new entry is under the path of its slot. -/
theorem Entered.onShakeHandSuccess (entered : state.Entered) (id : Nat) (path : Bytes) :
    (state.onShakeHandSuccess id path).Entered := by
  rcases onShakeHandSuccess_cases state id path with ⟨same, -⟩ | ⟨connectionName, there, after⟩
  · rw [same]
    exact entered
  · rw [after]
    intro url other listed
    rw [StreamRegistry.getPushConnByUrl_onShakeHandSuccess] at listed
    dsimp only
    rw [setSlot_slots]
    by_cases here : other = id
    · rw [if_pos here]
      by_cases same : url = path
      · exact ⟨_, rfl, .inl (by rw [same])⟩
      · rw [if_neg same] at listed
        obtain ⟨slot, known, under⟩ := entered url other listed
        rw [here, there] at known
        obtain rfl := Option.some.inj known
        rcases under with impossible | impossible <;> cases impossible
    · rw [if_neg here]
      by_cases same : url = path
      · rw [if_pos same] at listed
        exact absurd (Option.some.inj listed).symm here
      · rw [if_neg same] at listed
        exact entered url other listed

/-- The path stays in the slot. -/
theorem Entered.setNewMessageCallback (entered : state.Entered) (id : Nat) :
    (state.setNewMessageCallback id).Entered := by
  rcases setNewMessageCallback_cases state id with
    ⟨same, -⟩ | ⟨connectionName, opened, path, there, after⟩
  · rw [same]
    exact entered
  · rw [after]
    intro url other listed
    rw [setSlot_slots]
    by_cases here : other = id
    · subst here
      have same := entered.path_eq there (.inl rfl) listed
      rw [if_pos rfl]
      exact ⟨_, rfl, .inr (by rw [same])⟩
    · rw [if_neg here]
      exact entered url other listed

/-- The entries that stay are under their paths. -/
theorem Entered.onClose (entered : state.Entered) (id : Nat) : (state.onClose id).Entered := by
  rcases onClose_cases state id with ⟨same, -⟩ | ⟨slot, there, -, after⟩
  · rw [same]
    exact entered
  · rw [after]
    intro url other listed
    rw [StreamRegistry.getPushConnByUrl_removeRtmpPushConnection] at listed
    split at listed
    · cases listed
    · obtain ⟨found, known, under⟩ := entered url other listed
      dsimp only
      rw [setSlot_slots]
      by_cases here : other = id
      · subst here
        rw [there] at known
        obtain rfl := Option.some.inj known
        exact ⟨_, if_pos rfl, under⟩
      · exact ⟨found, (if_neg here).trans known, under⟩

/-- **Every step keeps the entries under their paths.** -/
theorem Entered.step (entered : state.Entered) (event : OwnershipEvent) :
    (ownership.step state event).Entered := by
  cases event with
  | onConnection id connectionName => exact entered.onConnection id connectionName
  | onShakeHandSuccess id path => exact entered.onShakeHandSuccess id path
  | setNewMessageCallback id => exact entered.setNewMessageCallback id
  | onClose id => exact entered.onClose id

/-! ## Owners -/

/-- A connection that is in use has a slot with the raw `this`. -/
theorem inUse_setSlot {id other : Nat} {slot : PublisherSlot} :
    (state.setSlot id slot).InUse other ↔
      if other = id then
        ∃ connectionName path, slot = ⟨connectionName, true, .rawThis path⟩
      else state.InUse other := by
  simp only [InUse, setSlot_slots]
  split
  · simp only [Option.some.injEq]
  · exact Iff.rfl

/-- A new connection is not in use. -/
theorem rawOwned_onConnection (owned : state.RawOwned) (id : Nat) (connectionName : Bytes) :
    (state.onConnection id connectionName).RawOwned := by
  rcases onConnection_cases state id connectionName with same | ⟨fresh, after⟩
  · rw [same]
    exact owned
  · rw [after]
    intro other inUse
    rw [inUse_setSlot] at inUse
    split at inUse
    · obtain ⟨_, _, impossible⟩ := inUse
      cases impossible
    · exact owned other inUse

/-- A success keeps owners if it overwrites no entry of another connection in use. -/
theorem rawOwned_onShakeHandSuccess_iff (entered : state.Entered) (owned : state.RawOwned)
    (id : Nat) (path : Bytes) :
    (state.onShakeHandSuccess id path).RawOwned ↔
      state.KeepsEntries (.onShakeHandSuccess id path) := by
  rcases onShakeHandSuccess_cases state id path with
    ⟨same, idle⟩ | ⟨connectionName, there, after⟩
  · rw [same]
    exact iff_of_true owned fun connectionName there => absurd there (idle connectionName)
  · rw [after]
    constructor
    · intro kept _ _ other listed inUse
      have differ : other ≠ id := by
        rintro rfl
        obtain ⟨_, _, same⟩ := inUse
        rw [there] at same
        cases same
      obtain ⟨url, entry⟩ := kept other (inUse_setSlot.mpr (by rwa [if_neg differ]))
      rw [StreamRegistry.getPushConnByUrl_onShakeHandSuccess] at entry
      obtain ⟨name, used, raw⟩ := inUse
      have here := entered.path_eq raw (.inr rfl) listed
      split at entry
      · exact differ (Option.some.inj entry).symm
      · next elsewhere =>
          exact elsewhere ((entered.path_eq raw (.inr rfl) entry).trans here.symm)
    · intro keeps other later
      have inUse : (state.setSlot id ⟨connectionName, true, .registered path⟩).InUse other :=
        later
      rw [inUse_setSlot] at inUse
      split at inUse
      · obtain ⟨_, _, impossible⟩ := inUse
        cases impossible
      · obtain ⟨url, entry⟩ := owned other inUse
        refine ⟨url, ?_⟩
        rw [StreamRegistry.getPushConnByUrl_onShakeHandSuccess, if_neg ?_]
        · exact entry
        · rintro rfl
          exact keeps connectionName there other entry inUse

/-- The new callback has an owner if the entry is still there. -/
theorem rawOwned_setNewMessageCallback_iff (entered : state.Entered) (owned : state.RawOwned)
    (id : Nat) :
    (state.setNewMessageCallback id).RawOwned ↔
      state.KeepsEntries (.setNewMessageCallback id) := by
  rcases setNewMessageCallback_cases state id with
    ⟨same, idle⟩ | ⟨connectionName, opened, path, there, after⟩
  · rw [same]
    exact iff_of_true owned fun name path there => absurd there (idle name true path)
  · rw [after]
    constructor
    · intro kept name url registered
      rw [there] at registered
      obtain ⟨rfl, rfl, same⟩ := PublisherSlot.mk.inj (Option.some.inj registered)
      obtain rfl := CallbackSlot.registered.inj same
      obtain ⟨found, entry⟩ := kept id (inUse_setSlot.mpr (by
        rw [if_pos rfl]
        exact ⟨_, _, rfl⟩))
      rw [← entered.path_eq there (.inl rfl) entry]
      exact entry
    · intro keeps other inUse
      rw [inUse_setSlot] at inUse
      split at inUse
      · next here =>
          subst here
          obtain ⟨name, url, same⟩ := inUse
          obtain ⟨rfl, rfl, -⟩ := PublisherSlot.mk.inj same
          exact ⟨path, keeps _ path there⟩
      · exact owned other inUse

/-- A close keeps owners if it removes no entry of another connection in use. -/
theorem rawOwned_onClose_iff (entered : state.Entered) (owned : state.RawOwned) (id : Nat) :
    (state.onClose id).RawOwned ↔ state.KeepsEntries (.onClose id) := by
  rcases onClose_cases state id with ⟨same, idle⟩ | ⟨slot, there, settled, after⟩
  · rw [same]
    refine iff_of_true owned fun slot there settled => ?_
    obtain ⟨path, registered⟩ := idle slot there
    exact absurd registered (settled path)
  · rw [after]
    constructor
    · intro kept found known _ other differ listed inUse
      rw [there] at known
      obtain rfl := Option.some.inj known
      obtain ⟨url, entry⟩ := kept other (inUse_setSlot.mpr (by rwa [if_neg differ]))
      rw [StreamRegistry.getPushConnByUrl_removeRtmpPushConnection] at entry
      obtain ⟨name, used, raw⟩ := inUse
      have here := entered.path_eq raw (.inr rfl) listed
      split at entry
      · cases entry
      · next elsewhere =>
          exact elsewhere ((entered.path_eq raw (.inr rfl) entry).trans here.symm)
    · intro keeps other later
      have inUse : (state.setSlot id { slot with opened := false }).InUse other := later
      rw [inUse_setSlot] at inUse
      split at inUse
      · obtain ⟨_, _, impossible⟩ := inUse
        cases impossible
      · next differ =>
          obtain ⟨url, entry⟩ := owned other inUse
          refine ⟨url, ?_⟩
          rw [StreamRegistry.getPushConnByUrl_removeRtmpPushConnection, if_neg ?_]
          · exact entry
          · rintro rfl
            exact keeps slot there settled other differ entry inUse

/-- **The steps that keep owners are the guarded ones.** -/
theorem rawOwned_step (entered : state.Entered) (owned : state.RawOwned)
    (event : OwnershipEvent) :
    (ownership.step state event).RawOwned ↔ state.KeepsEntries event := by
  cases event with
  | onConnection id connectionName =>
      exact iff_of_true (rawOwned_onConnection owned id connectionName) trivial
  | onShakeHandSuccess id path => exact rawOwned_onShakeHandSuccess_iff entered owned id path
  | setNewMessageCallback id => exact rawOwned_setNewMessageCallback_iff entered owned id
  | onClose id => exact rawOwned_onClose_iff entered owned id

/-- A connection whose callback captures the raw `this` and that has no entry left: its last
owner is gone, and the object with it. -/
def Released (state : Ownership) (id : Nat) : Prop :=
  (∃ slot path, state.slots id = some slot ∧ slot.callback = .rawThis path) ∧ ¬ state.HasEntry id

/-- A connection stays released while its slot stays and no entry is made for it. -/
theorem Released.of_kept {after : Ownership} {id : Nat} (released : state.Released id)
    (slots : after.slots id = state.slots id) (entries : after.HasEntry id → state.HasEntry id) :
    after.Released id := by
  obtain ⟨⟨slot, path, there, raw⟩, gone⟩ := released
  exact ⟨⟨slot, path, slots.trans there, raw⟩, fun has => gone (entries has)⟩

/-- Its slot is none that still waits for its callback. -/
theorem Released.ne_of_callback {id other : Nat} (released : state.Released id)
    {slot : PublisherSlot} (known : state.slots other = some slot)
    (waits : ∀ path, slot.callback ≠ .rawThis path) : id ≠ other := by
  rintro rfl
  obtain ⟨⟨found, path, there, raw⟩, -⟩ := released
  rw [there] at known
  obtain rfl := Option.some.inj known
  exact waits path raw

/-- **A released connection stays released**: nothing can enter it into the map again. -/
theorem Released.step {id : Nat} (released : state.Released id) (event : OwnershipEvent) :
    (ownership.step state event).Released id := by
  cases event with
  | onConnection other connectionName =>
      show (state.onConnection other connectionName).Released id
      rcases onConnection_cases state other connectionName with same | ⟨fresh, after⟩
      · rw [same]
        exact released
      · rw [after]
        refine released.of_kept ?_ fun has => has
        rw [setSlot_slots, if_neg ?_]
        rintro rfl
        obtain ⟨⟨slot, path, there, raw⟩, -⟩ := released
        rw [there] at fresh
        cases fresh
  | onShakeHandSuccess other url =>
      show (state.onShakeHandSuccess other url).Released id
      rcases onShakeHandSuccess_cases state other url with
        ⟨same, -⟩ | ⟨connectionName, known, after⟩
      · rw [same]
        exact released
      · have differ : id ≠ other := by
          apply released.ne_of_callback known
          intro path raw
          cases raw
        rw [after]
        refine released.of_kept ((setSlot_slots _ _ _ _).trans (if_neg differ)) ?_
        rintro ⟨found, entry⟩
        rw [StreamRegistry.getPushConnByUrl_onShakeHandSuccess] at entry
        split at entry
        · exact absurd (Option.some.inj entry).symm differ
        · exact ⟨found, entry⟩
  | setNewMessageCallback other =>
      show (state.setNewMessageCallback other).Released id
      rcases setNewMessageCallback_cases state other with
        ⟨same, -⟩ | ⟨connectionName, opened, url, known, after⟩
      · rw [same]
        exact released
      · have differ : id ≠ other := by
          apply released.ne_of_callback known
          intro path raw
          cases raw
        rw [after]
        exact released.of_kept ((setSlot_slots _ _ _ _).trans (if_neg differ)) fun has => has
  | onClose other =>
      show (state.onClose other).Released id
      rcases onClose_cases state other with ⟨same, -⟩ | ⟨closed, known, -, after⟩
      · rw [same]
        exact released
      · obtain ⟨⟨slot, path, there, raw⟩, gone⟩ := released
        rw [after]
        refine ⟨?_, ?_⟩
        · by_cases same : id = other
          · subst same
            rw [there] at known
            obtain rfl := Option.some.inj known
            exact ⟨_, path, (setSlot_slots _ _ _ _).trans (if_pos rfl), raw⟩
          · exact ⟨slot, path, (setSlot_slots _ _ _ _).trans ((if_neg same).trans there), raw⟩
        · rintro ⟨found, entry⟩
          rw [StreamRegistry.getPushConnByUrl_removeRtmpPushConnection] at entry
          split at entry
          · cases entry
          · exact gone ⟨found, entry⟩

end Ownership

open Ownership

/-- **When a publisher outlives its use.** In every run, with any number of publishers, any
paths and any order of handshakes, overwrites and closes: whenever a publisher's connection is
open and its callback captures the raw `this`, a map entry owns it, if and only if no step
takes an entry away that is in use, and none is gone when the callback is replaced. -/
theorem raw_callback_owned_iff (events : List OwnershipEvent) :
    (∀ before, before <+: events → (ownership.run .empty before).RawOwned) ↔
      ∀ before event, before ++ [event] <+: events →
        (ownership.run .empty before).KeepsEntries event := by
  rw [← Machine.guarded_iff]
  have preserves : ownership.Preserves KeepsEntries
      (fun state => state.Entered ∧ state.RawOwned) := by
    refine ⟨fun state event both keeps => ⟨both.1.step event, ?_⟩⟩
    exact (rawOwned_step both.1 both.2 event).mpr keeps
  exact preserves.always_iff (fun _ both => both.2)
    (fun state event both kept => (rawOwned_step both.1 both.2 event).mp kept)
    ⟨entered_empty, rawOwned_empty⟩ events

/-! ## The servers -/

namespace Publisher

variable {build : Build} {environment : ReadEnvironment} {publisher : Publisher}

theorem shutdown_disconnected_iff :
    publisher.shutdown.connectionStatus = .disconnected ↔
      publisher.connectionStatus = .disconnected := by
  rw [shutdown]
  split
  · next connected => simp [connected]
  · exact Iff.rfl

theorem shakeHand_connectionStatus (buffer : Bytes) :
    (publisher.shakeHand build buffer).1.connectionStatus = publisher.connectionStatus := by
  rw [Publisher.shakeHand, send]
  split <;> rfl

/-- No read of a handshake closes the connection. -/
theorem onConnectionShakeHand_disconnected_iff {buffer : Bytes} {outcome : ReadOutcome}
    (made : publisher.onConnectionShakeHand build environment buffer = .ok outcome) :
    outcome.publisher.connectionStatus = .disconnected ↔
      publisher.connectionStatus = .disconnected := by
  rw [← @shakeHand_connectionStatus build publisher buffer]
  rcases onConnectionShakeHand_cases made with ⟨-, -, asked, answer, authenticated, after⟩ |
    ⟨-, path, -, after⟩ | ⟨-, -, same | ⟨-, down⟩⟩
  · have kept : asked.connectionStatus = (publisher.shakeHand build buffer).1.connectionStatus := by
      obtain ⟨-, -, ⟨rfl, -⟩ | ⟨-, -, -, -, rfl⟩⟩ := authenticate_cases authenticated
      · rfl
      · rfl
    rw [after, ← kept]
    cases answer with
    | true => exact Iff.rfl
    | false => exact shutdown_disconnected_iff
  · rw [after]
    exact Iff.rfl
  · rw [same]
  · rw [down]
    exact shutdown_disconnected_iff

/-- What a read leaves of a publisher's slot: without a success the callback stays, and with
one it is replaced. -/
structure ReadsSlot (publisher : Publisher) (outcome : ReadOutcome) : Prop where
  connectionName : outcome.publisher.pushConnection.connectionName =
    publisher.pushConnection.connectionName
  status : outcome.publisher.connectionStatus = .disconnected ↔
    publisher.connectionStatus = .disconnected
  callback : outcome.registered = none ∧
      outcome.publisher.newMessageCallback = publisher.newMessageCallback ∧
      publisher.effects ⊆ outcome.publisher.effects ∨
    ∃ path, outcome.registered = some path ∧ publisher.connectionStatus ≠ .disconnected ∧
      publisher.newMessageCallback = .onConnectionShakeHand ∧
      outcome.publisher.newMessageCallback = .onBodyData ∧
      .shakeHandSuccess path ∈ outcome.publisher.effects

theorem onReadable_slot {data : Bytes} {outcome : ReadOutcome}
    (read : publisher.onReadable build environment data = .ok outcome) :
    ReadsSlot publisher outcome := by
  rcases onReadable_cases read with ⟨-, rfl⟩ | ⟨opened, callback, shaking⟩ | ⟨-, -, rfl⟩
  · exact ⟨rfl, Iff.rfl, .inl ⟨rfl, rfl, List.Subset.refl _⟩⟩
  · have name : outcome.publisher.pushConnection.connectionName =
        publisher.pushConnection.connectionName := by
      rw [onConnectionShakeHand_pushConnection shaking]
    have status := onConnectionShakeHand_disconnected_iff shaking
    by_cases success : (publisher.shakeHand build (publisher.recvBuffer ++ data)).2 =
        .shakeSuccess
    · obtain ⟨path, registered, after⟩ := onConnectionShakeHand_success shaking success
      refine ⟨name, status, .inr ⟨path, registered, opened, callback, ?_, ?_⟩⟩
      · rw [after]
      · rw [after]
        exact List.mem_append_right _ List.mem_cons_self
    · obtain ⟨unregistered, continues⟩ := onConnectionShakeHand_continues shaking success
      have whole := (shakeHand_continues build publisher (publisher.recvBuffer ++ data)).trans
        continues
      obtain ⟨made, shape, -⟩ := whole.effects
      refine ⟨name, status, .inl ⟨unregistered, whole.newMessageCallback, ?_⟩⟩
      rw [shape]
      exact List.subset_append_left _ _
  · refine ⟨?_, Iff.rfl, .inl ⟨rfl, rfl, List.Subset.refl _⟩⟩
    simp only [onBodyData, RtmpPushConnection.parseData]
    cases (publisher.pushConnection.rtmpManager.parseData build
      (publisher.recvBuffer ++ data)).newRtmpPack <;> rfl

end Publisher

/-- A slot is that of a publisher: the halves of a success are one call there. -/
structure PublisherSlot.Matches (publisher : Publisher) (slot : PublisherSlot) : Prop where
  connectionName : slot.connectionName = publisher.pushConnection.connectionName
  opened : slot.opened = true ↔ publisher.connectionStatus ≠ .disconnected
  shakeHand : publisher.newMessageCallback = .onConnectionShakeHand → slot.callback = .shakeHand
  bodyData : publisher.newMessageCallback = .onBodyData →
    ∃ path, slot.callback = .rawThis path ∧ .shakeHandSuccess path ∈ publisher.effects

/-- The servers have the same map, and publishers with these slots. -/
structure Ownership.Simulates (server : LiveServer) (state : Ownership) : Prop where
  registry : state.registry = server.registry
  slots : ∀ id, Option.Rel PublisherSlot.Matches (server.publishers id) (state.slots id)

/-- What an event leaves of a slot that it does not change. -/
theorem PublisherSlot.Matches.kept {publisher later : Publisher} {slot : PublisherSlot}
    (same : slot.Matches publisher)
    (connectionName : later.pushConnection.connectionName =
      publisher.pushConnection.connectionName)
    (status : later.connectionStatus = .disconnected ↔ publisher.connectionStatus = .disconnected)
    (callback : later.newMessageCallback = publisher.newMessageCallback)
    (effects : publisher.effects ⊆ later.effects) : slot.Matches later where
  connectionName := same.connectionName.trans connectionName.symm
  opened := same.opened.trans (not_congr status.symm)
  shakeHand shaking := same.shakeHand (callback.symm.trans shaking)
  bodyData media := by
    obtain ⟨path, raw, made⟩ := same.bodyData (callback.symm.trans media)
    exact ⟨path, raw, effects made⟩

/-- The slot of a publisher is never between the halves of a success. -/
theorem PublisherSlot.Matches.settled {publisher : Publisher} {slot : PublisherSlot}
    (matching : slot.Matches publisher) (path : Bytes) : slot.callback ≠ .registered path := by
  intro registered
  cases callback : publisher.newMessageCallback with
  | onConnectionShakeHand =>
      rw [matching.shakeHand callback] at registered
      cases registered
  | onBodyData =>
      obtain ⟨_, raw, -⟩ := matching.bodyData callback
      rw [raw] at registered
      cases registered

namespace Ownership

variable {build : Build} {server next : LiveServer} {state : Ownership}

theorem simulates_empty : Simulates LiveServer.empty empty := ⟨rfl, fun _ => .none⟩

/-- The slot of a publisher that is there. -/
theorem Simulates.slot (simulates : Simulates server state) {id : Nat} {publisher : Publisher}
    (known : server.publishers id = some publisher) :
    ∃ slot, state.slots id = some slot ∧ slot.Matches publisher := by
  have same := simulates.slots id
  rw [known] at same
  cases there : state.slots id with
  | none =>
      rw [there] at same
      cases same
  | some slot =>
      rw [there] at same
      cases same with
      | some matching => exact ⟨slot, rfl, matching⟩

/-- A publisher changes and its slot does not. -/
theorem Simulates.keep (simulates : Simulates server state) {id : Nat}
    {publisher later : Publisher} (known : server.publishers id = some publisher)
    (kept : ∀ slot : PublisherSlot, slot.Matches publisher → slot.Matches later) (other : Nat) :
    Option.Rel PublisherSlot.Matches (Function.update server.publishers id (some later) other)
      (state.slots other) := by
  rw [Function.update_apply]
  split
  · next here =>
      subst here
      obtain ⟨slot, there, matching⟩ := simulates.slot known
      rw [there]
      exact .some (kept slot matching)
  · exact simulates.slots other

/-- A publisher that is set matches the slot that is set. -/
theorem Simulates.set (simulates : Simulates server state) {id : Nat} {publisher : Publisher}
    {slot : PublisherSlot} (matching : slot.Matches publisher) (other : Nat) :
    Option.Rel PublisherSlot.Matches (Function.update server.publishers id (some publisher) other)
      ((state.setSlot id slot).slots other) := by
  rw [setSlot_slots, Function.update_apply]
  split
  · exact .some matching
  · exact simulates.slots other

/-- A success of the handshake is its two halves. -/
theorem succeeds_run {id : Nat} {connectionName path : Bytes}
    (there : state.slots id = some ⟨connectionName, true, .shakeHand⟩) :
    ownership.run state [.onShakeHandSuccess id path, .setNewMessageCallback id] =
      { state.setSlot id ⟨connectionName, true, .rawThis path⟩ with
        registry := state.registry.onShakeHandSuccess path id } := by
  have first : ownership.step state (.onShakeHandSuccess id path) =
      { state.setSlot id ⟨connectionName, true, .registered path⟩ with
        registry := state.registry.onShakeHandSuccess path id } := by
    show state.onShakeHandSuccess id path = _
    rw [onShakeHandSuccess, there]
  rw [Machine.run_cons, first, Machine.run_cons, Machine.run_nil]
  simp only [ownership, setNewMessageCallback, setSlot, Function.update_self, Function.update_idem]

/-- A connect is a new connection. -/
theorem Simulates.onConnect (simulates : Simulates server state) (id : Nat)
    (connectionName : Bytes) (unset : UnsetMembers) (connectPack releasePack : RtmpPack) :
    ∃ events, Simulates (server.onConnect build id connectionName unset connectPack releasePack)
      (ownership.run state events) := by
  rw [LiveServer.onConnect]
  cases there : server.publishers id with
  | some publisher => exact ⟨[], simulates⟩
  | none =>
      refine ⟨[.onConnection id connectionName], ?_⟩
      have fresh : state.slots id = none := by
        have same := simulates.slots id
        rw [there] at same
        cases empty : state.slots id with
        | none => rfl
        | some slot =>
            rw [empty] at same
            cases same
      have after : ownership.run state [.onConnection id connectionName] =
          state.setSlot id ⟨connectionName, true, .shakeHand⟩ := by
        show state.onConnection id connectionName = _
        rw [onConnection, fresh]
      rw [after]
      refine ⟨simulates.registry, simulates.set ⟨rfl, ?_, fun _ => rfl, ?_⟩⟩
      · apply iff_of_true rfl
        intro closed
        cases closed
      · intro media
        cases media

/-- A read is a success of the handshake, or no step. -/
theorem Simulates.onReadable (simulates : Simulates server state) {id : Nat} {data : Bytes}
    {environment : ReadEnvironment}
    (made : server.onReadable build id data environment = .ok next) :
    ∃ events, Simulates next (ownership.run state events) := by
  rcases LiveServer.onReadable_publishers made with
    ⟨rfl, -⟩ | ⟨publisher, outcome, known, read, updated, map⟩
  · exact ⟨[], simulates⟩
  · obtain ⟨name, status, callback⟩ := Publisher.onReadable_slot read
    rcases callback with ⟨unregistered, same, effects⟩ |
      ⟨path, registered, opened, shaking, media, success⟩
    · refine ⟨[], ?_, fun other => ?_⟩
      · rw [map, unregistered]
        exact simulates.registry
      · rw [updated]
        exact simulates.keep known (fun slot matching =>
          matching.kept name status same effects) other
    · obtain ⟨⟨connectionName, isOpen, slotCallback⟩, there, matching⟩ := simulates.slot known
      obtain rfl : isOpen = true := matching.opened.mpr opened
      obtain rfl : slotCallback = .shakeHand := matching.shakeHand shaking
      refine ⟨[.onShakeHandSuccess id path, .setNewMessageCallback id], ?_⟩
      rw [succeeds_run there]
      refine ⟨?_, fun other => ?_⟩
      · rw [map, registered]
        exact congrArg (·.onShakeHandSuccess path id) simulates.registry
      · rw [updated]
        have replaced : PublisherSlot.Matches outcome.publisher
            ⟨connectionName, true, .rawThis path⟩ := by
          refine ⟨matching.connectionName.trans name.symm, ?_, fun other => ?_,
            fun _ => ⟨path, rfl, success⟩⟩
          · exact iff_of_true rfl (mt status.mp opened)
          · rw [media] at other
            cases other
        exact simulates.set replaced other

/-- A close is a close. -/
theorem Simulates.onClose (simulates : Simulates server state) (id : Nat) :
    ∃ events, Simulates (server.onClose id) (ownership.run state events) := by
  rw [LiveServer.onClose]
  cases known : server.publishers id with
  | none => exact ⟨[], simulates⟩
  | some publisher =>
      obtain ⟨slot, there, matching⟩ := simulates.slot known
      refine ⟨[.onClose id], ?_⟩
      have after : ownership.run state [.onClose id] =
          { state.setSlot id { slot with opened := false } with
            registry := state.registry.removeRtmpPushConnection slot.connectionName } := by
        show state.onClose id = _
        rcases onClose_cases state id with ⟨-, idle⟩ | ⟨found, same, -, closes⟩
        · obtain ⟨path, registered⟩ := idle slot there
          exact absurd registered (matching.settled path)
        · rw [there] at same
          obtain rfl := Option.some.inj same
          exact closes
      rw [after]
      refine ⟨?_, simulates.set ⟨matching.connectionName, ?_, matching.shakeHand,
        matching.bodyData⟩⟩
      · dsimp only
        rw [simulates.registry, matching.connectionName]
      · apply iff_of_false
        · intro opened
          cases opened
        · intro opened
          exact opened rfl

/-- A request changes the viewers of a publisher, and no slot. -/
theorem Simulates.onClientMessage (simulates : Simulates server state)
    {connectionName data : Bytes} {unset : HeaderUnset}
    (made : server.onClientMessage build connectionName data unset = .ok next) :
    Simulates next state := by
  rcases LiveServer.onClientMessage_publishers made with
    ⟨registry, same | ⟨id, publisher, connection, sent, known, -, added, updated⟩⟩
  · exact ⟨simulates.registry.trans registry.symm, by rw [same]; exact simulates.slots⟩
  · refine ⟨simulates.registry.trans registry.symm, fun other => ?_⟩
    rw [updated]
    refine simulates.keep known (fun slot matching => ?_) other
    refine matching.kept ?_ Iff.rfl rfl (List.Subset.refl _)
    exact RtmpPushConnection.addClientConnection_connectionName added

/-- So does the close of a viewer. -/
theorem Simulates.onClientClose (simulates : Simulates server state) (connectionName : Bytes) :
    Simulates (server.onClientClose connectionName) state := by
  rw [LiveServer.onClientClose]
  cases server.closeConnectionCallback connectionName with
  | none => exact simulates
  | some id =>
      cases known : server.publishers id with
      | none =>
          simp only [known]
          exact simulates
      | some publisher =>
          simp only [known]
          exact ⟨simulates.registry, simulates.keep known fun slot matching =>
            matching.kept rfl Iff.rfl rfl (List.Subset.refl _)⟩

/-- **Every event of the servers is some steps of the owners.** -/
theorem Simulates.step (simulates : Simulates server state) {event : LiveEvent}
    (made : server.step build event = .ok next) :
    ∃ events, Simulates next (ownership.run state events) := by
  cases event with
  | connect id connectionName unset connectPack releasePack =>
      obtain rfl := Except.ok.inj made
      exact simulates.onConnect id connectionName unset connectPack releasePack
  | readable id data environment => exact simulates.onReadable made
  | close id =>
      obtain rfl := Except.ok.inj made
      exact simulates.onClose id
  | clientMessage connectionName data unset => exact ⟨[], simulates.onClientMessage made⟩
  | clientClose connectionName =>
      obtain rfl := Except.ok.inj made
      exact ⟨[], simulates.onClientClose connectionName⟩

/-- Whatever the servers reach is simulated by a run of the owners. -/
theorem simulates_run {events : List LiveEvent}
    (reached : (LiveServer.machine build).run (.ok .empty) events = .ok server) :
    ∃ steps, Simulates server (ownership.run .empty steps) := by
  have preserved (before : LiveServer) (event : LiveEvent) (after : LiveServer)
      (simulated : ∃ steps, Simulates before (ownership.run .empty steps))
      (made : before.step build event = .ok after) :
      ∃ steps, Simulates after (ownership.run .empty steps) := by
    obtain ⟨steps, simulates⟩ := simulated
    obtain ⟨more, later⟩ := simulates.step made
    exact ⟨steps ++ more, by rw [Machine.run_append]; exact later⟩
  exact Machine.faulting_invariant preserved ⟨[], simulates_empty⟩ reached

/-- Owners that are left in the run of the owners are left in the servers. -/
theorem Simulates.owned (simulates : Simulates server state) (owned : state.RawOwned) {id : Nat}
    {publisher : Publisher} (known : server.publishers id = some publisher)
    (opened : publisher.connectionStatus ≠ .disconnected)
    (media : publisher.newMessageCallback = .onBodyData) :
    ∃ path, server.registry.getPushConnByUrl path = some id := by
  obtain ⟨⟨connectionName, isOpen, callback⟩, there, matching⟩ := simulates.slot known
  obtain rfl : isOpen = true := matching.opened.mpr opened
  obtain ⟨path, same, -⟩ := matching.bodyData media
  obtain rfl : callback = .rawThis path := same
  rw [← simulates.registry]
  exact owned id ⟨connectionName, path, there⟩

/-- An entry of a publisher in its media phase is under a path of its success. -/
theorem Simulates.entry_path (simulates : Simulates server state) (entered : state.Entered)
    {id : Nat} {publisher : Publisher} (known : server.publishers id = some publisher)
    (media : publisher.newMessageCallback = .onBodyData) {path : Bytes}
    (listed : server.registry.getPushConnByUrl path = some id) :
    .shakeHandSuccess path ∈ publisher.effects := by
  obtain ⟨⟨connectionName, isOpen, callback⟩, there, matching⟩ := simulates.slot known
  obtain ⟨url, same, success⟩ := matching.bodyData media
  obtain rfl : callback = .rawThis url := same
  rw [← simulates.registry] at listed
  rw [entered.path_eq there (.inr rfl) listed]
  exact success

theorem entered_run (steps : List OwnershipEvent) : (ownership.run .empty steps).Entered := by
  have keeps : ownership.Leads .empty (ownership.run .empty steps) := ⟨steps, rfl⟩
  exact keeps.keeps (fun _ event entered => entered.step event) entered_empty

end Ownership

/-- Two connections complete their handshakes for the same path. -/
def samePath : List OwnershipEvent :=
  [.onConnection 0 [97], .onShakeHandSuccess 0 [112], .setNewMessageCallback 0,
    .onConnection 1 [98], .onShakeHandSuccess 1 [112], .setNewMessageCallback 1]

/-- Two publishers send the same handshake. -/
def samePathHandshakes : List LiveEvent :=
  let environment : ReadEnvironment := ⟨none, fun _ => 0, 0⟩
  [.connect 0 [97] ⟨0, false, .zero, .zero⟩ .zero .zero,
    .readable 0 handshakeUpToRelease environment, .readable 0 handshakeFromFcPublish environment,
    .connect 1 [98] ⟨0, false, .zero, .zero⟩ .zero .zero,
    .readable 1 handshakeUpToRelease environment, .readable 1 handshakeFromFcPublish environment]

/-- **The second publisher takes away the last owner of the first**, which is connected and in
its media phase. -/
theorem second_publisher_releases_first :
    ¬ (ownership.run .empty samePath).RawOwned ∧
      ∃ server publisher,
        (LiveServer.machine .standard).run (.ok .empty) samePathHandshakes = .ok server ∧
        server.publishers 0 = some publisher ∧ publisher.connectionStatus = .connected ∧
        publisher.newMessageCallback = .onBodyData ∧
        ∀ path, server.registry.getPushConnByUrl path ≠ some 0 := by
  constructor
  · intro owned
    obtain ⟨path, entry⟩ := owned 0 ⟨[97], [112], rfl⟩
    have same := (entered_run samePath).path_eq (show _ = some _ from rfl) (.inr rfl) entry
    rw [same] at entry
    cases entry
  · have released : ((LiveServer.machine .standard).run (.ok .empty)
        samePathHandshakes).toOption.any (fun server =>
          decide (server.registry.getPushConnByUrl [112] = some 1) &&
            (server.publishers 0).any fun publisher =>
              decide (publisher.connectionStatus = .connected) &&
                decide (publisher.newMessageCallback = .onBodyData) &&
                  publisher.effects.all fun
                    | .shakeHandSuccess path => decide (path = [112])
                    | _ => true) = true := by
      decide +kernel
    obtain ⟨server, reached, checked⟩ := Machine.exists_of_any released
    rw [Bool.and_eq_true] at checked
    obtain ⟨publisher, known, all⟩ := (Option.any_eq_true _ _).mp checked.2
    rw [Bool.and_eq_true, Bool.and_eq_true] at all
    obtain ⟨⟨connected, media⟩, paths⟩ := all
    refine ⟨server, publisher, reached, known, of_decide_eq_true connected,
      of_decide_eq_true media, fun path listed => ?_⟩
    obtain ⟨steps, simulates⟩ := simulates_run reached
    have success := simulates.entry_path (entered_run steps) known (of_decide_eq_true media) listed
    have same := of_decide_eq_true (List.all_eq_true.mp paths _ success)
    rw [same, of_decide_eq_true checked.1] at listed
    cases listed

end LiveBroadcast
