import LiveBroadcast.Thread.PoolTasks

/-!
# The mutex of a pool

The tasks of a pool never get into its deque, so a step of a worker is one of a few moves
(`WorkerMove`), and a call of `Run` does not concern the workers or the owner (`Alike`).

In every reachable state the mutex belongs to the one that is between taking it and giving it
back, and to nobody else; exactly the workers that `Start` has created have begun; and
`started_` is reset only by a `Stop` that then goes on to join them (`Coherent`).
-/

set_option autoImplicit false

namespace LiveBroadcast

universe u

/-- The worker has the mutex. -/
def WorkerPlace.Holds {τ : Type u} : WorkerPlace τ → Prop
  | .checking | .taking | .unlocking _ => True
  | _ => False

/-- The owner has the mutex. -/
def OwnerPlace.Holds : OwnerPlace → Prop
  | .clearing | .broadcasting | .unlocking => True
  | _ => False

/-- The owner has reset `started_` and not yet returned from `Stop`. -/
def OwnerPlace.Ending : OwnerPlace → Prop
  | .broadcasting | .unlocking | .joining _ | .aborted => True
  | _ => False

namespace ThreadPool

variable {τ : Type u} {pool : ThreadPool τ}

/-! ## One step of a worker -/

/-- What a step of a worker does, when there are no tasks, to the mutex and its place. -/
inductive WorkerMove (started : Bool) (i : Nat) :
    Option PoolThread → WorkerPlace τ → Option PoolThread → WorkerPlace τ → Prop where
  | enters {mutex} (on : started = true) : WorkerMove started i mutex .atLoop mutex .locking
  | leaves {mutex} (off : started = false) : WorkerMove started i mutex .atLoop mutex .finished
  | locks : WorkerMove started i none .locking (some (.worker i)) .checking
  | locksAgain : WorkerMove started i none .relocking (some (.worker i)) .checking
  | sleeps {mutex} (on : started = true) : WorkerMove started i mutex .checking none .waiting
  | passes {mutex} (off : started = false) : WorkerMove started i mutex .checking mutex .taking
  | takes {mutex} : WorkerMove started i mutex .taking mutex (.unlocking none)
  | unlocks {mutex} : WorkerMove started i mutex (.unlocking none) none (.running none)
  | returns {mutex} : WorkerMove started i mutex (.running none) mutex .atLoop

variable {started : Bool} {i : Nat} {mutex mutex' : Option PoolThread}
variable {place place' : WorkerPlace τ}

theorem WorkerMove.begun (move : WorkerMove started i mutex place mutex' place') :
    place ≠ .notStarted ∧ place' ≠ .notStarted := by
  cases move <;> exact ⟨nofun, nofun⟩

/-- A worker takes the mutex when it is free, and gives back only its own. -/
theorem WorkerMove.mutex_cases (move : WorkerMove started i mutex place mutex' place') :
    (mutex' = mutex ∧ (place'.Holds ↔ place.Holds)) ∨
      (mutex = none ∧ mutex' = some (.worker i) ∧ place'.Holds) ∨
      (place.Holds ∧ mutex' = none ∧ ¬ place'.Holds) := by
  cases move with
  | enters on | leaves off | passes off | takes | returns => exact .inl ⟨rfl, Iff.rfl⟩
  | locks | locksAgain => exact .inr (.inl ⟨rfl, rfl, trivial⟩)
  | sleeps on | unlocks => exact .inr (.inr ⟨trivial, rfl, not_false⟩)

theorem WorkerMove.held (move : WorkerMove started i mutex place mutex' place')
    (held : mutex = some (.worker i) ↔ place.Holds) :
    mutex' = some (.worker i) ↔ place'.Holds := by
  rcases move.mutex_cases with ⟨same, holds⟩ | ⟨-, taken, holds⟩ | ⟨-, given, not⟩
  · rw [same, holds]
    exact held
  · exact ⟨fun _ => holds, fun _ => taken⟩
  · rw [given]
    exact ⟨nofun, fun holds => absurd holds not⟩

theorem WorkerMove.others (move : WorkerMove started i mutex place mutex' place')
    (held : mutex = some (.worker i) ↔ place.Holds) {thread : PoolThread}
    (other : thread ≠ .worker i) : mutex' = some thread ↔ mutex = some thread := by
  rcases move.mutex_cases with ⟨same, -⟩ | ⟨free, taken, -⟩ | ⟨holds, given, -⟩
  · rw [same]
  · rw [free, taken]
    exact ⟨fun same => absurd (Option.some.inj same).symm other, nofun⟩
  · rw [given, held.mpr holds]
    exact ⟨nofun, fun same => absurd (Option.some.inj same).symm other⟩

/-- The worker cannot go on by itself. -/
def Blocked (pool : ThreadPool τ) (i : Nat) : Prop :=
  match pool.workers i with
  | .notStarted | .waiting | .finished => True
  | .locking | .relocking => pool.mutex ≠ none
  | _ => False

/-- **A step of a worker** leaves everything as it is, or is one of the moves. -/
theorem Unqueued.worker_cases (unqueued : pool.Unqueued) (i : Nat) :
    (pool.Blocked i ∧ pool.worker i = pool) ∨
      ∃ mutex place, WorkerMove pool.started i pool.mutex (pool.workers i) mutex place ∧
        pool.worker i = (pool.setMutex mutex).setWorker i place := by
  have idle := unqueued.workers i
  have empty := unqueued.deque
  unfold ThreadPool.worker Blocked
  cases at_ : pool.workers i with
  | notStarted => exact .inl ⟨trivial, rfl⟩
  | atLoop =>
      cases on : pool.started with
      | true => exact .inr ⟨pool.mutex, .locking, .enters rfl, rfl⟩
      | false => exact .inr ⟨pool.mutex, .finished, .leaves rfl, rfl⟩
  | locking =>
      cases mutex : pool.mutex with
      | none => exact .inr ⟨_, _, .locks, rfl⟩
      | some thread => exact .inl ⟨Option.some_ne_none thread, rfl⟩
  | relocking =>
      cases mutex : pool.mutex with
      | none => exact .inr ⟨_, _, .locksAgain, rfl⟩
      | some thread => exact .inl ⟨Option.some_ne_none thread, rfl⟩
  | checking =>
      have none : pool.taskDeque.isEmpty := by rw [empty, List.isEmpty_nil]
      cases on : pool.started with
      | true =>
          refine .inr ⟨_, _, .sleeps rfl, ?_⟩
          exact if_pos ⟨rfl, none⟩
      | false =>
          refine .inr ⟨_, _, .passes rfl, ?_⟩
          exact if_neg fun both => Bool.noConfusion both.1
  | waiting => exact .inl ⟨trivial, rfl⟩
  | taking =>
      refine .inr ⟨_, _, .takes, ?_⟩
      dsimp only
      split
      · rfl
      · next queued =>
          rw [empty] at queued
          cases queued
  | unlocking task =>
      rw [at_] at idle
      cases task with
      | none => exact .inr ⟨_, _, .unlocks, rfl⟩
      | some task => exact idle.elim
  | running task =>
      rw [at_] at idle
      cases task with
      | none => exact .inr ⟨_, _, .returns, rfl⟩
      | some task => exact idle.elim
  | finished => exact .inl ⟨trivial, rfl⟩

/-! ## The mutex -/

/-- The mutex belongs to whoever is between taking and giving it back, and the threads that are
begun are those that `Start` has created. -/
structure Coherent (pool : ThreadPool τ) : Prop where
  unqueued : pool.Unqueued
  held : ∀ i, pool.mutex = some (.worker i) ↔ (pool.workers i).Holds
  owned : pool.mutex = some .owner ↔ pool.owner.Holds
  direct : ∀ n, pool.mutex ≠ some (.caller n)
  begun : ∀ i, pool.workers i ≠ .notStarted ↔ i < pool.created
  starting : ∀ i, pool.owner = .starting i → i ≤ pool.created ∧ pool.started = true
  joining : ∀ i, pool.owner = .joining i → i ≤ pool.joined
  undone : pool.joined = 0 → pool.started = true ∨ pool.created = 0 ∨ pool.owner.Ending

theorem coherent_new : (new : ThreadPool τ).Coherent where
  unqueued := unqueued_new
  held _ := ⟨nofun, False.elim⟩
  owned := ⟨nofun, False.elim⟩
  direct _ := nofun
  begun i := ⟨fun begun => absurd rfl begun, fun less => absurd less (Nat.not_lt_zero i)⟩
  starting _ := nofun
  joining _ := nofun
  undone _ := .inr (.inl rfl)

theorem begun_update {workers : Nat → WorkerPlace τ} {created i : Nat} {place : WorkerPlace τ}
    (begun : ∀ j, workers j ≠ .notStarted ↔ j < created) (before : workers i ≠ .notStarted)
    (after : place ≠ .notStarted) (j : Nat) :
    Function.update workers i place j ≠ .notStarted ↔ j < created := by
  by_cases same : j = i
  · rw [same, Function.update_self]
    exact ⟨fun _ => (begun i).mp before, fun _ => after⟩
  · rw [Function.update_of_ne same]
    exact begun j

theorem Coherent.worker (coherent : pool.Coherent) (i : Nat) : (pool.worker i).Coherent := by
  have unqueued := coherent.unqueued.worker i
  rcases coherent.unqueued.worker_cases i with ⟨-, same⟩ | ⟨mutex, place, move, moved⟩
  · rw [same]
    exact coherent
  · have others {thread : PoolThread} (other : thread ≠ .worker i) :=
      move.others (coherent.held i) other
    rw [moved] at unqueued ⊢
    refine ⟨unqueued, fun j => ?_, ?_, fun n => ?_, ?_, coherent.starting, coherent.joining,
      coherent.undone⟩
    · unfold setWorker setMutex
      dsimp only
      by_cases same : j = i
      · rw [same, Function.update_self]
        exact move.held (coherent.held i)
      · rw [Function.update_of_ne same, others fun both => same (PoolThread.worker.inj both)]
        exact coherent.held j
    · exact (others PoolThread.noConfusion).trans coherent.owned
    · exact fun same => coherent.direct n ((others PoolThread.noConfusion).mp same)
    · exact begun_update coherent.begun move.begun.1 move.begun.2

theorem Coherent.wake (coherent : pool.Coherent) (i : Nat) : (pool.wake i).Coherent := by
  have unqueued := coherent.unqueued.wake i
  unfold ThreadPool.wake at unqueued ⊢
  split
  · next waiting =>
      rw [waiting] at unqueued
      have begun : pool.workers i ≠ .notStarted := by
        rw [waiting]
        exact nofun
      refine ⟨unqueued, fun j => ?_, coherent.owned, coherent.direct,
        begun_update coherent.begun begun nofun, coherent.starting,
        coherent.joining, coherent.undone⟩
      have held := coherent.held j
      unfold setWorker
      dsimp only
      by_cases same : j = i
      · rw [same, waiting] at held
        rw [same, Function.update_self]
        exact held
      · rw [Function.update_of_ne same]
        exact held
  · exact coherent

theorem wakeUpAll_worker (pool : ThreadPool τ) (i : Nat) :
    (pool.wakeUpAll.workers i = pool.workers i ∧ pool.workers i ≠ .waiting) ∨
      (pool.workers i = .waiting ∧ pool.wakeUpAll.workers i = .relocking) := by
  unfold wakeUpAll
  dsimp only
  split
  · next waiting => exact .inr ⟨waiting, rfl⟩
  · next not => exact .inl ⟨rfl, not⟩

theorem Coherent.wakeUpAll (coherent : pool.Coherent) : pool.wakeUpAll.Coherent := by
  refine ⟨coherent.unqueued.wakeUpAll, fun i => ?_, coherent.owned, coherent.direct, fun i => ?_,
    coherent.starting, coherent.joining, coherent.undone⟩
  · rcases wakeUpAll_worker pool i with ⟨same, -⟩ | ⟨waiting, relocking⟩
    · rw [same]
      exact coherent.held i
    · have held := coherent.held i
      rw [waiting] at held
      rw [relocking]
      exact held
  · rcases wakeUpAll_worker pool i with ⟨same, -⟩ | ⟨waiting, relocking⟩
    · rw [same]
      exact coherent.begun i
    · have begun := coherent.begun i
      rw [waiting] at begun
      rw [relocking]
      exact ⟨fun _ => begun.mp nofun, fun _ => nofun⟩

/-- What the owner does while it neither takes nor gives back the mutex. -/
theorem Coherent.setOwner (coherent : pool.Coherent) {place : OwnerPlace}
    (holds : place.Holds ↔ pool.owner.Holds)
    (starting : ∀ i, place = .starting i → i ≤ pool.created ∧ pool.started = true)
    (joining : ∀ i, place = .joining i → i ≤ pool.joined)
    (undone : pool.joined = 0 → pool.started = true ∨ pool.created = 0 ∨ place.Ending) :
    (pool.setOwner place).Coherent :=
  ⟨coherent.unqueued.setOwner place, coherent.held, coherent.owned.trans holds.symm,
    coherent.direct, coherent.begun, starting, joining, undone⟩

theorem Coherent.abort (coherent : pool.Coherent) (holds : ¬ pool.owner.Holds) :
    (pool.setOwner .aborted).Coherent :=
  coherent.setOwner ⟨False.elim, fun held => holds held⟩ nofun nofun
    fun _ => .inr (.inr trivial)

/-- `Start` starts the next thread. -/
theorem Coherent.create (coherent : pool.Coherent) {i : Nat} (place : pool.owner = .starting i)
    (new : ¬ i < pool.created) :
    (({ pool with created := pool.created + 1 }.setWorker i .atLoop).setOwner
      (.starting (i + 1))).Coherent := by
  obtain ⟨le, on⟩ := coherent.starting i place
  have here : i = pool.created := Nat.le_antisymm le (Nat.not_lt.mp new)
  have fresh : pool.workers i = .notStarted := by
    by_contra begun
    exact new ((coherent.begun i).mp begun)
  have owned := coherent.owned
  rw [place] at owned
  refine ⟨coherent.unqueued.of_same rfl rfl rfl rfl
    (idle_update coherent.unqueued.workers i trivial), fun j => ?_, owned, coherent.direct,
    fun j => ?_, fun k next => ⟨?_, on⟩, nofun, fun _ => .inl on⟩
  · have held := coherent.held j
    unfold ThreadPool.setOwner setWorker
    dsimp only
    by_cases same : j = i
    · rw [same, fresh] at held
      rw [same, Function.update_self]
      exact held
    · rw [Function.update_of_ne same]
      exact held
  · have begun := coherent.begun j
    unfold ThreadPool.setOwner setWorker
    dsimp only
    by_cases same : j = i
    · rw [same, Function.update_self, here]
      exact ⟨fun _ => Nat.lt_succ_self _, fun _ => nofun⟩
    · rw [Function.update_of_ne same, begun]
      omega
  · have same : i + 1 = k := OwnerPlace.starting.inj next
    unfold ThreadPool.setOwner setWorker
    dsimp only
    omega

/-- `Stop` takes the mutex. -/
theorem Coherent.lock (coherent : pool.Coherent) (place : pool.owner = .locking)
    (free : pool.mutex = none) :
    ((pool.setMutex (some .owner)).setOwner .clearing).Coherent := by
  have undone := coherent.undone
  rw [place] at undone
  refine ⟨coherent.unqueued.of_same rfl rfl rfl rfl coherent.unqueued.workers, fun i => ?_,
    ⟨fun _ => trivial, fun _ => rfl⟩, nofun, coherent.begun, nofun, nofun, undone⟩
  have held := coherent.held i
  rw [free] at held
  exact ⟨nofun, fun holds => nomatch held.mpr holds⟩

/-- `Stop` gives the mutex back. -/
theorem Coherent.unlock (coherent : pool.Coherent) (place : pool.owner = .unlocking) :
    ((pool.setMutex none).setOwner (.joining 0)).Coherent := by
  have owned := coherent.owned
  rw [place] at owned
  have mine : pool.mutex = some .owner := owned.mpr trivial
  refine ⟨coherent.unqueued.of_same rfl rfl rfl rfl coherent.unqueued.workers, fun i => ?_,
    ⟨nofun, False.elim⟩, nofun, coherent.begun, nofun, fun i first => ?_,
    fun _ => .inr (.inr trivial)⟩
  · have held := coherent.held i
    rw [mine] at held
    exact ⟨nofun, fun holds => nomatch held.mpr holds⟩
  · rw [← OwnerPlace.joining.inj first]
    exact Nat.zero_le _

theorem Coherent.ownerStep (coherent : pool.Coherent) : pool.ownerStep.Coherent := by
  have owned := coherent.owned
  unfold ThreadPool.ownerStep
  cases place : pool.owner with
  | outside => exact coherent
  | starting i =>
      rw [place] at owned
      dsimp only
      split_ifs with more old
      · exact coherent.abort (by rw [place]; exact not_false)
      · exact coherent.create place old
      · refine coherent.setOwner (by rw [place]; exact Iff.rfl) nofun nofun fun _ => ?_
        exact .inl (coherent.starting i place).2
  | locking =>
      cases free : pool.mutex with
      | none => exact coherent.lock place free
      | some thread => exact coherent
  | clearing =>
      rw [place] at owned
      exact ⟨coherent.unqueued.of_same rfl rfl rfl rfl coherent.unqueued.workers, coherent.held,
        owned, coherent.direct, coherent.begun, nofun, nofun, fun _ => .inr (.inr trivial)⟩
  | broadcasting =>
      refine coherent.wakeUpAll.setOwner ?_ nofun nofun fun _ => .inr (.inr trivial)
      unfold ThreadPool.wakeUpAll
      dsimp only
      rw [place]
      exact Iff.rfl
  | unlocking => exact coherent.unlock place
  | joining i =>
      have le := coherent.joining i place
      rw [place] at owned
      dsimp only
      split_ifs with more old
      · exact coherent.abort (by rw [place]; exact not_false)
      · split
        · refine ⟨coherent.unqueued.of_same rfl rfl rfl rfl coherent.unqueued.workers,
            coherent.held, owned, coherent.direct, coherent.begun, nofun, fun k next => ?_,
            fun _ => .inr (.inr trivial)⟩
          rw [← OwnerPlace.joining.inj next]
          exact Nat.le_refl _
        · exact coherent
      · refine coherent.setOwner (by rw [place]; exact Iff.rfl) nofun nofun fun none => ?_
        exact .inr (.inl (by omega))
  | aborted => exact coherent

/-- The workers and the owner are where they were. -/
structure Alike (pool after : ThreadPool τ) : Prop where
  started : after.started = pool.started
  created : after.created = pool.created
  joined : after.joined = pool.joined
  mutex : after.mutex = pool.mutex
  workers : after.workers = pool.workers
  owner : after.owner = pool.owner

theorem Alike.refl (pool : ThreadPool τ) : pool.Alike pool := ⟨rfl, rfl, rfl, rfl, rfl, rfl⟩

/-- A call of `Run` does not take the mutex. -/
theorem Unqueued.caller_alike (unqueued : pool.Unqueued) (n woken : Nat) :
    pool.Alike (pool.caller n woken) := by
  have direct := unqueued.callers n
  unfold ThreadPool.caller
  cases place : pool.callers n with
  | outside => exact .refl pool
  | testing task | running task => exact ⟨rfl, rfl, rfl, rfl, rfl, rfl⟩
  | locking task | pushing task | signalling | unlocking =>
      rw [place] at direct
      exact direct.elim

theorem run_alike (pool : ThreadPool τ) (n : Nat) (task : τ) : pool.Alike (pool.run n task) := by
  unfold ThreadPool.run
  cases pool.callers n with
  | outside => exact ⟨rfl, rfl, rfl, rfl, rfl, rfl⟩
  | testing task | running task | locking task | pushing task | signalling | unlocking =>
      exact .refl pool

theorem Coherent.of_alike {after : ThreadPool τ} (coherent : pool.Coherent)
    (alike : pool.Alike after) (unqueued : after.Unqueued) : after.Coherent := by
  obtain ⟨-, held, owned, direct, begun, starting, joining, undone⟩ := coherent
  obtain ⟨sameStarted, sameCreated, sameJoined, sameMutex, sameWorkers, sameOwner⟩ := alike
  refine ⟨unqueued, ?_, ?_, ?_, ?_, ?_, ?_, ?_⟩
  · rw [sameMutex, sameWorkers]
    exact held
  · rw [sameMutex, sameOwner]
    exact owned
  · rw [sameMutex]
    exact direct
  · rw [sameWorkers, sameCreated]
    exact begun
  · rw [sameOwner, sameCreated, sameStarted]
    exact starting
  · rw [sameOwner, sameJoined]
    exact joining
  · rw [sameJoined, sameStarted, sameCreated, sameOwner]
    exact undone

theorem Coherent.thread (coherent : pool.Coherent) (step : PoolStep τ) :
    (threads.step pool step).Coherent := by
  unfold threads
  dsimp only
  split_ifs
  · exact coherent
  · cases step with
    | worker i => exact coherent.worker i
    | wake i => exact coherent.wake i
    | owner => exact coherent.ownerStep
    | caller n woken =>
        exact coherent.of_alike (coherent.unqueued.caller_alike n woken)
          (coherent.unqueued.caller n woken)
    | run n task => exact coherent.of_alike (run_alike pool n task) (coherent.unqueued.run n task)

theorem Coherent.call (coherent : pool.Coherent) (call : OwnerCall) :
    (pool.call call).Coherent := by
  have owned := coherent.owned
  have undone := coherent.undone
  unfold ThreadPool.call
  cases place : pool.owner with
  | outside =>
      have free : ¬ pool.owner.Holds := by
        rw [place]
        exact not_false
      rw [place] at owned undone
      have asks : (pool.setOwner .locking).Coherent := by
        refine coherent.setOwner (by rw [place]; exact Iff.rfl) nofun nofun undone
      cases call with
      | setThreadNum num =>
          dsimp only
          split_ifs
          · exact coherent.abort free
          · exact coherent.of_alike ⟨rfl, rfl, rfl, rfl, rfl, place.symm⟩
              (coherent.unqueued.of_same rfl rfl rfl rfl coherent.unqueued.workers)
      | start =>
          dsimp only
          split_ifs
          · exact coherent.abort free
          · refine ⟨coherent.unqueued.of_same rfl rfl rfl rfl coherent.unqueued.workers,
              coherent.held, owned, coherent.direct, coherent.begun, fun i first => ⟨?_, rfl⟩,
              nofun, fun _ => .inl rfl⟩
            rw [← OwnerPlace.starting.inj first]
            exact Nat.zero_le _
      | stop => exact asks
      | destroy =>
          dsimp only
          split_ifs
          · exact asks
          · exact coherent
  | starting i | locking | clearing | broadcasting | unlocking | joining i | aborted =>
      exact coherent

theorem Coherent.step (coherent : pool.Coherent) (input : PoolStep τ ⊕ OwnerCall) :
    (machine.step pool input).Coherent := by
  cases input with
  | inl step => exact coherent.thread step
  | inr call => exact coherent.call call

/-- **Every reachable state is coherent.** -/
theorem coherent_run (inputs : List (PoolStep τ ⊕ OwnerCall)) :
    (machine.run (new : ThreadPool τ) inputs).Coherent :=
  Machine.Leads.keeps (fun _ input holds => holds.step input) ⟨inputs, rfl⟩ coherent_new

end ThreadPool

end LiveBroadcast
