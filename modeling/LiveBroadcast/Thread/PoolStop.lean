import Mathlib.Algebra.Order.BigOperators.Group.Finset
import LiveBroadcast.Foundation.FairRounds
import LiveBroadcast.Thread.PoolMutex

/-!
# Stopping a pool

The workers sleep on a condition, and `Stop` has to get every one of them out of `TakeATask` and
out of its loop before it can join it. It resets `started_` and broadcasts under the mutex, so no
worker can fall asleep behind the broadcast: it has either gone to sleep before and is woken, or
takes the mutex afterwards and finds `started_` false (`StopsAt`).

As long as `Stop` waits for the mutex, a worker that is woken without reason over and over again
can keep it from getting there (`Undisturbed`); behind that nothing can.

**Main.** A first `Stop` returns, with every worker at its end and joined, after at most sixteen
rounds for each worker and five for itself (`stop_returns`).
-/

set_option autoImplicit false

namespace LiveBroadcast

universe u

/-- How far a worker is from its end, behind the reset of `started_` or just before it. -/
def WorkerPlace.left {τ : Type u} (started : Bool) : WorkerPlace τ → Nat
  | .notStarted | .finished => 0
  | .atLoop => if started then 7 else 1
  | .running _ => if started then 8 else 2
  | .unlocking _ => 3
  | .taking => 4
  | .checking => 5
  | .locking | .relocking => 6
  | .waiting => 7

/-- How far a worker is from its sleep, and then from its end. -/
def WorkerPlace.ahead {τ : Type u} : WorkerPlace τ → Nat
  | .notStarted | .finished => 8
  | .waiting => 9
  | .checking => 10
  | .locking | .relocking => 11
  | .atLoop => 12
  | .running _ => 13
  | .unlocking _ => 14
  | .taking => 15

theorem WorkerPlace.left_le {τ : Type u} (started : Bool) (place : WorkerPlace τ) :
    place.left started ≤ 8 := by
  cases started <;> cases place <;> simp [left]

theorem WorkerPlace.le_ahead {τ : Type u} (place : WorkerPlace τ) :
    8 ≤ place.ahead ∧ place.ahead ≤ 15 := by
  cases place <;> simp [ahead]

theorem WorkerPlace.left_off {τ : Type u} (started : Bool) (place : WorkerPlace τ) :
    place.left false ≤ place.left started := by
  cases started <;> cases place <;> simp [left]

/-- Whose step it is; waking without reason is nobody's. -/
def PoolStep.thread {τ : Type u} : PoolStep τ → Option PoolThread
  | .worker i => some (.worker i)
  | .wake _ => none
  | .owner => some .owner
  | .caller n _ | .run n _ => some (.caller n)

namespace ThreadPool

variable {τ : Type u} {pool : ThreadPool τ}

/-- How much the owner has to do in `Stop`. -/
def ownerLeft (pool : ThreadPool τ) : Nat :=
  match pool.owner with
  | .locking => pool.created + 5
  | .clearing => pool.created + 4
  | .broadcasting => pool.created + 3
  | .unlocking => pool.created + 2
  | .joining i => pool.created - i + 1
  | .outside | .starting _ | .aborted => 0

def weight (pool : ThreadPool τ) (place : WorkerPlace τ) : Nat :=
  match pool.owner with
  | .locking => place.ahead
  | _ => place.left pool.started

/-- The steps that are left at most. -/
def work (pool : ThreadPool τ) : Nat :=
  ∑ i ∈ Finset.range pool.created, pool.weight (pool.workers i) + pool.ownerLeft

/-- What a first call of `Stop` has achieved at a place. -/
def StopsAt (pool : ThreadPool τ) : OwnerPlace → Prop
  | .locking | .clearing => pool.joined = 0
  | .broadcasting => pool.joined = 0 ∧ pool.started = false
  | .unlocking => pool.joined = 0 ∧ pool.started = false ∧ ∀ j, pool.workers j ≠ .waiting
  | .joining i => pool.joined = i ∧ i ≤ pool.created ∧ pool.started = false ∧
      (∀ j, pool.workers j ≠ .waiting) ∧ ∀ j < i, pool.workers j = .finished
  | .outside => pool.joined = pool.created ∧ ∀ j < pool.created, pool.workers j = .finished
  | .starting _ | .aborted => False

/-- A first `Stop` is underway, or has returned, with this many workers. -/
structure Stopping (count : Nat) (pool : ThreadPool τ) : Prop where
  coherent : pool.Coherent
  created : pool.created = count
  stops : pool.StopsAt pool.owner

/-- No worker is woken without reason while `Stop` waits for the mutex. -/
def Undisturbed (pool : ThreadPool τ) (step : PoolStep τ) : Prop :=
  pool.owner = .locking → ∀ i, step ≠ .wake i

/-! ## The invariant -/

/-- Steps of the workers neither undo an end nor, with `started_` reset, begin a sleep. -/
theorem StopsAt.of_workers {after : ThreadPool τ} {place : OwnerPlace} (stops : pool.StopsAt place)
    (started : after.started = pool.started) (created : after.created = pool.created)
    (joined : after.joined = pool.joined)
    (awake : pool.started = false → ∀ j, pool.workers j ≠ .waiting → after.workers j ≠ .waiting)
    (finished : ∀ j, pool.workers j = .finished → after.workers j = .finished) :
    after.StopsAt place := by
  unfold StopsAt at stops ⊢
  rw [started, created, joined]
  cases place with
  | locking | clearing | broadcasting | starting i | aborted => exact stops
  | unlocking =>
      obtain ⟨none, off, sleepless⟩ := stops
      exact ⟨none, off, fun j => awake off j (sleepless j)⟩
  | joining i =>
      obtain ⟨here, le, off, sleepless, ended⟩ := stops
      exact ⟨here, le, off, fun j => awake off j (sleepless j),
        fun j less => finished j (ended j less)⟩
  | outside =>
      obtain ⟨all, ended⟩ := stops
      exact ⟨all, fun j less => finished j (ended j less)⟩

section Moves

variable {started : Bool} {i : Nat} {mutex mutex' : Option PoolThread}
variable {place place' : WorkerPlace τ}

theorem WorkerMove.awake (move : WorkerMove started i mutex place mutex' place')
    (off : started = false) : place' ≠ .waiting := by
  cases move with
  | sleeps on =>
      rw [off] at on
      cases on
  | enters on | leaves off | locks | locksAgain | passes off | takes | unlocks | returns =>
      exact nofun

theorem WorkerMove.unfinished (move : WorkerMove started i mutex place mutex' place') :
    place ≠ .finished := by
  cases move <;> exact nofun

/-- Behind the reset of `started_`, or with the mutex out of reach, a move leads to the end. -/
theorem WorkerMove.left (move : WorkerMove started i mutex place mutex' place')
    (stopped : started = false ∨ mutex ≠ none ∧ ¬ place.Holds) :
    place'.left started < place.left started := by
  cases move with
  | enters on =>
      rw [on]
      exact Nat.lt_succ_self 6
  | leaves off | passes off =>
      rw [off]
      exact Nat.lt_succ_self _
  | locks | locksAgain =>
      rcases stopped with off | ⟨reach, -⟩
      · exact Nat.lt_succ_self 5
      · exact absurd rfl reach
  | sleeps on =>
      rcases stopped with off | ⟨-, not⟩
      · rw [on] at off
        cases off
      · exact absurd trivial not
  | takes => exact Nat.lt_succ_self 3
  | unlocks =>
      rcases stopped with off | ⟨-, not⟩
      · rw [off]
        exact Nat.lt_succ_self 2
      · exact absurd trivial not
  | returns =>
      cases started with
      | false => exact Nat.lt_succ_self 1
      | true => exact Nat.lt_succ_self 7

theorem WorkerMove.ahead (move : WorkerMove started i mutex place mutex' place')
    (on : started = true) : place'.ahead < place.ahead := by
  cases move with
  | leaves off | passes off =>
      rw [on] at off
      cases off
  | enters | locks | locksAgain | sleeps | takes | unlocks | returns => exact Nat.lt_succ_self _

end Moves

theorem setWorker_workers (pool : ThreadPool τ) (i : Nat) (place : WorkerPlace τ)
    (mutex : Option PoolThread) :
    ((pool.setMutex mutex).setWorker i place).workers = Function.update pool.workers i place := rfl

theorem Stopping.worker {count : Nat} (stopping : pool.Stopping count) (i : Nat) :
    (pool.worker i).Stopping count := by
  have coherent := stopping.coherent.worker i
  rcases stopping.coherent.unqueued.worker_cases i with ⟨-, same⟩ | ⟨mutex, place, move, moved⟩
  · rw [same]
    exact stopping
  · rw [moved] at coherent ⊢
    refine ⟨coherent, stopping.created, stopping.stops.of_workers rfl rfl rfl ?_ ?_⟩
    · intro off j awake
      rw [setWorker_workers]
      by_cases same : j = i
      · rw [same, Function.update_self]
        exact move.awake off
      · rw [Function.update_of_ne same]
        exact awake
    · intro j finished
      rw [setWorker_workers]
      by_cases same : j = i
      · rw [same] at finished
        exact absurd finished move.unfinished
      · rw [Function.update_of_ne same]
        exact finished

theorem Stopping.wake {count : Nat} (stopping : pool.Stopping count) (i : Nat) :
    (pool.wake i).Stopping count := by
  have coherent := stopping.coherent.wake i
  unfold ThreadPool.wake at coherent ⊢
  split
  · next waiting =>
      rw [waiting] at coherent
      refine ⟨coherent, stopping.created, stopping.stops.of_workers rfl rfl rfl ?_ ?_⟩
      · intro off j awake
        unfold setWorker
        dsimp only
        by_cases same : j = i
        · rw [same, Function.update_self]
          exact nofun
        · rw [Function.update_of_ne same]
          exact awake
      · intro j finished
        unfold setWorker
        dsimp only
        by_cases same : j = i
        · rw [same, waiting] at finished
          cases finished
        · rw [Function.update_of_ne same]
          exact finished
  · exact stopping

theorem Stopping.of_alike {count : Nat} {after : ThreadPool τ} (stopping : pool.Stopping count)
    (alike : pool.Alike after) (unqueued : after.Unqueued) : after.Stopping count := by
  refine ⟨stopping.coherent.of_alike alike unqueued, alike.created.trans stopping.created, ?_⟩
  rw [alike.owner]
  refine stopping.stops.of_workers alike.started alike.created alike.joined ?_ ?_
  · intro _ j awake
    rw [alike.workers]
    exact awake
  · intro j finished
    rw [alike.workers]
    exact finished

/-- **The owner** gets on to the next place with what it needs there. -/
theorem Stopping.ownerStep {count : Nat} (stopping : pool.Stopping count) :
    pool.ownerStep.Stopping count := by
  have coherent := stopping.coherent.ownerStep
  have stops := stopping.stops
  unfold ThreadPool.ownerStep at coherent ⊢
  cases place : pool.owner with
  | outside => exact stopping
  | starting i | aborted =>
      rw [place] at stops
      exact stops.elim
  | locking =>
      rw [place] at coherent stops
      cases free : pool.mutex with
      | none =>
          rw [free] at coherent
          exact ⟨coherent, stopping.created, stops⟩
      | some thread => exact stopping
  | clearing =>
      rw [place] at coherent stops
      exact ⟨coherent, stopping.created, stops, rfl⟩
  | broadcasting =>
      rw [place] at coherent stops
      obtain ⟨none, off⟩ := stops
      refine ⟨coherent, stopping.created, none, off, fun j => ?_⟩
      rcases wakeUpAll_worker pool j with ⟨same, awake⟩ | ⟨-, relocking⟩
      · exact fun waiting => awake (same.symm.trans waiting)
      · exact fun waiting => nomatch relocking.symm.trans waiting
  | unlocking =>
      rw [place] at coherent stops
      obtain ⟨none, off, sleepless⟩ := stops
      exact ⟨coherent, stopping.created, none, Nat.zero_le _, off, sleepless,
        fun j less => absurd less (Nat.not_lt_zero j)⟩
  | joining i =>
      rw [place] at coherent stops
      obtain ⟨here, le, off, sleepless, ended⟩ := stops
      dsimp only at coherent ⊢
      split_ifs at coherent ⊢ with more old
      · omega
      · split
        · next finished =>
            rw [finished] at coherent
            refine ⟨coherent, stopping.created, rfl, more, off, sleepless, fun j less => ?_⟩
            rcases Nat.lt_succ_iff_lt_or_eq.mp less with before | same
            · exact ended j before
            · rw [same]
              exact finished
        · exact stopping
      · refine ⟨coherent, stopping.created, ?_, fun j less => ended j ?_⟩
        · exact here.trans (Nat.le_antisymm le (Nat.not_lt.mp more))
        · exact Nat.lt_of_lt_of_le less (Nat.not_lt.mp more)

theorem Stopping.step {count : Nat} (stopping : pool.Stopping count) (step : PoolStep τ) :
    (threads.step pool step).Stopping count := by
  unfold threads
  dsimp only
  split_ifs
  · exact stopping
  · cases step with
    | worker i => exact stopping.worker i
    | wake i => exact stopping.wake i
    | owner => exact stopping.ownerStep
    | caller n woken =>
        have unqueued := stopping.coherent.unqueued
        exact stopping.of_alike (unqueued.caller_alike n woken) (unqueued.caller n woken)
    | run n task =>
        exact stopping.of_alike (run_alike pool n task) (stopping.coherent.unqueued.run n task)

/-! ## The work gets less -/

/-- One of the workers has less to do, and the others what they had. -/
theorem sum_update_lt {count i : Nat} {workers : Nat → WorkerPlace τ} {place : WorkerPlace τ}
    (weigh : WorkerPlace τ → Nat) (begun : i < count) (less : weigh place < weigh (workers i)) :
    ∑ j ∈ Finset.range count, weigh (Function.update workers i place j) <
      ∑ j ∈ Finset.range count, weigh (workers j) := by
  refine Finset.sum_lt_sum (fun j _ => ?_) ⟨i, Finset.mem_range.mpr begun, ?_⟩
  · by_cases same : j = i
    · rw [same, Function.update_self]
      exact Nat.le_of_lt less
    · rw [Function.update_of_ne same]
  · rw [Function.update_self]
    exact less

theorem Stopping.worker_lowers {count : Nat} (stopping : pool.Stopping count) {i : Nat}
    {mutex : Option PoolThread} {place : WorkerPlace τ}
    (move : WorkerMove pool.started i pool.mutex (pool.workers i) mutex place) :
    ((pool.setMutex mutex).setWorker i place).work < pool.work := by
  have begun : i < pool.created := (stopping.coherent.begun i).mp move.begun.1
  refine Nat.add_lt_add_right (sum_update_lt pool.weight begun ?_) pool.ownerLeft
  have stops := stopping.stops
  unfold weight
  cases at_ : pool.owner with
  | locking =>
      have undone := stopping.coherent.undone
      rw [at_] at stops undone
      rcases undone stops with on | none | ending
      · exact move.ahead on
      · omega
      · exact ending.elim
  | clearing =>
      have mine : pool.mutex = some .owner := by
        rw [stopping.coherent.owned, at_]
        trivial
      refine move.left (.inr ⟨?_, fun holds => ?_⟩)
      · rw [mine]
        exact nofun
      · rw [← stopping.coherent.held i, mine] at holds
        cases holds
  | broadcasting =>
      rw [at_] at stops
      exact move.left (.inl stops.2)
  | unlocking =>
      rw [at_] at stops
      exact move.left (.inl stops.2.1)
  | joining j =>
      rw [at_] at stops
      exact move.left (.inl stops.2.2.1)
  | outside =>
      rw [at_] at stops
      exact absurd (stops.2 i begun) move.unfinished
  | starting j | aborted =>
      rw [at_] at stops
      exact stops.elim

/-- A worker that is woken, reason or not, has only the way to its end before it. -/
theorem Stopping.wake_lowers {count : Nat} (stopping : pool.Stopping count) {i : Nat}
    (asked : pool.owner ≠ .locking) (waiting : pool.workers i = .waiting) :
    (pool.setWorker i .relocking).work < pool.work := by
  have begun : i < pool.created := by
    rw [← stopping.coherent.begun i, waiting]
    exact nofun
  refine Nat.add_lt_add_right (sum_update_lt pool.weight begun ?_) pool.ownerLeft
  rw [waiting]
  unfold weight
  split
  · next asking => exact absurd asking asked
  · exact Nat.lt_succ_self 6

/-- The owner can go on. -/
def OwnerFree (pool : ThreadPool τ) : Prop :=
  match pool.owner with
  | .locking => pool.mutex = none
  | .clearing | .broadcasting | .unlocking => True
  | .joining i => i < pool.created → pool.workers i = .finished
  | .outside | .starting _ | .aborted => False

theorem work_lt {after : ThreadPool τ} (created : after.created = pool.created)
    (le : ∀ i, after.weight (after.workers i) ≤ pool.weight (pool.workers i))
    (less : after.ownerLeft < pool.ownerLeft) : after.work < pool.work := by
  unfold work
  rw [created]
  exact Nat.add_lt_add_of_le_of_lt (Finset.sum_le_sum fun i _ => le i) less

theorem weight_of_asked (here : OwnerPlace) (at_ : pool.owner = here) (asked : here ≠ .locking)
    (place : WorkerPlace τ) : pool.weight place = place.left pool.started := by
  unfold weight
  split
  · next asking => exact absurd (at_.symm.trans asking) asked
  · rfl

theorem weight_of_asking (asking : pool.owner = .locking) (place : WorkerPlace τ) :
    pool.weight place = place.ahead := by
  unfold weight
  rw [asking]

theorem Stopping.owner_lowers {count : Nat} (stopping : pool.Stopping count)
    (free : pool.OwnerFree) : pool.ownerStep.work < pool.work := by
  have stops := stopping.stops
  unfold OwnerFree at free
  cases place : pool.owner with
  | outside | starting i | aborted =>
      rw [place] at free
      exact free.elim
  | locking =>
      rw [place] at free
      have next : pool.ownerStep = (pool.setMutex (some .owner)).setOwner .clearing := by
        rw [ThreadPool.ownerStep, place]
        dsimp only at free ⊢
        rw [free]
      rw [next]
      refine work_lt rfl (fun i => ?_) ?_
      · rw [weight_of_asking place, weight_of_asked .clearing rfl (by simp)]
        exact Nat.le_trans (WorkerPlace.left_le _ _) (WorkerPlace.le_ahead _).1
      · unfold ownerLeft
        rw [place]
        exact Nat.lt_succ_self _
  | clearing =>
      have next : pool.ownerStep = { pool with started := false }.setOwner .broadcasting := by
        rw [ThreadPool.ownerStep, place]
      rw [next]
      refine work_lt rfl (fun i => ?_) ?_
      · rw [weight_of_asked _ place (by simp), weight_of_asked .broadcasting rfl (by simp)]
        exact WorkerPlace.left_off _ _
      · unfold ownerLeft
        rw [place]
        exact Nat.lt_succ_self _
  | broadcasting =>
      have next : pool.ownerStep = pool.wakeUpAll.setOwner .unlocking := by
        rw [ThreadPool.ownerStep, place]
      rw [next]
      refine work_lt rfl (fun i => ?_) ?_
      · rw [weight_of_asked _ place (by simp), weight_of_asked .unlocking rfl (by simp)]
        rcases wakeUpAll_worker pool i with ⟨same, -⟩ | ⟨waiting, relocking⟩
        · exact Nat.le_of_eq (congrArg _ same)
        · rw [waiting]
          exact Nat.le_trans (Nat.le_of_eq (congrArg _ relocking)) (Nat.le_succ 6)
      · unfold ownerLeft
        rw [place]
        exact Nat.lt_succ_self _
  | unlocking =>
      have next : pool.ownerStep = (pool.setMutex none).setOwner (.joining 0) := by
        rw [ThreadPool.ownerStep, place]
      rw [next]
      refine work_lt rfl (fun i => ?_) ?_
      · rw [weight_of_asked _ place (by simp), weight_of_asked (.joining 0) rfl (by simp)]
        exact Nat.le_refl _
      · unfold ownerLeft
        rw [place]
        exact Nat.lt_succ_self _
  | joining i =>
      rw [place] at free stops
      obtain ⟨here, le, -⟩ := stops
      by_cases more : i < pool.created
      · have next : pool.ownerStep = { pool with joined := i + 1 }.setOwner (.joining (i + 1)) := by
          rw [ThreadPool.ownerStep, place]
          dsimp only
          rw [if_pos more, if_neg (by omega), free more]
        rw [next]
        refine work_lt rfl (fun j => ?_) ?_
        · rw [weight_of_asked _ place (by simp), weight_of_asked (.joining (i + 1)) rfl (by simp)]
          exact Nat.le_refl _
        · unfold ownerLeft
          rw [place]
          show pool.created - (i + 1) + 1 < pool.created - i + 1
          omega
      · have next : pool.ownerStep = pool.setOwner .outside := by
          rw [ThreadPool.ownerStep, place]
          exact if_neg more
        rw [next]
        refine work_lt rfl (fun j => ?_) ?_
        · rw [weight_of_asked _ place (by simp), weight_of_asked .outside rfl (by simp)]
          exact Nat.le_refl _
        · unfold ownerLeft
          rw [place]
          exact Nat.succ_pos _

theorem ownerStep_of_not_free (stuck : ¬ pool.OwnerFree) (starting : ∀ i, pool.owner ≠ .starting i)
    (running : ∀ i, pool.owner = .joining i → i < pool.joined → False) : pool.ownerStep = pool := by
  unfold OwnerFree at stuck
  unfold ThreadPool.ownerStep
  cases place : pool.owner with
  | outside | aborted => rfl
  | starting i => exact absurd place (starting i)
  | locking =>
      rw [place] at stuck
      cases free : pool.mutex with
      | none => exact absurd free stuck
      | some thread => rfl
  | clearing | broadcasting | unlocking =>
      rw [place] at stuck
      exact absurd trivial stuck
  | joining i =>
      rw [place] at stuck
      obtain ⟨more, unfinished⟩ := Classical.not_imp.mp stuck
      dsimp only
      rw [if_pos more, if_neg (running i place)]
      split
      · next finished => exact absurd finished unfinished
      · rfl

theorem Alike.work {after : ThreadPool τ} (alike : pool.Alike after) : after.work = pool.work := by
  unfold ThreadPool.work ownerLeft weight
  rw [alike.owner, alike.created, alike.started, alike.workers]

/-- **A step** lowers the work, or leaves everyone where it is, and then it was not the step of
one who can go on. -/
theorem Stopping.step_cases {count : Nat} (stopping : pool.Stopping count) {step : PoolStep τ}
    (undisturbed : pool.Undisturbed step) :
    (threads.step pool step).work < pool.work ∨
      pool.Alike (threads.step pool step) ∧ (step = .owner → ¬ pool.OwnerFree) ∧
        ∀ i, step = .worker i → pool.Blocked i := by
  have stops := stopping.stops
  have alive : pool.owner ≠ .aborted := by
    intro aborted
    rw [aborted] at stops
    exact stops
  have unqueued := stopping.coherent.unqueued
  unfold threads
  dsimp only
  rw [if_neg alive]
  cases step with
  | worker i =>
      rcases unqueued.worker_cases i with ⟨blocked, same⟩ | ⟨mutex, place, move, moved⟩
      · refine .inr ⟨?_, nofun, fun j this => ?_⟩
        · dsimp only
          rw [same]
          exact .refl pool
        · rw [← PoolStep.worker.inj this]
          exact blocked
      · dsimp only
        rw [moved]
        exact .inl (stopping.worker_lowers move)
  | wake i =>
      dsimp only
      unfold ThreadPool.wake
      split
      · next waiting =>
          exact .inl (stopping.wake_lowers (fun asking => undisturbed asking i rfl) waiting)
      · exact .inr ⟨.refl pool, nofun, nofun⟩
  | owner =>
      by_cases free : pool.OwnerFree
      · exact .inl (stopping.owner_lowers free)
      · refine .inr ⟨?_, fun _ => free, nofun⟩
        dsimp only
        rw [ownerStep_of_not_free free ?_ ?_]
        · exact .refl pool
        · intro i place
          rw [place] at stops
          exact stops
        · intro i place less
          rw [place] at stops
          have here := stops.1
          omega
  | caller n woken => exact .inr ⟨unqueued.caller_alike n woken, nofun, nofun⟩
  | run n task => exact .inr ⟨run_alike pool n task, nofun, nofun⟩

/-! ## Rounds -/

/-- The owner, and the workers that are started. -/
def everyone (count : Nat) : List (Option PoolThread) :=
  some .owner :: (List.range count).map fun i => some (.worker i)

/-- The one that the others wait for. -/
def Helps (thread : Option PoolThread) (pool : ThreadPool τ) : Prop :=
  match thread with
  | some .owner => pool.OwnerFree
  | some (.worker i) => pool.mutex = some (.worker i) ∨
      pool.mutex = none ∧ pool.owner = .joining i ∧ i < pool.created ∧ pool.workers i ≠ .finished
  | some (.caller _) | none => False

theorem Helps.of_alike {thread : Option PoolThread} {after : ThreadPool τ}
    (helps : pool.Helps thread) (alike : pool.Alike after) : after.Helps thread := by
  unfold Helps OwnerFree at helps ⊢
  rw [alike.owner, alike.mutex, alike.workers, alike.created]
  exact helps

/-- A worker that the others wait for can go on. -/
theorem Stopping.not_blocked {count : Nat} (stopping : pool.Stopping count) {i : Nat}
    (helps : pool.Helps (some (.worker i))) : ¬ pool.Blocked i := by
  unfold Blocked
  rcases helps with mine | ⟨free, place, begun, unfinished⟩
  · have holds := (stopping.coherent.held i).mp mine
    cases at_ : pool.workers i with
    | checking | taking | unlocking task => exact not_false
    | notStarted | atLoop | locking | waiting | relocking | running task | finished =>
        rw [at_] at holds
        exact holds.elim
  · have stops := stopping.stops
    rw [place] at stops
    have awake := stops.2.2.2.1 i
    have started := (stopping.coherent.begun i).mpr begun
    cases at_ : pool.workers i with
    | notStarted => exact absurd at_ started
    | waiting => exact absurd at_ awake
    | finished => exact absurd at_ unfinished
    | locking | relocking => exact fun blocked => blocked free
    | atLoop | checking | taking | unlocking task | running task => exact not_false

/-- As long as `Stop` has not returned, somebody can be waited for. -/
theorem Stopping.helper {count : Nat} (stopping : pool.Stopping count)
    (inside : pool.owner ≠ .outside) : ∃ thread ∈ everyone count, pool.Helps thread := by
  have stops := stopping.stops
  have owns : pool.OwnerFree → ∃ thread ∈ everyone count, pool.Helps thread := fun free =>
    ⟨some .owner, List.mem_cons_self, free⟩
  have one {i : Nat} (begun : i < pool.created) (helps : pool.Helps (some (.worker i))) :
      ∃ thread ∈ everyone count, pool.Helps thread := by
    refine ⟨some (.worker i), List.mem_cons_of_mem _ (List.mem_map.mpr ⟨i, ?_, rfl⟩), helps⟩
    rw [← stopping.created]
    exact List.mem_range.mpr begun
  have holder {thread : PoolThread} (mutex : pool.mutex = some thread) (not : ¬ pool.owner.Holds) :
      ∃ thread ∈ everyone count, pool.Helps thread := by
    cases thread with
    | worker i =>
        refine one ?_ (.inl mutex)
        have holds := (stopping.coherent.held i).mp mutex
        rw [← stopping.coherent.begun i]
        intro fresh
        rw [fresh] at holds
        exact holds
    | owner => exact absurd (stopping.coherent.owned.mp mutex) not
    | caller n => exact absurd mutex (stopping.coherent.direct n)
  cases place : pool.owner with
  | outside => exact absurd place inside
  | starting i | aborted =>
      rw [place] at stops
      exact stops.elim
  | locking =>
      cases mutex : pool.mutex with
      | none =>
          refine owns ?_
          unfold OwnerFree
          rw [place]
          exact mutex
      | some thread =>
          refine holder mutex ?_
          rw [place]
          exact not_false
  | clearing | broadcasting | unlocking =>
      refine owns ?_
      unfold OwnerFree
      rw [place]
      exact trivial
  | joining i =>
      by_cases free : pool.OwnerFree
      · exact owns free
      · unfold OwnerFree at free
        rw [place] at free
        obtain ⟨more, unfinished⟩ := Classical.not_imp.mp free
        cases mutex : pool.mutex with
        | none => exact one more (.inr ⟨mutex, place, more, unfinished⟩)
        | some thread =>
            refine holder mutex ?_
            rw [place]
            exact not_false

/-- Once `Stop` has returned, no step of the threads brings the owner back into it. -/
theorem outside_step (outside : pool.owner = .outside) (step : PoolStep τ)
    (unqueued : pool.Unqueued) :
    (threads.step pool step).owner = .outside := by
  unfold threads
  dsimp only
  rw [if_neg (by rw [outside]; exact nofun)]
  cases step with
  | worker i =>
      rcases unqueued.worker_cases i with ⟨-, same⟩ | ⟨mutex, place, -, moved⟩
      · exact (congrArg ThreadPool.owner same).trans outside
      · exact (congrArg ThreadPool.owner moved).trans outside
  | wake i =>
      dsimp only
      unfold ThreadPool.wake
      split
      · exact outside
      · exact outside
  | owner =>
      dsimp only
      rw [ThreadPool.ownerStep, outside]
      exact outside
  | caller n woken => exact (unqueued.caller_alike n woken).owner.trans outside
  | run n task => exact (run_alike pool n task).owner.trans outside

/-- **A first `Stop` gets on**, whatever the others do. -/
theorem stop_progresses (count : Nat) :
    (threads : Machine (ThreadPool τ) (PoolStep τ)).MakesProgress Undisturbed PoolStep.thread
      (everyone count) (Stopping count) (fun pool => pool.owner = .outside) work Helps where
  kept _ step stopping _ := stopping.step step
  stays _ step stopping _ outside := outside_step outside step stopping.coherent.unqueued
  lower _ _ stopping undisturbed := by
    rcases stopping.step_cases undisturbed with less | ⟨alike, -⟩
    · exact Nat.le_of_lt less
    · exact Nat.le_of_eq alike.work
  helper _ stopping inside := stopping.helper inside
  helps _ step thread stopping undisturbed helps := by
    rcases stopping.step_cases undisturbed with less | ⟨alike, owner, worker⟩
    · exact .inl less
    · refine .inr ⟨?_, helps.of_alike alike⟩
      rintro rfl
      cases step with
      | worker i => exact stopping.not_blocked helps (worker i rfl)
      | owner => exact owner rfl helps
      | wake i | caller n woken | run n task => exact helps

theorem Stopping.work_le {count : Nat} (stopping : pool.Stopping count) :
    pool.work ≤ 16 * count + 5 := by
  have weights : ∑ i ∈ Finset.range pool.created, pool.weight (pool.workers i) ≤
      ∑ _i ∈ Finset.range pool.created, 15 := by
    refine Finset.sum_le_sum fun i _ => ?_
    unfold weight
    split
    · exact (WorkerPlace.le_ahead _).2
    · exact Nat.le_trans (WorkerPlace.left_le _ _) (by decide)
  have owner : pool.ownerLeft ≤ pool.created + 5 := by
    unfold ownerLeft
    split <;> omega
  rw [Finset.sum_const_nat fun _ _ => rfl, Finset.card_range] at weights
  have bound := stopping.created
  unfold work
  omega

/-- **`Stop` returns.** From any reachable state in which `Stop` is called and no thread has been
joined before, let the threads step in any order, with calls of `Run` in between: if every worker
and the owner step at least once in each of more than `16 n + 5` rounds for `n` workers, and no
worker is woken without reason before `Stop` has the mutex, then `Stop` returns, and every worker
is at its end and joined. -/
theorem stop_returns (inputs : List (PoolStep τ ⊕ OwnerCall)) (rounds : List (List (PoolStep τ)))
    (asked : (machine.run new inputs).owner = .locking)
    (first : (machine.run new inputs).joined = 0)
    (fair : ∀ steps ∈ rounds,
      Machine.Round PoolStep.thread (everyone (machine.run new inputs).created) steps)
    (undisturbed : threads.Guarded Undisturbed (machine.run new inputs) rounds.flatten)
    (enough : 16 * (machine.run new inputs).created + 5 < rounds.length) :
    (threads.run (machine.run new inputs) rounds.flatten).owner = .outside ∧
      (threads.run (machine.run new inputs) rounds.flatten).joined =
        (machine.run new inputs).created ∧
      ∀ i < (machine.run new inputs).created,
        (threads.run (machine.run new inputs) rounds.flatten).workers i = .finished := by
  have stopping : (machine.run new inputs).Stopping (machine.run new inputs).created := by
    refine ⟨coherent_run inputs, rfl, ?_⟩
    rw [asked]
    exact first
  have returned := (stop_progresses _).reaches stopping fair undisturbed
    (Nat.lt_of_le_of_lt stopping.work_le enough)
  have after := ((stop_progresses _).run_kept stopping undisturbed).1
  have stops := after.stops
  rw [returned, StopsAt, after.created] at stops
  exact ⟨returned, stops⟩

theorem undisturbed_of_wakeless {steps : List (PoolStep τ)}
    (wakeless : ∀ step ∈ steps, ∀ i, step ≠ .wake i) (pool : ThreadPool τ) :
    threads.Guarded Undisturbed pool steps := by
  induction steps generalizing pool with
  | nil => trivial
  | cons step steps ih =>
      obtain ⟨here, later⟩ := List.forall_mem_cons.mp wakeless
      exact ⟨fun _ => here, ih later _⟩

/-- Everyone steps once. -/
def inTurn (count : Nat) : List (PoolStep τ) := .owner :: (List.range count).map .worker

theorem inTurn_round (count : Nat) :
    Machine.Round PoolStep.thread (everyone count) (inTurn count : List (PoolStep τ)) := by
  intro thread member
  rcases List.mem_cons.mp member with rfl | worker
  · exact ⟨.owner, List.mem_cons_self, rfl⟩
  · obtain ⟨i, less, rfl⟩ := List.mem_map.mp worker
    exact ⟨.worker i, List.mem_cons_of_mem _ (List.mem_map_of_mem less), rfl⟩

theorem inTurn_wakeless (count : Nat) :
    ∀ step ∈ (inTurn count : List (PoolStep τ)), ∀ i, step ≠ .wake i := by
  intro step member
  rcases List.mem_cons.mp member with rfl | worker
  · exact nofun
  · obtain ⟨i, -, rfl⟩ := List.mem_map.mp worker
    exact nofun

/-- Two workers, of which one sleeps and the other is at its loop, and a `Stop`. -/
theorem stop_returns_twoWorkers :
    (threads.run (machine.run new [.inr (.setThreadNum 2), .inr .start, .inl .owner, .inl .owner,
        .inl .owner, .inl (.worker 0), .inl (.worker 0), .inl (.worker 0), .inr .stop])
      (List.replicate 38 (inTurn 2 : List (PoolStep Unit))).flatten).owner = .outside := by
  refine (stop_returns _ (List.replicate 38 (inTurn 2)) rfl rfl ?_ ?_ ?_).1
  · intro steps member
    rw [List.eq_of_mem_replicate member]
    exact inTurn_round 2
  · refine undisturbed_of_wakeless (fun step member => ?_) _
    obtain ⟨steps, inside, here⟩ := List.mem_flatten.mp member
    rw [List.eq_of_mem_replicate inside] at here
    exact inTurn_wakeless 2 step here
  · rw [List.length_replicate]
    exact Nat.lt_succ_self 37

end ThreadPool

end LiveBroadcast
