import LiveBroadcast.Thread.ThreadPool

/-!
# Where the tasks of a pool run

`Run` calls the task in its own thread when the deque is empty, and only else leaves it to the
workers. But nothing else puts tasks into the deque, so it is empty for ever: no call of `Run`
gets as far as taking the mutex, and no worker ever takes a task (`Unqueued`).

**Main.** In every interleaving, the calls of `Run` have run the tasks that were handed to them,
each once, in order and by themselves; the workers have run none (`callers_run_their_tasks`).
-/

set_option autoImplicit false

namespace LiveBroadcast

universe u v

/-- The task that a call of `Run` has still to see to. -/
def CallerPlace.task {τ : Type u} : CallerPlace τ → Option τ
  | .testing task | .running task | .locking task | .pushing task => some task
  | .outside | .signalling | .unlocking => none

/-- The call is not on its way to the deque. -/
def CallerPlace.Direct {τ : Type u} : CallerPlace τ → Prop
  | .outside | .testing _ | .running _ => True
  | .locking _ | .pushing _ | .signalling | .unlocking => False

/-- The worker has no task. -/
def WorkerPlace.Idle {τ : Type u} : WorkerPlace τ → Prop
  | .unlocking (some _) | .running (some _) => False
  | _ => True

/-- The tasks of one in a record of who had which. -/
def tasksOf {κ : Type v} {τ : Type u} [DecidableEq κ] (record : List (κ × τ)) (one : κ) : List τ :=
  record.filterMap fun entry => if entry.1 = one then some entry.2 else none

theorem tasksOf_concat {κ : Type v} {τ : Type u} [DecidableEq κ] (record : List (κ × τ))
    (one other : κ) (task : τ) :
    tasksOf (record ++ [(one, task)]) other =
      tasksOf record other ++ if one = other then [task] else [] := by
  unfold tasksOf
  rw [List.filterMap_append]
  by_cases same : one = other
  · rw [if_pos same]
    simp [same]
  · rw [if_neg same]
    simp [same]

namespace ThreadPool

variable {τ : Type u} {pool : ThreadPool τ}

/-- The tasks that a thread has run. -/
def ranBy (pool : ThreadPool τ) (thread : PoolThread) : List τ := tasksOf pool.ran thread

/-- The tasks that were handed to a caller. -/
def handedTo (pool : ThreadPool τ) (n : Nat) : List τ := tasksOf pool.handed n

/-- The deque is empty, and nobody is about to put anything into it. -/
structure Unqueued (pool : ThreadPool τ) : Prop where
  deque : pool.taskDeque = []
  workers : ∀ i, (pool.workers i).Idle
  callers : ∀ n, (pool.callers n).Direct
  byWorkers : ∀ i, pool.ranBy (.worker i) = []
  byCallers : ∀ n, pool.ranBy (.caller n) ++ (pool.callers n).task.toList = pool.handedTo n

theorem unqueued_new : (new : ThreadPool τ).Unqueued :=
  ⟨rfl, fun _ => trivial, fun _ => trivial, fun _ => rfl, fun _ => rfl⟩

/-- What leaves the deque, the callers and their tasks as they are, and gives no worker a task. -/
theorem Unqueued.of_same {after : ThreadPool τ} (unqueued : pool.Unqueued)
    (deque : after.taskDeque = pool.taskDeque) (callers : after.callers = pool.callers)
    (ran : after.ran = pool.ran) (handed : after.handed = pool.handed)
    (workers : ∀ i, (after.workers i).Idle) : after.Unqueued := by
  obtain ⟨empty, -, direct, byWorkers, byCallers⟩ := unqueued
  refine ⟨deque.trans empty, workers, fun n => ?_, fun i => ?_, fun n => ?_⟩
  · rw [callers]
    exact direct n
  · rw [ranBy, ran]
    exact byWorkers i
  · rw [ranBy, handedTo, ran, handed, callers]
    exact byCallers n

theorem idle_update {workers : Nat → WorkerPlace τ} (idle : ∀ i, (workers i).Idle) (i : Nat)
    {place : WorkerPlace τ} (here : place.Idle) (j : Nat) :
    (Function.update workers i place j).Idle := by
  by_cases same : j = i
  · rw [same, Function.update_self]
    exact here
  · rw [Function.update_of_ne same]
    exact idle j

/-- **A worker** finds the deque empty. -/
theorem Unqueued.worker (unqueued : pool.Unqueued) (i : Nat) : (pool.worker i).Unqueued := by
  have idle := unqueued.workers
  have here := idle i
  rw [ThreadPool.worker]
  cases place : pool.workers i with
  | notStarted => exact unqueued
  | atLoop =>
      refine unqueued.of_same rfl rfl rfl rfl (idle_update idle i ?_)
      cases pool.started <;> trivial
  | locking =>
      cases pool.mutex with
      | none => exact unqueued.of_same rfl rfl rfl rfl (idle_update idle i trivial)
      | some thread => exact unqueued
  | relocking =>
      cases pool.mutex with
      | none => exact unqueued.of_same rfl rfl rfl rfl (idle_update idle i trivial)
      | some thread => exact unqueued
  | checking =>
      dsimp only
      split
      · exact unqueued.of_same rfl rfl rfl rfl (idle_update idle i trivial)
      · exact unqueued.of_same rfl rfl rfl rfl (idle_update idle i trivial)
  | waiting => exact unqueued
  | taking =>
      have empty := unqueued.deque
      dsimp only
      split
      · exact unqueued.of_same rfl rfl rfl rfl (idle_update idle i trivial)
      · next queued =>
          rw [empty] at queued
          cases queued
  | unlocking task =>
      rw [place] at here
      refine unqueued.of_same rfl rfl rfl rfl (idle_update idle i ?_)
      cases task with
      | none => trivial
      | some task => exact here.elim
  | running task =>
      rw [place] at here
      cases task with
      | none => exact unqueued.of_same rfl rfl rfl rfl (idle_update idle i trivial)
      | some task => exact here.elim
  | finished => exact unqueued

theorem Unqueued.wake (unqueued : pool.Unqueued) (i : Nat) : (pool.wake i).Unqueued := by
  rw [ThreadPool.wake]
  split
  · exact unqueued.of_same rfl rfl rfl rfl (idle_update unqueued.workers i trivial)
  · exact unqueued

theorem Unqueued.wakeUpAll (unqueued : pool.Unqueued) : pool.wakeUpAll.Unqueued := by
  refine unqueued.of_same rfl rfl rfl rfl fun i => ?_
  have idle := unqueued.workers i
  rw [ThreadPool.wakeUpAll]
  dsimp only
  split
  · trivial
  · exact idle

theorem Unqueued.setOwner (unqueued : pool.Unqueued) (place : OwnerPlace) :
    (pool.setOwner place).Unqueued :=
  unqueued.of_same rfl rfl rfl rfl unqueued.workers

/-- **The owner** does not touch the deque. -/
theorem Unqueued.ownerStep (unqueued : pool.Unqueued) : pool.ownerStep.Unqueued := by
  have idle := unqueued.workers
  rw [ThreadPool.ownerStep]
  cases pool.owner with
  | outside => exact unqueued
  | starting i =>
      dsimp only
      split_ifs
      · exact unqueued.setOwner .aborted
      · exact unqueued.of_same rfl rfl rfl rfl (idle_update idle i trivial)
      · exact unqueued.setOwner .outside
  | locking =>
      cases pool.mutex with
      | none => exact unqueued.of_same rfl rfl rfl rfl idle
      | some thread => exact unqueued
  | clearing => exact unqueued.of_same rfl rfl rfl rfl idle
  | broadcasting => exact unqueued.wakeUpAll.setOwner .unlocking
  | unlocking => exact unqueued.of_same rfl rfl rfl rfl idle
  | joining i =>
      dsimp only
      split_ifs
      · exact unqueued.setOwner .aborted
      · split
        · exact unqueued.of_same rfl rfl rfl rfl idle
        · exact unqueued
      · exact unqueued.setOwner .outside
  | aborted => exact unqueued

/-! ## The callers -/

theorem ranBy_concat (pool : ThreadPool τ) (thread other : PoolThread) (task : τ) :
    ranBy { pool with ran := pool.ran ++ [(thread, task)] } other =
      pool.ranBy other ++ if thread = other then [task] else [] :=
  tasksOf_concat pool.ran thread other task

theorem handedTo_concat (pool : ThreadPool τ) (n m : Nat) (task : τ) :
    handedTo { pool with handed := pool.handed ++ [(n, task)] } m =
      pool.handedTo m ++ if n = m then [task] else [] :=
  tasksOf_concat pool.handed n m task

/-- One caller goes from one place to another, and its books still balance. -/
theorem Unqueued.setCaller {n : Nat} {place : CallerPlace τ} {ran : List (PoolThread × τ)}
    {handed : List (Nat × τ)} (unqueued : pool.Unqueued) (direct : place.Direct)
    (byWorkers : ∀ i, ranBy { pool with ran := ran } (.worker i) = pool.ranBy (.worker i))
    (others : ∀ m, m ≠ n → ranBy { pool with ran := ran } (.caller m) = pool.ranBy (.caller m) ∧
      handedTo { pool with handed := handed } m = pool.handedTo m)
    (here : ranBy { pool with ran := ran } (.caller n) ++ place.task.toList =
      handedTo { pool with handed := handed } n) :
    ({ pool with ran := ran, handed := handed }.setCaller n place).Unqueued := by
  refine ⟨unqueued.deque, unqueued.workers, fun m => ?_,
    fun i => (byWorkers i).trans (unqueued.byWorkers i), fun m => ?_⟩
  · by_cases same : m = n
    · rw [same, ThreadPool.setCaller]
      dsimp only
      rw [Function.update_self]
      exact direct
    · rw [ThreadPool.setCaller]
      dsimp only
      rw [Function.update_of_ne same]
      exact unqueued.callers m
  · by_cases same : m = n
    · rw [same, ThreadPool.setCaller]
      dsimp only
      rw [Function.update_self]
      exact here
    · obtain ⟨sameRan, sameHanded⟩ := others m same
      have before := unqueued.byCallers m
      rw [← sameRan, ← sameHanded] at before
      rw [ThreadPool.setCaller]
      dsimp only
      rw [Function.update_of_ne same]
      exact before

/-- **A call of `Run`** finds the deque empty, too, and calls the task. -/
theorem Unqueued.caller (unqueued : pool.Unqueued) (n woken : Nat) :
    (pool.caller n woken).Unqueued := by
  have direct := unqueued.callers n
  have books := unqueued.byCallers n
  rw [ThreadPool.caller]
  cases place : pool.callers n with
  | outside => exact unqueued
  | testing task =>
      rw [place] at books
      have empty : pool.taskDeque.isEmpty := by rw [unqueued.deque, List.isEmpty_nil]
      dsimp only
      rw [if_pos empty]
      exact unqueued.setCaller trivial (fun _ => rfl) (fun _ _ => ⟨rfl, rfl⟩) books
  | running task =>
      rw [place] at books
      refine unqueued.setCaller trivial (fun i => ?_) (fun m other => ⟨?_, rfl⟩) ?_
      · rw [ranBy_concat, if_neg PoolThread.noConfusion, List.append_nil]
      · rw [ranBy_concat, if_neg fun same => other (PoolThread.caller.inj same).symm,
          List.append_nil]
      · rw [ranBy_concat, if_pos rfl]
        exact (List.append_nil _).trans books
  | locking task | pushing task | signalling | unlocking =>
      rw [place] at direct
      exact direct.elim

theorem Unqueued.run (unqueued : pool.Unqueued) (n : Nat) (task : τ) :
    (pool.run n task).Unqueued := by
  have books := unqueued.byCallers n
  rw [ThreadPool.run]
  cases place : pool.callers n with
  | outside =>
      rw [place] at books
      refine unqueued.setCaller trivial (fun _ => rfl) (fun m other => ⟨rfl, ?_⟩) ?_
      · rw [handedTo_concat, if_neg other.symm, List.append_nil]
      · rw [handedTo_concat, if_pos rfl, ← books]
        exact congrArg (· ++ [task]) (List.append_nil _).symm
  | testing task | running task | locking task | pushing task | signalling | unlocking =>
      exact unqueued

theorem Unqueued.call (unqueued : pool.Unqueued) (call : OwnerCall) :
    (pool.call call).Unqueued := by
  unfold ThreadPool.call
  cases pool.owner with
  | outside =>
      cases call with
      | setThreadNum num =>
          dsimp only
          split_ifs
          · exact unqueued.setOwner .aborted
          · exact unqueued.of_same rfl rfl rfl rfl unqueued.workers
      | start =>
          dsimp only
          split_ifs
          · exact unqueued.setOwner .aborted
          · exact unqueued.of_same rfl rfl rfl rfl unqueued.workers
      | stop => exact unqueued.setOwner .locking
      | destroy =>
          dsimp only
          split_ifs
          · exact unqueued.setOwner .locking
          · exact unqueued
  | starting i | locking | clearing | broadcasting | unlocking | joining i | aborted =>
      exact unqueued

/-! ## Runs -/

theorem Unqueued.thread (unqueued : pool.Unqueued) (step : PoolStep τ) :
    (threads.step pool step).Unqueued := by
  rw [ThreadPool.threads]
  dsimp only
  split_ifs
  · exact unqueued
  · cases step with
    | worker i => exact unqueued.worker i
    | wake i => exact unqueued.wake i
    | owner => exact unqueued.ownerStep
    | caller n woken => exact unqueued.caller n woken
    | run n task => exact unqueued.run n task

theorem Unqueued.step (unqueued : pool.Unqueued) (input : PoolStep τ ⊕ OwnerCall) :
    (machine.step pool input).Unqueued := by
  cases input with
  | inl step => exact unqueued.thread step
  | inr call => exact unqueued.call call

theorem Unqueued.runs (unqueued : pool.Unqueued) (inputs : List (PoolStep τ ⊕ OwnerCall)) :
    (machine.run pool inputs).Unqueued :=
  Machine.Leads.keeps (fun _ input holds => holds.step input) ⟨inputs, rfl⟩ unqueued

/-- **The workers never run a task.** However the calls of `Run` from any number of threads, the
workers, the starts and the stops interleave, the deque stays empty, no worker has run anything,
and what each caller has run, with the task it is just seeing to, is what it was handed. -/
theorem callers_run_their_tasks (inputs : List (PoolStep τ ⊕ OwnerCall)) :
    (machine.run new inputs).taskDeque = [] ∧
      (∀ i, (machine.run new inputs).ranBy (.worker i) = []) ∧
      ∀ n, (machine.run new inputs).ranBy (.caller n) ++
          ((machine.run new inputs).callers n).task.toList =
        (machine.run new inputs).handedTo n := by
  have unqueued := unqueued_new.runs inputs
  exact ⟨unqueued.deque, unqueued.byWorkers, unqueued.byCallers⟩

end ThreadPool

end LiveBroadcast
