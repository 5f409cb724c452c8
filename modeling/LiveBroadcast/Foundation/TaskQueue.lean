import LiveBroadcast.Foundation.Runs

/-!
# Tasks of a loop

Others hand tasks to a loop. Once in a round the loop takes all that are waiting, and carries them
out one after the other, while new ones may already be waiting for the next round. The queue keeps
the tasks that were carried out, those in hand and those that wait, in this order. So what it was
handed is what these make up (`all`), and only handing a task over changes that.

Over a run, in which the loop takes what is waiting only with nothing in hand, two swaps carry out
all that was handed over before them (`all_prefix_ran`), and once nothing is in hand, all that was
handed over before the last one has been carried out, and no more (`ran_of_last_swap`).
-/

set_option autoImplicit false

namespace LiveBroadcast

universe u

/-- The tasks of a loop: carried out, in hand, and waiting. -/
structure TaskQueue (τ : Type u) where
  ran : List τ
  inHand : List τ
  waiting : List τ
  deriving DecidableEq, Repr

namespace TaskQueue

variable {τ : Type u}

def empty : TaskQueue τ := ⟨[], [], []⟩

/-- A task is handed over. -/
def push (queue : TaskQueue τ) (task : τ) : TaskQueue τ :=
  { queue with waiting := queue.waiting ++ [task] }

/-- The loop takes what is waiting, when it has nothing in hand. -/
def swap (queue : TaskQueue τ) : TaskQueue τ :=
  match queue.inHand with
  | [] => { queue with inHand := queue.waiting, waiting := [] }
  | _ :: _ => queue

/-- The loop carries out the next task in hand. -/
def next (queue : TaskQueue τ) : Option (τ × TaskQueue τ) :=
  match queue.inHand with
  | [] => none
  | task :: later => some (task, { queue with ran := queue.ran ++ [task], inHand := later })

/-- The tasks that are still to be carried out. -/
def toCome (queue : TaskQueue τ) : List τ := queue.inHand ++ queue.waiting

/-- What was handed over. -/
def all (queue : TaskQueue τ) : List τ := queue.ran ++ queue.toCome

variable {queue after : TaskQueue τ} {task : τ}

@[simp] theorem push_toCome : (queue.push task).toCome = queue.toCome ++ [task] :=
  (List.append_assoc _ _ _).symm

@[simp] theorem push_ran : (queue.push task).ran = queue.ran := rfl

theorem push_all : (queue.push task).all = queue.all ++ [task] := by
  rw [all, push_toCome, push_ran, ← List.append_assoc]
  rfl

@[simp] theorem swap_toCome : queue.swap.toCome = queue.toCome := by
  unfold swap
  split
  · next nothing =>
    rw [toCome, toCome, nothing]
    exact List.append_nil _
  · rfl

@[simp] theorem swap_ran : queue.swap.ran = queue.ran := by
  unfold swap
  split <;> rfl

theorem swap_all : queue.swap.all = queue.all := by
  rw [all, all, swap_ran, swap_toCome]

/-- The task that is carried out is the first of those to come. -/
theorem next_toCome (made : queue.next = some (task, after)) :
    queue.toCome = task :: after.toCome ∧ after.ran = queue.ran ++ [task] := by
  unfold next at made
  split at made
  · cases made
  · next first later held =>
    obtain ⟨rfl, rfl⟩ := Prod.mk.inj (Option.some.inj made)
    refine ⟨?_, rfl⟩
    rw [toCome, held]
    rfl

theorem inHand_of_next_none (none : queue.next = none) : queue.inHand = [] := by
  unfold next at none
  split at none
  · assumption
  · cases none

theorem next_all (made : queue.next = some (task, after)) : after.all = queue.all := by
  obtain ⟨toCome, ran⟩ := next_toCome made
  rw [all, all, ran, toCome, List.append_assoc]
  rfl

end TaskQueue

/-! ## Runs of a loop -/

/-- What happens to the tasks of a loop. -/
inductive TaskMove (τ : Type u) where
  | push (task : τ)
  | swap
  | next
  deriving DecidableEq, Repr

/-- The tasks that are handed over. -/
def TaskMove.pushed {τ : Type u} : TaskMove τ → List τ
  | .push task => [task]
  | .swap | .next => []

def TaskMove.isSwap {τ : Type u} : TaskMove τ → Bool
  | .swap => true
  | .push _ | .next => false

namespace TaskQueue

variable {τ : Type u}

def move (queue : TaskQueue τ) : TaskMove τ → TaskQueue τ
  | .push task => queue.push task
  | .swap => queue.swap
  | .next =>
      match queue.next with
      | none => queue
      | some (_, later) => later

def moving : Machine (TaskQueue τ) (TaskMove τ) := ⟨move⟩

/-- The loop takes what is waiting when it has nothing in hand. -/
def TakesFree (queue : TaskQueue τ) : TaskMove τ → Prop
  | .swap => queue.inHand = []
  | .push _ | .next => True

/-- What the loop has taken. -/
def taken (queue : TaskQueue τ) : List τ := queue.ran ++ queue.inHand

variable {queue : TaskQueue τ}

theorem taken_append_waiting : queue.taken ++ queue.waiting = queue.all :=
  List.append_assoc _ _ _

/-- A loop with nothing in hand has carried out what it has taken. -/
theorem taken_of_free (free : queue.inHand = []) : queue.taken = queue.ran := by
  rw [taken, free, List.append_nil]

theorem swap_taken (free : queue.inHand = []) : queue.swap.taken = queue.all := by
  rw [all, toCome, taken, swap, free]
  rfl

theorem next_taken {task : τ} {after : TaskQueue τ} (made : queue.next = some (task, after)) :
    after.taken = queue.taken := by
  unfold next at made
  split at made
  · cases made
  · next first later held =>
    obtain ⟨rfl, rfl⟩ := Prod.mk.inj (Option.some.inj made)
    rw [taken, taken, held, List.append_assoc]
    rfl

theorem move_all (move : TaskMove τ) : (queue.move move).all = queue.all ++ move.pushed := by
  cases move with
  | push task => exact push_all
  | swap => exact swap_all.trans (List.append_nil _).symm
  | next =>
      rw [TaskQueue.move, TaskMove.pushed, List.append_nil]
      split
      · rfl
      · next made => exact next_all made

/-- What has been carried out stays so. -/
theorem move_ran (move : TaskMove τ) : queue.ran <+: (queue.move move).ran := by
  cases move with
  | push task => exact List.prefix_rfl
  | swap =>
      have same : queue.ran = queue.swap.ran := swap_ran.symm
      exact same ▸ List.prefix_rfl
  | next =>
      rw [TaskQueue.move]
      split
      · exact List.prefix_rfl
      · next made =>
        rw [(next_toCome made).2]
        exact List.prefix_append _ _

/-- Only a swap takes anything. -/
theorem move_taken {move : TaskMove τ} (keeps : move.isSwap = false) :
    (queue.move move).taken = queue.taken := by
  cases move with
  | push task => rfl
  | swap => cases keeps
  | next =>
      rw [TaskQueue.move]
      split
      · rfl
      · next made => exact next_taken made

theorem taken_le_move (move : TaskMove τ) : queue.taken <+: (queue.move move).taken := by
  cases kind : move.isSwap with
  | false => exact move_taken kind ▸ List.prefix_rfl
  | true =>
      cases move with
      | push task => cases kind
      | next => cases kind
      | swap =>
          change queue.taken <+: queue.swap.taken
          cases held : queue.inHand with
          | nil =>
              rw [swap_taken held, ← taken_append_waiting]
              exact List.prefix_append _ _
          | cons task later =>
              have same : queue.swap = queue := by rw [swap, held]
              exact same.symm ▸ List.prefix_rfl

variable {moves : List (TaskMove τ)}

theorem run_all : (moving.run queue moves).all = queue.all ++ moves.flatMap TaskMove.pushed := by
  induction moves generalizing queue with
  | nil => exact (List.append_nil _).symm
  | cons move moves ih =>
      rw [Machine.run_cons, ih, List.flatMap_cons, ← List.append_assoc]
      exact congrArg (· ++ _) (move_all move)

theorem taken_le_run : queue.taken <+: (moving.run queue moves).taken := by
  induction moves generalizing queue with
  | nil => exact List.prefix_rfl
  | cons move moves ih => exact (taken_le_move move).trans ih

/-- Without a swap nothing is taken. -/
theorem run_taken (keeps : moves.countP TaskMove.isSwap = 0) :
    (moving.run queue moves).taken = queue.taken := by
  induction moves generalizing queue with
  | nil => rfl
  | cons move moves ih =>
      rw [List.countP_eq_zero] at keeps
      have here := keeps move List.mem_cons_self
      rw [Machine.run_cons, ih (List.countP_eq_zero.mpr fun other inside =>
        keeps other (List.mem_cons_of_mem _ inside))]
      exact move_taken (Bool.not_eq_true _ ▸ here)

/-- **One swap takes** all that was handed over before it. -/
theorem all_prefix_taken (free : moving.Guarded TakesFree queue moves)
    (swaps : 1 ≤ moves.countP TaskMove.isSwap) :
    queue.all <+: (moving.run queue moves).taken := by
  induction moves generalizing queue with
  | nil => cases swaps
  | cons move moves ih =>
      obtain ⟨here, free⟩ := free
      cases kind : move.isSwap with
      | false =>
          rw [List.countP_cons_of_neg (by rw [kind]; decide)] at swaps
          refine List.IsPrefix.trans ?_ (ih free swaps)
          change queue.all <+: (queue.move move).all
          rw [move_all]
          exact List.prefix_append _ _
      | true =>
          cases move with
          | push task => cases kind
          | next => cases kind
          | swap =>
              rw [← swap_taken here]
              exact @taken_le_run _ queue.swap _

/-- **Two swaps carry out** all that was handed over before them. -/
theorem all_prefix_ran (free : moving.Guarded TakesFree queue moves)
    (swaps : 2 ≤ moves.countP TaskMove.isSwap) :
    queue.all <+: (moving.run queue moves).ran := by
  induction moves using List.reverseRecOn with
  | nil => cases swaps
  | append_singleton moves move ih =>
      rw [Machine.run_append]
      obtain ⟨earlier, here, -⟩ := Machine.guarded_append.mp free
      cases kind : move.isSwap with
      | false =>
          rw [List.countP_append, List.countP_singleton, kind] at swaps
          exact (ih earlier swaps).trans (move_ran move)
      | true =>
          rw [List.countP_append, List.countP_singleton, kind] at swaps
          cases move with
          | push task => cases kind
          | next => cases kind
          | swap =>
              have taken := all_prefix_taken earlier (Nat.le_of_succ_le_succ swaps)
              rw [taken_of_free here] at taken
              exact taken.trans (move_ran .swap)

/-- When the loop has nothing in hand, it has carried out what was handed over before it swapped
last. -/
theorem ran_of_last_swap (free : queue.inHand = []) (last : moves.countP TaskMove.isSwap = 0)
    (done : (moving.run queue (.swap :: moves)).inHand = []) :
    (moving.run queue (.swap :: moves)).ran = queue.all := by
  rw [← taken_of_free done, Machine.run_cons, run_taken last]
  exact swap_taken free

end TaskQueue

end LiveBroadcast
