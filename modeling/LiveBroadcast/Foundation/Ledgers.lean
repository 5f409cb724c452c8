/-!
# Queues with their history

A first-in first-out queue, kept as everything that has entered and how much of it has left
(`Ledger`). The queue is what is behind the part that has left, in order, so at all times the two
totals differ by its length (`queue_length`).

More than is there cannot leave: `leave` takes at most the whole queue.
-/

set_option autoImplicit false

namespace LiveBroadcast

universe u

/-- What has entered a queue, and how much of it has left. -/
structure Ledger (α : Type u) where
  entered : List α
  left : Nat
  left_le : left ≤ entered.length

namespace Ledger

variable {α : Type u} (ledger : Ledger α)

/-- The queue that nothing has entered. -/
def empty : Ledger α := ⟨[], 0, Nat.le_refl _⟩

/-- What has entered and not left. -/
def queue : List α := ledger.entered.drop ledger.left

/-- Items come in behind the others. -/
def enter (items : List α) : Ledger α where
  entered := ledger.entered ++ items
  left := ledger.left
  left_le := by
    rw [List.length_append]
    exact Nat.le_trans ledger.left_le (Nat.le_add_right _ _)

theorem queue_length : ledger.queue.length = ledger.entered.length - ledger.left :=
  List.length_drop

/-- At most so many items leave, from the front. -/
def leave (count : Nat) : Ledger α where
  entered := ledger.entered
  left := ledger.left + min count ledger.queue.length
  left_le := by
    have inside := ledger.left_le
    rw [queue_length]
    omega

/-- All items leave. -/
def leaveAll : Ledger α := ledger.leave ledger.queue.length

@[simp] theorem queue_enter (items : List α) :
    (ledger.enter items).queue = ledger.queue ++ items :=
  List.drop_append_of_le_length ledger.left_le

/-- **The first items leave**, and all of them if there are fewer. -/
@[simp] theorem queue_leave (count : Nat) :
    (ledger.leave count).queue = ledger.queue.drop count := by
  have skipped : (ledger.leave count).queue =
      ledger.queue.drop (min count ledger.queue.length) := by
    rw [queue, queue, List.drop_drop]
    rfl
  rw [skipped]
  rcases Nat.le_total count ledger.queue.length with inside | beyond
  · rw [Nat.min_eq_left inside]
  · rw [Nat.min_eq_right beyond, List.drop_length, List.drop_of_length_le beyond]

end Ledger

end LiveBroadcast
