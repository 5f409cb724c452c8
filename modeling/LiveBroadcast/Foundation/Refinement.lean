import LiveBroadcast.Foundation.Runs

/-!
# Refinement along runs

A machine that may fault refines another one when each of its steps is matched: what the step
stands for, a list of inputs of the other machine, brings the other machine from any related
state to one that is related again. The list may be empty, for a step that the other machine does
not see, and what a step stands for may depend on the state it is taken in.

Then a run is matched by the run over what its steps stand for, one behind the other
(`Refines.run`).
-/

set_option autoImplicit false

namespace LiveBroadcast

universe u v

namespace Machine

variable {σ τ : Type u} {α β : Type v} {ε φ : Type u}

/-- What a step stands for; nothing behind a fault. -/
def ofOk (emits : σ → α → List β) : Except ε σ → α → List β
  | .ok state, input => emits state input
  | .error _, _ => []

/-- The steps of a machine are matched by another one. -/
structure Refines (step : σ → α → Except ε σ) (abstractStep : τ → β → Except φ τ)
    (emits : σ → α → List β) (Rel : σ → τ → Prop) : Prop where
  matched : ∀ {state : σ} {input : α} {next : σ} {other : τ}, Rel state other →
    step state input = .ok next →
      ∃ after, (faulting abstractStep).run (.ok other) (emits state input) = .ok after ∧
        Rel next after

variable {step : σ → α → Except ε σ} {abstractStep : τ → β → Except φ τ}
  {emits : σ → α → List β} {Rel : σ → τ → Prop}

/-- A step that stands for nothing leaves the other machine where it is. -/
theorem matched_nil {next : σ} {other : τ} (rel : Rel next other) :
    ∃ after, (faulting abstractStep).run (.ok other) [] = .ok after ∧ Rel next after :=
  ⟨other, rfl, rel⟩

/-- A step that stands for one input is matched by one step. -/
theorem matched_singleton {next : σ} {other after : τ} {input : β}
    (made : abstractStep other input = .ok after) (rel : Rel next after) :
    ∃ after, (faulting abstractStep).run (.ok other) [input] = .ok after ∧ Rel next after :=
  ⟨after, made, rel⟩

/-- **Runs are matched.** What a run reaches is related to what the other machine reaches over
what the run stands for. -/
theorem Refines.run (refines : Refines step abstractStep emits Rel) {start state : σ} {other : τ}
    (rel : Rel start other) {inputs : List α}
    (reached : (faulting step).run (.ok start) inputs = .ok state) :
    ∃ after, (faulting abstractStep).run (.ok other)
        ((faulting step).emitted (ofOk emits) (.ok start) inputs) = .ok after ∧
      Rel state after := by
  induction inputs using List.reverseRecOn generalizing state with
  | nil =>
      obtain rfl := Except.ok.inj reached
      exact ⟨other, rfl, rel⟩
  | append_singleton inputs input ih =>
      rw [faulting_run_concat] at reached
      cases earlier : (faulting step).run (.ok start) inputs with
      | error fault =>
          rw [earlier] at reached
          cases reached
      | ok before =>
          rw [earlier] at reached
          obtain ⟨between, matched, related⟩ := ih earlier
          obtain ⟨after, made, rel⟩ := refines.matched related reached
          refine ⟨after, ?_, rel⟩
          rw [emitted_concat, run_append, matched, earlier]
          exact made

end Machine

end LiveBroadcast
