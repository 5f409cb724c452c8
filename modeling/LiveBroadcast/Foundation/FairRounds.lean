import LiveBroadcast.Foundation.Runs

/-!
# Schedules in rounds

The inputs of a machine are steps of several actors, in some order. A round for some actors is a
piece of the schedule in which each of them steps at least once, at any place, any number of
times, and others may step as well. So a schedule of many rounds is one in which nobody is kept
waiting for ever, and nothing more is said about it.

A machine `MakesProgress` towards a goal when, as long as the goal is not reached, some actor
helps: its next step lowers the amount of work left, and until it steps, the others cannot make
it stop helping except by lowering the work themselves. Then the goal is reached within as many
rounds as there is work (`MakesProgress.reaches`). A step that is blocked lowers nothing, and
that is allowed, as long as the one who blocks it helps.
-/

set_option autoImplicit false

namespace LiveBroadcast

universe u v w

namespace Machine

variable {σ : Type u} {α : Type v} {ι : Type w}

/-- Each of the actors steps at least once. -/
def Round (actor : α → ι) (actors : List ι) (inputs : List α) : Prop :=
  ∀ one ∈ actors, ∃ input ∈ inputs, actor input = one

/-- Towards the goal `Done` the work never grows, and somebody helps. -/
structure MakesProgress (machine : Machine σ α) (Guard : σ → α → Prop) (actor : α → ι)
    (actors : List ι) (Inv Done : σ → Prop) (work : σ → Nat) (Helps : ι → σ → Prop) : Prop where
  kept : ∀ state input, Inv state → Guard state input → Inv (machine.step state input)
  stays : ∀ state input, Inv state → Guard state input → Done state →
    Done (machine.step state input)
  lower : ∀ state input, Inv state → Guard state input →
    work (machine.step state input) ≤ work state
  helper : ∀ state, Inv state → ¬ Done state → ∃ one ∈ actors, Helps one state
  helps : ∀ state input one, Inv state → Guard state input → Helps one state →
    work (machine.step state input) < work state ∨
      actor input ≠ one ∧ Helps one (machine.step state input)

variable {machine : Machine σ α} {Guard : σ → α → Prop} {actor : α → ι} {actors : List ι}
  {Inv Done : σ → Prop} {work : σ → Nat} {Helps : ι → σ → Prop}

namespace MakesProgress

theorem run_kept (progress : machine.MakesProgress Guard actor actors Inv Done work Helps)
    {state : σ} (inv : Inv state) {inputs : List α} (guarded : machine.Guarded Guard state inputs) :
    Inv (machine.run state inputs) ∧ work (machine.run state inputs) ≤ work state := by
  induction inputs generalizing state with
  | nil => exact ⟨inv, Nat.le_refl _⟩
  | cons input inputs ih =>
      obtain ⟨met, guarded⟩ := guarded
      obtain ⟨kept, low⟩ := ih (progress.kept state input inv met) guarded
      exact ⟨kept, Nat.le_trans low (progress.lower state input inv met)⟩

theorem run_stays (progress : machine.MakesProgress Guard actor actors Inv Done work Helps)
    {state : σ} (inv : Inv state) (done : Done state) {inputs : List α}
    (guarded : machine.Guarded Guard state inputs) : Done (machine.run state inputs) := by
  induction inputs generalizing state with
  | nil => exact done
  | cons input inputs ih =>
      obtain ⟨met, guarded⟩ := guarded
      exact ih (progress.kept state input inv met) (progress.stays state input inv met done) guarded

/-- The step of one who helps is in the schedule, so the work gets less. -/
theorem run_helps (progress : machine.MakesProgress Guard actor actors Inv Done work Helps)
    {state : σ} (inv : Inv state) {one : ι} (helps : Helps one state) {inputs : List α}
    (guarded : machine.Guarded Guard state inputs) (steps : ∃ input ∈ inputs, actor input = one) :
    work (machine.run state inputs) < work state := by
  induction inputs generalizing state with
  | nil =>
      obtain ⟨input, inside, -⟩ := steps
      cases inside
  | cons first inputs ih =>
      obtain ⟨met, guarded⟩ := guarded
      have kept := progress.kept state first inv met
      rcases progress.helps state first one inv met helps with less | ⟨other, still⟩
      · exact Nat.lt_of_le_of_lt (progress.run_kept kept guarded).2 less
      · refine Nat.lt_of_lt_of_le (ih kept still guarded ?_) (progress.lower state first inv met)
        obtain ⟨input, inside, mine⟩ := steps
        rcases List.mem_cons.mp inside with rfl | later
        · exact absurd mine other
        · exact ⟨input, later, mine⟩

/-- **One round**: the goal is reached or there is less work. -/
theorem round (progress : machine.MakesProgress Guard actor actors Inv Done work Helps) {state : σ}
    (inv : Inv state) {inputs : List α} (guarded : machine.Guarded Guard state inputs)
    (round : Round actor actors inputs) :
    Done (machine.run state inputs) ∨ work (machine.run state inputs) < work state := by
  by_cases done : Done state
  · exact .inl (progress.run_stays inv done guarded)
  · obtain ⟨one, member, helps⟩ := progress.helper state inv done
    exact .inr (progress.run_helps inv helps guarded (round one member))

/-- **The goal is reached** within more rounds than there is work. -/
theorem reaches (progress : machine.MakesProgress Guard actor actors Inv Done work Helps)
    {state : σ} (inv : Inv state) {rounds : List (List α)}
    (each : ∀ inputs ∈ rounds, Round actor actors inputs)
    (guarded : machine.Guarded Guard state rounds.flatten) (enough : work state < rounds.length) :
    Done (machine.run state rounds.flatten) := by
  induction rounds generalizing state with
  | nil => exact absurd enough (Nat.not_lt_zero _)
  | cons inputs rounds ih =>
      obtain ⟨here, later⟩ := List.forall_mem_cons.mp each
      rw [List.flatten_cons, guarded_append] at guarded
      obtain ⟨first, rest⟩ := guarded
      have kept := (progress.run_kept inv first).1
      rw [List.flatten_cons, run_append]
      rcases progress.round inv first here with done | less
      · exact progress.run_stays kept done rest
      · refine ih kept later rest ?_
        rw [List.length_cons] at enough
        omega

end MakesProgress

end Machine

end LiveBroadcast
