import Mathlib.Data.List.Basic
import Mathlib.Data.List.Induction

/-!
# Runs of a deterministic machine

A machine takes its inputs one after the other (`run`). A guard is a condition on a state
and the next input; a run is guarded when every step of it meets the guard
(`Guarded`).

An invariant that guarded steps preserve holds all along a guarded run
(`Preserves.always`). When the guard is met by exactly the steps that keep the invariant,
the runs along which the invariant holds are exactly the guarded ones (`Exact.always_iff`).
`faulting_always_iff` is the same for steps that may fault.
-/

set_option autoImplicit false

namespace LiveBroadcast

universe u v

/-- What holds of no input, and of each further input exactly if it is allowed there, holds
of all parts of an input exactly if all of its steps are allowed. -/
theorem forall_prefix_iff {α : Type v} {Holds : List α → Prop} {Allowed : List α → α → Prop}
    (start : Holds []) {inputs : List α}
    (step : ∀ before input, before ++ [input] <+: inputs → Holds before →
      (Holds (before ++ [input]) ↔ Allowed before input)) :
    (∀ before, before <+: inputs → Holds before) ↔
      ∀ before input, before ++ [input] <+: inputs → Allowed before input := by
  constructor
  · intro holds before input reached
    have earlier : before <+: inputs := (List.prefix_append before [input]).trans reached
    exact (step before input reached (holds before earlier)).mp (holds _ reached)
  · intro allowed before reached
    induction before using List.reverseRecOn with
    | nil => exact start
    | append_singleton before input ih =>
        have earlier : before <+: inputs := (List.prefix_append before [input]).trans reached
        exact (step before input reached (ih earlier)).mpr (allowed before input reached)

theorem concat_prefix_singleton {α : Type v} {before : List α} {input other : α} :
    before ++ [input] <+: [other] ↔ before = [] ∧ input = other := by
  cases before with
  | nil => simp
  | cons first before => simp

/-- A deterministic machine with inputs from `α`. -/
structure Machine (σ : Type u) (α : Type v) where
  step : σ → α → σ

namespace Machine

variable {σ : Type u} {α : Type v}

/-- The state after the inputs, first to last. -/
def run (machine : Machine σ α) : σ → List α → σ := List.foldl machine.step

@[simp] theorem run_nil (machine : Machine σ α) (state : σ) : machine.run state [] = state := rfl

@[simp] theorem run_cons (machine : Machine σ α) (state : σ) (input : α) (inputs : List α) :
    machine.run state (input :: inputs) = machine.run (machine.step state input) inputs := rfl

theorem run_append (machine : Machine σ α) (state : σ) (inputs later : List α) :
    machine.run state (inputs ++ later) = machine.run (machine.run state inputs) later :=
  List.foldl_append

/-- Every step of the run meets the guard. -/
def Guarded (machine : Machine σ α) (Guard : σ → α → Prop) : σ → List α → Prop
  | _, [] => True
  | state, input :: inputs =>
      Guard state input ∧ machine.Guarded Guard (machine.step state input) inputs

/-- The invariant holds in every state the run passes through, the first and the last
included. -/
def Always (machine : Machine σ α) (Inv : σ → Prop) (state : σ) (inputs : List α) : Prop :=
  ∀ before, before <+: inputs → Inv (machine.run state before)

/-- Guarded steps keep the invariant. -/
structure Preserves (machine : Machine σ α) (Guard : σ → α → Prop) (Inv : σ → Prop) : Prop where
  step : ∀ state input, Inv state → Guard state input → Inv (machine.step state input)

/-- The guarded steps are the steps that keep the invariant. -/
structure Exact (machine : Machine σ α) (Guard : σ → α → Prop) (Inv : σ → Prop) : Prop where
  step : ∀ state input, Inv state → (Inv (machine.step state input) ↔ Guard state input)

variable {machine : Machine σ α} {Guard : σ → α → Prop} {Inv : σ → Prop}

theorem always_nil {state : σ} : machine.Always Inv state [] ↔ Inv state := by
  refine ⟨fun always => always [] List.prefix_rfl, fun holds before le => ?_⟩
  rw [List.prefix_nil.mp le]
  exact holds

theorem always_cons {state : σ} {input : α} {inputs : List α} :
    machine.Always Inv state (input :: inputs) ↔
      Inv state ∧ machine.Always Inv (machine.step state input) inputs := by
  constructor
  · intro always
    refine ⟨always [] List.nil_prefix, fun before le => ?_⟩
    exact always (input :: before) (List.cons_prefix_cons.mpr ⟨rfl, le⟩)
  · rintro ⟨holds, always⟩ before le
    cases before with
    | nil => exact holds
    | cons first before =>
        obtain ⟨rfl, shorter⟩ := List.cons_prefix_cons.mp le
        exact always before shorter

/-- **An invariant holds all along a guarded run.** -/
theorem Preserves.always (preserves : machine.Preserves Guard Inv) {state : σ}
    (start : Inv state) {inputs : List α} (guarded : machine.Guarded Guard state inputs) :
    machine.Always Inv state inputs := by
  induction inputs generalizing state with
  | nil => exact always_nil.mpr start
  | cons input inputs ih =>
      obtain ⟨met, guarded⟩ := guarded
      exact always_cons.mpr ⟨start, ih (preserves.step state input start met) guarded⟩

theorem Preserves.run (preserves : machine.Preserves Guard Inv) {state : σ}
    (start : Inv state) {inputs : List α} (guarded : machine.Guarded Guard state inputs) :
    Inv (machine.run state inputs) :=
  preserves.always start guarded inputs List.prefix_rfl

theorem guarded_append {state : σ} {inputs later : List α} :
    machine.Guarded Guard state (inputs ++ later) ↔
      machine.Guarded Guard state inputs ∧
        machine.Guarded Guard (machine.run state inputs) later := by
  induction inputs generalizing state with
  | nil => exact ⟨fun rest => ⟨trivial, rest⟩, fun both => both.2⟩
  | cons input inputs ih => exact (and_congr_right fun _ => ih).trans and_assoc.symm

/-- A run is guarded when the guard is met at the end of every part of it. -/
theorem guarded_iff {state : σ} {inputs : List α} :
    machine.Guarded Guard state inputs ↔
      ∀ before input, before ++ [input] <+: inputs → Guard (machine.run state before) input := by
  induction inputs generalizing state with
  | nil =>
      refine ⟨fun _ before input le => ?_, fun _ => trivial⟩
      have impossible := List.prefix_nil.mp le
      simp at impossible
  | cons first inputs ih =>
      constructor
      · rintro ⟨met, guarded⟩ before input le
        cases before with
        | nil =>
            obtain ⟨rfl, -⟩ := List.cons_prefix_cons.mp le
            exact met
        | cons second before =>
            obtain ⟨rfl, shorter⟩ := List.cons_prefix_cons.mp le
            exact ih.mp guarded before input shorter
      · intro met
        refine ⟨met [] first (by simp), ih.mpr fun before input le => ?_⟩
        exact met (first :: before) input (List.cons_prefix_cons.mpr ⟨rfl, le⟩)

/-- **The runs along which the invariant holds are the guarded ones.** -/
theorem Exact.always_iff (exact : machine.Exact Guard Inv) {state : σ} (start : Inv state)
    (inputs : List α) :
    machine.Always Inv state inputs ↔ machine.Guarded Guard state inputs := by
  rw [guarded_iff]
  refine forall_prefix_iff start fun before input _ holds => ?_
  rw [run_append]
  exact exact.step _ input holds

/-- **A property and the guard that keeps it.** Guarded steps keep an invariant that implies
the property, and from the invariant a step with the property behind it is guarded. Then the
runs along which the property holds are exactly the guarded ones. -/
theorem Preserves.always_iff {Holds : σ → Prop} (preserves : machine.Preserves Guard Inv)
    (implies : ∀ state, Inv state → Holds state)
    (needed : ∀ state input, Inv state → Holds (machine.step state input) → Guard state input)
    {state : σ} (start : Inv state) (inputs : List α) :
    machine.Always Holds state inputs ↔ machine.Guarded Guard state inputs := by
  constructor
  · intro always
    induction inputs generalizing state with
    | nil => trivial
    | cons input inputs ih =>
        obtain ⟨-, later⟩ := always_cons.mp always
        have met := needed state input start (later [] List.nil_prefix)
        exact ⟨met, ih (preserves.step state input start met) later⟩
  · intro guarded before le
    exact implies _ (preserves.always start guarded before le)

/-! ## What a run leads to -/

/-- Some inputs lead from one state to the other. -/
def Leads (machine : Machine σ α) (state after : σ) : Prop :=
  ∃ inputs, machine.run state inputs = after

theorem Leads.refl (state : σ) : machine.Leads state state := ⟨[], rfl⟩

theorem Leads.step (state : σ) (input : α) : machine.Leads state (machine.step state input) :=
  ⟨[input], rfl⟩

theorem Leads.trans {state between after : σ} (first : machine.Leads state between)
    (second : machine.Leads between after) : machine.Leads state after := by
  obtain ⟨inputs, rfl⟩ := first
  obtain ⟨later, rfl⟩ := second
  exact ⟨inputs ++ later, run_append machine state inputs later⟩

/-- What every step keeps holds of whatever a run leads to. -/
theorem Leads.keeps (preserved : ∀ state input, Inv state → Inv (machine.step state input))
    {state after : σ} (leads : machine.Leads state after) (holds : Inv state) : Inv after := by
  obtain ⟨inputs, rfl⟩ := leads
  induction inputs generalizing state with
  | nil => exact holds
  | cons input inputs ih => exact ih (preserved state input holds)

/-- Some inputs of a kind lead from one state to the other. -/
def LeadsBy (machine : Machine σ α) (Kind : α → Prop) (state after : σ) : Prop :=
  ∃ inputs, (∀ input ∈ inputs, Kind input) ∧ machine.run state inputs = after

section

variable {Kind : α → Prop}

theorem LeadsBy.refl (state : σ) : machine.LeadsBy Kind state state :=
  ⟨[], List.forall_mem_nil _, rfl⟩

theorem LeadsBy.step (state : σ) {input : α} (kind : Kind input) :
    machine.LeadsBy Kind state (machine.step state input) := by
  refine ⟨[input], fun other inside => ?_, rfl⟩
  rw [List.mem_singleton.mp inside]
  exact kind

theorem LeadsBy.trans {state between after : σ} (first : machine.LeadsBy Kind state between)
    (second : machine.LeadsBy Kind between after) : machine.LeadsBy Kind state after := by
  obtain ⟨inputs, kinds, rfl⟩ := first
  obtain ⟨later, others, rfl⟩ := second
  refine ⟨inputs ++ later, fun input inside => ?_, run_append machine state inputs later⟩
  rcases List.mem_append.mp inside with early | late
  · exact kinds input early
  · exact others input late

theorem LeadsBy.leads {state after : σ} (leads : machine.LeadsBy Kind state after) :
    machine.Leads state after := by
  obtain ⟨inputs, -, reached⟩ := leads
  exact ⟨inputs, reached⟩

/-- What every step of the kind keeps holds of whatever such steps lead to. -/
theorem LeadsBy.keeps
    (preserved : ∀ state input, Kind input → Inv state → Inv (machine.step state input))
    {state after : σ} (leads : machine.LeadsBy Kind state after) (holds : Inv state) :
    Inv after := by
  obtain ⟨inputs, kinds, rfl⟩ := leads
  induction inputs generalizing state with
  | nil => exact holds
  | cons input inputs ih =>
      have kept := preserved state input (kinds input (List.mem_cons_self ..)) holds
      exact ih kept fun other inside => kinds other (List.mem_cons_of_mem _ inside)

end

/-! ## Totals -/

/-- What the steps of a run add up to. -/
def total (machine : Machine σ α) (amount : σ → α → Nat) : σ → List α → Nat
  | _, [] => 0
  | state, input :: inputs =>
      amount state input + machine.total amount (machine.step state input) inputs

theorem total_concat (machine : Machine σ α) (amount : σ → α → Nat) (state : σ)
    (inputs : List α) (input : α) :
    machine.total amount state (inputs ++ [input]) =
      machine.total amount state inputs + amount (machine.run state inputs) input := by
  induction inputs generalizing state with
  | nil => simp only [List.nil_append, total, run_nil, Nat.zero_add, Nat.add_zero]
  | cons first inputs ih =>
      rw [List.cons_append, total, ih, total, run_cons, Nat.add_assoc]

/-! ## What a run emits -/

/-- What the steps of a run emit, in order. -/
def emitted {β : Type*} (machine : Machine σ α) (emits : σ → α → List β) : σ → List α → List β
  | _, [] => []
  | state, input :: inputs =>
      emits state input ++ machine.emitted emits (machine.step state input) inputs

theorem emitted_concat {β : Type*} (machine : Machine σ α) (emits : σ → α → List β) (state : σ)
    (inputs : List α) (input : α) :
    machine.emitted emits state (inputs ++ [input]) =
      machine.emitted emits state inputs ++ emits (machine.run state inputs) input := by
  induction inputs generalizing state with
  | nil => simp only [List.nil_append, emitted, run_nil, List.append_nil]
  | cons first inputs ih =>
      rw [List.cons_append, emitted, ih, emitted, run_cons, List.append_assoc]

/-- **A quantity that every step extends by what it emits** is extended by a run in order, as
long as what is emitted is of a kind. -/
theorem emitted_total {β γ : Type*} {emits : σ → α → List β} {Kind : β → Prop}
    {quantity : σ → List γ} {worth : β → List γ}
    (step : ∀ state input, (∀ item ∈ emits state input, Kind item) →
      quantity (machine.step state input) =
        quantity state ++ (emits state input).flatMap worth)
    {state : σ} {inputs : List α} (kinds : ∀ item ∈ machine.emitted emits state inputs, Kind item) :
    quantity (machine.run state inputs) =
      quantity state ++ (machine.emitted emits state inputs).flatMap worth := by
  induction inputs generalizing state with
  | nil => rw [run_nil, emitted, List.flatMap_nil, List.append_nil]
  | cons input inputs ih =>
      rw [emitted] at kinds
      have here := step state input fun item inside => kinds item (List.mem_append_left _ inside)
      have later := @ih (machine.step state input) fun item inside =>
        kinds item (List.mem_append_right _ inside)
      rw [run_cons, later, here, emitted, List.flatMap_append, List.append_assoc]

/-- What is emitted is of a kind and the steps are guarded, as one guard. -/
theorem guarded_emitted_iff {β : Type*} {emits : σ → α → List β} {Kind : β → Prop} {state : σ}
    {inputs : List α} :
    machine.Guarded (fun state input => (∀ item ∈ emits state input, Kind item) ∧ Guard state input)
        state inputs ↔
      (∀ item ∈ machine.emitted emits state inputs, Kind item) ∧
        machine.Guarded Guard state inputs := by
  induction inputs generalizing state with
  | nil => exact iff_of_true trivial ⟨List.forall_mem_nil _, trivial⟩
  | cons input inputs ih =>
      simp only [Guarded, emitted, List.forall_mem_append, ih]
      exact and_and_and_comm

/-! ## Machines that may fault -/

section Faulting

variable {ε : Type u} {step : σ → α → Except ε σ} {Holds : σ → Prop} {Allowed : σ → α → Prop}

/-- The machine of steps that may fault. A fault ends the run. -/
def faulting (step : σ → α → Except ε σ) : Machine (Except ε σ) α where
  step outcome input := outcome.bind fun state => step state input

@[simp] theorem faulting_run_concat (outcome : Except ε σ) (inputs : List α) (input : α) :
    (faulting step).run outcome (inputs ++ [input]) =
      ((faulting step).run outcome inputs).bind fun state => step state input := by
  rw [run_append, run_cons, run_nil]
  rfl

/-- Behind a fault nothing happens. -/
theorem faulting_run_error (fault : ε) (inputs : List α) :
    (faulting step).run (.error fault) inputs = .error fault := by
  induction inputs with
  | nil => rfl
  | cons input inputs ih => exact ih

/-- A check of the state behind a run, if there is one. -/
theorem exists_of_any {outcome : Except ε σ} {check : σ → Bool}
    (passed : outcome.toOption.any check = true) :
    ∃ state, outcome = .ok state ∧ check state = true := by
  cases outcome with
  | error fault => cases passed
  | ok state => exact ⟨state, rfl, passed⟩

/-- What allowed steps keep holds in every state of a run whose steps are allowed. -/
theorem faulting_guarded
    (preserved : ∀ state input next, Inv state → Allowed state input →
      step state input = .ok next → Inv next)
    {start state : σ} (holds : Inv start) {inputs : List α}
    (allowed : ∀ before input, before ++ [input] <+: inputs → ∀ state,
      (faulting step).run (.ok start) before = .ok state → Allowed state input)
    (reached : (faulting step).run (.ok start) inputs = .ok state) : Inv state := by
  induction inputs using List.reverseRecOn generalizing state with
  | nil =>
      obtain rfl := Except.ok.inj reached
      exact holds
  | append_singleton inputs input ih =>
      rw [faulting_run_concat] at reached
      cases earlier : (faulting step).run (.ok start) inputs with
      | error fault =>
          rw [earlier] at reached
          cases reached
      | ok before =>
          rw [earlier] at reached
          have inv := ih (fun part last le => allowed part last
            (le.trans (List.prefix_append inputs [input]))) earlier
          exact preserved before input state inv
            (allowed inputs input List.prefix_rfl before earlier) reached

/-- What every step keeps holds in every state that is reached. -/
theorem faulting_invariant
    (preserved : ∀ state input next, Inv state → step state input = .ok next → Inv next)
    {start state : σ} (holds : Inv start) {inputs : List α}
    (reached : (faulting step).run (.ok start) inputs = .ok state) : Inv state :=
  @faulting_guarded σ α Inv ε step (fun _ _ => True)
    (fun state input next inv _ => preserved state input next inv) start state holds inputs
    (fun _ _ _ _ _ => trivial) reached

/-- **A property along runs with faults.** When, from a state that is reached and has the
property, the steps that keep it are the allowed ones, the property holds in all states of a
run if and only if all of its steps are allowed. -/
theorem faulting_always_iff
    (preserved : ∀ state input next, Inv state → step state input = .ok next → Inv next)
    (exact : ∀ state input, Inv state → Holds state →
      ((∀ next, step state input = .ok next → Holds next) ↔ Allowed state input))
    {start : σ} (inv : Inv start) (holds : Holds start) (inputs : List α) :
    (∀ before, before <+: inputs → ∀ state,
        (faulting step).run (.ok start) before = .ok state → Holds state) ↔
      ∀ before input, before ++ [input] <+: inputs → ∀ state,
        (faulting step).run (.ok start) before = .ok state → Allowed state input := by
  refine forall_prefix_iff ?_ fun before input _ so_far => ?_
  · intro state same
    obtain rfl := Except.ok.inj same
    exact holds
  · rw [faulting_run_concat]
    cases reached : (faulting step).run (.ok start) before with
    | error fault => exact iff_of_true (fun _ same => nomatch same) (fun _ same => nomatch same)
    | ok state =>
        simp only [Except.ok.injEq, forall_eq']
        exact exact state input (faulting_invariant preserved inv reached) (so_far state reached)

/-- **A property of steps along runs with faults.** When, from a state with the invariant, the
good steps are the allowed ones, and allowed steps keep the invariant, all steps of a run are
good if and only if all are allowed. -/
theorem faulting_steps_iff {Good : σ → α → Prop}
    (preserved : ∀ state input next, Inv state → Allowed state input →
      step state input = .ok next → Inv next)
    (exact : ∀ state input, Inv state → (Good state input ↔ Allowed state input))
    {start : σ} (inv : Inv start) (inputs : List α) :
    (∀ before input, before ++ [input] <+: inputs → ∀ state,
        (faulting step).run (.ok start) before = .ok state → Good state input) ↔
      ∀ before input, before ++ [input] <+: inputs → ∀ state,
        (faulting step).run (.ok start) before = .ok state → Allowed state input := by
  constructor
  · intro good before input le state reached
    have kept : Inv state := faulting_guarded
      (fun state input next inv good => preserved state input next inv
        ((exact state input inv).mp good))
      inv (fun part last shorter => good part last
        (shorter.trans ((List.prefix_append before [input]).trans le))) reached
    exact (exact state input kept).mp (good before input le state reached)
  · intro allowed before input le state reached
    have kept : Inv state := faulting_guarded preserved inv
      (fun part last shorter => allowed part last
        (shorter.trans ((List.prefix_append before [input]).trans le))) reached
    exact (exact state input kept).mpr (allowed before input le state reached)

/-- **A machine with further checks** reaches what the machine without them reaches, as long as
every step passes its check. -/
theorem faulting_run_checked_iff {β : Type*} {checked : σ → β → Except ε σ}
    {Passes : σ → β → Prop} {project : β → α}
    (step_iff : ∀ state input next, checked state input = .ok next ↔
      Passes state input ∧ step state (project input) = .ok next)
    {start state : σ} {inputs : List β} :
    (faulting checked).run (.ok start) inputs = .ok state ↔
      (faulting step).run (.ok start) (inputs.map project) = .ok state ∧
        ∀ before input, before ++ [input] <+: inputs → ∀ middle,
          (faulting step).run (.ok start) (before.map project) = .ok middle →
            Passes middle input := by
  induction inputs using List.reverseRecOn generalizing state with
  | nil =>
      refine (and_iff_left fun before input le => ?_).symm
      have impossible := List.prefix_nil.mp le
      simp at impossible
  | append_singleton inputs input ih =>
      rw [List.map_append, List.map_singleton, faulting_run_concat, faulting_run_concat]
      constructor
      · intro reached
        cases earlier : (faulting checked).run (.ok start) inputs with
        | error fault =>
            rw [earlier] at reached
            cases reached
        | ok before =>
            rw [earlier] at reached
            obtain ⟨passed, made⟩ := (step_iff before input state).mp reached
            obtain ⟨same, all⟩ := ih.mp earlier
            rw [same]
            refine ⟨made, fun part last le middle there => ?_⟩
            rcases List.prefix_concat_iff.mp le with whole | shorter
            · obtain ⟨rfl, last_eq⟩ := List.append_inj' whole rfl
              obtain rfl := List.singleton_inj.mp last_eq
              obtain rfl := Except.ok.inj (same.symm.trans there)
              exact passed
            · exact all part last shorter middle there
      · rintro ⟨reached, all⟩
        cases earlier : (faulting step).run (.ok start) (inputs.map project) with
        | error fault =>
            rw [earlier] at reached
            cases reached
        | ok before =>
            rw [earlier] at reached
            have same := ih.mpr ⟨earlier, fun part last le =>
              all part last (le.trans (List.prefix_append inputs [input]))⟩
            rw [same]
            exact (step_iff before input state).mpr
              ⟨all inputs input List.prefix_rfl before earlier, reached⟩

end Faulting

/-! ## Two machines side by side -/

variable {τ : Type u}

/-- Two machines that take the same inputs. -/
def prod (left : Machine σ α) (right : Machine τ α) : Machine (σ × τ) α where
  step state input := (left.step state.1 input, right.step state.2 input)

theorem run_prod (left : Machine σ α) (right : Machine τ α) (state : σ) (other : τ)
    (inputs : List α) :
    (left.prod right).run (state, other) inputs =
      (left.run state inputs, right.run other inputs) := by
  induction inputs generalizing state other with
  | nil => rfl
  | cons input inputs ih => exact ih _ _

end Machine

end LiveBroadcast
