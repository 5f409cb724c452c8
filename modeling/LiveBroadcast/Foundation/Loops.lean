import Mathlib.Data.Sum.Basic

/-!
# Loops that may not end

A loop goes round its body until the body leaves it with a result. `Returns` says that a state
leads to a result in finitely many rounds; nothing in it bounds the rounds beforehand, so that
it says of a loop that ends that it ends, and a loop that does not end returns nothing.

A loop ends where its body has a variant (`ends_of_variant`). What every round keeps and every
exit turns into a property of the result is a property of whatever is returned
(`Returns.of_invariant`), so that a loop whose exits are out of reach does not end.
-/

set_option autoImplicit false

namespace LiveBroadcast

universe u v

/-- A loop over a state: each round goes on with a state or leaves with a result. -/
structure Loop (σ : Type u) (ρ : Type v) where
  body : σ → σ ⊕ ρ

namespace Loop

variable {σ : Type u} {ρ : Type v}

/-- The loop, from a state, returns a result. -/
inductive Returns (loop : Loop σ ρ) : σ → ρ → Prop where
  | leaves {state : σ} {result : ρ} (out : loop.body state = .inr result) :
      Returns loop state result
  | goes {state next : σ} {result : ρ} (round : loop.body state = .inl next)
      (rest : Returns loop next result) : Returns loop state result

/-- The loop ends. -/
def Ends (loop : Loop σ ρ) (state : σ) : Prop := ∃ result, loop.Returns state result

variable {loop : Loop σ ρ} {state next : σ} {result other : ρ}

theorem returns_leaves_iff (out : loop.body state = .inr other) :
    loop.Returns state result ↔ result = other := by
  constructor
  · intro returns
    cases returns with
    | leaves left =>
        rw [out] at left
        exact (Sum.inr.inj left).symm
    | goes round rest =>
        rw [out] at round
        cases round
  · rintro rfl
    exact .leaves out

/-- **A round that goes on** changes nothing about what is returned. -/
theorem returns_goes_iff (round : loop.body state = .inl next) :
    loop.Returns state result ↔ loop.Returns next result := by
  constructor
  · intro returns
    cases returns with
    | leaves out =>
        rw [round] at out
        cases out
    | goes taken rest =>
        rw [round] at taken
        obtain rfl := Sum.inl.inj taken
        exact rest
  · exact .goes round

theorem ends_leaves (out : loop.body state = .inr result) : loop.Ends state :=
  ⟨result, .leaves out⟩

theorem ends_goes_iff (round : loop.body state = .inl next) :
    loop.Ends state ↔ loop.Ends next :=
  exists_congr fun _ => returns_goes_iff round

/-- A loop returns one result at most. -/
theorem Returns.unique (returns : loop.Returns state result) (another : loop.Returns state other) :
    result = other := by
  induction returns with
  | leaves out => exact ((returns_leaves_iff out).mp another).symm
  | goes round rest ih => exact ih ((returns_goes_iff round).mp another)

section

variable {Inv : σ → Prop}

/-- **What is returned from a state with an invariant.** -/
theorem Returns.of_invariant {Post : ρ → Prop}
    (kept : ∀ state next, Inv state → loop.body state = .inl next → Inv next)
    (left : ∀ state result, Inv state → loop.body state = .inr result → Post result)
    (returns : loop.Returns state result) (start : Inv state) : Post result := by
  induction returns with
  | leaves out => exact left _ _ start out
  | goes round rest ih => exact ih (kept _ _ start round)

/-- **A loop ends where every round lowers a variant.** -/
theorem ends_of_variant (variant : σ → Nat)
    (kept : ∀ state next, Inv state → loop.body state = .inl next →
      Inv next ∧ variant next < variant state)
    (start : Inv state) : loop.Ends state := by
  induction bound : variant state using Nat.strongRecOn generalizing state with
  | ind n ih =>
      subst bound
      cases round : loop.body state with
      | inr result => exact ends_leaves round
      | inl next =>
          obtain ⟨inv, lower⟩ := kept state next start round
          exact (ends_goes_iff round).mpr (ih _ lower inv rfl)

end

end Loop

end LiveBroadcast
