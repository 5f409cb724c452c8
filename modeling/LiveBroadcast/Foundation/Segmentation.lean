import Mathlib.Data.List.Infix

/-!
# Consumers that do not see how their input is cut

A consumer takes a piece of input and returns its next state and what it produced. Fed a
list of pieces it threads the state and collects the products (`feedAll`).

On a set of states that feeding does not leave, a consumer is incremental when a piece cut
in two gives what the whole piece gives and the empty piece gives nothing. Then every way
of cutting an input gives what the uncut input gives (`Incremental.feedAll_eq`).
-/

set_option autoImplicit false

namespace LiveBroadcast

universe u v w

/-- A prefix of two lists put together ends within the first or covers it. -/
theorem prefix_append_cases {α : Type u} {part a b : List α} (le : part <+: a ++ b) :
    (part <+: a ∧ part.length < a.length) ∨ ∃ rest, part = a ++ rest ∧ rest <+: b := by
  rcases Nat.lt_or_ge part.length a.length with shorter | covers
  · exact .inl ⟨List.prefix_of_prefix_length_le le (List.prefix_append a b)
      (Nat.le_of_lt shorter), shorter⟩
  · obtain ⟨rest, rfl⟩ := List.prefix_of_prefix_length_le (List.prefix_append a b) le covers
    exact .inr ⟨rest, rfl, (List.prefix_append_right_inj a).mp le⟩

/-- A consumer of input over `β` that produces values of `ο`. -/
structure Consumer (σ : Type u) (β : Type v) (ο : Type w) where
  feed : σ → List β → σ × List ο

namespace Consumer

variable {σ : Type u} {β : Type v} {ο : Type w}

/-- Feed the pieces one after the other. -/
def feedAll (consumer : Consumer σ β ο) : σ → List (List β) → σ × List ο
  | state, [] => (state, [])
  | state, piece :: pieces =>
      let first := consumer.feed state piece
      let rest := consumer.feedAll first.1 pieces
      (rest.1, first.2 ++ rest.2)

/-- On the settled states, feeding is a left action of the lists under `++`. -/
structure Incremental (consumer : Consumer σ β ο) (Settled : σ → Prop) : Prop where
  settled : ∀ state input, Settled state → Settled (consumer.feed state input).1
  nil : ∀ state, Settled state → consumer.feed state [] = (state, [])
  append : ∀ state a b, Settled state →
    consumer.feed state (a ++ b) =
      ((consumer.feed (consumer.feed state a).1 b).1,
        (consumer.feed state a).2 ++ (consumer.feed (consumer.feed state a).1 b).2)

variable {consumer : Consumer σ β ο} {Settled : σ → Prop}

/-- **Feeding pieces is feeding their concatenation.** -/
theorem Incremental.feedAll_eq (incremental : consumer.Incremental Settled) {state : σ}
    (settled : Settled state) (pieces : List (List β)) :
    consumer.feedAll state pieces = consumer.feed state pieces.flatten := by
  induction pieces generalizing state with
  | nil => exact (incremental.nil state settled).symm
  | cons piece pieces ih =>
      rw [List.flatten_cons, incremental.append state piece pieces.flatten settled]
      simp only [feedAll]
      rw [ih (incremental.settled state piece settled)]

theorem feedAll_append (consumer : Consumer σ β ο) (state : σ) (pieces others : List (List β)) :
    consumer.feedAll state (pieces ++ others) =
      ((consumer.feedAll (consumer.feedAll state pieces).1 others).1,
        (consumer.feedAll state pieces).2 ++
          (consumer.feedAll (consumer.feedAll state pieces).1 others).2) := by
  induction pieces generalizing state with
  | nil => rfl
  | cons piece pieces ih =>
      simp only [List.cons_append, feedAll]
      rw [ih]
      simp only [List.append_assoc]

theorem feedAll_concat (consumer : Consumer σ β ο) (state : σ) (pieces : List (List β))
    (piece : List β) :
    consumer.feedAll state (pieces ++ [piece]) =
      ((consumer.feed (consumer.feedAll state pieces).1 piece).1,
        (consumer.feedAll state pieces).2 ++
          (consumer.feed (consumer.feedAll state pieces).1 piece).2) := by
  rw [feedAll_append]
  simp only [feedAll, List.append_nil]

/-- **Two states side by side.** When feeding a piece keeps the states related, as long as the
input so far is allowed, related states give the same outputs for the same pieces. The relation
may look at the input so far. -/
theorem feedAll_related {consumer : Consumer σ β ο} {Related : List β → σ → σ → Prop}
    {Allowed : List β → Prop} (shorter : ∀ a b, Allowed (a ++ b) → Allowed a)
    (step : ∀ before piece left right, Related before left right → Allowed (before ++ piece) →
      (consumer.feed left piece).2 = (consumer.feed right piece).2 ∧
        Related (before ++ piece) (consumer.feed left piece).1 (consumer.feed right piece).1)
    {before : List β} {left right : σ} (related : Related before left right)
    {pieces : List (List β)} (allowed : Allowed (before ++ pieces.flatten)) :
    (consumer.feedAll left pieces).2 = (consumer.feedAll right pieces).2 ∧
      Related (before ++ pieces.flatten) (consumer.feedAll left pieces).1
        (consumer.feedAll right pieces).1 := by
  induction pieces generalizing before left right with
  | nil => exact ⟨rfl, by simpa [feedAll] using related⟩
  | cons piece pieces ih =>
      rw [List.flatten_cons, ← List.append_assoc] at allowed ⊢
      obtain ⟨same, between⟩ := step before piece left right related (shorter _ _ allowed)
      obtain ⟨rest, behind⟩ := ih between allowed
      simp only [feedAll]
      exact ⟨by rw [same, rest], behind⟩

end Consumer

end LiveBroadcast
