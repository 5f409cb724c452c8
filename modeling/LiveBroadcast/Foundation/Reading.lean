import Mathlib.Logic.Function.Basic

/-!
# Reading items off the front of an input

A reader takes one item off the front of its input, or fails. `readToEnd` reads items until
the input is used up. If writing an item puts something that the reader reads back whatever
follows it, then a list of items written one behind the other is read back
(`Reads.readToEnd_flatMap`).

`readAll` reads as many items as there are and leaves the rest alone. With a reader that takes
something for every item it is a recursion on what is left (`Consumes.readAll_some`).
-/

set_option autoImplicit false

namespace LiveBroadcast

universe u v

/-- An item off the front of the input and what is left. -/
abbrev Reader (β : Type u) (α : Type v) := List β → Option (α × List β)

namespace Reader

variable {β : Type u} {α : Type v}

/-- Read items, at most `fuel` of them, until the input is used up. -/
def readFuel (read : Reader β α) : Nat → List β → Option (List α)
  | _, [] => some []
  | 0, _ :: _ => none
  | fuel + 1, input =>
      (read input).bind fun first => (readFuel read fuel first.2).map (first.1 :: ·)

/-- Read items until the input is used up: every item takes part of the input, so its
length is fuel enough. -/
def readToEnd (read : Reader β α) (input : List β) : Option (List α) :=
  readFuel read input.length input

/-- The reader reads back what was written for a valid item. -/
structure Reads (read : Reader β α) (write : α → List β) (Valid : α → Prop) : Prop where
  back : ∀ item rest, Valid item → read (write item ++ rest) = some (item, rest)
  nonempty : ∀ item, Valid item → write item ≠ []

variable {read : Reader β α} {write : α → List β} {Valid : α → Prop}

theorem Reads.readFuel_flatMap (reads : read.Reads write Valid) {items : List α}
    (valid : ∀ item ∈ items, Valid item) {fuel : Nat} (enough : items.length ≤ fuel) :
    read.readFuel fuel (items.flatMap write) = some items := by
  induction items generalizing fuel with
  | nil => cases fuel <;> rfl
  | cons item items ih =>
      obtain ⟨here, later⟩ := List.forall_mem_cons.mp valid
      cases fuel with
      | zero => exact absurd enough (Nat.not_succ_le_zero _)
      | succ fuel =>
          have rest := ih later (Nat.le_of_succ_le_succ enough)
          have back := reads.back item (items.flatMap write) here
          have written := reads.nonempty item here
          rw [List.flatMap_cons]
          cases shape : write item with
          | nil => exact absurd shape written
          | cons first others =>
              rw [shape] at back
              simp only [List.cons_append] at back ⊢
              simp only [readFuel, back, Option.bind_some, rest, Option.map_some]

theorem Reads.length_le (reads : read.Reads write Valid) {items : List α}
    (valid : ∀ item ∈ items, Valid item) : items.length ≤ (items.flatMap write).length := by
  induction items with
  | nil => exact Nat.zero_le _
  | cons item items ih =>
      obtain ⟨here, later⟩ := List.forall_mem_cons.mp valid
      have written := List.length_pos_iff.mpr (reads.nonempty item here)
      have rest := ih later
      rw [List.flatMap_cons, List.length_append, List.length_cons]
      omega

/-- **A list of items written one behind the other is read back.** -/
theorem Reads.readToEnd_flatMap (reads : read.Reads write Valid) {items : List α}
    (valid : ∀ item ∈ items, Valid item) :
    read.readToEnd (items.flatMap write) = some items :=
  reads.readFuel_flatMap valid (reads.length_le valid)

/-! ## As many items as there are -/

/-- At most `fuel` items, until the reader fails. -/
def readAllFuel (read : Reader β α) : Nat → List β → List α
  | 0, _ => []
  | fuel + 1, input =>
      match read input with
      | none => []
      | some (item, rest) => item :: readAllFuel read fuel rest

/-- The items that can be read one behind the other. -/
def readAll (read : Reader β α) (input : List β) : List α :=
  readAllFuel read (input.length + 1) input

/-- Every item takes part of the input. -/
def Consumes (read : Reader β α) : Prop :=
  ∀ input item rest, read input = some (item, rest) → rest.length < input.length

/-- The fuel does not run out. -/
theorem Consumes.readAllFuel_eq (consumes : read.Consumes) {fuel : Nat} {input : List β}
    (enough : input.length < fuel) : read.readAllFuel fuel input = read.readAll input := by
  have agree (first second : Nat) (input : List β) (inFirst : input.length < first)
      (inSecond : input.length < second) :
      read.readAllFuel first input = read.readAllFuel second input := by
    induction first generalizing second input with
    | zero => exact absurd inFirst (Nat.not_lt_zero _)
    | succ first ih =>
        obtain ⟨second, rfl⟩ := Nat.exists_eq_succ_of_ne_zero (Nat.ne_zero_of_lt inSecond)
        rw [readAllFuel, readAllFuel]
        cases item : read input with
        | none => rfl
        | some taken =>
            have less := consumes _ _ _ item
            exact congrArg (taken.1 :: ·) (ih second taken.2 (by omega) (by omega))
  exact agree fuel (input.length + 1) input enough (Nat.lt_succ_self _)

/-- **One item and the items behind it.** -/
theorem Consumes.readAll_some (consumes : read.Consumes) {input rest : List β} {item : α}
    (first : read input = some (item, rest)) :
    read.readAll input = item :: read.readAll rest := by
  have less := consumes _ _ _ first
  rw [readAll, readAllFuel, first]
  exact congrArg (item :: ·) (consumes.readAllFuel_eq less)

theorem readAll_none {input : List β} (fails : read input = none) : read.readAll input = [] := by
  rw [readAll, readAllFuel, fails]

end Reader

end LiveBroadcast
