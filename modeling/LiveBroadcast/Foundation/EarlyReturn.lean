import LiveBroadcast.Foundation.Segmentation

/-!
# Loops that return early

A loop calls a function on the unread part of its input, over and over, until a report makes
it return. It is entered again when more input has arrived. If some reports make it return
though there is more to take, it matters when input arrives: what is left waits for the next
entry.

An input is given as a list of pieces, each of which one call takes as a whole, with a flag
that says whether the loop returns behind it (`Piece`). A part of a piece makes the loop
return too, and is taken up again with the rest; some parts of some pieces do harm instead
(`breaks`). A `Route` is a list of pieces that the calls take one after the other.

Where an input cut into reads leads can then be read off the lengths alone. A `Walk` follows
the pieces and says which of them are left, and `Route.feedAll` relates it to the loop:
either both come to harm, or what the loop leaves is what the pieces behind it say. So two
ways of cutting one input lead to the same view, products and unread input, without harm on
either side, if and only if their walks are free of harm and end at the same piece
(`Route.agree_iff`).

Pieces can be parts of messages, of which only the last one changes the view (`Passes`). What
is due behind some pieces is then the view that waits for the first message that is not
complete (`due`).
-/

set_option autoImplicit false

namespace LiveBroadcast

universe u

/-- What a call leaves. -/
structure Called (σ β ρ : Type u) where
  state : σ
  unread : List β
  report : ρ

/-- A loop around a call. `view` is what is observed of a state, and `Faulty` marks calls
that do harm. A call without input does nothing. -/
structure EarlyReturn (σ β ρ ω τ : Type u) where
  call : σ → List β → Called σ β ρ
  returns : ρ → Bool
  replies : ρ → List ω
  view : σ → τ
  Faulty : σ → List β → Prop
  loop : σ → List β → (σ × List β) × List ω
  loop_eq : ∀ state input, loop state input =
    if returns (call state input).report then
      (((call state input).state, (call state input).unread), [])
    else
      ((loop (call state input).state (call state input).unread).1,
        replies (call state input).report ++
          (loop (call state input).state (call state input).unread).2)
  idle_returns : ∀ state, returns (call state []).report = true
  idle_unread : ∀ state, (call state []).unread = []
  idle_view : ∀ state, view (call state []).state = view state
  idle_harmless : ∀ state, ¬ Faulty state []

/-- A piece of an input. `breaks seen arrived` says that a call does harm when `seen`
elements of the piece were there at the call before and `arrived` elements are there now. -/
structure Piece (β ω : Type u) where
  input : List β
  replies : List ω
  stops : Bool
  breaks : Nat → Nat → Bool

/-- The input that consists of some pieces. -/
def Piece.inputs {β ω : Type u} (pieces : List (Piece β ω)) : List β := pieces.flatMap Piece.input

@[simp] theorem Piece.inputs_append {β ω : Type u} (first rest : List (Piece β ω)) :
    Piece.inputs (first ++ rest) = Piece.inputs first ++ Piece.inputs rest :=
  List.flatMap_append

@[simp] theorem Piece.inputs_cons {β ω : Type u} (piece : Piece β ω) (rest : List (Piece β ω)) :
    Piece.inputs (piece :: rest) = piece.input ++ Piece.inputs rest := List.flatMap_cons

/-! ## The walk over the pieces -/

/-- Where a walk stands: the pieces that are left, how much of them had arrived when the
first of them was last looked at, and how much has arrived. -/
structure Walk (β ω : Type u) where
  rest : List (Piece β ω)
  seen : Nat
  arrived : Nat

namespace Walk

variable {β ω : Type u}

/-- One entry of the loop: up to the first piece that stops it, or to where the input ends. -/
def advance : List (Piece β ω) → Nat → Walk β ω
  | [], arrived => ⟨[], arrived, arrived⟩
  | piece :: rest, arrived =>
      if arrived < piece.input.length then ⟨piece :: rest, arrived, arrived⟩
      else if piece.stops then ⟨rest, 0, arrived - piece.input.length⟩
      else advance rest (arrived - piece.input.length)

/-- One entry of the loop comes to a call that does harm. -/
def breaks : List (Piece β ω) → Nat → Nat → Bool
  | [], _, _ => false
  | piece :: rest, seen, arrived =>
      piece.breaks seen arrived ||
        (decide (piece.input.length ≤ arrived) && !piece.stops &&
          breaks rest 0 (arrived - piece.input.length))

/-- The entry for the next read. -/
def read (walk : Walk β ω) (length : Nat) : Walk β ω := advance walk.rest (walk.arrived + length)

/-- The walk over reads of these lengths. -/
def reads (walk : Walk β ω) (lengths : List Nat) : Walk β ω := lengths.foldl read walk

/-- Some read does harm. -/
def breaksAny : Walk β ω → List Nat → Bool
  | _, [] => false
  | walk, length :: lengths =>
      breaks walk.rest walk.seen (walk.arrived + length) || breaksAny (walk.read length) lengths

/-- A walk before its first read. -/
def start (pieces : List (Piece β ω)) : Walk β ω := ⟨pieces, 0, 0⟩

variable (walk : Walk β ω) (lengths : List Nat) (length : Nat)

/-- The walk over one more read. -/
theorem reads_concat : walk.reads (lengths ++ [length]) = (walk.reads lengths).read length :=
  List.foldl_concat ..

theorem breaksAny_concat :
    walk.breaksAny (lengths ++ [length]) =
      (walk.breaksAny lengths || breaks (walk.reads lengths).rest (walk.reads lengths).seen
        ((walk.reads lengths).arrived + length)) := by
  induction lengths generalizing walk with
  | nil => exact Bool.or_comm _ _
  | cons first lengths ih =>
      rw [List.cons_append, breaksAny, ih, breaksAny, Bool.or_assoc]
      rfl

end Walk

namespace EarlyReturn

variable {σ β ρ ω τ : Type u} (loop : EarlyReturn σ β ρ ω τ)

/-- The loop as a consumer: what arrives is put behind the unread input. -/
def consumer : Consumer (σ × List β) β ω where
  feed state data := loop.loop state.1 (state.2 ++ data)

/-- The loop comes to a call that does harm. -/
inductive Meets : σ → List β → Prop where
  | here {state : σ} {input : List β} (faulty : loop.Faulty state input) : Meets state input
  | later {state : σ} {input : List β}
      (goes : loop.returns (loop.call state input).report = false)
      (rest : Meets (loop.call state input).state (loop.call state input).unread) :
      Meets state input

/-- Some read comes to a call that does harm. -/
def MeetsAny : σ × List β → List (List β) → Prop
  | _, [] => False
  | state, data :: cuts =>
      loop.Meets state.1 (state.2 ++ data) ∨
        MeetsAny (loop.loop state.1 (state.2 ++ data)).1 cuts

variable {loop} {state now : σ} {input : List β}

theorem loop_returns (returns : loop.returns (loop.call state input).report = true) :
    loop.loop state input = (((loop.call state input).state, (loop.call state input).unread), [])
      := by
  rw [loop.loop_eq, if_pos returns]

theorem loop_goes (goes : loop.returns (loop.call state input).report = false) :
    loop.loop state input =
      ((loop.loop (loop.call state input).state (loop.call state input).unread).1,
        loop.replies (loop.call state input).report ++
          (loop.loop (loop.call state input).state (loop.call state input).unread).2) := by
  rw [loop.loop_eq, if_neg (by simp [goes])]

theorem meets_returns (returns : loop.returns (loop.call state input).report = true) :
    loop.Meets state input ↔ loop.Faulty state input := by
  refine ⟨fun meets => ?_, .here⟩
  cases meets with
  | here faulty => exact faulty
  | later goes _ => simp [returns] at goes

theorem meets_goes (harmless : ¬ loop.Faulty state input)
    (goes : loop.returns (loop.call state input).report = false) :
    loop.Meets state input ↔
      loop.Meets (loop.call state input).state (loop.call state input).unread := by
  refine ⟨fun meets => ?_, .later goes⟩
  cases meets with
  | here faulty => exact absurd faulty harmless
  | later _ rest => exact rest

variable (loop)

/-! ## Pieces that calls take -/

/-- The input is comparable with a piece: it is part of it, or goes on behind it. -/
def Follows (input piece : List β) : Prop := input <+: piece ∨ piece <+: input

/-- A state with unread input stands for another that has some part of a piece before it. -/
structure StandsFor (node : σ) (piece : Piece β ω) (pending : List β) (seen : Nat) (now : σ)
    (unread : List β) : Prop where
  view : loop.view now = loop.view node
  calls : ∀ more, Follows (pending ++ more) piece.input →
    piece.breaks seen (pending ++ more).length = false →
      loop.call now (unread ++ more) = loop.call node (pending ++ more)
  faulty : ∀ more, Follows (pending ++ more) piece.input →
    (loop.Faulty now (unread ++ more) ↔ piece.breaks seen (pending ++ more).length = true)

/-- The calls take a piece: the whole of it leads to the next state, and a part of it makes
the loop return and stands for itself. What does no harm when it is taken up again does none
when it is looked at for the first time. -/
structure Takes (node : σ) (piece : Piece β ω) (after : σ) : Prop where
  nonempty : piece.input ≠ []
  fresh : ∀ seen arrived, piece.breaks seen arrived = false → piece.breaks 0 arrived = false
  faulty : ∀ input, Follows input piece.input →
    (loop.Faulty node input ↔ piece.breaks 0 input.length = true)
  whole : ∃ report, loop.returns report = piece.stops ∧
    piece.replies = (if piece.stops then [] else loop.replies report) ∧
    ∀ tail, piece.breaks 0 (piece.input ++ tail).length = false →
      loop.call node (piece.input ++ tail) = ⟨after, tail, report⟩
  part : ∀ part, part <+: piece.input → part ≠ piece.input →
    piece.breaks 0 part.length = false →
      loop.returns (loop.call node part).report = true ∧
        loop.StandsFor node piece part part.length (loop.call node part).state
          (loop.call node part).unread

/-- Pieces that are taken one after the other, with the states behind them. -/
inductive Route : σ → List (Piece β ω × σ) → Prop where
  | done (node : σ) : Route node []
  | next {node after : σ} {piece : Piece β ω} {rest : List (Piece β ω × σ)}
      (takes : loop.Takes node piece after) (route : Route after rest) :
      Route node ((piece, after) :: rest)

/-- The pieces of a route. -/
def pieces (route : List (Piece β ω × σ)) : List (Piece β ω) := route.map Prod.fst

@[simp] theorem pieces_cons (piece : Piece β ω) (after : σ) (rest : List (Piece β ω × σ)) :
    pieces ((piece, after) :: rest) = piece :: pieces rest := rfl

@[simp] theorem pieces_append (first rest : List (Piece β ω × σ)) :
    pieces (first ++ rest) = pieces first ++ pieces rest := List.map_append

/-- The state behind a route. -/
def behind : σ → List (Piece β ω × σ) → σ
  | node, [] => node
  | _, (_, after) :: rest => behind after rest

theorem behind_append (node : σ) (first rest : List (Piece β ω × σ)) :
    behind node (first ++ rest) = behind (behind node first) rest := by
  induction first generalizing node with
  | nil => rfl
  | cons one first ih => exact ih one.2

theorem pieces_take (n : Nat) (route : List (Piece β ω × σ)) :
    pieces (route.take n) = (pieces route).take n := List.map_take

variable {loop} in
theorem Route.append {node : σ} {first rest : List (Piece β ω × σ)}
    (route : loop.Route node first) (further : loop.Route (behind node first) rest) :
    loop.Route node (first ++ rest) := by
  induction route with
  | done => exact further
  | next takes _ ih => exact .next takes (ih further)

variable {loop} in
theorem Route.take {node : σ} {rest : List (Piece β ω × σ)} (route : loop.Route node rest)
    (n : Nat) : loop.Route node (rest.take n) := by
  induction route generalizing n with
  | done node =>
      rw [List.take_nil]
      exact .done node
  | next takes _ ih =>
      cases n with
      | zero => exact .done _
      | succ n => exact .next takes (ih n)

/-! ## Messages -/

/-- Pieces lead from one state to another, and nothing else is seen before the last of them. -/
def Passes (node : σ) (input : List (Piece β ω)) (after : σ) : Prop :=
  ∃ route, loop.Route node route ∧ pieces route = input ∧ behind node route = after ∧
    ∀ k < input.length, loop.view (behind node (route.take k)) = loop.view node

/-- The view that a message is waited for in, and its pieces. -/
abbrev Waited (β ω τ : Type u) := τ × List (Piece β ω)

/-- What is seen behind the first `n` pieces of some messages: the view that waits for the first
message that is not complete among them, and `last` behind all messages. -/
def due (last : τ) : List (Waited β ω τ) → Nat → τ
  | [], _ => last
  | (waits, message) :: messages, n =>
      if n < message.length then waits else due last messages (n - message.length)

/-- Messages lead from one state to another, and along them the view is the one that is due. -/
def LeadsThrough (node : σ) (messages : List (Waited β ω τ)) (after : σ) : Prop :=
  ∃ route, loop.Route node route ∧ pieces route = messages.flatMap Prod.snd ∧
    behind node route = after ∧
    ∀ k, loop.view (behind node (route.take k)) = due (loop.view after) messages k

variable {loop} in
/-- One piece. -/
theorem Takes.passes {node after : σ} {piece : Piece β ω} (takes : loop.Takes node piece after) :
    loop.Passes node [piece] after := by
  refine ⟨[(piece, after)], .next takes (.done after), rfl, rfl, fun k first => ?_⟩
  rw [List.length_singleton] at first
  rw [Nat.lt_one_iff.mp first]
  rfl

variable {loop} in
/-- One more piece in front of the last. -/
theorem Passes.cons {node between after : σ} {piece : Piece β ω} {rest : List (Piece β ω)}
    (passes : loop.Passes between rest after) (takes : loop.Takes node piece between)
    (same : loop.view between = loop.view node) : loop.Passes node (piece :: rest) after := by
  obtain ⟨route, taken, rfl, rfl, shows⟩ := passes
  refine ⟨(piece, between) :: route, .next takes taken, rfl, rfl, fun k inside => ?_⟩
  cases k with
  | zero => rfl
  | succ k => exact (shows k (Nat.lt_of_succ_lt_succ inside)).trans same

theorem LeadsThrough.refl (node : σ) : loop.LeadsThrough node [] node :=
  ⟨[], .done node, rfl, rfl, fun _ => by rw [List.take_nil]; rfl⟩

variable {loop} in
/-- One more message in front. -/
theorem Passes.leads {node between after : σ} {message : List (Piece β ω)}
    {messages : List (Waited β ω τ)} (passes : loop.Passes node message between)
    (leads : loop.LeadsThrough between messages after) :
    loop.LeadsThrough node ((loop.view node, message) :: messages) after := by
  obtain ⟨route, taken, rfl, rfl, shows⟩ := passes
  obtain ⟨route', taken', split, rfl, shows'⟩ := leads
  have length : (pieces route).length = route.length := List.length_map _
  refine ⟨route ++ route', taken.append taken', ?_, behind_append _ _ _, fun k => ?_⟩
  · rw [pieces_append, split, List.flatMap_cons]
  · rw [due]
    rcases Nat.lt_or_ge k (pieces route).length with inside | beyond
    · rw [if_pos inside, List.take_append_of_le_length (by omega)]
      exact shows k inside
    · rw [if_neg (Nat.not_lt.mpr beyond), length, List.take_append, behind_append,
        List.take_of_length_le (by omega)]
      exact shows' _

/-! ## States with unread input -/

/-- A state with unread input stands for the node before a route, with some input pending.
A piece that is there as a whole is still unread. -/
def Stands (node : σ) : List (Piece β ω × σ) → List β → Nat → σ → List β → Prop
  | [], pending, _, now, unread => loop.view now = loop.view node ∧ pending = [] ∧ unread = []
  | (piece, _) :: _, pending, seen, now, unread =>
      loop.StandsFor node piece pending seen now unread ∧
        (piece.input.length ≤ pending.length → unread = pending)

/-- Where a walk over a route stands when this state is reached with these products: the
pieces consumed, and the input that is pending before those that are left. -/
structure Stage (node : σ) (route : List (Piece β ω × σ)) (input : List β) (walk : Walk β ω)
    (state : σ × List β) (made : List ω) (consumed left : List (Piece β ω × σ))
    (pending : List β) : Prop where
  split : route = consumed ++ left
  rest : walk.rest = pieces left
  arrived : walk.arrived = pending.length
  input_eq : input = Piece.inputs (pieces consumed) ++ pending
  route : loop.Route (behind node consumed) left
  stands : loop.Stands (behind node consumed) left pending walk.seen state.1 state.2
  made_eq : made = (pieces consumed).flatMap Piece.replies

/-- The walk stands somewhere on the route. -/
def At (node : σ) (route : List (Piece β ω × σ)) (input : List β) (walk : Walk β ω)
    (state : σ × List β) (made : List ω) : Prop :=
  ∃ consumed left pending, loop.Stage node route input walk state made consumed left pending

variable {loop} {node after : σ} {piece : Piece β ω} {rest : List (Piece β ω × σ)}
  {pending unread data : List β} {seen : Nat} {walk : Walk β ω}

/-- A node stands for itself. -/
theorem Takes.standsFor (takes : loop.Takes node piece after) (pending : List β) :
    loop.StandsFor node piece pending 0 node pending where
  view := rfl
  calls _ _ _ := rfl
  faulty _ follows := takes.faulty _ follows

theorem Route.stands (route : loop.Route node rest)
    (le : pending <+: Piece.inputs (pieces rest)) :
    loop.Stands node rest pending 0 node pending := by
  cases route with
  | done =>
      obtain rfl := List.prefix_nil.mp le
      exact ⟨rfl, rfl, rfl⟩
  | next takes route => exact ⟨takes.standsFor pending, fun _ => rfl⟩

/-! ## One entry of the loop -/

theorem At.cons {state : σ × List β} {made : List ω} {input : List β}
    (reached : loop.At after rest input walk state made) (node : σ) (piece : Piece β ω) :
    loop.At node ((piece, after) :: rest) (piece.input ++ input) walk state
      (piece.replies ++ made) := by
  obtain ⟨consumed, left, pending, stage⟩ := reached
  refine ⟨(piece, after) :: consumed, left, pending, ?_, stage.rest, stage.arrived, ?_,
    stage.route, stage.stands, ?_⟩
  · rw [stage.split, List.cons_append]
  · rw [stage.input_eq, pieces_cons, Piece.inputs_cons, List.append_assoc]
  · rw [stage.made_eq, pieces_cons, List.flatMap_cons]

/-- Nothing of the route is consumed. -/
theorem Route.here (route : loop.Route node rest)
    (stands : loop.Stands node rest pending seen now unread) :
    loop.At node rest pending ⟨pieces rest, seen, pending.length⟩ (now, unread) [] :=
  ⟨[], rest, pending, rfl, rfl, rfl, rfl, route, stands, rfl⟩

/-- **One entry of the loop** comes to harm where the walk says so, and else leaves what the
walk says. -/
theorem Route.enter (route : loop.Route node rest)
    (stands : loop.Stands node rest pending seen now unread)
    (le : pending ++ data <+: Piece.inputs (pieces rest)) :
    (Walk.breaks (pieces rest) seen (pending ++ data).length = true ∧
        loop.Meets now (unread ++ data)) ∨
      Walk.breaks (pieces rest) seen (pending ++ data).length = false ∧
        ¬ loop.Meets now (unread ++ data) ∧
          loop.At node rest (pending ++ data)
            (Walk.advance (pieces rest) (pending ++ data).length)
            (loop.loop now (unread ++ data)).1 (loop.loop now (unread ++ data)).2 := by
  induction route generalizing pending seen now unread data with
  | done node =>
      obtain ⟨view, rfl, rfl⟩ := stands
      obtain rfl : data = [] := List.prefix_nil.mp le
      have returns := loop.idle_returns now
      refine Or.inr ⟨rfl, ?_, ?_⟩
      · rw [List.append_nil, meets_returns returns]
        exact loop.idle_harmless now
      · rw [List.append_nil, loop_returns returns]
        exact Route.here (.done node)
          ⟨(loop.idle_view now).trans view, rfl, loop.idle_unread now⟩
  | @next node after piece rest takes route ih =>
      obtain ⟨standsFor, -⟩ := stands
      rw [pieces_cons, Piece.inputs_cons] at le
      rw [pieces_cons, Walk.breaks, Walk.advance]
      have follows : Follows (pending ++ data) piece.input := by
        rcases prefix_append_cases le with ⟨inside, -⟩ | ⟨tail, covers, -⟩
        · exact .inl inside
        · exact .inr ⟨tail, covers.symm⟩
      cases breaks : piece.breaks seen (pending ++ data).length with
      | true => exact Or.inl ⟨rfl, .here ((standsFor.faulty data follows).mpr breaks)⟩
      | false =>
          have harmless : ¬ loop.Faulty now (unread ++ data) := by
            rw [standsFor.faulty data follows, breaks]
            exact Bool.false_ne_true
          have same := standsFor.calls data follows breaks
          have first := takes.fresh _ _ breaks
          rw [Bool.false_or]
          rcases prefix_append_cases le with ⟨inside, shorter⟩ | ⟨tail, covers, behind⟩
          · -- the input ends within the piece, and the call waits for the rest
            obtain ⟨returns, waits⟩ := takes.part _ inside
              (fun whole => absurd (congrArg List.length whole) (Nat.ne_of_lt shorter)) first
            rw [← same] at returns waits
            rw [decide_eq_false (Nat.not_le.mpr shorter), if_pos shorter, meets_returns returns,
              loop_returns returns]
            exact Or.inr ⟨rfl, harmless, (Route.next takes route).here
              ⟨waits, fun whole => absurd whole (Nat.not_le.mpr shorter)⟩⟩
          · -- the call takes the piece
            have length : (pending ++ data).length - piece.input.length = tail.length := by
              rw [covers, List.length_append, Nat.add_sub_cancel_left]
            have enough : piece.input.length ≤ (pending ++ data).length := by
              rw [covers, List.length_append]
              exact Nat.le_add_right _ _
            obtain ⟨report, returns, replies, calls⟩ := takes.whole
            rw [covers] at first
            have call := same.trans ((congrArg _ covers).trans (calls tail first))
            rw [decide_eq_true enough, if_neg (Nat.not_lt.mpr enough), length, Bool.true_and]
            cases stops : piece.stops with
            | true =>
                rw [stops] at returns replies
                have returns' : loop.returns (loop.call now (unread ++ data)).report = true := by
                  rw [call]
                  exact returns
                rw [meets_returns returns', loop_returns returns', call, covers, if_pos rfl]
                refine Or.inr ⟨rfl, harmless, ?_⟩
                have here := (route.here (route.stands behind)).cons node piece
                rwa [replies] at here
            | false =>
                rw [stops] at returns replies
                have goes : loop.returns (loop.call now (unread ++ data)).report = false := by
                  rw [call]
                  exact returns
                rw [meets_goes harmless goes, loop_goes goes, call, covers, Bool.not_false,
                  Bool.true_and, if_neg Bool.false_ne_true]
                have later := ih (route.stands List.nil_prefix) behind
                rw [List.nil_append] at later
                rcases later with harm | ⟨harmless, clean, reached⟩
                · exact Or.inl harm
                · refine Or.inr ⟨harmless, clean, ?_⟩
                  have reached := reached.cons node piece
                  rwa [replies, if_neg Bool.false_ne_true] at reached

/-! ## Read after read -/

variable {state : σ × List β} {made : List ω}

/-- **One read**, from a walk that stands somewhere on the route. -/
theorem At.read (reached : loop.At node rest input walk state made)
    (le : input ++ data <+: Piece.inputs (pieces rest)) :
    (Walk.breaks walk.rest walk.seen (walk.arrived + data.length) = true ∧
        loop.Meets state.1 (state.2 ++ data)) ∨
      Walk.breaks walk.rest walk.seen (walk.arrived + data.length) = false ∧
        ¬ loop.Meets state.1 (state.2 ++ data) ∧
          loop.At node rest (input ++ data) (walk.read data.length)
            (loop.loop state.1 (state.2 ++ data)).1
            (made ++ (loop.loop state.1 (state.2 ++ data)).2) := by
  obtain ⟨consumed, left, pending, stage⟩ := reached
  have le' : pending ++ data <+: Piece.inputs (pieces left) := by
    rw [stage.input_eq, stage.split, pieces_append, Piece.inputs_append, List.append_assoc] at le
    exact (List.prefix_append_right_inj _).mp le
  have entered := stage.route.enter stage.stands le'
  rw [Walk.read, stage.rest, stage.arrived, ← List.length_append]
  rcases entered with harm | ⟨clean, harmless, taken, left', pending', later⟩
  · exact Or.inl harm
  · refine Or.inr ⟨clean, harmless, consumed ++ taken, left', pending', ?_, later.rest,
      later.arrived, ?_, ?_, ?_, ?_⟩
    · rw [stage.split, later.split, List.append_assoc]
    · rw [stage.input_eq, List.append_assoc, later.input_eq, pieces_append, Piece.inputs_append,
        List.append_assoc]
    · rw [behind_append]
      exact later.route
    · rw [behind_append]
      exact later.stands
    · rw [stage.made_eq, later.made_eq, pieces_append, List.flatMap_append]

/-- **Read after read**: some read comes to harm where the walk says so, or else all of them
lead where the walk says. -/
theorem At.feedAll {cuts : List (List β)} (reached : loop.At node rest input walk state made)
    (le : input ++ cuts.flatten <+: Piece.inputs (pieces rest)) :
    (walk.breaksAny (cuts.map List.length) = true ∧ loop.MeetsAny state cuts) ∨
      walk.breaksAny (cuts.map List.length) = false ∧ ¬ loop.MeetsAny state cuts ∧
        loop.At node rest (input ++ cuts.flatten) (walk.reads (cuts.map List.length))
          (loop.consumer.feedAll state cuts).1 (made ++ (loop.consumer.feedAll state cuts).2) := by
  induction cuts generalizing input walk state made with
  | nil =>
      refine Or.inr ⟨rfl, id, ?_⟩
      simpa [Consumer.feedAll, Walk.reads] using reached
  | cons data cuts ih =>
      rw [List.flatten_cons, ← List.append_assoc] at le
      rw [List.map_cons, Walk.breaksAny, MeetsAny]
      rcases reached.read ((List.prefix_append _ _).trans le) with
        ⟨breaks, meets⟩ | ⟨clean, harmless, reached⟩
      · exact Or.inl ⟨by rw [breaks, Bool.true_or], Or.inl meets⟩
      · rw [clean, Bool.false_or]
        rcases ih reached le with ⟨breaks, meets⟩ | ⟨clean', harmless', reached'⟩
        · exact Or.inl ⟨breaks, Or.inr meets⟩
        · refine Or.inr ⟨clean', fun either => either.elim harmless harmless', ?_⟩
          rw [List.flatten_cons, ← List.append_assoc]
          simpa [Consumer.feedAll, EarlyReturn.consumer, Walk.reads] using reached'

/-! ## The end of the input -/

theorem Stands.view_eq (stands : loop.Stands node rest pending seen now unread) :
    loop.view now = loop.view node := by
  cases rest with
  | nil => exact stands.1
  | cons one rest => exact stands.1.view

/-- **When all of the input has arrived**, the pieces that are left are unread. -/
theorem Stage.ends {consumed left : List (Piece β ω × σ)}
    (stage : loop.Stage node rest input walk state made consumed left pending)
    (whole : input = Piece.inputs (pieces rest)) : state.2 = Piece.inputs (pieces left) := by
  have pending_eq : pending = Piece.inputs (pieces left) := by
    rw [stage.input_eq, stage.split, pieces_append, Piece.inputs_append] at whole
    exact List.append_cancel_left whole
  have stands := stage.stands
  cases left with
  | nil => exact stands.2.2
  | cons one left =>
      rw [stands.2 (by rw [pending_eq, pieces_cons, Piece.inputs_cons, List.length_append]
                       exact Nat.le_add_right _ _), pending_eq]

theorem Route.start (route : loop.Route node rest) :
    loop.At node rest [] (Walk.start (pieces rest)) (node, []) [] :=
  route.here (route.stands List.nil_prefix)

theorem Route.nonempty (route : loop.Route node rest) :
    ∀ one ∈ rest, one.1.input ≠ [] := by
  induction route with
  | done => exact fun _ impossible => nomatch impossible
  | next takes _ ih => exact List.forall_mem_cons.mpr ⟨takes.nonempty, ih⟩

/-- Two ends of a route with the same input are the same. -/
theorem Route.left_unique (route : loop.Route node rest)
    {consumed taken left others : List (Piece β ω × σ)} (split : rest = consumed ++ left)
    (split' : rest = taken ++ others)
    (same : Piece.inputs (pieces left) = Piece.inputs (pieces others)) : consumed = taken := by
  have nothing {extra : List (Piece β ω × σ)} (within : ∀ one ∈ extra, one ∈ rest)
      (empty : Piece.inputs (pieces extra) = []) : extra = [] := by
    cases extra with
    | nil => rfl
    | cons one extra =>
        rw [pieces_cons, Piece.inputs_cons] at empty
        exact absurd (List.append_eq_nil_iff.mp empty).1
          (route.nonempty one (within one List.mem_cons_self))
  rw [split] at split'
  rcases List.append_eq_append_iff.mp split' with ⟨extra, rfl, rfl⟩ | ⟨extra, rfl, rfl⟩
  · rw [pieces_append, Piece.inputs_append] at same
    have empty := List.append_left_eq_self.mp same
    rw [nothing (fun one there => by simp [split, there]) empty, List.append_nil]
  · rw [pieces_append, Piece.inputs_append] at same
    have empty := List.append_left_eq_self.mp same.symm
    rw [nothing (fun one there => by simp [split, there]) empty, List.append_nil]

/-- **When all of the input has arrived**, what is seen is the view behind the pieces that the
walk has consumed. -/
theorem Route.view_eq (route : loop.Route node rest) {cuts : List (List β)}
    (whole : cuts.flatten = Piece.inputs (pieces rest))
    (clean : (Walk.start (pieces rest)).breaksAny (cuts.map List.length) = false) :
    loop.view (loop.consumer.feedAll (node, []) cuts).1.1 =
      loop.view (behind node (rest.take (rest.length -
        ((Walk.start (pieces rest)).reads (cuts.map List.length)).rest.length))) := by
  rcases route.start.feedAll (by rw [List.nil_append, whole]) with
    ⟨breaks, -⟩ | ⟨-, -, consumed, left, pending, stage⟩
  · rw [clean] at breaks
    cases breaks
  · have consumed_eq : rest.take (rest.length - (pieces left).length) = consumed := by
      have length : (pieces left).length = left.length := List.length_map _
      rw [stage.split, length, List.length_append, Nat.add_sub_cancel, List.take_left]
    rw [stage.rest, consumed_eq]
    exact stage.stands.view_eq

/-- **Two ways of cutting one input** lead to the same view, products and unread input, both
without harm, exactly when neither walk comes to harm and they end at the same piece. -/
theorem Route.agree_iff (route : loop.Route node rest) {one other : List (List β)}
    (cutOne : one.flatten = Piece.inputs (pieces rest))
    (cutOther : other.flatten = Piece.inputs (pieces rest)) :
    (loop.view (loop.consumer.feedAll (node, []) one).1.1 =
          loop.view (loop.consumer.feedAll (node, []) other).1.1 ∧
        (loop.consumer.feedAll (node, []) one).2 = (loop.consumer.feedAll (node, []) other).2 ∧
        (loop.consumer.feedAll (node, []) one).1.2 =
          (loop.consumer.feedAll (node, []) other).1.2 ∧
        ¬ loop.MeetsAny (node, []) one ∧ ¬ loop.MeetsAny (node, []) other) ↔
      (Walk.start (pieces rest)).breaksAny (one.map List.length) = false ∧
        (Walk.start (pieces rest)).breaksAny (other.map List.length) = false ∧
        ((Walk.start (pieces rest)).reads (one.map List.length)).rest.length =
          ((Walk.start (pieces rest)).reads (other.map List.length)).rest.length := by
  have first := route.start.feedAll (by rw [List.nil_append, cutOne])
  have second := route.start.feedAll (by rw [List.nil_append, cutOther])
  rcases first with ⟨breaks, meets⟩ | ⟨clean, harmless, consumed, left, pending, stage⟩
  · exact iff_of_false (fun agree => agree.2.2.2.1 meets) fun ends => by simp [breaks] at ends
  rcases second with ⟨breaks, meets⟩ | ⟨clean', harmless', taken, others, pending', stage'⟩
  · exact iff_of_false (fun agree => agree.2.2.2.2 meets) fun ends => by simp [breaks] at ends
  have unread := stage.ends (by rw [List.nil_append, cutOne])
  have unread' := stage'.ends (by rw [List.nil_append, cutOther])
  have view := stage.stands.view_eq
  have view' := stage'.stands.view_eq
  have made := stage.made_eq
  have made' := stage'.made_eq
  rw [List.nil_append] at made made'
  have length (route : List (Piece β ω × σ)) : (pieces route).length = route.length :=
    List.length_map _
  rw [stage.rest, stage'.rest, unread, unread', view, view', made, made', length, length]
  constructor
  · rintro ⟨-, -, same, -, -⟩
    obtain rfl := route.left_unique stage.split stage'.split same
    have rest_eq := stage.split.symm.trans stage'.split
    exact ⟨clean, clean', congrArg List.length (List.append_cancel_left rest_eq)⟩
  · rintro ⟨-, -, same⟩
    obtain ⟨rfl, rfl⟩ := List.append_inj' (stage.split.symm.trans stage'.split) same
    exact ⟨rfl, rfl, rfl, harmless, harmless'⟩

/-! ## Another view -/

section

variable {υ : Type u} (view : σ → υ) (idle : ∀ state, view (loop.call state []).state = view state)

/-- The loop, observed in another way. -/
def withView (loop : EarlyReturn σ β ρ ω τ) (view : σ → υ)
    (idle : ∀ state, view (loop.call state []).state = view state) : EarlyReturn σ β ρ ω υ :=
  { loop with
    view := view
    idle_view := idle }

/-- Whoever sees nothing that the first view does not see follows the same pieces. -/
theorem Takes.withView (takes : loop.Takes node piece after)
    (coarser : ∀ state input, loop.view (loop.call state input).state = loop.view state →
      view (loop.call state input).state = view state) :
    (loop.withView view idle).Takes node piece after where
  nonempty := takes.nonempty
  fresh := takes.fresh
  faulty := takes.faulty
  whole := takes.whole
  part part inside other clean := by
    obtain ⟨returns, waits⟩ := takes.part part inside other clean
    exact ⟨returns, coarser _ _ waits.view, waits.calls, waits.faulty⟩

theorem Route.withView (route : loop.Route node rest)
    (coarser : ∀ state input, loop.view (loop.call state input).state = loop.view state →
      view (loop.call state input).state = view state) :
    (loop.withView view idle).Route node rest := by
  induction route with
  | done node => exact .done node
  | next takes _ ih => exact .next (takes.withView view idle coarser) ih

end

end EarlyReturn

end LiveBroadcast
