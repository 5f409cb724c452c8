import Mathlib.Logic.Function.Basic
import Mathlib.Data.List.Basic

/-!
# Interleaved streams of blocks

Several senders, told apart by a key, each send a list of messages. A message becomes a block
of items of which the last one, and no other, is final. On the wire the items of the senders
are interleaved in any way that keeps every sender's own order: the items with a given key
are the blocks of its messages, one after the other (`Interleaves`).

The first final item of the wire ends the first block of its sender, and the items of that
block in front of it are those with its key (`Interleaves.first_block`). Where nothing else
is in front of it, the block comes whole, and the rest of the wire interleaves what is left
to send (`Interleaves.drop_block`).
-/

set_option autoImplicit false

namespace LiveBroadcast

variable {κ α β : Type} [DecidableEq κ]

/-- A block: its last item is final and no other is. -/
def IsBlock (final : α → Bool) (block : List α) : Prop :=
  ∃ front item, block = front ++ [item] ∧ (∀ other ∈ front, final other = false) ∧
    final item = true

/-- The items with each key are the blocks of its messages, in order. -/
def Interleaves (key : α → κ) (encode : κ → β → List α) (streams : κ → List β)
    (wire : List α) : Prop :=
  ∀ k, wire.filter (fun item => key item = k) = (streams k).flatMap (encode k)

variable {key : α → κ} {encode : κ → β → List α} {streams : κ → List β} {final : α → Bool}
  {front rest wire : List α} {item : α}

/-- Two ways to cut a list behind its first final item are one. -/
theorem cut_unique {front' rest' : List α} {item' : α} (before : ∀ x ∈ front, final x = false)
    (ends : final item = true) (before' : ∀ x ∈ front', final x = false)
    (ends' : final item' = true) (same : front ++ item :: rest = front' ++ item' :: rest') :
    front = front' ∧ item = item' ∧ rest = rest' := by
  induction front generalizing front' with
  | nil =>
      cases front' with
      | nil => simpa using same
      | cons x front' =>
          obtain ⟨rfl, -⟩ := List.cons.inj same
          rw [before' item List.mem_cons_self] at ends
          cases ends
  | cons x front ih =>
      cases front' with
      | nil =>
          obtain ⟨rfl, -⟩ := List.cons.inj same
          rw [before x List.mem_cons_self] at ends'
          cases ends'
      | cons y front' =>
          obtain ⟨rfl, tails⟩ := List.cons.inj same
          obtain ⟨rfl, equal⟩ := ih (fun z inFront => before z (List.mem_cons_of_mem _ inFront))
            (fun z inFront => before' z (List.mem_cons_of_mem _ inFront)) tails
          exact ⟨rfl, equal⟩

/-- Every item on the wire is of a block of its stream. -/
theorem Interleaves.mem_block (interleaves : Interleaves key encode streams wire)
    (onWire : item ∈ wire) :
    ∃ message ∈ streams (key item), item ∈ encode (key item) message := by
  have own : item ∈ wire.filter (fun x => key x = key item) :=
    List.mem_filter.mpr ⟨onWire, decide_eq_true rfl⟩
  rw [interleaves (key item)] at own
  exact List.mem_flatMap.mp own

/-- Some item of a wire that is not empty is final. -/
theorem Interleaves.exists_final (interleaves : Interleaves key encode streams wire)
    (blocks : ∀ k, ∀ message ∈ streams k, IsBlock final (encode k message))
    (sent : wire ≠ []) :
    ∃ front item rest, wire = front ++ item :: rest ∧ (∀ x ∈ front, final x = false) ∧
      final item = true := by
  obtain ⟨first, wire, rfl⟩ := List.exists_cons_of_ne_nil sent
  have own := interleaves (key first)
  -- the stream of the first item has a message, whose block has a final item
  have nonempty : streams (key first) ≠ [] := by
    intro empty
    simp [empty] at own
  obtain ⟨message, messages, stream⟩ := List.exists_cons_of_ne_nil nonempty
  obtain ⟨_, item, block, -, ends⟩ := blocks (key first) message (by simp [stream])
  have onWire : item ∈ (first :: wire).filter (fun x => key x = key first) := by
    rw [own, stream, List.flatMap_cons, block]
    simp
  have found : ((first :: wire).find? final).isSome = true := by
    rw [List.find?_isSome]
    exact ⟨item, List.mem_of_mem_filter onWire, ends⟩
  obtain ⟨last, isFound⟩ := Option.isSome_iff_exists.mp found
  obtain ⟨isFinal, front, rest, cut, before⟩ := List.find?_eq_some_iff_append.mp isFound
  exact ⟨front, last, rest, cut, by simpa using before, isFinal⟩

/-- **The first final item ends the first block of its stream.** -/
theorem Interleaves.first_block
    (interleaves : Interleaves key encode streams (front ++ item :: rest))
    (blocks : ∀ k, ∀ message ∈ streams k, IsBlock final (encode k message))
    (before : ∀ x ∈ front, final x = false) (ends : final item = true) :
    ∃ message messages, streams (key item) = message :: messages ∧
      encode (key item) message = front.filter (fun x => key x = key item) ++ [item] ∧
      rest.filter (fun x => key x = key item) = messages.flatMap (encode (key item)) := by
  have own := interleaves (key item)
  rw [List.filter_append, List.filter_cons_of_pos (by simp)] at own
  cases stream : streams (key item) with
  | nil => simp [stream] at own
  | cons message messages =>
      obtain ⟨front', item', block, before', ends'⟩ := blocks (key item) message (by simp [stream])
      rw [stream, List.flatMap_cons, block, List.append_assoc, List.singleton_append] at own
      obtain ⟨sameFront, sameItem, sameRest⟩ := cut_unique
        (fun x inFront => before x (List.mem_of_mem_filter inFront)) ends before' ends' own
      exact ⟨message, messages, rfl, by rw [block, sameFront, sameItem], sameRest⟩

/-- **Behind a block that came whole** the wire interleaves what is left to send. -/
theorem Interleaves.drop_block {k : κ} {message : β} {messages : List β}
    (interleaves : Interleaves key encode streams (encode k message ++ rest))
    (own : ∀ x ∈ encode k message, key x = k) (stream : streams k = message :: messages) :
    Interleaves key encode (Function.update streams k messages) rest := by
  intro other
  have whole := interleaves other
  rw [List.filter_append] at whole
  by_cases same : other = k
  · subst same
    rw [List.filter_eq_self.mpr (by simpa using own), stream, List.flatMap_cons,
      List.append_cancel_left_eq] at whole
    rw [Function.update_self]
    exact whole
  · have foreign : (encode k message).filter (fun x => key x = other) = [] := by
      rw [List.filter_eq_nil_iff]
      intro x inBlock isOther
      exact same ((of_decide_eq_true isOther).symm.trans (own x inBlock))
    rw [foreign, List.nil_append] at whole
    rw [Function.update_of_ne same]
    exact whole

/-- What is left to send behind a block was there to send before it. -/
theorem mem_of_left_to_send {k l : κ} {message other : β} {messages : List β}
    (stream : streams k = message :: messages)
    (unsent : other ∈ Function.update streams k messages l) : other ∈ streams l := by
  by_cases same : l = k
  · subst same
    rw [Function.update_self] at unsent
    rw [stream]
    exact List.mem_cons_of_mem _ unsent
  · rwa [Function.update_of_ne same] at unsent

end LiveBroadcast
