import LiveBroadcast.Foundation.FairRounds
import LiveBroadcast.Network.EventLoopThread

/-!
# The life of a loop thread

`Start` hands out the address of the thread's loop, and the loop it hands out exists and is not
stopped: it runs, or the thread is just about to set `looping_` and run it. `Start` returns
within a bounded number of rounds, unless the condition wakes it over and over again before the
thread has got the mutex (`start_returns_loop`).

The destructor resets `looping_` and joins the thread. If the thread has not yet set `looping_`
then, it sets it afterwards, and the reset is lost: the thread runs its loop for ever, and the
destructor waits for ever. In all other cases the destructor returns
(`destructor_returns_iff`).
-/

set_option autoImplicit false

namespace LiveBroadcast

/-- Whose step it is. -/
def LoopStep.party : LoopStep → Option LoopParty
  | .thread => some .thread
  | .owner => some .owner
  | .wake | .callStart | .callDestructor => none

/-- How far the thread is from `Loop`. -/
def LoopThreadPlace.ahead : LoopThreadPlace → Nat
  | .notStarted => 6
  | .constructing => 5
  | .locking => 4
  | .publishing => 3
  | .signalling => 2
  | .unlocking => 1
  | _ => 0

/-- How far `Start` is from its return. -/
def LoopOwnerPlace.ahead (loopSet : Bool) : LoopOwnerPlace → Nat
  | .starting => 10
  | .locking | .relocking => if loopSet then 6 else 9
  | .checking => if loopSet then 5 else 8
  | .waiting => 7
  | .reading => 4
  | .unlocking _ => 3
  | _ => 0

/-- The owner is in `Start`, or `Start` has returned. -/
def LoopOwnerPlace.starts : LoopOwnerPlace → Bool
  | .starting | .locking | .checking | .waiting | .relocking | .reading | .unlocking _
  | .running _ => true
  | _ => false

/-- How far the thread is from its end, once its loop is stopped. -/
def LoopThreadPlace.left : LoopThreadPlace → Nat
  | .round => 7
  | .testing => 6
  | .relocking => 5
  | .clearing => 4
  | .releasing => 3
  | .destructing => 2
  | .finished => 1
  | _ => 0

theorem LoopOwnerPlace.ahead_set (place : LoopOwnerPlace) (loopSet : Bool) :
    place.ahead true ≤ place.ahead loopSet := by
  cases loopSet <;> cases place <;> simp [ahead]

namespace EventLoopThread

variable {state : EventLoopThread}

/-- Both step, in each round. -/
def both : List (Option LoopParty) := [some .thread, some .owner]

/-! ## `Start` -/

/-- Nothing else is called, and no wake without reason comes before `loop_` is written. -/
def Quiet (state : EventLoopThread) (step : LoopStep) : Prop :=
  step ≠ .callStart ∧ step ≠ .callDestructor ∧ (step = .wake → state.loopSet = true)

/-- The steps that are left at most until `Start` returns. -/
def startWork (state : EventLoopThread) : Nat :=
  state.owner.ahead state.loopSet + state.thread.ahead

/-- `Start` is called, or has returned. -/
structure Starting (state : EventLoopThread) : Prop where
  sound : state.Sound
  starts : state.owner.starts = true

/-- The one whom `Start` waits for. -/
def StartHelps (party : Option LoopParty) (state : EventLoopThread) : Prop :=
  match party with
  | some .owner => match state.owner with
      | .starting | .checking | .reading | .unlocking _ => True
      | .locking | .relocking => state.mutex = none
      | _ => False
  | some .thread => state.mutex = some .thread ∨
      state.owner = .waiting ∧ state.mutex = none ∧ state.thread.early = true
  | none => False

theorem wake_startWork_le (state : EventLoopThread) (set : state.loopSet = true) :
    state.wake.startWork ≤ state.startWork := by
  unfold wake startWork
  split
  · next waiting =>
      rw [waiting, set]
      exact Nat.add_le_add_right (Nat.le_succ 6) _
  · exact Nat.le_refl _

theorem Upcoming.not_late (upcoming : state.Upcoming) : state.thread.late = false := by
  rcases upcoming with early | unlocking | entering | ⟨looping, -⟩
  · cases place : state.thread <;> rw [place] at early <;> first | rfl | cases early
  · rw [unlocking]
    rfl
  · rw [entering]
    rfl
  · cases place : state.thread <;> rw [place] at looping <;> first | rfl | cases looping

/-- As long as nobody stops it, the loop does not end. -/
theorem Starting.not_late (starting : state.Starting) : state.thread.late = false := by
  have place := starting.sound.place
  have starts := starting.starts
  cases owner : state.owner with
  | starting =>
      rw [owner] at place
      have fresh : state.thread = .notStarted := place
      rw [fresh]
      rfl
  | locking | relocking | checking =>
      rw [owner] at place
      exact Upcoming.not_late place
  | waiting =>
      rw [owner] at place
      exact Upcoming.not_late (.inl place)
  | reading =>
      rw [owner] at place
      exact Upcoming.not_late (.inr (.inr place))
  | unlocking loop | running loop =>
      rw [owner] at place
      exact Upcoming.not_late (.inr (.inr place.2))
  | fresh | testing | stopping | joining | destroyed | faulted | aborted =>
      rw [owner] at starts
      cases starts

theorem not_startHelps_thread (sound : state.Sound) (free : state.thread.holds = false)
    (stuck : state.mutex = none → state.thread.early = false) :
    ¬ StartHelps (some .thread) state := by
  rintro (mine | ⟨-, none, early⟩)
  · rw [sound.heldThread, free] at mine
    cases mine
  · rw [stuck none] at early
    cases early

/-- A step of the thread brings `Start` on, or `Start` does not wait for the thread. -/
theorem Starting.threadStep_cases (starting : state.Starting) :
    state.threadStep.startWork < state.startWork ∨
      state.threadStep.owner = state.owner ∧ state.threadStep.mutex = state.mutex ∧
        state.threadStep.startWork = state.startWork ∧ ¬ StartHelps (some .thread) state := by
  have sound := starting.sound
  have late := starting.not_late
  have set := sound.set
  have idle := not_startHelps_thread sound
  unfold EventLoopThread.threadStep
  cases place : state.thread with
  | notStarted =>
      rw [place] at idle
      exact .inr ⟨rfl, rfl, rfl, idle rfl fun _ => rfl⟩
  | constructing | unlocking =>
      refine .inl ?_
      unfold startWork
      rw [place]
      exact Nat.lt_succ_self _
  | locking =>
      rw [place] at idle
      cases mutex : state.mutex with
      | none =>
          refine .inl ?_
          unfold startWork
          rw [place]
          exact Nat.lt_succ_self _
      | some party =>
          rw [mutex] at idle
          exact .inr ⟨rfl, mutex, rfl, idle rfl nofun⟩
  | publishing =>
      refine .inl ?_
      unfold startWork
      rw [place]
      exact Nat.add_lt_add_of_le_of_lt (state.owner.ahead_set state.loopSet) (Nat.lt_succ_self _)
  | signalling =>
      refine .inl ?_
      rw [place] at set
      have less := wake_startWork_le state set
      unfold startWork at less ⊢
      rw [wake_thread, place] at less
      rw [place]
      exact Nat.lt_of_succ_le less
  | entering | round =>
      rw [place] at idle
      refine .inr ⟨rfl, rfl, ?_, idle rfl fun _ => rfl⟩
      unfold startWork
      rw [place]
      rfl
  | testing =>
      rw [place] at idle
      refine .inr ⟨rfl, rfl, ?_, idle rfl fun _ => rfl⟩
      unfold startWork
      rw [place]
      dsimp only
      split_ifs <;> rfl
  | relocking | clearing | releasing | destructing | finished =>
      rw [place] at late
      cases late

/-- A step of the owner brings `Start` on, unless the owner cannot go on. -/
theorem Starting.ownerStep_cases (starting : state.Starting) :
    state.ownerStep.startWork < state.startWork ∨
      state.ownerStep = state ∧ ¬ StartHelps (some .owner) state := by
  have place := starting.sound.place
  have starts := starting.starts
  unfold EventLoopThread.ownerStep StartHelps
  cases owner : state.owner with
  | starting =>
      rw [owner] at place
      have fresh : state.thread = .notStarted := place
      refine .inl ?_
      unfold startWork
      rw [owner, fresh]
      dsimp only [LoopOwnerPlace.ahead, LoopThreadPlace.ahead]
      split <;> decide
  | locking | relocking =>
      cases mutex : state.mutex with
      | none =>
          refine .inl ?_
          unfold startWork
          rw [owner]
          refine Nat.add_lt_add_right ?_ _
          cases state.loopSet <;> exact Nat.lt_succ_self _
      | some party => exact .inr ⟨rfl, nofun⟩
  | checking =>
      refine .inl ?_
      unfold startWork
      rw [owner]
      dsimp only
      cases set : state.loopSet with
      | true => exact Nat.add_lt_add_right (Nat.lt_succ_self 4) _
      | false => exact Nat.add_lt_add_right (Nat.lt_succ_self 7) _
  | reading =>
      refine .inl ?_
      unfold startWork
      rw [owner]
      exact Nat.add_lt_add_right (Nat.lt_succ_self 3) _
  | unlocking loop =>
      refine .inl ?_
      unfold startWork
      rw [owner]
      exact Nat.add_lt_add_right (Nat.succ_pos 2) _
  | waiting | running loop => exact .inr ⟨rfl, not_false⟩
  | fresh | testing | stopping | joining | destroyed | faulted | aborted =>
      rw [owner] at starts
      cases starts

/-- `Start` goes from one of its places to the next. -/
theorem starts_ownerStep (starts : state.owner.starts = true) :
    state.ownerStep.owner.starts = true := by
  unfold EventLoopThread.ownerStep
  cases owner : state.owner with
  | starting | reading | unlocking loop => rfl
  | locking | relocking =>
      cases state.mutex with
      | none => rfl
      | some party => exact congrArg LoopOwnerPlace.starts owner
  | checking =>
      dsimp only
      split <;> rfl
  | waiting | running loop => exact congrArg LoopOwnerPlace.starts owner
  | fresh | testing | stopping | joining | destroyed | faulted | aborted =>
      rw [owner] at starts
      cases starts

theorem starts_wake (starts : state.owner.starts = true) : state.wake.owner.starts = true := by
  unfold wake
  split
  · rfl
  · exact starts

theorem starts_threadStep (starts : state.owner.starts = true) :
    state.threadStep.owner.starts = true := by
  unfold EventLoopThread.threadStep
  cases state.thread with
  | locking | relocking => cases state.mutex <;> exact starts
  | signalling => exact starts_wake starts
  | notStarted | constructing | publishing | unlocking | entering | testing | round | clearing |
    releasing | destructing | finished => exact starts

theorem Starting.alive (starting : state.Starting) :
    ¬ (state.owner = .aborted ∨ state.owner = .faulted) := by
  have starts := starting.starts
  rintro (aborted | faulted)
  · rw [aborted] at starts
    cases starts
  · rw [faulted] at starts
    cases starts

theorem Starting.step (starting : state.Starting) {step : LoopStep} (quiet : state.Quiet step) :
    (machine.step state step).Starting := by
  refine ⟨starting.sound.step step, ?_⟩
  unfold machine
  dsimp only
  rw [if_neg starting.alive]
  cases step with
  | thread => exact starts_threadStep starting.starts
  | owner => exact starts_ownerStep starting.starts
  | wake => exact starts_wake starting.starts
  | callStart => exact absurd rfl quiet.1
  | callDestructor => exact absurd rfl quiet.2.1

/-- **A step** brings `Start` on, or `Start` does not wait for the one who has stepped. -/
theorem Starting.step_cases (starting : state.Starting) {step : LoopStep}
    (quiet : state.Quiet step) :
    (machine.step state step).startWork < state.startWork ∨
      (machine.step state step).startWork = state.startWork ∧
        ¬ StartHelps step.party state ∧
        ∀ party, party ≠ step.party → StartHelps party state →
          StartHelps party (machine.step state step) := by
  unfold machine
  dsimp only
  rw [if_neg starting.alive]
  cases step with
  | thread =>
      rcases starting.threadStep_cases with less | ⟨owner, mutex, same, idle⟩
      · exact .inl less
      · refine .inr ⟨same, idle, fun party other helps => ?_⟩
        cases party with
        | none => exact helps.elim
        | some party =>
            cases party with
            | thread => exact absurd rfl other
            | owner =>
                unfold StartHelps at helps ⊢
                dsimp only at helps ⊢
                rw [owner, mutex]
                exact helps
  | owner =>
      rcases starting.ownerStep_cases with less | ⟨same, idle⟩
      · exact .inl less
      · dsimp only
        rw [same]
        exact .inr ⟨rfl, idle, fun _ _ helps => helps⟩
  | wake =>
      dsimp only
      by_cases waiting : state.owner = .waiting
      · refine .inl ?_
        unfold wake startWork
        rw [waiting, quiet.2.2 rfl]
        exact Nat.add_lt_add_right (Nat.lt_succ_self 6) _
      · rw [wake_of_awake waiting]
        exact .inr ⟨rfl, not_false, fun _ _ helps => helps⟩
  | callStart => exact absurd rfl quiet.1
  | callDestructor => exact absurd rfl quiet.2.1

/-- As long as `Start` has not returned, it waits for somebody who can go on. -/
theorem Starting.helper (starting : state.Starting) (inside : state.owner ≠ .running true) :
    ∃ party ∈ both, StartHelps party state := by
  have sound := starting.sound
  have place := sound.place
  have starts := starting.starts
  have heldOwner := sound.heldOwner
  have owns : StartHelps (some .owner) state → ∃ party ∈ both, StartHelps party state :=
    fun helps => ⟨_, List.mem_cons_of_mem _ List.mem_cons_self, helps⟩
  have threads : StartHelps (some .thread) state → ∃ party ∈ both, StartHelps party state :=
    fun helps => ⟨_, List.mem_cons_self, helps⟩
  cases owner : state.owner with
  | starting | checking | reading | unlocking loop =>
      refine owns ?_
      unfold StartHelps
      dsimp only
      rw [owner]
      trivial
  | locking | relocking =>
      rw [owner] at heldOwner
      cases mutex : state.mutex with
      | none =>
          refine owns ?_
          unfold StartHelps
          dsimp only
          rw [owner]
          exact mutex
      | some party =>
          cases party with
          | thread => exact threads (.inl mutex)
          | owner => cases heldOwner.mp mutex
  | waiting =>
      rw [owner] at heldOwner place
      cases mutex : state.mutex with
      | none => exact threads (.inr ⟨owner, mutex, place⟩)
      | some party =>
          cases party with
          | thread => exact threads (.inl mutex)
          | owner => cases heldOwner.mp mutex
  | running loop =>
      rw [owner] at place
      have nonnull : loop = true := place.1
      rw [owner, nonnull] at inside
      exact absurd rfl inside
  | fresh | testing | stopping | joining | destroyed | faulted | aborted =>
      rw [owner] at starts
      cases starts

theorem running_step (running : state.owner = .running true) {step : LoopStep}
    (quiet : state.Quiet step) : (machine.step state step).owner = .running true := by
  have awake : state.owner ≠ .waiting := by
    rw [running]
    exact nofun
  unfold machine
  dsimp only
  rw [if_neg (by rw [running]; exact nofun)]
  cases step with
  | thread => exact (threadStep_owner awake).trans running
  | owner =>
      dsimp only
      rw [EventLoopThread.ownerStep, running]
      exact running
  | wake => exact (congrArg EventLoopThread.owner (wake_of_awake awake)).trans running
  | callStart => exact absurd rfl quiet.1
  | callDestructor => exact absurd rfl quiet.2.1

/-- **`Start` gets on.** -/
theorem start_progresses :
    machine.MakesProgress Quiet LoopStep.party both Starting
      (fun state => state.owner = .running true) startWork StartHelps where
  kept _ _ starting quiet := starting.step quiet
  stays _ _ _ quiet running := running_step running quiet
  lower _ _ starting quiet := by
    rcases starting.step_cases quiet with less | ⟨same, -⟩
    · exact Nat.le_of_lt less
    · exact Nat.le_of_eq same
  helper _ starting inside := starting.helper inside
  helps _ step party starting quiet helps := by
    rcases starting.step_cases quiet with less | ⟨-, idle, others⟩
    · exact .inl less
    · have other : step.party ≠ party := by
        rintro rfl
        exact idle helps
      exact .inr ⟨other, others party other.symm helps⟩

theorem startWork_le (state : EventLoopThread) : state.startWork ≤ 16 := by
  have owner : state.owner.ahead state.loopSet ≤ 10 := by
    cases state.loopSet <;> cases state.owner <;> simp [LoopOwnerPlace.ahead]
  have thread : state.thread.ahead ≤ 6 := by
    cases state.thread <;> simp [LoopThreadPlace.ahead]
  exact Nat.add_le_add owner thread

/-- **`Start` returns the loop of its thread.** In every reachable state nobody has used a loop
that does not exist, and what `Start` has returned is the loop, which exists and runs or is about
to. And once `Start` is called, more than sixteen rounds in which both step are enough for it to
return, whatever the order, if no wake without reason comes before `loop_` is written. -/
theorem start_returns_loop (steps : List LoopStep) :
    (machine.run new steps).owner ≠ .faulted ∧
      (∀ loop, (machine.run new steps).owner = .running loop →
        loop = true ∧ (machine.run new steps).loop.isSome = true ∧
          (machine.run new steps).Open) ∧
      ∀ rounds : List (List LoopStep), (machine.run new steps).owner = .starting →
        (∀ inputs ∈ rounds, Machine.Round LoopStep.party both inputs) →
        machine.Guarded Quiet (machine.run new steps) rounds.flatten → 16 < rounds.length →
          (machine.run new (steps ++ rounds.flatten)).owner = .running true := by
  have sound := sound_run steps
  have place := sound.place
  refine ⟨fun faulted => ?_, fun loop running => ?_, fun rounds asked fair quiet enough => ?_⟩
  · rw [faulted] at place
    exact place
  · rw [running] at place
    obtain ⟨nonnull, opened⟩ := place
    exact ⟨nonnull, sound.alive.trans opened.place.2, opened⟩
  · rw [Machine.run_append]
    refine start_progresses.reaches ⟨sound, ?_⟩ fair quiet
      (Nat.lt_of_le_of_lt (startWork_le _) enough)
    rw [asked]
    rfl

/-- Both step once. -/
def inTurn : List LoopStep := [.thread, .owner]

theorem inTurn_round : Machine.Round LoopStep.party both inTurn := by
  intro party member
  rcases List.mem_cons.mp member with rfl | last
  · exact ⟨.thread, List.mem_cons_self, rfl⟩
  · rw [List.mem_singleton.mp last]
    exact ⟨.owner, List.mem_cons_of_mem _ List.mem_cons_self, rfl⟩

theorem quiet_of_parties {steps : List LoopStep} (parties : ∀ step ∈ steps, step.party ≠ none)
    (state : EventLoopThread) : machine.Guarded Quiet state steps := by
  induction steps generalizing state with
  | nil => trivial
  | cons step steps ih =>
      obtain ⟨here, later⟩ := List.forall_mem_cons.mp parties
      refine ⟨⟨?_, ?_, ?_⟩, ih later _⟩
      · rintro rfl
        exact here rfl
      · rintro rfl
        exact here rfl
      · rintro rfl
        exact absurd rfl here

/-- A thread that is started and both in turn. -/
theorem start_returns_loop_inTurn :
    (machine.run new ([.callStart] ++ (List.replicate 17 inTurn).flatten)).owner =
      .running true := by
  refine (start_returns_loop [.callStart]).2.2 (List.replicate 17 inTurn) rfl ?_ ?_ ?_
  · intro inputs member
    rw [List.eq_of_mem_replicate member]
    exact inTurn_round
  · refine quiet_of_parties (fun step member => ?_) _
    obtain ⟨inputs, inside, here⟩ := List.mem_flatten.mp member
    rw [List.eq_of_mem_replicate inside] at here
    rcases List.mem_cons.mp here with rfl | last
    · exact nofun
    · rw [List.mem_singleton.mp last]
      exact nofun
  · rw [List.length_replicate]
    exact Nat.lt_succ_self 16

/-! ## The destructor -/

/-- The destructor waits for a thread whose loop is stopped, or has returned. -/
structure Stopping (state : EventLoopThread) : Prop where
  sound : state.Sound
  ending : state.Ending
  joins : state.owner = .joining ∨ state.owner = .destroyed

/-- The destructor waits for a loop that nobody stops. -/
structure Lost (state : EventLoopThread) : Prop where
  opened : state.Open
  joins : state.owner = .joining

/-- The steps that are left until the destructor returns. -/
def stopWork (state : EventLoopThread) : Nat :=
  state.thread.left + if state.owner = .joining then 1 else 0

/-- The one whom the destructor waits for. -/
def StopHelps (party : Option LoopParty) (state : EventLoopThread) : Prop :=
  match party with
  | some .thread => state.thread ≠ .finished
  | some .owner => state.thread = .finished ∧ state.owner = .joining
  | none => False

theorem Open.running (opened : state.Open) : state.thread ≠ .finished := by
  intro finished
  rcases opened with entering | ⟨looping, -⟩
  · rw [finished] at entering
    cases entering
  · rw [finished] at looping
    cases looping

/-- **A lost reset is never made good**: whatever happens, the loop runs and the destructor
waits. -/
theorem Lost.step (lost : state.Lost) (step : LoopStep) : (machine.step state step).Lost := by
  obtain ⟨opened, joins⟩ := lost
  have awake : state.owner ≠ .waiting := by
    rw [joins]
    exact nofun
  have same {after : EventLoopThread} (equal : after = state) : after.Lost := by
    rw [equal]
    exact ⟨opened, joins⟩
  unfold machine
  dsimp only
  rw [if_neg (by rw [joins]; exact nofun)]
  cases step with
  | thread => exact ⟨opened.threadStep, (threadStep_owner awake).trans joins⟩
  | owner =>
      refine same ?_
      dsimp only
      unfold EventLoopThread.ownerStep
      rw [joins]
      dsimp only
      split
      · next finished => exact absurd finished opened.running
      · rfl
  | wake => exact same (wake_of_awake awake)
  | callStart =>
      refine same ?_
      dsimp only
      rw [EventLoopThread.callStart, joins]
  | callDestructor =>
      refine same ?_
      dsimp only
      rw [EventLoopThread.callDestructor, joins]

theorem Lost.run (lost : state.Lost) (steps : List LoopStep) : (machine.run state steps).Lost := by
  induction steps generalizing state with
  | nil => exact lost
  | cons step steps ih => exact ih (lost.step step)

/-- The thread gets on towards its end, or is there. -/
theorem Stopping.threadStep_cases (stopping : state.Stopping) :
    state.threadStep.thread.left < state.thread.left ∨
      state.thread = .finished ∧ state.threadStep = state := by
  have sound := stopping.sound
  have ending := stopping.ending
  unfold EventLoopThread.threadStep
  cases place : state.thread with
  | finished => exact .inr ⟨rfl, rfl⟩
  | testing =>
      refine .inl ?_
      rcases ending with ⟨-, off⟩ | late
      · dsimp only
        rw [if_neg fun on => Bool.noConfusion (Option.some.inj (on.symm.trans off))]
        exact Nat.lt_succ_self 5
      · rw [place] at late
        cases late
  | round | clearing | releasing | destructing => exact .inl (Nat.lt_succ_self _)
  | relocking =>
      cases mutex : state.mutex with
      | none => exact .inl (Nat.lt_succ_self 4)
      | some party =>
          cases party with
          | thread =>
              have holds := sound.heldThread.mp mutex
              rw [place] at holds
              cases holds
          | owner =>
              have holds := sound.heldOwner.mp mutex
              rcases stopping.joins with joining | destroyed
              · rw [joining] at holds
                cases holds
              · rw [destroyed] at holds
                cases holds
  | notStarted | constructing | locking | publishing | signalling | unlocking | entering =>
      unfold Ending at ending
      rw [place] at ending
      rcases ending with ⟨looping, -⟩ | late
      · cases looping
      · cases late

theorem Stopping.awake (stopping : state.Stopping) : state.owner ≠ .waiting := by
  rcases stopping.joins with joining | destroyed
  · rw [joining]
    exact nofun
  · rw [destroyed]
    exact nofun

/-- **A step** brings the destructor on, or everything is as it was, and the destructor does not
wait for the one who has stepped. -/
theorem Stopping.step_cases (stopping : state.Stopping) (step : LoopStep) :
    (machine.step state step).Stopping ∧
      ((machine.step state step).stopWork < state.stopWork ∨
        machine.step state step = state ∧ ¬ StopHelps step.party state) := by
  have alive : ¬ (state.owner = .aborted ∨ state.owner = .faulted) := by
    rcases stopping.joins with joining | destroyed
    · rw [joining]
      exact nofun
    · rw [destroyed]
      exact nofun
  have sound := stopping.sound.step step
  have same {after : EventLoopThread} (equal : after = state)
      (idle : ¬ StopHelps step.party state) :
      after.Stopping ∧ (after.stopWork < state.stopWork ∨
        after = state ∧ ¬ StopHelps step.party state) := by
    rw [equal]
    exact ⟨stopping, .inr ⟨rfl, idle⟩⟩
  unfold machine at sound ⊢
  dsimp only at sound ⊢
  rw [if_neg alive] at sound ⊢
  cases step with
  | thread =>
      have owner := threadStep_owner stopping.awake
      rcases stopping.threadStep_cases with less | ⟨finished, equal⟩
      · refine ⟨⟨sound, stopping.ending.threadStep, ?_⟩, .inl ?_⟩
        · dsimp only
          rw [owner]
          exact stopping.joins
        · unfold stopWork
          dsimp only
          rw [owner]
          exact Nat.add_lt_add_right less _
      · exact same equal fun helps => helps finished
  | owner =>
      rcases stopping.joins with joining | destroyed
      · by_cases finished : state.thread = .finished
        · have next : state.ownerStep = { state with owner := .destroyed } := by
            rw [EventLoopThread.ownerStep, joining]
            dsimp only
            rw [finished]
          dsimp only at sound ⊢
          rw [next] at sound ⊢
          refine ⟨⟨sound, stopping.ending, .inr rfl⟩, .inl ?_⟩
          unfold stopWork
          rw [if_pos joining, if_neg nofun]
          exact Nat.lt_succ_self _
        · refine same ?_ fun helps => finished helps.1
          dsimp only
          rw [EventLoopThread.ownerStep, joining]
          dsimp only
          split
          · next ended => exact absurd ended finished
          · rfl
      · refine same ?_ fun helps => ?_
        · dsimp only
          rw [EventLoopThread.ownerStep, destroyed]
        · have joining := helps.2
          rw [destroyed] at joining
          cases joining
  | wake => exact same (wake_of_awake stopping.awake) not_false
  | callStart =>
      refine same ?_ not_false
      dsimp only
      unfold EventLoopThread.callStart
      rcases stopping.joins with joining | destroyed
      · rw [joining]
      · rw [destroyed]
  | callDestructor =>
      refine same ?_ not_false
      dsimp only
      unfold EventLoopThread.callDestructor
      rcases stopping.joins with joining | destroyed
      · rw [joining]
      · rw [destroyed]

theorem destroyed_step (sound : state.Sound) (destroyed : state.owner = .destroyed)
    (step : LoopStep) : machine.step state step = state := by
  have place := sound.place
  rw [destroyed] at place
  unfold machine
  dsimp only
  rw [if_neg (by rw [destroyed]; exact nofun)]
  cases step with
  | thread => exact threadStep_fixed place
  | owner =>
      dsimp only
      rw [EventLoopThread.ownerStep, destroyed]
  | wake => exact wake_of_awake (by rw [destroyed]; exact nofun)
  | callStart =>
      dsimp only
      rw [EventLoopThread.callStart, destroyed]
  | callDestructor =>
      dsimp only
      rw [EventLoopThread.callDestructor, destroyed]

/-- **The destructor gets on**, whatever happens. -/
theorem stop_progresses :
    machine.MakesProgress (fun _ _ => True) LoopStep.party both Stopping
      (fun state => state.owner = .destroyed) stopWork StopHelps where
  kept _ step stopping _ := (stopping.step_cases step).1
  stays _ step stopping _ destroyed := by
    rw [destroyed_step stopping.sound destroyed step]
    exact destroyed
  lower _ step stopping _ := by
    rcases (stopping.step_cases step).2 with less | ⟨same, -⟩
    · exact Nat.le_of_lt less
    · exact Nat.le_of_eq (congrArg stopWork same)
  helper state stopping inside := by
    have joining := stopping.joins.resolve_right inside
    by_cases finished : state.thread = .finished
    · exact ⟨_, List.mem_cons_of_mem _ List.mem_cons_self, finished, joining⟩
    · exact ⟨_, List.mem_cons_self, finished⟩
  helps state step party stopping _ helps := by
    rcases (stopping.step_cases step).2 with less | ⟨same, idle⟩
    · exact .inl less
    · refine .inr ⟨?_, ?_⟩
      · rintro rfl
        exact idle helps
      · rw [same]
        exact helps

theorem stopWork_le (state : EventLoopThread) : state.stopWork ≤ 8 := by
  have thread : state.thread.left ≤ 7 := by
    cases state.thread <;> simp [LoopThreadPlace.left]
  have owner : (if state.owner = .joining then 1 else 0) ≤ 1 := by
    split <;> decide
  exact Nat.add_le_add thread owner

/-- **When the destructor returns.** When it is about to reset `looping_`, let both step in more
than eight rounds behind that, in any order. Then the destructor has returned exactly if the
thread had set `looping_` before; else it never does. -/
theorem destructor_returns_iff (steps : List LoopStep) (rounds : List (List LoopStep))
    (stops : (machine.run new steps).owner = .stopping)
    (fair : ∀ inputs ∈ rounds, Machine.Round LoopStep.party both inputs)
    (enough : 8 < rounds.length) :
    (machine.run new (steps ++ .owner :: rounds.flatten)).owner = .destroyed ↔
      (machine.run new steps).thread ≠ .entering := by
  rw [Machine.run_append, Machine.run_cons]
  have sound := sound_run steps
  generalize machine.run new steps = state at stops sound ⊢
  have place := sound.place
  rw [stops] at place
  have opened : state.Open := place
  have alive := sound.alive.trans opened.place.2
  have set := sound.set.trans opened.place.1
  have next : machine.step state .owner = { state with loop := some false, owner := .joining } := by
    unfold machine
    dsimp only
    rw [if_neg (by rw [stops]; exact nofun), EventLoopThread.ownerStep, stops]
    exact if_pos ⟨set, alive⟩
  have after := sound.step .owner
  rw [next] at after ⊢
  rcases opened with entering | ⟨looping, -⟩
  · have start : Lost { state with loop := some false, owner := .joining } :=
      ⟨.inl entering, rfl⟩
    have lost := start.run rounds.flatten
    refine ⟨fun destroyed => ?_, fun not => absurd entering not⟩
    rw [lost.joins] at destroyed
    cases destroyed
  · refine ⟨fun _ entering => ?_, fun _ => ?_⟩
    · rw [entering] at looping
      cases looping
    · exact stop_progresses.reaches ⟨after, .inl ⟨looping, rfl⟩, .inl rfl⟩ fair
        (Machine.guarded_iff.mpr fun _ _ _ => trivial) (Nat.lt_of_le_of_lt (stopWork_le _) enough)

/-- The owner gets its loop, and destroys it at once: the thread has not set `looping_`. -/
def destroyedAtOnce : List LoopStep :=
  [.callStart, .owner, .thread, .thread, .thread, .thread, .thread, .owner, .owner, .owner, .owner,
    .callDestructor, .owner]

theorem destructor_returns_iff_destroyedAtOnce :
    ¬ (machine.run new (destroyedAtOnce ++ .owner :: (List.replicate 9 inTurn).flatten)).owner =
      .destroyed := by
  rw [destructor_returns_iff destroyedAtOnce (List.replicate 9 inTurn) rfl ?_ ?_]
  · exact fun not => not rfl
  · intro inputs member
    rw [List.eq_of_mem_replicate member]
    exact inTurn_round
  · rw [List.length_replicate]
    exact Nat.lt_succ_self 8

end EventLoopThread

end LiveBroadcast
