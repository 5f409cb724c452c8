import LiveBroadcast.Foundation.Runs

/-!
# Loop threads

An `EventLoopThread` runs an `EventLoop` that is a local variable of its `ThreadFunc`. `Start`
waits on a condition until the thread has written the address of the loop to `loop_`, and returns
it; the destructor stops the loop and joins the thread.

The thread, which goes from `ThreadFunc` into `EventLoop::Loop`, and the owner take their steps in
any order, one line that touches what they share at a time. `loop_` is only ever null or the
address of that one loop, so it is a Boolean here. A round of the loop is one step.
-/

set_option autoImplicit false

namespace LiveBroadcast

/-- The two who take the mutex. -/
inductive LoopParty where
  | thread
  | owner
  deriving DecidableEq, Repr

/-- Where the thread is: in `ThreadFunc` or, between `entering` and `round`, in `Loop`. -/
inductive LoopThreadPlace where
  | notStarted
  | constructing
  | locking
  /-- `loop_ = &loop`, with the mutex. -/
  | publishing
  | signalling
  | unlocking
  /-- `looping_ = true`. -/
  | entering
  /-- `while (looping_)`. -/
  | testing
  | round
  /-- Behind `Loop`. -/
  | relocking
  /-- `loop_ = nullptr`, with the mutex. -/
  | clearing
  | releasing
  | destructing
  | finished
  deriving DecidableEq, Repr

/-- Where the owner is: in `Start`, up to `unlocking`, or in the destructor. -/
inductive LoopOwnerPlace where
  | fresh
  | starting
  | locking
  /-- `while (loop_ == nullptr)`, with the mutex. -/
  | checking
  | waiting
  | relocking
  | reading
  /-- With the value that was read. -/
  | unlocking (loop : Bool)
  /-- `Start` has returned this. -/
  | running (loop : Bool)
  /-- `if (loop_ != nullptr)`. -/
  | testing
  /-- `loop_->Stop()`. -/
  | stopping
  | joining
  | destroyed
  /-- `loop_->Stop()` without a loop. -/
  | faulted
  | aborted
  deriving DecidableEq, Repr

/-- `class EventLoopThread`, with its thread, and the loop of the thread with its `looping_`. -/
structure EventLoopThread where
  loopSet : Bool
  loop : Option Bool
  mutex : Option LoopParty
  thread : LoopThreadPlace
  owner : LoopOwnerPlace
  deriving DecidableEq, Repr

/-- What can happen at a loop thread. -/
inductive LoopStep where
  | thread
  | owner
  /-- `pthread_cond_wait` returns without reason. -/
  | wake
  | callStart
  | callDestructor
  deriving DecidableEq, Repr

namespace EventLoopThread

/-- The constructor. -/
def new : EventLoopThread := ⟨false, none, none, .notStarted, .fresh⟩

/-- The waiting owner is woken, and waits for the mutex. -/
def wake (state : EventLoopThread) : EventLoopThread :=
  match state.owner with
  | .waiting => { state with owner := .relocking }
  | _ => state

/-- A step of the thread. -/
def threadStep (state : EventLoopThread) : EventLoopThread :=
  match state.thread with
  | .notStarted => state
  | .constructing => { state with loop := some false, thread := .locking }
  | .locking =>
      match state.mutex with
      | none => { state with mutex := some .thread, thread := .publishing }
      | some _ => state
  | .publishing => { state with loopSet := true, thread := .signalling }
  | .signalling => { state.wake with thread := .unlocking }
  | .unlocking => { state with mutex := none, thread := .entering }
  | .entering => { state with loop := some true, thread := .testing }
  | .testing => { state with thread := if state.loop = some true then .round else .relocking }
  | .round => { state with thread := .testing }
  | .relocking =>
      match state.mutex with
      | none => { state with mutex := some .thread, thread := .clearing }
      | some _ => state
  | .clearing => { state with loopSet := false, thread := .releasing }
  | .releasing => { state with mutex := none, thread := .destructing }
  | .destructing => { state with loop := none, thread := .finished }
  | .finished => state

/-- A step of the owner. -/
def ownerStep (state : EventLoopThread) : EventLoopThread :=
  match state.owner with
  | .fresh | .running _ => state
  | .starting => { state with thread := .constructing, owner := .locking }
  | .locking | .relocking =>
      match state.mutex with
      | none => { state with mutex := some .owner, owner := .checking }
      | some _ => state
  | .checking =>
      if state.loopSet then { state with owner := .reading }
      else { state with mutex := none, owner := .waiting }
  | .waiting => state
  | .reading => { state with owner := .unlocking state.loopSet }
  | .unlocking loop => { state with mutex := none, owner := .running loop }
  | .testing => { state with owner := if state.loopSet then .stopping else .destroyed }
  | .stopping =>
      if state.loopSet ∧ state.loop.isSome then
        { state with loop := some false, owner := .joining }
      else { state with owner := .faulted }
  | .joining =>
      match state.thread with
      | .finished => { state with owner := .destroyed }
      | _ => state
  | .destroyed | .faulted | .aborted => state

/-- `Start` is called; `Thread::Start` must find the thread not started. -/
def callStart (state : EventLoopThread) : EventLoopThread :=
  match state.owner with
  | .fresh => { state with owner := .starting }
  | .running _ => { state with owner := .aborted }
  | _ => state

/-- The destructor is called. -/
def callDestructor (state : EventLoopThread) : EventLoopThread :=
  match state.owner with
  | .fresh | .running _ => { state with owner := .testing }
  | _ => state

/-- Behind an abort or a fault nothing is said. -/
def machine : Machine EventLoopThread LoopStep where
  step state step :=
    if state.owner = .aborted ∨ state.owner = .faulted then state
    else match step with
      | .thread => state.threadStep
      | .owner => state.ownerStep
      | .wake => state.wake
      | .callStart => state.callStart
      | .callDestructor => state.callDestructor

end EventLoopThread

/-! ## The invariant -/

/-- The thread has the mutex. -/
def LoopThreadPlace.holds : LoopThreadPlace → Bool
  | .publishing | .signalling | .unlocking | .clearing | .releasing => true
  | _ => false

/-- `loop_` is the address of the loop. -/
def LoopThreadPlace.published : LoopThreadPlace → Bool
  | .signalling | .unlocking | .entering | .testing | .round | .relocking | .clearing => true
  | _ => false

/-- The loop exists. -/
def LoopThreadPlace.constructed : LoopThreadPlace → Bool
  | .notStarted | .constructing | .finished => false
  | _ => true

/-- The thread is started and has not yet signalled. -/
def LoopThreadPlace.early : LoopThreadPlace → Bool
  | .constructing | .locking | .publishing | .signalling => true
  | _ => false

/-- The thread is in the `while` of `Loop`. -/
def LoopThreadPlace.looping : LoopThreadPlace → Bool
  | .testing | .round => true
  | _ => false

/-- `Loop` has returned. -/
def LoopThreadPlace.late : LoopThreadPlace → Bool
  | .relocking | .clearing | .releasing | .destructing | .finished => true
  | _ => false

/-- The owner has the mutex. -/
def LoopOwnerPlace.holds : LoopOwnerPlace → Bool
  | .checking | .reading | .unlocking _ => true
  | _ => false

namespace EventLoopThread

variable {state : EventLoopThread}

/-- The loop is about to run, or runs and is not stopped. -/
def Open (state : EventLoopThread) : Prop :=
  state.thread = .entering ∨ state.thread.looping = true ∧ state.loop = some true

/-- The loop will be open. -/
def Upcoming (state : EventLoopThread) : Prop :=
  state.thread.early = true ∨ state.thread = .unlocking ∨ state.Open

/-- The loop is stopped. -/
def Ending (state : EventLoopThread) : Prop :=
  state.thread.looping = true ∧ state.loop = some false ∨ state.thread.late = true

/-- How far the thread is when the owner is at a place. -/
def At (state : EventLoopThread) : LoopOwnerPlace → Prop
  | .fresh | .starting => state.thread = .notStarted
  | .locking | .relocking | .checking => state.Upcoming
  | .waiting => state.thread.early = true
  | .reading | .stopping => state.Open
  | .unlocking loop | .running loop => loop = true ∧ state.Open
  | .testing => state.thread = .notStarted ∨ state.Open
  | .joining => state.Open ∨ state.Ending
  | .destroyed => state.thread = .notStarted ∨ state.thread = .finished
  | .faulted => False
  | .aborted => True

/-- The mutex belongs to the one that took it, `loop_` and the loop are what the thread has made
of them, and the thread is as far as the owner needs it. -/
structure Sound (state : EventLoopThread) : Prop where
  heldThread : state.mutex = some .thread ↔ state.thread.holds = true
  heldOwner : state.mutex = some .owner ↔ state.owner.holds = true
  set : state.loopSet = state.thread.published
  alive : state.loop.isSome = state.thread.constructed
  place : state.At state.owner

theorem sound_new : new.Sound :=
  ⟨⟨nofun, nofun⟩, ⟨nofun, nofun⟩, rfl, rfl, rfl⟩

/-! ## A step of the thread -/

theorem threadStep_fixed (still : state.thread = .notStarted ∨ state.thread = .finished) :
    state.threadStep = state := by
  rcases still with place | place
  · rw [threadStep, place]
  · rw [threadStep, place]

theorem Open.threadStep (opened : state.Open) : state.threadStep.Open := by
  unfold EventLoopThread.threadStep
  rcases opened with entering | ⟨looping, on⟩
  · rw [entering]
    exact .inr ⟨rfl, rfl⟩
  · cases place : state.thread with
    | testing =>
        refine .inr ⟨?_, on⟩
        dsimp only
        rw [if_pos on]
        rfl
    | round => exact .inr ⟨rfl, on⟩
    | notStarted | constructing | locking | publishing | signalling | unlocking | entering |
      relocking | clearing | releasing | destructing | finished =>
        rw [place] at looping
        cases looping

theorem Upcoming.threadStep (upcoming : state.Upcoming) : state.threadStep.Upcoming := by
  rcases upcoming with early | unlocking | opened
  · unfold EventLoopThread.threadStep
    cases place : state.thread with
    | constructing => exact .inl rfl
    | locking =>
        cases state.mutex with
        | none => exact .inl rfl
        | some party =>
            rw [place] at early
            exact .inl ((congrArg LoopThreadPlace.early place).trans early)
    | publishing => exact .inl rfl
    | signalling => exact .inr (.inl rfl)
    | notStarted | unlocking | entering | testing | round | relocking | clearing | releasing |
      destructing | finished =>
        rw [place] at early
        cases early
  · unfold EventLoopThread.threadStep
    rw [unlocking]
    exact .inr (.inr (.inl rfl))
  · exact .inr (.inr opened.threadStep)

theorem Ending.threadStep (ending : state.Ending) : state.threadStep.Ending := by
  unfold EventLoopThread.threadStep
  cases place : state.thread with
  | testing =>
      refine .inr ?_
      rcases ending with ⟨-, off⟩ | late
      · dsimp only
        rw [if_neg fun on => Bool.noConfusion (Option.some.inj (on.symm.trans off))]
        rfl
      · rw [place] at late
        cases late
  | round =>
      rcases ending with ⟨-, off⟩ | late
      · exact .inl ⟨rfl, off⟩
      · rw [place] at late
        cases late
  | relocking =>
      refine .inr ?_
      cases state.mutex with
      | none => rfl
      | some party => exact congrArg LoopThreadPlace.late place
  | clearing | releasing | destructing => exact .inr rfl
  | finished => exact .inr (congrArg LoopThreadPlace.late place)
  | notStarted | constructing | locking | publishing | signalling | unlocking | entering =>
      unfold Ending at ending
      rw [place] at ending
      rcases ending with ⟨looping, -⟩ | late
      · cases looping
      · cases late

@[simp] theorem wake_mutex (state : EventLoopThread) : state.wake.mutex = state.mutex := by
  unfold wake
  split <;> rfl

@[simp] theorem wake_loopSet (state : EventLoopThread) : state.wake.loopSet = state.loopSet := by
  unfold wake
  split <;> rfl

@[simp] theorem wake_loop (state : EventLoopThread) : state.wake.loop = state.loop := by
  unfold wake
  split <;> rfl

@[simp] theorem wake_thread (state : EventLoopThread) : state.wake.thread = state.thread := by
  unfold wake
  split <;> rfl

theorem wake_of_awake (awake : state.owner ≠ .waiting) : state.wake = state := by
  unfold wake
  split
  · next waiting => exact absurd waiting awake
  · rfl

/-- The thread does not touch the owner, except that it wakes it. -/
theorem threadStep_owner (awake : state.owner ≠ .waiting) :
    state.threadStep.owner = state.owner := by
  unfold EventLoopThread.threadStep
  cases place : state.thread with
  | locking | relocking => cases state.mutex <;> rfl
  | signalling => rw [wake_of_awake awake]
  | notStarted | constructing | publishing | unlocking | entering | testing | round | clearing |
    releasing | destructing | finished => rfl

theorem At.threadStep (place : state.At state.owner) :
    state.threadStep.At state.threadStep.owner := by
  by_cases waiting : state.owner = .waiting
  · rw [waiting] at place
    have early : state.thread.early = true := place
    unfold EventLoopThread.threadStep wake
    cases at_ : state.thread with
    | signalling =>
        rw [waiting]
        exact .inr (.inl rfl)
    | constructing | publishing =>
        rw [waiting]
        exact rfl
    | locking =>
        cases state.mutex with
        | none =>
            rw [waiting]
            exact rfl
        | some party =>
            rw [waiting]
            exact early
    | notStarted | unlocking | entering | testing | round | relocking | clearing | releasing |
      destructing | finished =>
        rw [at_] at early
        cases early
  · rw [threadStep_owner waiting]
    cases owner : state.owner with
    | waiting => exact absurd owner waiting
    | fresh | starting =>
        rw [owner] at place
        rw [threadStep_fixed (.inl place)]
        exact place
    | locking | relocking | checking =>
        rw [owner] at place
        exact Upcoming.threadStep place
    | reading | stopping =>
        rw [owner] at place
        exact Open.threadStep place
    | unlocking loop | running loop =>
        rw [owner] at place
        exact ⟨place.1, place.2.threadStep⟩
    | testing =>
        rw [owner] at place
        rcases place with fresh | opened
        · rw [threadStep_fixed (.inl fresh)]
          exact .inl fresh
        · exact .inr opened.threadStep
    | joining =>
        rw [owner] at place
        rcases place with opened | ending
        · exact .inl opened.threadStep
        · exact .inr ending.threadStep
    | destroyed =>
        rw [owner] at place
        rw [threadStep_fixed place]
        exact place
    | faulted =>
        rw [owner] at place
        exact place
    | aborted => trivial

/-- Everything about the mutex, `loop_` and the loop that the thread is answerable for. -/
structure ThreadSound (state : EventLoopThread) : Prop where
  heldThread : state.mutex = some .thread ↔ state.thread.holds = true
  set : state.loopSet = state.thread.published
  alive : state.loop.isSome = state.thread.constructed

theorem ThreadSound.threadStep (sound : state.ThreadSound) : state.threadStep.ThreadSound := by
  obtain ⟨held, set, alive⟩ := sound
  unfold EventLoopThread.threadStep
  cases place : state.thread with
  | notStarted | finished => exact ⟨held, set, alive⟩
  | constructing | destructing =>
      rw [place] at held set
      exact ⟨held, set, rfl⟩
  | publishing | clearing =>
      rw [place] at held alive
      exact ⟨held, rfl, alive⟩
  | locking | relocking =>
      rw [place] at set alive
      cases mutex : state.mutex with
      | none => exact ⟨⟨fun _ => rfl, fun _ => rfl⟩, set, alive⟩
      | some party =>
          rw [← place] at set alive
          exact ⟨held, set, alive⟩
  | signalling =>
      rw [place] at held set alive
      dsimp only
      refine ⟨?_, ?_, ?_⟩
      · rw [wake_mutex]
        exact held
      · rw [wake_loopSet]
        exact set
      · rw [wake_loop]
        exact alive
  | unlocking | releasing =>
      rw [place] at set alive
      exact ⟨⟨nofun, nofun⟩, set, alive⟩
  | entering =>
      rw [place] at held set
      exact ⟨held, set, rfl⟩
  | testing =>
      rw [place] at held set alive
      dsimp only
      split <;> exact ⟨held, set, alive⟩
  | round =>
      rw [place] at held set alive
      exact ⟨held, set, alive⟩

/-- The thread takes the mutex when it is free, and gives back only its own. -/
theorem threadStep_mutex (held : state.mutex = some .thread ↔ state.thread.holds = true) :
    state.threadStep.mutex = some .owner ↔ state.mutex = some .owner := by
  unfold EventLoopThread.threadStep
  cases place : state.thread with
  | locking | relocking =>
      cases mutex : state.mutex with
      | none => exact ⟨nofun, nofun⟩
      | some party => rw [mutex]
  | signalling =>
      dsimp only
      rw [wake_mutex]
  | unlocking | releasing =>
      rw [place] at held
      rw [held.mpr rfl]
      exact ⟨nofun, nofun⟩
  | notStarted | constructing | publishing | entering | testing | round | clearing | destructing |
    finished => exact Iff.rfl

theorem wake_holds (state : EventLoopThread) : state.wake.owner.holds = state.owner.holds := by
  unfold wake
  split
  · next waiting => rw [waiting]; rfl
  · rfl

theorem threadStep_holds (state : EventLoopThread) :
    state.threadStep.owner.holds = state.owner.holds := by
  by_cases waiting : state.owner = .waiting
  · unfold EventLoopThread.threadStep
    cases state.thread with
    | locking | relocking => cases state.mutex <;> rfl
    | signalling => exact wake_holds state
    | notStarted | constructing | publishing | unlocking | entering | testing | round | clearing |
      releasing | destructing | finished => rfl
  · rw [threadStep_owner waiting]

theorem Sound.threadStep (sound : state.Sound) : state.threadStep.Sound := by
  have kept := ThreadSound.threadStep ⟨sound.heldThread, sound.set, sound.alive⟩
  refine ⟨kept.heldThread, ?_, kept.set, kept.alive, sound.place.threadStep⟩
  rw [threadStep_mutex sound.heldThread, threadStep_holds]
  exact sound.heldOwner

/-! ## A step of the owner -/

theorem Open.place (opened : state.Open) :
    state.thread.published = true ∧ state.thread.constructed = true := by
  rcases opened with entering | ⟨looping, -⟩
  · rw [entering]
    exact ⟨rfl, rfl⟩
  · cases place : state.thread with
    | testing | round => exact ⟨rfl, rfl⟩
    | notStarted | constructing | locking | publishing | signalling | unlocking | entering |
      relocking | clearing | releasing | destructing | finished =>
        rw [place] at looping
        cases looping

/-- While the owner has the mutex, either the thread has signalled or `loop_` is null. -/
theorem Upcoming.checked (upcoming : state.Upcoming) (free : state.thread.holds = false) :
    if state.thread.published = true then state.Open else state.thread.early = true := by
  rcases upcoming with early | unlocking | opened
  · cases place : state.thread with
    | constructing | locking => rfl
    | publishing | signalling =>
        rw [place] at free
        cases free
    | notStarted | unlocking | entering | testing | round | relocking | clearing | releasing |
      destructing | finished =>
        rw [place] at early
        cases early
  · rw [unlocking] at free
    cases free
  · rw [if_pos opened.place.1]
    exact opened

theorem Sound.free (sound : state.Sound) (not : state.mutex ≠ some .thread) :
    state.thread.holds = false := by
  cases holds : state.thread.holds with
  | false => rfl
  | true => exact absurd (sound.heldThread.mpr holds) not

/-- The owner goes on with the mutex as it is. -/
theorem Sound.setOwner (sound : state.Sound) {owner : LoopOwnerPlace}
    (holds : owner.holds = state.owner.holds) (place : state.At owner) :
    { state with owner := owner }.Sound := by
  refine ⟨sound.heldThread, ?_, sound.set, sound.alive, place⟩
  rw [holds]
  exact sound.heldOwner

/-- The owner takes the mutex. -/
theorem Sound.lock (sound : state.Sound) (free : state.mutex = none) (upcoming : state.Upcoming) :
    { state with mutex := some .owner, owner := .checking }.Sound := by
  have not := sound.free (by rw [free]; exact nofun)
  refine ⟨⟨nofun, fun holds => ?_⟩, ⟨fun _ => rfl, fun _ => rfl⟩, sound.set, sound.alive, upcoming⟩
  rw [not] at holds
  cases holds

/-- The owner gives the mutex back. -/
theorem Sound.unlock (sound : state.Sound) (mine : state.mutex = some .owner)
    {owner : LoopOwnerPlace} (holds : owner.holds = false) (place : state.At owner) :
    { state with mutex := none, owner := owner }.Sound := by
  have not := sound.free (by rw [mine]; exact nofun)
  refine ⟨⟨nofun, fun held => ?_⟩, ⟨nofun, fun held => ?_⟩, sound.set, sound.alive, place⟩
  · rw [not] at held
    cases held
  · rw [holds] at held
    cases held

/-- `Stop` finds the loop. -/
theorem Sound.stop (sound : state.Sound) (opened : state.Open) (owner : state.owner = .stopping) :
    { state with loop := some false, owner := .joining }.Sound := by
  have heldOwner := sound.heldOwner
  rw [owner] at heldOwner
  refine ⟨sound.heldThread, heldOwner, sound.set, opened.place.2.symm, ?_⟩
  rcases opened with entering | ⟨looping, -⟩
  · exact .inl (.inl entering)
  · exact .inr (.inl ⟨looping, rfl⟩)

theorem Sound.ownerStep (sound : state.Sound) : state.ownerStep.Sound := by
  have place := sound.place
  have set := sound.set
  unfold EventLoopThread.ownerStep
  cases owner : state.owner with
  | fresh | running loop | waiting | destroyed | aborted => exact sound
  | faulted =>
      rw [owner] at place
      exact place.elim
  | starting =>
      rw [owner] at place
      have fresh : state.thread = .notStarted := place
      obtain ⟨heldThread, heldOwner, -, alive, -⟩ := sound
      rw [fresh] at heldThread set alive
      rw [owner] at heldOwner
      exact ⟨heldThread, heldOwner, set, alive, .inl rfl⟩
  | locking | relocking =>
      rw [owner] at place
      cases free : state.mutex with
      | none => exact sound.lock free place
      | some party => exact sound
  | checking =>
      rw [owner] at place
      have mine : state.mutex = some .owner := by
        rw [sound.heldOwner, owner]
        rfl
      have checked := Upcoming.checked place (sound.free (by rw [mine]; exact nofun))
      rw [← set] at checked
      dsimp only
      split_ifs with published
      · rw [if_pos published] at checked
        exact sound.setOwner (by rw [owner]; rfl) checked
      · rw [if_neg published] at checked
        exact sound.unlock mine rfl checked
  | reading =>
      rw [owner] at place
      have opened : state.Open := place
      rw [opened.place.1] at set
      exact sound.setOwner (by rw [owner]; rfl) ⟨set, opened⟩
  | unlocking loop =>
      rw [owner] at place
      have mine : state.mutex = some .owner := by
        rw [sound.heldOwner, owner]
        rfl
      exact sound.unlock mine rfl place
  | testing =>
      rw [owner] at place
      dsimp only
      split_ifs with published
      · refine sound.setOwner (by rw [owner]; rfl) ?_
        rcases place with fresh | opened
        · rw [fresh, published] at set
          cases set
        · exact opened
      · refine sound.setOwner (by rw [owner]; rfl) ?_
        rcases place with fresh | opened
        · exact .inl fresh
        · exact absurd (set.trans opened.place.1) published
  | stopping =>
      rw [owner] at place
      have opened : state.Open := place
      have alive := sound.alive.trans opened.place.2
      dsimp only
      rw [if_pos ⟨set.trans opened.place.1, alive⟩]
      exact sound.stop opened owner
  | joining =>
      dsimp only
      split
      · next finished => exact sound.setOwner (by rw [owner]; rfl) (.inr finished)
      · exact sound

theorem Sound.wake (sound : state.Sound) : state.wake.Sound := by
  unfold EventLoopThread.wake
  split
  · next waiting =>
      have place := sound.place
      rw [waiting] at place
      exact sound.setOwner (by rw [waiting]; rfl) (.inl place)
  · exact sound

theorem Sound.callStart (sound : state.Sound) : state.callStart.Sound := by
  unfold EventLoopThread.callStart
  split
  · next fresh =>
      have place := sound.place
      rw [fresh] at place
      exact sound.setOwner (by rw [fresh]; rfl) place
  · next loop running => exact sound.setOwner (by rw [running]; rfl) trivial
  · exact sound

theorem Sound.callDestructor (sound : state.Sound) : state.callDestructor.Sound := by
  unfold EventLoopThread.callDestructor
  split
  · next fresh =>
      have place := sound.place
      rw [fresh] at place
      exact sound.setOwner (by rw [fresh]; rfl) (.inl place)
  · next loop running =>
      have place := sound.place
      rw [running] at place
      exact sound.setOwner (by rw [running]; rfl) (.inr place.2)
  · exact sound

theorem Sound.step (sound : state.Sound) (step : LoopStep) : (machine.step state step).Sound := by
  unfold machine
  dsimp only
  split_ifs
  · exact sound
  · cases step with
    | thread => exact sound.threadStep
    | owner => exact sound.ownerStep
    | wake => exact sound.wake
    | callStart => exact sound.callStart
    | callDestructor => exact sound.callDestructor

theorem sound_run (steps : List LoopStep) : (machine.run new steps).Sound :=
  Machine.Leads.keeps (fun _ step sound => sound.step step) ⟨steps, rfl⟩ sound_new

end EventLoopThread

end LiveBroadcast
