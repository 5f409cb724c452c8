import Mathlib.Logic.Function.Basic
import LiveBroadcast.Foundation.TaskQueue

/-!
# An event loop and those who call it

`RunInLoop` may be called by any thread, also by the thread of the loop, from a handler or from a
function that the loop is just calling. It takes the mutex, writes the function behind the others,
and gives the mutex back. `HandlePendingFunc` takes the mutex to swap the functions out, and gives
it back before it calls them.

Here everybody takes one such step at a time, in any order; `looping_`, which no mutex guards, is
read and written in that order too. The mutex is not recursive: one who
holds it and locked it again would wait for ever. But the loop never holds it while it calls a
handler or a function, so these may call `RunInLoop` (`Sound.not_waits`).

What the steps do to the functions are the moves of a `TaskQueue`, which swaps only when all
functions in hand have been called (`Sound.run_tasks`). So no function is lost, called twice or
called out of order, however the callers get in each other's way, and behind `Stop` exactly those
handed over before the last swap are called (`functions_run_in_order`).
-/

set_option autoImplicit false

namespace LiveBroadcast

universe u v

/-- The threads that call an event loop: its own, and others. -/
inductive LoopUser (ι : Type v) where
  | loopThread
  | other (thread : ι)
  deriving DecidableEq, Repr

/-- Where a thread is in `RunInLoop`. -/
inductive RunInLoopPlace (τ : Type u) where
  | outside
  | locking (function : τ)
  /-- `push_back`, with the mutex. -/
  | pushing (function : τ)
  | unlocking
  deriving DecidableEq, Repr

/-- Where the thread of the loop is in `Loop`. -/
inductive EventLoopPlace where
  | outside
  /-- `while (looping_)`. -/
  | testing
  | polling
  /-- In `HandleActiveChannel`, with the channels that are still to be handled. -/
  | handling (activeChannels : Nat)
  | locking
  /-- `pending_func.swap(pending_func_)`, with the mutex. -/
  | swapping
  | unlocking
  /-- The functions are called. -/
  | calling
  deriving DecidableEq, Repr

/-- `class EventLoop` with the threads that call it. In `pendingFunc` the functions that wait are
`pending_func_`, and those in hand are the local `pending_func`. -/
structure SharedEventLoop (τ : Type u) (ι : Type v) where
  looping : Bool
  pendingFuncMutex : Option (LoopUser ι)
  pendingFunc : TaskQueue τ
  place : EventLoopPlace
  runInLoop : LoopUser ι → RunInLoopPlace τ

/-- What can happen at an event loop. -/
inductive EventLoopStep (τ : Type u) (ι : Type v) where
  /-- `Loop` is called. -/
  | callLoop
  /-- `Stop` is called, by any thread. -/
  | stop
  | callRunInLoop (user : LoopUser ι) (function : τ)
  /-- The next step of a thread in `RunInLoop`. -/
  | runInLoop (user : LoopUser ι)
  /-- The next step of the loop's thread in `Loop`; a poll finds that many channels active. -/
  | loop (activeChannels : Nat)

namespace EventLoopPlace

/-- Code that is not of the loop is called here. -/
def callsOut : EventLoopPlace → Bool
  | .outside | .handling _ | .calling => true
  | .testing | .polling | .locking | .swapping | .unlocking => false

/-- The mutex is held. -/
def holds : EventLoopPlace → Bool
  | .swapping | .unlocking => true
  | _ => false

/-- There may be functions in hand. -/
def inHand : EventLoopPlace → Bool
  | .unlocking | .calling => true
  | _ => false

/-- Code that is not of the loop is called without the mutex. -/
theorem not_holds {place : EventLoopPlace} (calls : place.callsOut = true) :
    place.holds = false := by
  cases place <;> simp_all [callsOut, holds]

end EventLoopPlace

/-- The mutex is held. -/
def RunInLoopPlace.holds {τ : Type u} : RunInLoopPlace τ → Bool
  | .pushing _ | .unlocking => true
  | .outside | .locking _ => false

namespace SharedEventLoop

variable {τ : Type u} {ι : Type v}

/-- The constructor. -/
def new : SharedEventLoop τ ι := ⟨false, none, .empty, .outside, fun _ => .outside⟩

/-- The thread is in code that may call `RunInLoop`. -/
def mayCall (state : SharedEventLoop τ ι) (user : LoopUser ι) : Bool :=
  match user with
  | .loopThread => state.place.callsOut
  | .other _ => true

/-- A step in `Loop`. -/
def loopStep (state : SharedEventLoop τ ι) (activeChannels : Nat) : SharedEventLoop τ ι :=
  match state.place with
  | .outside => state
  | .testing => { state with place := if state.looping then .polling else .outside }
  | .polling => { state with place := .handling activeChannels }
  | .handling 0 => { state with place := .locking }
  | .handling (left + 1) => { state with place := .handling left }
  | .locking =>
      match state.pendingFuncMutex with
      | none => { state with pendingFuncMutex := some .loopThread, place := .swapping }
      | some _ => state
  | .swapping => { state with pendingFunc := state.pendingFunc.swap, place := .unlocking }
  | .unlocking => { state with pendingFuncMutex := none, place := .calling }
  | .calling =>
      match state.pendingFunc.next with
      | none => { state with place := .testing }
      | some (_, later) => { state with pendingFunc := later }

section

variable [DecidableEq ι]

def setRunInLoop (state : SharedEventLoop τ ι) (user : LoopUser ι) (place : RunInLoopPlace τ) :
    SharedEventLoop τ ι :=
  { state with runInLoop := Function.update state.runInLoop user place }

/-- A step in `RunInLoop`. -/
def runInLoopStep (state : SharedEventLoop τ ι) (user : LoopUser ι) : SharedEventLoop τ ι :=
  match state.runInLoop user with
  | .outside => state
  | .locking function =>
      match state.pendingFuncMutex with
      | none => { state.setRunInLoop user (.pushing function) with pendingFuncMutex := some user }
      | some _ => state
  | .pushing function =>
      { state.setRunInLoop user .unlocking with pendingFunc := state.pendingFunc.push function }
  | .unlocking => { state.setRunInLoop user .outside with pendingFuncMutex := none }

/-- The thread of the loop goes on in `Loop` when it is not in a `RunInLoop` that was called from
there. -/
def step (state : SharedEventLoop τ ι) : EventLoopStep τ ι → SharedEventLoop τ ι
  | .callLoop =>
      match state.place, state.runInLoop .loopThread with
      | .outside, .outside => { state with looping := true, place := .testing }
      | _, _ => state
  | .stop => { state with looping := false }
  | .callRunInLoop user function =>
      match state.runInLoop user with
      | .outside =>
          if state.mayCall user then state.setRunInLoop user (.locking function) else state
      | _ => state
  | .runInLoop user => state.runInLoopStep user
  | .loop activeChannels =>
      match state.runInLoop .loopThread with
      | .outside => state.loopStep activeChannels
      | _ => state

def machine : Machine (SharedEventLoop τ ι) (EventLoopStep τ ι) := ⟨step⟩

end

/-! ## What holds in every state -/

/-- The thread is at a place where it holds the mutex. -/
def Holds (state : SharedEventLoop τ ι) (user : LoopUser ι) : Prop :=
  (state.runInLoop user).holds = true ∨ user = .loopThread ∧ state.place.holds = true

/-- The thread waits for the mutex. -/
def Waits (state : SharedEventLoop τ ι) (user : LoopUser ι) : Prop :=
  (∃ function, state.runInLoop user = .locking function) ∨
    user = .loopThread ∧ state.runInLoop user = .outside ∧ state.place = .locking

/-- The mutex belongs to the one who took it, the loop calls `RunInLoop` from code that is not its
own, and has functions in hand only to call them. -/
structure Sound (state : SharedEventLoop τ ι) : Prop where
  held : ∀ user, state.pendingFuncMutex = some user ↔ state.Holds user
  calls : state.runInLoop .loopThread ≠ .outside → state.place.callsOut = true
  inHand : state.place.inHand = false → state.pendingFunc.inHand = []

variable {state : SharedEventLoop τ ι}

theorem sound_new : (new : SharedEventLoop τ ι).Sound where
  held user := ⟨nofun, fun holds => by simp [Holds, new, RunInLoopPlace.holds,
    EventLoopPlace.holds] at holds⟩
  calls other := absurd rfl other
  inHand _ := rfl

/-- Nobody waits for himself. -/
theorem Sound.not_waits (sound : state.Sound) {user : LoopUser ι}
    (held : state.pendingFuncMutex = some user) : ¬ state.Waits user := by
  intro waits
  rcases (sound.held user).mp held with inside | ⟨rfl, holds⟩
  · rcases waits with ⟨function, locking⟩ | ⟨-, outside, -⟩
    · rw [locking] at inside
      cases inside
    · rw [outside] at inside
      cases inside
  · rcases waits with ⟨function, locking⟩ | ⟨-, -, locking⟩
    · have calls := sound.calls (by rw [locking]; simp)
      rw [EventLoopPlace.not_holds calls] at holds
      cases holds
    · rw [locking] at holds
      cases holds

theorem Sound.alone (sound : state.Sound) {user other : LoopUser ι} (holds : state.Holds user)
    (holds' : state.Holds other) : other = user :=
  Option.some.inj (((sound.held other).mpr holds').symm.trans ((sound.held user).mpr holds))

theorem Sound.nobody (sound : state.Sound) (free : state.pendingFuncMutex = none)
    (user : LoopUser ι) : ¬ state.Holds user := fun holds => by
  have held := (sound.held user).mpr holds
  rw [free] at held
  cases held

/-- A thread in code that is not of the loop has the mutex where `RunInLoop` holds it. -/
theorem holds_iff {user : LoopUser ι}
    (calls : user = .loopThread → state.place.callsOut = true) :
    state.Holds user ↔ (state.runInLoop user).holds = true := by
  refine or_iff_left ?_
  rintro ⟨own, holds⟩
  rw [EventLoopPlace.not_holds (calls own)] at holds
  cases holds

/-- A thread that is in `RunInLoop` was called from code that is not of the loop. -/
theorem Sound.callsOut (sound : state.Sound) {user : LoopUser ι}
    (inside : state.runInLoop user ≠ .outside) (mine : user = .loopThread) :
    state.place.callsOut = true :=
  sound.calls (mine ▸ inside)

/-! ## A step in `RunInLoop` -/

section

variable [DecidableEq ι] {user : LoopUser ι} {place : RunInLoopPlace τ}

theorem setRunInLoop_self : (state.setRunInLoop user place).runInLoop user = place :=
  Function.update_self _ _ _

theorem setRunInLoop_of_ne {other : LoopUser ι} (differs : other ≠ user) :
    (state.setRunInLoop user place).runInLoop other = state.runInLoop other :=
  Function.update_of_ne differs _ _

/-- A thread goes on in `RunInLoop`, and takes the mutex or gives it back. -/
theorem Sound.setMutex (sound : state.Sound)
    (calls : user = .loopThread → state.place.callsOut = true) {mutex : Option (LoopUser ι)}
    (mine : mutex = some user ↔ place.holds = true)
    (others : ∀ other, other ≠ user → (mutex = some other ↔ state.Holds other)) :
    Sound { state.setRunInLoop user place with pendingFuncMutex := mutex } where
  held other := by
    by_cases same : other = user
    · have own := @holds_iff _ _ { state.setRunInLoop user place with pendingFuncMutex := mutex }
        user calls
      rw [same, mine, own, setRunInLoop_self]
    · refine (others other same).trans ?_
      unfold Holds
      rw [setRunInLoop_of_ne same]
      exact Iff.rfl
  calls busy := by
    by_cases same : user = .loopThread
    · exact calls same
    · refine sound.calls fun outside => busy ?_
      exact (setRunInLoop_of_ne fun other => same other.symm).trans outside
  inHand := sound.inHand

/-- A thread goes on in `RunInLoop`. -/
theorem Sound.setRunInLoop (sound : state.Sound)
    (calls : user = .loopThread → state.place.callsOut = true)
    (holds : place.holds = (state.runInLoop user).holds) :
    (state.setRunInLoop user place).Sound := by
  refine sound.setMutex calls ?_ fun other _ => sound.held other
  rw [holds]
  exact (sound.held user).trans (holds_iff calls)

theorem Sound.runInLoopStep (sound : state.Sound) (user : LoopUser ι) :
    (state.runInLoopStep user).Sound := by
  unfold SharedEventLoop.runInLoopStep
  split
  · exact sound
  · next function waits =>
    split
    · next free =>
      refine sound.setMutex (sound.callsOut (by rw [waits]; simp)) (iff_of_true rfl rfl) ?_
      intro other differs
      exact iff_of_false (fun same => differs (Option.some.inj same).symm)
        (sound.nobody free other)
    · exact sound
  · next function writes =>
    have kept : (state.setRunInLoop user .unlocking).Sound :=
      sound.setRunInLoop (sound.callsOut (by rw [writes]; simp)) (by rw [writes]; rfl)
    exact ⟨kept.held, kept.calls, kept.inHand⟩
  · next leaves =>
    refine sound.setMutex (sound.callsOut (by rw [leaves]; simp)) (iff_of_false nofun nofun) ?_
    intro other differs
    refine iff_of_false nofun fun holds => differs ?_
    exact sound.alone (.inl (by rw [leaves]; rfl)) holds

end

/-! ## A step in `Loop` -/

/-- Between calls of `RunInLoop`, the loop's thread has the mutex where `Loop` holds it. -/
theorem Sound.held_loop (sound : state.Sound) (idle : state.runInLoop .loopThread = .outside) :
    state.pendingFuncMutex = some .loopThread ↔ state.place.holds = true := by
  rw [sound.held]
  unfold Holds
  rw [idle]
  simp [RunInLoopPlace.holds]

/-- The loop goes on, and takes the mutex or gives it back. -/
theorem Sound.setLoop (sound : state.Sound) (idle : state.runInLoop .loopThread = .outside)
    {mutex : Option (LoopUser ι)} {place : EventLoopPlace}
    (mine : mutex = some .loopThread ↔ place.holds = true)
    (others : ∀ thread, mutex = some (.other thread) ↔
      state.pendingFuncMutex = some (.other thread))
    (inHand : place.inHand = false → state.pendingFunc.inHand = []) :
    Sound { state with pendingFuncMutex := mutex, place := place } where
  held user := by
    unfold Holds
    cases user with
    | loopThread =>
        dsimp only
        rw [idle, mine]
        simp [RunInLoopPlace.holds]
    | other thread =>
        dsimp only
        rw [others thread, sound.held]
        unfold Holds
        simp
  calls busy := absurd idle busy
  inHand := inHand

/-- The loop goes on. -/
theorem Sound.setPlace (sound : state.Sound) (idle : state.runInLoop .loopThread = .outside)
    {place : EventLoopPlace} (holds : place.holds = state.place.holds)
    (inHand : place.inHand = false → state.pendingFunc.inHand = []) :
    Sound { state with place := place } :=
  sound.setLoop idle (holds ▸ sound.held_loop idle) (fun _ => Iff.rfl) inHand

/-- The loop goes on, from a place where it has nothing in hand. -/
theorem Sound.goesOn (sound : state.Sound) (idle : state.runInLoop .loopThread = .outside)
    {before place : EventLoopPlace} (here : state.place = before)
    (holds : place.holds = before.holds) (nothing : before.inHand = false) :
    Sound { state with place := place } :=
  sound.setPlace idle (by rw [here, holds]) fun _ => sound.inHand (by rw [here, nothing])

theorem Sound.loopStep (sound : state.Sound) (idle : state.runInLoop .loopThread = .outside)
    (activeChannels : Nat) : (state.loopStep activeChannels).Sound := by
  unfold SharedEventLoop.loopStep
  split
  · exact sound
  · next place => exact sound.goesOn idle place (by split <;> rfl) rfl
  · next place => exact sound.goesOn idle place rfl rfl
  · next place => exact sound.goesOn idle place rfl rfl
  · next left place => exact sound.goesOn idle place rfl rfl
  · next place =>
    split
    · next free =>
      refine sound.setLoop idle (iff_of_true rfl rfl) (fun thread => ?_) fun _ =>
        sound.inHand (by rw [place]; rfl)
      rw [free]
      exact iff_of_false nofun nofun
    · exact sound
  · next place =>
    have later : Sound { state with place := .unlocking } :=
      sound.setPlace idle (by rw [place]; rfl) nofun
    exact ⟨later.held, later.calls, nofun⟩
  · next place =>
    refine sound.setLoop idle (iff_of_false nofun nofun) (fun thread => ?_) nofun
    rw [(sound.held_loop idle).mpr (by rw [place]; rfl)]
    exact iff_of_false nofun nofun
  · next place =>
    split
    · next nothing =>
      exact sound.setPlace idle (by rw [place]; rfl) fun _ => TaskQueue.inHand_of_next_none nothing
    · exact ⟨sound.held, sound.calls, fun idle => by rw [place] at idle; cases idle⟩

/-! ## Runs -/

section

variable [DecidableEq ι]

theorem Sound.step (sound : state.Sound) (step : EventLoopStep τ ι) : (state.step step).Sound := by
  cases step with
  | callLoop =>
      simp only [SharedEventLoop.step]
      split
      · next place idle =>
        have later : Sound { state with place := .testing } := sound.goesOn idle place rfl rfl
        exact ⟨later.held, later.calls, later.inHand⟩
      · exact sound
  | stop => exact ⟨sound.held, sound.calls, sound.inHand⟩
  | callRunInLoop user function =>
      simp only [SharedEventLoop.step]
      split
      · next outside =>
        split
        · next may =>
          refine sound.setRunInLoop (fun own => ?_) (by rw [outside]; rfl)
          rw [own] at may
          exact may
        · exact sound
      · exact sound
  | runInLoop user => exact sound.runInLoopStep user
  | loop activeChannels =>
      simp only [SharedEventLoop.step]
      split
      · next idle => exact sound.loopStep idle activeChannels
      · exact sound

theorem sound_run (steps : List (EventLoopStep τ ι)) : (machine.run new steps).Sound := by
  induction steps using List.reverseRecOn with
  | nil => exact sound_new
  | append_singleton steps step ih =>
      rw [Machine.run_append]
      exact ih.step step

end

/-! ## The functions -/

/-- What the loop does to the functions at a place. -/
def placeMoves : EventLoopPlace → List (TaskMove τ)
  | .swapping => [.swap]
  | .calling => [.next]
  | _ => []

/-- What a step does to the functions. -/
def moves (state : SharedEventLoop τ ι) : EventLoopStep τ ι → List (TaskMove τ)
  | .runInLoop user =>
      match state.runInLoop user with
      | .pushing function => [.push function]
      | _ => []
  | .loop _ =>
      match state.runInLoop .loopThread with
      | .outside => placeMoves state.place
      | _ => []
  | .callLoop | .stop | .callRunInLoop _ _ => []

theorem loopStep_pendingFunc (activeChannels : Nat) :
    (state.loopStep activeChannels).pendingFunc =
      TaskQueue.moving.run state.pendingFunc (placeMoves state.place) := by
  unfold SharedEventLoop.loopStep
  cases place : state.place with
  | outside => rfl
  | testing => rfl
  | polling => rfl
  | handling left => cases left <;> rfl
  | locking => cases state.pendingFuncMutex <;> rfl
  | swapping => rfl
  | unlocking => rfl
  | calling =>
      change _ = state.pendingFunc.move .next
      rw [TaskQueue.move]
      cases state.pendingFunc.next <;> rfl

/-- The loop swaps when it has called all functions in hand. -/
theorem Sound.takesFree (sound : state.Sound) (step : EventLoopStep τ ι) :
    TaskQueue.moving.Guarded TaskQueue.TakesFree state.pendingFunc (state.moves step) := by
  cases step with
  | callLoop => trivial
  | stop => trivial
  | callRunInLoop user function => trivial
  | runInLoop user =>
      simp only [moves]
      cases state.runInLoop user <;> simp [Machine.Guarded, TaskQueue.TakesFree]
  | loop activeChannels =>
      have inHand := sound.inHand
      simp only [moves]
      cases state.runInLoop .loopThread with
      | outside =>
          cases place : state.place with
          | swapping =>
              rw [place] at inHand
              exact ⟨inHand rfl, trivial⟩
          | calling => exact ⟨trivial, trivial⟩
          | _ => trivial
      | _ => trivial

/-- The swaps that the loop still comes to when it is stopped. -/
def swapsLeft : EventLoopPlace → Nat
  | .polling | .handling _ | .locking | .swapping => 1
  | .outside | .testing | .unlocking | .calling => 0

theorem stopped_loopStep (stopped : state.looping = false) (activeChannels : Nat) :
    (state.loopStep activeChannels).looping = false ∧
      (placeMoves state.place : List (TaskMove τ)).countP TaskMove.isSwap +
          swapsLeft (state.loopStep activeChannels).place ≤ swapsLeft state.place := by
  unfold SharedEventLoop.loopStep
  cases place : state.place with
  | testing => simp [stopped, placeMoves, swapsLeft]
  | handling left => cases left <;> exact ⟨stopped, Nat.le_refl _⟩
  | locking =>
      cases state.pendingFuncMutex with
      | none => exact ⟨stopped, Nat.le_refl _⟩
      | some user => exact ⟨stopped, by rw [place]; exact Nat.le_refl _⟩
  | calling =>
      cases state.pendingFunc.next with
      | none => exact ⟨stopped, Nat.le_refl _⟩
      | some made => exact ⟨stopped, Nat.le_refl _⟩
  | outside => exact ⟨stopped, by rw [place]; exact Nat.le_refl _⟩
  | polling => exact ⟨stopped, Nat.le_refl _⟩
  | swapping => exact ⟨stopped, Nat.le_refl _⟩
  | unlocking => exact ⟨stopped, Nat.le_refl _⟩

section

variable [DecidableEq ι]

theorem runInLoopStep_pendingFunc (user : LoopUser ι) :
    (state.runInLoopStep user).pendingFunc =
      TaskQueue.moving.run state.pendingFunc (state.moves (.runInLoop user)) := by
  simp only [moves, runInLoopStep]
  cases state.runInLoop user with
  | outside => rfl
  | pushing function => rfl
  | unlocking => rfl
  | locking function => cases state.pendingFuncMutex <;> rfl

/-- **A step makes its moves.** -/
theorem step_pendingFunc (step : EventLoopStep τ ι) :
    (state.step step).pendingFunc = TaskQueue.moving.run state.pendingFunc (state.moves step) := by
  cases step with
  | callLoop =>
      simp only [SharedEventLoop.step]
      split <;> rfl
  | stop => rfl
  | callRunInLoop user function =>
      simp only [SharedEventLoop.step]
      split
      · split <;> rfl
      · rfl
  | runInLoop user => exact runInLoopStep_pendingFunc user
  | loop activeChannels =>
      simp only [SharedEventLoop.step, moves]
      cases state.runInLoop .loopThread with
      | outside => exact loopStep_pendingFunc activeChannels
      | _ => rfl

/-- **A run makes the moves of its steps**, and swaps only with nothing in hand. -/
theorem Sound.run_tasks (sound : state.Sound) (steps : List (EventLoopStep τ ι)) :
    (machine.run state steps).pendingFunc =
        TaskQueue.moving.run state.pendingFunc (machine.emitted moves state steps) ∧
      TaskQueue.moving.Guarded TaskQueue.TakesFree state.pendingFunc
        (machine.emitted moves state steps) := by
  induction steps generalizing state with
  | nil => exact ⟨rfl, trivial⟩
  | cons step steps ih =>
      obtain ⟨made, free⟩ := ih (sound.step step)
      rw [step_pendingFunc] at made free
      rw [Machine.emitted, Machine.run_append, Machine.guarded_append]
      exact ⟨made, sound.takesFree step, free⟩

/-- The functions that are handed over, in the order in which `pending_func_` gets them. -/
def handedOver (state : SharedEventLoop τ ι) (steps : List (EventLoopStep τ ι)) : List τ :=
  (machine.emitted moves state steps).flatMap TaskMove.pushed

/-- How often the functions are swapped out. -/
def swaps (state : SharedEventLoop τ ι) (steps : List (EventLoopStep τ ι)) : Nat :=
  (machine.emitted moves state steps).countP TaskMove.isSwap

/-- The steps so far, from the constructor on. -/
theorem all_run (steps : List (EventLoopStep τ ι)) :
    (machine.run new steps).pendingFunc.all = handedOver new steps := by
  rw [(sound_new.run_tasks steps).1, TaskQueue.run_all]
  rfl

theorem runInLoopStep_place (user : LoopUser ι) :
    (state.runInLoopStep user).looping = state.looping ∧
      (state.runInLoopStep user).place = state.place ∧
        (state.moves (.runInLoop user)).countP TaskMove.isSwap = 0 := by
  simp only [moves, runInLoopStep]
  cases state.runInLoop user with
  | outside => exact ⟨rfl, rfl, rfl⟩
  | pushing function => exact ⟨rfl, rfl, rfl⟩
  | unlocking => exact ⟨rfl, rfl, rfl⟩
  | locking function => cases state.pendingFuncMutex <;> exact ⟨rfl, rfl, rfl⟩

theorem stopped_step (stopped : state.looping = false) {step : EventLoopStep τ ι}
    (other : step ≠ .callLoop) :
    (state.step step).looping = false ∧
      (state.moves step).countP TaskMove.isSwap + swapsLeft (state.step step).place ≤
        swapsLeft state.place := by
  cases step with
  | callLoop => exact absurd rfl other
  | stop => exact ⟨rfl, Nat.le_of_eq (Nat.zero_add _)⟩
  | callRunInLoop user function =>
      simp only [SharedEventLoop.step]
      split
      · split <;> exact ⟨stopped, Nat.le_of_eq (Nat.zero_add _)⟩
      · exact ⟨stopped, Nat.le_of_eq (Nat.zero_add _)⟩
  | runInLoop user =>
      obtain ⟨looping, place, nothing⟩ := @runInLoopStep_place _ _ state _ user
      refine ⟨looping.trans stopped, Nat.le_of_eq ?_⟩
      rw [nothing, SharedEventLoop.step, place, Nat.zero_add]
  | loop activeChannels =>
      simp only [SharedEventLoop.step, moves]
      cases state.runInLoop .loopThread with
      | outside => exact stopped_loopStep stopped activeChannels
      | _ => exact ⟨stopped, Nat.le_of_eq (Nat.zero_add _)⟩

/-- **Behind `Stop` the loop swaps at most once more.** -/
theorem stopped_swaps (stopped : state.looping = false) {steps : List (EventLoopStep τ ι)}
    (others : .callLoop ∉ steps) :
    swaps state steps + swapsLeft (machine.run state steps).place ≤ swapsLeft state.place := by
  induction steps generalizing state with
  | nil => exact Nat.le_of_eq (Nat.zero_add _)
  | cons step steps ih =>
      obtain ⟨still, here⟩ := stopped_step stopped fun same => others (same ▸ List.mem_cons_self)
      have later := ih still fun inside => others (List.mem_cons_of_mem _ inside)
      have both : swaps state (step :: steps) =
          (state.moves step).countP TaskMove.isSwap + swaps (state.step step) steps :=
        List.countP_append
      rw [both]
      change _ + swapsLeft (machine.run (state.step step) steps).place ≤ _
      omega

/-- **Functions run in order.** In every order of the steps of the loop's thread and of any other
threads, whoever holds the mutex does not wait for it, and what has been called is the beginning
of what was handed over. It is all that was handed over before two swaps; when `Loop` has returned,
it is what was handed over before the last swap, and behind `Stop` there is at most one more. -/
theorem functions_run_in_order (steps : List (EventLoopStep τ ι)) :
    (∀ user, (machine.run new steps).pendingFuncMutex = some user →
        ¬ (machine.run new steps).Waits user) ∧
      (machine.run new steps).pendingFunc.ran <+: handedOver new steps ∧
      (∀ before later, before ++ later = steps → 2 ≤ swaps (machine.run new before) later →
        handedOver new before <+: (machine.run new steps).pendingFunc.ran) ∧
      (∀ before step later, before ++ step :: later = steps →
        (machine.run new before).moves step = [.swap] →
          swaps (machine.run new (before ++ [step])) later = 0 →
            (machine.run new steps).place = .outside →
              (machine.run new steps).pendingFunc.ran = handedOver new before) ∧
      ∀ before later, before ++ .stop :: later = steps → .callLoop ∉ later →
        swaps (machine.run new (before ++ [.stop])) later ≤ 1 := by
  refine ⟨fun user => (sound_run steps).not_waits, ?_, ?_, ?_, ?_⟩
  · rw [← all_run]
    exact List.prefix_append _ _
  · rintro before later rfl two
    rw [← all_run, Machine.run_append]
    obtain ⟨made, free⟩ := (sound_run before).run_tasks later
    rw [made]
    exact TaskQueue.all_prefix_ran free two
  · rintro before step later rfl swap last returned
    have done := (sound_run (before ++ step :: later)).inHand (by rw [returned]; rfl)
    obtain ⟨made, free⟩ := (sound_run before).run_tasks (step :: later)
    rw [Machine.run_append] at done ⊢
    rw [made] at done ⊢
    rw [Machine.emitted, swap] at free done ⊢
    rw [Machine.run_append] at last
    rw [← all_run]
    exact TaskQueue.ran_of_last_swap free.1 last done
  · rintro before later rfl others
    have atMost := @stopped_swaps _ _ (machine.run new (before ++ [.stop])) _ (by
      rw [Machine.run_append]; rfl) later others
    have one (place : EventLoopPlace) : swapsLeft place ≤ 1 := by
      cases place <;> simp [swapsLeft]
    exact Nat.le_trans (Nat.le_of_add_right_le atMost) (one _)

end

/-! ## A function from another thread -/

/-- Another thread hands a function over. The loop goes round twice, is stopped, and returns. -/
def handedFromOutside : List (EventLoopStep Nat Nat) :=
  [.callLoop, .callRunInLoop (.other 0) 7, .loop 0, .runInLoop (.other 0), .loop 0] ++
    [.runInLoop (.other 0), .runInLoop (.other 0)]

/-- As many steps as a round with one function takes. -/
def oneRound : List (EventLoopStep Nat Nat) :=
  List.replicate 8 (.loop 0)

theorem functions_run_in_order_twoRounds :
    [7] <+: (machine.run (new : SharedEventLoop Nat Nat)
      (handedFromOutside ++ (oneRound ++ oneRound))).pendingFunc.ran :=
  (functions_run_in_order (handedFromOutside ++ (oneRound ++ oneRound))).2.2.1 handedFromOutside
    (oneRound ++ oneRound) rfl (by decide)

end SharedEventLoop

end LiveBroadcast
