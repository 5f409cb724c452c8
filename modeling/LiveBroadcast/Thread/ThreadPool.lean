import Mathlib.Logic.Function.Basic
import LiveBroadcast.Foundation.Runs

/-!
# Thread pools

A `ThreadPool` has workers, which take tasks from `task_deque_` and sleep on a condition while
there is none; `Run`, which any thread calls; and an owner, which starts and stops it. Every line
that touches what they share is a step of its own, and the threads take their steps in any order.
`pthread_cond_wait` may wake a worker without reason.

A failed `assert` ends the process (`aborted`): nothing moves behind it.
-/

set_option autoImplicit false

namespace LiveBroadcast

universe u

/-- The threads at a pool. A call of `Run`, in whatever thread it is made, is a caller. -/
inductive PoolThread where
  | worker (i : Nat)
  | owner
  | caller (n : Nat)
  deriving DecidableEq, Repr

/-- Where a worker is: in `ThreadFunction` or, between `locking` and `unlocking`, in
`TakeATask`. -/
inductive WorkerPlace (τ : Type u) where
  | notStarted
  /-- `while (started_)`, which does not take the mutex. -/
  | atLoop
  | locking
  /-- `while (started_ && task_deque_.empty())`, with the mutex. -/
  | checking
  | waiting
  /-- Woken, but `pthread_cond_wait` has not got the mutex again. -/
  | relocking
  | taking
  | unlocking (task : Option τ)
  | running (task : Option τ)
  | finished
  deriving DecidableEq, Repr

/-- Where a call of `Run` is. -/
inductive CallerPlace (τ : Type u) where
  | outside
  /-- `if (task_deque_.empty())`, which does not take the mutex. -/
  | testing (task : τ)
  | running (task : τ)
  | locking (task : τ)
  | pushing (task : τ)
  | signalling
  | unlocking
  deriving DecidableEq, Repr

/-- Where the owner is. -/
inductive OwnerPlace where
  | outside
  /-- In the loop of `Start`. -/
  | starting (i : Nat)
  | locking
  | clearing
  | broadcasting
  | unlocking
  /-- In the loop of `Stop` that joins the threads. -/
  | joining (i : Nat)
  | aborted
  deriving DecidableEq, Repr

/-- `class ThreadPool`, with its threads. Of the `created` threads in `threads_`, all are started
and the first `joined` are joined. The code reads neither `ran`, the tasks that were called and by
whom, nor `handed`, the calls of `Run`. -/
structure ThreadPool (τ : Type u) where
  started : Bool
  threadNum : Int
  created : Nat
  joined : Nat
  mutex : Option PoolThread
  taskDeque : List τ
  workers : Nat → WorkerPlace τ
  callers : Nat → CallerPlace τ
  owner : OwnerPlace
  ran : List (PoolThread × τ)
  handed : List (Nat × τ)

/-- The steps of the threads. -/
inductive PoolStep (τ : Type u) where
  | worker (i : Nat)
  /-- `pthread_cond_wait` returns without reason. -/
  | wake (i : Nat)
  | owner
  /-- A call of `Run` goes on; a signal in it wakes `woken`, if that is possible. -/
  | caller (n woken : Nat)
  /-- `Run` is called. -/
  | run (n : Nat) (task : τ)
  deriving DecidableEq, Repr

/-- What the owner calls. -/
inductive OwnerCall where
  | setThreadNum (num : Int)
  | start
  | stop
  /-- `~ThreadPool`. -/
  | destroy
  deriving DecidableEq, Repr

namespace ThreadPool

variable {τ : Type u}

/-- The constructor. -/
def new : ThreadPool τ where
  started := false
  threadNum := 0
  created := 0
  joined := 0
  mutex := none
  taskDeque := []
  workers _ := .notStarted
  callers _ := .outside
  owner := .outside
  ran := []
  handed := []

def setWorker (pool : ThreadPool τ) (i : Nat) (place : WorkerPlace τ) : ThreadPool τ :=
  { pool with workers := Function.update pool.workers i place }

def setCaller (pool : ThreadPool τ) (n : Nat) (place : CallerPlace τ) : ThreadPool τ :=
  { pool with callers := Function.update pool.callers n place }

def setMutex (pool : ThreadPool τ) (mutex : Option PoolThread) : ThreadPool τ :=
  { pool with mutex := mutex }

def setOwner (pool : ThreadPool τ) (place : OwnerPlace) : ThreadPool τ :=
  { pool with owner := place }

/-- A woken worker waits for the mutex. -/
def wake (pool : ThreadPool τ) (i : Nat) : ThreadPool τ :=
  match pool.workers i with
  | .waiting => pool.setWorker i .relocking
  | _ => pool

/-- `WakeUpOne`: one of those who wait, if there is one. -/
def wakeUpOne (pool : ThreadPool τ) (woken : Nat) : ThreadPool τ :=
  match pool.workers woken with
  | .waiting => pool.wake woken
  | _ =>
      match (List.range pool.created).find? fun i => match pool.workers i with
        | .waiting => true
        | _ => false with
      | some i => pool.wake i
      | none => pool

/-- `WakeUpAll`. -/
def wakeUpAll (pool : ThreadPool τ) : ThreadPool τ :=
  { pool with workers := fun i => match pool.workers i with
      | .waiting => .relocking
      | place => place }

/-- A step of `ThreadFunction`, with `TakeATask`. -/
def worker (pool : ThreadPool τ) (i : Nat) : ThreadPool τ :=
  match pool.workers i with
  | .notStarted => pool
  | .atLoop => pool.setWorker i (if pool.started then .locking else .finished)
  | .locking | .relocking =>
      match pool.mutex with
      | none => (pool.setMutex (some (.worker i))).setWorker i .checking
      | some _ => pool
  | .checking =>
      if pool.started ∧ pool.taskDeque.isEmpty then (pool.setMutex none).setWorker i .waiting
      else pool.setWorker i .taking
  | .waiting => pool
  | .taking =>
      match pool.taskDeque with
      | [] => pool.setWorker i (.unlocking none)
      | task :: tasks => { pool with taskDeque := tasks }.setWorker i (.unlocking (some task))
  | .unlocking task => (pool.setMutex none).setWorker i (.running task)
  | .running none => pool.setWorker i .atLoop
  | .running (some task) =>
      { pool with ran := pool.ran ++ [(PoolThread.worker i, task)] }.setWorker i .atLoop
  | .finished => pool

/-- A step of `Run`. -/
def caller (pool : ThreadPool τ) (n woken : Nat) : ThreadPool τ :=
  match pool.callers n with
  | .outside => pool
  | .testing task =>
      pool.setCaller n (if pool.taskDeque.isEmpty then .running task else .locking task)
  | .running task =>
      { pool with ran := pool.ran ++ [(PoolThread.caller n, task)] }.setCaller n .outside
  | .locking task =>
      match pool.mutex with
      | none => (pool.setMutex (some (.caller n))).setCaller n (.pushing task)
      | some _ => pool
  | .pushing task =>
      { pool with taskDeque := pool.taskDeque ++ [task] }.setCaller n .signalling
  | .signalling => (pool.wakeUpOne woken).setCaller n .unlocking
  | .unlocking => (pool.setMutex none).setCaller n .outside

/-- `Run` is called, unless the caller is still in a call. -/
def run (pool : ThreadPool τ) (n : Nat) (task : τ) : ThreadPool τ :=
  match pool.callers n with
  | .outside => { pool with handed := pool.handed ++ [(n, task)] }.setCaller n (.testing task)
  | _ => pool

/-- A step of `Start` or `Stop`. `threads_[i]->Start()` finds a thread that is started already
when there were threads before; `Join` must find one that is not joined, and returns when its
thread is at an end. -/
def ownerStep (pool : ThreadPool τ) : ThreadPool τ :=
  match pool.owner with
  | .outside => pool
  | .starting i =>
      if (i : Int) < pool.threadNum then
        if i < pool.created then pool.setOwner .aborted
        else ({ pool with created := pool.created + 1 }.setWorker i .atLoop).setOwner
          (.starting (i + 1))
      else pool.setOwner .outside
  | .locking =>
      match pool.mutex with
      | none => (pool.setMutex (some .owner)).setOwner .clearing
      | some _ => pool
  | .clearing => { pool with started := false }.setOwner .broadcasting
  | .broadcasting => pool.wakeUpAll.setOwner .unlocking
  | .unlocking => (pool.setMutex none).setOwner (.joining 0)
  | .joining i =>
      if i < pool.created then
        if i < pool.joined then pool.setOwner .aborted
        else match pool.workers i with
          | .finished => { pool with joined := i + 1 }.setOwner (.joining (i + 1))
          | _ => pool
      else pool.setOwner .outside
  | .aborted => pool

/-- The owner calls a method. -/
def call (pool : ThreadPool τ) (call : OwnerCall) : ThreadPool τ :=
  match pool.owner, call with
  | .outside, .setThreadNum num =>
      if pool.started then pool.setOwner .aborted else { pool with threadNum := num }
  | .outside, .start =>
      if pool.started then pool.setOwner .aborted
      else { pool with started := true }.setOwner (.starting 0)
  | .outside, .stop => pool.setOwner .locking
  | .outside, .destroy => if pool.started then pool.setOwner .locking else pool
  | _, _ => pool

/-- The threads, between two calls of the owner. -/
def threads : Machine (ThreadPool τ) (PoolStep τ) where
  step pool step :=
    if pool.owner = .aborted then pool
    else match step with
      | .worker i => pool.worker i
      | .wake i => pool.wake i
      | .owner => pool.ownerStep
      | .caller n woken => pool.caller n woken
      | .run n task => pool.run n task

/-- The threads and the calls of the owner. -/
def machine : Machine (ThreadPool τ) (PoolStep τ ⊕ OwnerCall) where
  step pool
    | .inl step => threads.step pool step
    | .inr call => pool.call call

end ThreadPool

end LiveBroadcast
