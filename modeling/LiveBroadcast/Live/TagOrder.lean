import Mathlib.Data.List.Nodup
import Mathlib.Logic.Function.Basic
import LiveBroadcast.Foundation.Runs
import LiveBroadcast.Live.HttpPullConnection
import LiveBroadcast.Network.SentBytes

/-!
# The order in which tags reach a viewer

A publisher's loop and the loops of its viewers are threads of their own. The publisher's
thread passes each tag to the viewers in `client_connection_map_`, and since it is foreign to
their loops, `Send` leaves the payload in `pending_func_` of the viewer's loop. The viewer's
own thread inserts the viewer into the map, sends the header directly, and later swaps the
pending functions out and calls them one after the other.

Here these threads take their steps in any order. An access to the map is one step, the
`for` over it in `OnNewFlvTag` among them, and so are each call of `AddFlvTag`, each swap and
each pending function. `MapAccess` records the accesses in their order.

The payloads of a viewer that have reached `SendInLoop`, and behind them those that are still
underway, are the header and a chunk for each tag published behind the insertion
(`viewer_gets_header_then_tags`). What is underway is there to be seen: in the hands of the
loop, in its pending functions, or in the calls the publisher has not made yet.
-/

set_option autoImplicit false

namespace LiveBroadcast

open TcpConnection

/-- A function in `pending_func_`: `SendInLoop` bound to a connection and a copy of the
data. -/
structure PendingFunc where
  connectionName : Bytes
  data : Bytes
  deriving DecidableEq, Repr

/-- What a viewer's loop is doing. -/
inductive LoopStage where
  /-- Waiting for events, or between two handlers of `HandleActiveChannel`. -/
  | handlingEvents
  /-- In `AddClientConnection`, behind the insertion. -/
  | addingClient (connectionName headerBuffer : Bytes)
  /-- In `HandlePendingFunc`, with the functions that are still to be called. -/
  | handlingPending (pendingFunc : List PendingFunc)
  deriving DecidableEq, Repr

/-- `class EventLoop`, as far as sends go through it. -/
structure EventLoop where
  pendingFunc : List PendingFunc
  stage : LoopStage
  deriving DecidableEq, Repr

/-- The threads: that of the publisher's loop and those of the viewers' loops. -/
inductive LoopThread where
  | publisher
  | viewers (loop : Nat)
  deriving DecidableEq, Repr

/-- An access to `client_connection_map_`: `AddClientConnection` inserts a viewer, for which
`GetHeaderDataBuffer` then returns the header buffer, and `OnNewFlvTag` takes a tag through
the map. -/
inductive MapAccess where
  | insert (connectionName headerBuffer : Bytes)
  | publish (tag : FlvTag)
  deriving DecidableEq, Repr

/-- The tags among the accesses. -/
def publishedTags (accesses : List MapAccess) : List FlvTag :=
  accesses.filterMap fun
    | .insert _ _ => none
    | .publish tag => some tag

/-- The accesses insert no viewer of this name. -/
def NotInserted (name : Bytes) (accesses : List MapAccess) : Prop :=
  ∀ headerBuffer, .insert name headerBuffer ∉ accesses

/-- The accesses insert a viewer of this name once, with this header buffer, and publish these
tags behind the insertion. -/
def InsertedOnce (name headerBuffer : Bytes) (tags : List FlvTag) (accesses : List MapAccess) :
    Prop :=
  ∃ before after, accesses = before ++ .insert name headerBuffer :: after ∧
    NotInserted name (before ++ after) ∧ publishedTags after = tags

theorem InsertedOnce.concat {name headerBuffer : Bytes} {tags : List FlvTag}
    {accesses : List MapAccess} {access : MapAccess}
    (once : InsertedOnce name headerBuffer tags (accesses ++ [access])) :
    (access = .insert name headerBuffer ∧ tags = [] ∧ NotInserted name accesses) ∨
      ∃ earlier, InsertedOnce name headerBuffer earlier accesses ∧
        (∀ other, access ≠ .insert name other) ∧ tags = earlier ++ publishedTags [access] := by
  obtain ⟨before, after, split, others, rfl⟩ := once
  rcases List.eq_nil_or_concat' after with rfl | ⟨later, last, rfl⟩
  · obtain ⟨rfl, same⟩ := List.append_inj' split rfl
    rw [List.append_nil] at others
    exact .inl ⟨List.singleton_inj.mp same, rfl, others⟩
  · rw [← List.cons_append, ← List.append_assoc] at split
    obtain ⟨rfl, same⟩ := List.append_inj' split rfl
    obtain rfl := List.singleton_inj.mp same
    refine .inr ⟨publishedTags later, ⟨before, later, rfl, fun other held => ?_, rfl⟩,
      fun other same => ?_, List.filterMap_append⟩
    · refine others other ?_
      rw [← List.append_assoc]
      exact List.mem_append_left _ held
    · refine others other ?_
      rw [← List.append_assoc, same]
      exact List.mem_append_right _ (List.mem_singleton_self _)

/-- A publisher with its viewers. `calls` are the calls of `AddFlvTag` that `OnNewFlvTag` has
still to make, and `reached` the payloads of each connection that have come to `SendInLoop`;
the code reads neither `reached` nor `accesses`. -/
structure StreamThreads where
  connections : Bytes → TcpConnection
  pullConnections : Bytes → HttpPullConnection
  clientConnectionMap : List Bytes
  calls : List (Bytes × FlvTag)
  loops : Nat → EventLoop
  reached : Bytes → List Bytes
  accesses : List MapAccess

/-- The steps of the threads. A send comes with the kernel's answer, if the kernel is
asked. -/
inductive ThreadEvent where
  | onNewFlvTag (tag : FlvTag)
  | addFlvTag (answer : KernelAnswer)
  | addClientConnection (connectionName headerBuffer : Bytes)
  | sendHeader (loop : Nat) (answer : KernelAnswer)
  | swapPendingFunc (loop : Nat)
  | callPendingFunc (loop : Nat) (answer : KernelAnswer)
  | onWritable (connectionName : Bytes) (answer : KernelAnswer)
  | shutdown (connectionName : Bytes)
  | onClose (connectionName : Bytes)
  deriving DecidableEq, Repr

namespace StreamThreads

/-- No viewer has come yet; the connections are as they are. -/
def atStart (connections : Bytes → TcpConnection) : StreamThreads where
  connections := connections
  pullConnections := .new
  clientConnectionMap := []
  calls := []
  loops _ := ⟨[], .handlingEvents⟩
  reached _ := []
  accesses := []

def setConnection (state : StreamThreads) (connectionName : Bytes) (connection : TcpConnection) :
    StreamThreads :=
  { state with connections := Function.update state.connections connectionName connection }

def setPullConnection (state : StreamThreads) (connectionName : Bytes)
    (client : HttpPullConnection) : StreamThreads :=
  { state with pullConnections := Function.update state.pullConnections connectionName client }

def setCalls (state : StreamThreads) (calls : List (Bytes × FlvTag)) : StreamThreads :=
  { state with calls := calls }

def setLoop (state : StreamThreads) (loop : Nat) (eventLoop : EventLoop) : StreamThreads :=
  { state with loops := Function.update state.loops loop eventLoop }

def setStage (state : StreamThreads) (loop : Nat) (stage : LoopStage) : StreamThreads :=
  state.setLoop loop { state.loops loop with stage := stage }

/-- `SendInLoop`. -/
def sendInLoop (state : StreamThreads) (connectionName data : Bytes) (answer : KernelAnswer) :
    StreamThreads :=
  { state.setConnection connectionName
      ((state.connections connectionName).sendInLoop data answer).1 with
    reached := Function.update state.reached connectionName
      (state.reached connectionName ++ [data]) }

/-- `RunInLoop`. -/
def runInLoop (state : StreamThreads) (loop : Nat) (function : PendingFunc) : StreamThreads :=
  state.setLoop loop
    { state.loops loop with pendingFunc := (state.loops loop).pendingFunc ++ [function] }

/-- `OnNewFlvTag` begins, unless the publisher's thread is still in the last one. -/
def onNewFlvTag (state : StreamThreads) (tag : FlvTag) : StreamThreads :=
  if state.calls = [] then
    { state with
      calls := state.clientConnectionMap.map fun connectionName => (connectionName, tag)
      accesses := state.accesses ++ [.publish tag] }
  else state

/-- `OnClose`, with `OnConnectionClose` behind it. -/
def onClose (state : StreamThreads) (connectionName : Bytes) : StreamThreads :=
  { state.setConnection connectionName
      ((state.connections connectionName).onClose .done) with
    clientConnectionMap := state.clientConnectionMap.filter fun name => name ≠ connectionName }

/-- `HandlePendingFunc` swaps the functions out. -/
def swapPendingFunc (state : StreamThreads) (loop : Nat) : StreamThreads :=
  match (state.loops loop).stage with
  | .handlingEvents => state.setLoop loop ⟨[], .handlingPending (state.loops loop).pendingFunc⟩
  | _ => state

/-- `HandlePendingFunc` calls the next function, or returns. -/
def callPendingFunc (state : StreamThreads) (loop : Nat) (answer : KernelAnswer) :
    StreamThreads :=
  match (state.loops loop).stage with
  | .handlingPending (function :: functions) =>
      (state.setStage loop (.handlingPending functions)).sendInLoop function.connectionName
        function.data answer
  | .handlingPending [] => state.setStage loop .handlingEvents
  | _ => state

variable (loopOf : Bytes → Nat)

/-- `Send`, called in some thread. -/
def send (state : StreamThreads) (thread : LoopThread) (connectionName data : Bytes)
    (answer : KernelAnswer) : StreamThreads :=
  if (state.connections connectionName).connectionStatus = .connected then
    if thread = .viewers (loopOf connectionName) then
      state.sendInLoop connectionName data answer
    else state.runInLoop (loopOf connectionName) ⟨connectionName, data⟩
  else state

/-- The next call of `AddFlvTag` in `OnNewFlvTag`. -/
def addFlvTag (state : StreamThreads) (answer : KernelAnswer) : StreamThreads :=
  match state.calls with
  | [] => state
  | (connectionName, tag) :: calls =>
      let step := (state.pullConnections connectionName).addFlvTag tag
      ((state.setCalls calls).setPullConnection connectionName step.1).send loopOf
        .publisher connectionName step.2 answer

/-- `AddClientConnection` for a new `HttpPullConnection`, as far as the insertion. -/
def addClientConnection (state : StreamThreads) (connectionName headerBuffer : Bytes) :
    StreamThreads :=
  match (state.loops (loopOf connectionName)).stage with
  | .handlingEvents =>
      { (state.setPullConnection connectionName (.new connectionName)).setStage
          (loopOf connectionName) (.addingClient connectionName headerBuffer) with
        clientConnectionMap :=
          (state.clientConnectionMap.filter fun name => name ≠ connectionName) ++
            [connectionName]
        accesses := state.accesses ++ [.insert connectionName headerBuffer] }
  | _ => state

/-- The rest of `AddClientConnection`: `SendHeaderOnConnection` in the loop's thread. -/
def sendHeader (state : StreamThreads) (loop : Nat) (answer : KernelAnswer) : StreamThreads :=
  match (state.loops loop).stage with
  | .addingClient connectionName headerBuffer =>
      (state.setStage loop .handlingEvents).send loopOf (.viewers loop) connectionName
        ((state.pullConnections connectionName).sendHeaderOnConnection headerBuffer) answer
  | _ => state

/-- The threads as a machine: an event for which its thread is not in the right place does
nothing. -/
def machine : Machine StreamThreads ThreadEvent where
  step state
    | .onNewFlvTag tag => state.onNewFlvTag tag
    | .addFlvTag answer => state.addFlvTag loopOf answer
    | .addClientConnection connectionName headerBuffer =>
        state.addClientConnection loopOf connectionName headerBuffer
    | .sendHeader loop answer => state.sendHeader loopOf loop answer
    | .swapPendingFunc loop => state.swapPendingFunc loop
    | .callPendingFunc loop answer => state.callPendingFunc loop answer
    | .onWritable connectionName answer =>
        state.setConnection connectionName
          ((state.connections connectionName).onWritable answer .done)
    | .shutdown connectionName =>
        state.setConnection connectionName (state.connections connectionName).shutdown
    | .onClose connectionName => state.onClose connectionName

end StreamThreads

/-! ## What is underway -/

/-- The data that some pending functions send on a connection. -/
def dataFor (name : Bytes) (functions : List PendingFunc) : List Bytes :=
  (functions.filter fun function => function.connectionName = name).map PendingFunc.data

/-- The payloads of a connection in the hands of the loop. -/
def LoopStage.underway (name : Bytes) : LoopStage → List Bytes
  | .handlingEvents => []
  | .addingClient connectionName headerBuffer =>
      if connectionName = name then
        [(HttpPullConnection.new name).sendHeaderOnConnection headerBuffer]
      else []
  | .handlingPending functions => dataFor name functions

/-- The connections in the hands of the loop. -/
def LoopStage.names : LoopStage → List Bytes
  | .handlingEvents => []
  | .addingClient connectionName _ => [connectionName]
  | .handlingPending functions => functions.map PendingFunc.connectionName

/-- How much the loop has still to do in its stage. -/
def LoopStage.work : LoopStage → Nat
  | .handlingEvents => 0
  | .addingClient _ _ => 1
  | .handlingPending functions => functions.length + 1

/-- The payloads of a connection in the hands of the loop and in its pending functions. -/
def EventLoop.underway (name : Bytes) (loop : EventLoop) : List Bytes :=
  loop.stage.underway name ++ dataFor name loop.pendingFunc

def EventLoop.names (loop : EventLoop) : List Bytes :=
  loop.stage.names ++ loop.pendingFunc.map PendingFunc.connectionName

theorem dataFor_cons (name : Bytes) (function : PendingFunc) (functions : List PendingFunc) :
    dataFor name (function :: functions) =
      if function.connectionName = name then function.data :: dataFor name functions
      else dataFor name functions := by
  by_cases same : function.connectionName = name <;> simp [dataFor, same]

theorem dataFor_concat (name : Bytes) (functions : List PendingFunc) (function : PendingFunc) :
    dataFor name (functions ++ [function]) =
      dataFor name functions ++
        if function.connectionName = name then [function.data] else [] := by
  by_cases same : function.connectionName = name <;> simp [dataFor, same]

namespace StreamThreads

variable (state : StreamThreads) (name : Bytes)

/-- The tags of the calls of `AddFlvTag` on a viewer that are still to be made. -/
def tagsFor : List FlvTag := (state.calls.filter fun call => call.1 = name).map Prod.snd

/-- What these calls do: the viewer behind them, and what they hand to `Send`. -/
def afterCalls : HttpPullConnection × List Bytes :=
  (state.pullConnections name).addFlvTags (state.tagsFor name)

variable (loopOf : Bytes → Nat)

/-- The payloads of a viewer that have not reached `SendInLoop`. -/
def underway : List Bytes :=
  (state.loops (loopOf name)).underway name ++ (state.afterCalls name).2

/-- The payloads of a viewer that `Send` has passed on. -/
def passedOn : List Bytes := state.reached name ++ (state.loops (loopOf name)).underway name

/-- All payloads of a viewer, those underway included. -/
def line : List Bytes := state.reached name ++ state.underway name loopOf

theorem line_eq :
    state.line name loopOf = state.passedOn name loopOf ++ (state.afterCalls name).2 :=
  (List.append_assoc _ _ _).symm

variable {state : StreamThreads} {name : Bytes} {loopOf : Bytes → Nat}

theorem setPullConnection_pullConnections (state : StreamThreads) (connectionName : Bytes)
    (client : HttpPullConnection) (other : Bytes) :
    (state.setPullConnection connectionName client).pullConnections other =
      if other = connectionName then client else state.pullConnections other := by
  simp only [setPullConnection, Function.update_apply]

theorem setLoop_loops (state : StreamThreads) (loop : Nat) (eventLoop : EventLoop)
    (other : Nat) :
    (state.setLoop loop eventLoop).loops other =
      if other = loop then eventLoop else state.loops other := by
  simp only [setLoop, Function.update_apply]

/-! ## Loops and their connections -/

/-- The map has each viewer once, and a loop holds payloads of its own connections only. -/
structure Homed (loopOf : Bytes → Nat) (state : StreamThreads) : Prop where
  nodup : state.clientConnectionMap.Nodup
  home : ∀ loop, ∀ name ∈ (state.loops loop).names, loopOf name = loop

theorem homed_atStart (connections : Bytes → TcpConnection) :
    (atStart connections).Homed loopOf where
  nodup := List.nodup_nil
  home loop name inside := by cases inside

theorem Homed.setLoop (homed : state.Homed loopOf) {loop : Nat} {eventLoop : EventLoop}
    (inside : ∀ name ∈ eventLoop.names, loopOf name = loop) :
    (state.setLoop loop eventLoop).Homed loopOf where
  nodup := homed.nodup
  home other name held := by
    rw [setLoop_loops] at held
    split at held
    · next same =>
        rw [same]
        exact inside name held
    · exact homed.home other name held

theorem Homed.setStage (homed : state.Homed loopOf) {loop : Nat} {stage : LoopStage}
    (inside : ∀ name ∈ stage.names, loopOf name = loop) :
    (state.setStage loop stage).Homed loopOf := by
  apply homed.setLoop
  intro name held
  rcases List.mem_append.mp held with new | kept
  · exact inside name new
  · exact homed.home loop name (List.mem_append_right _ kept)

theorem Homed.runInLoop (homed : state.Homed loopOf) (function : PendingFunc) :
    (state.runInLoop (loopOf function.connectionName) function).Homed loopOf := by
  apply homed.setLoop
  intro name held
  rw [EventLoop.names, List.map_append, ← List.append_assoc] at held
  rcases List.mem_append.mp held with kept | new
  · exact homed.home _ name kept
  · rw [List.mem_singleton.mp new]

theorem Homed.setPullConnection (homed : state.Homed loopOf) (connectionName : Bytes)
    (client : HttpPullConnection) : (state.setPullConnection connectionName client).Homed loopOf :=
  ⟨homed.nodup, homed.home⟩

theorem Homed.sendInLoop (homed : state.Homed loopOf) (connectionName data : Bytes)
    (answer : KernelAnswer) : (state.sendInLoop connectionName data answer).Homed loopOf :=
  ⟨homed.nodup, homed.home⟩

theorem Homed.send (homed : state.Homed loopOf) (thread : LoopThread)
    (connectionName data : Bytes) (answer : KernelAnswer) :
    (state.send loopOf thread connectionName data answer).Homed loopOf := by
  rw [StreamThreads.send]
  split
  · split
    · exact homed.sendInLoop connectionName data answer
    · exact homed.runInLoop ⟨connectionName, data⟩
  · exact homed

/-- **Every step keeps the payloads with the loops of their connections.** -/
theorem Homed.step (homed : state.Homed loopOf) (event : ThreadEvent) :
    ((machine loopOf).step state event).Homed loopOf := by
  cases event with
  | onNewFlvTag tag =>
      show (state.onNewFlvTag tag).Homed loopOf
      rw [onNewFlvTag]
      split
      · exact ⟨homed.nodup, homed.home⟩
      · exact homed
  | addFlvTag answer =>
      show (state.addFlvTag loopOf answer).Homed loopOf
      rw [addFlvTag]
      split
      · exact homed
      · apply Homed.send
        exact ⟨homed.nodup, homed.home⟩
  | addClientConnection connectionName headerBuffer =>
      show (state.addClientConnection loopOf connectionName headerBuffer).Homed loopOf
      rw [addClientConnection]
      split
      · have staged : ((state.setPullConnection connectionName (.new connectionName)).setStage
            (loopOf connectionName) (.addingClient connectionName headerBuffer)).Homed loopOf := by
          apply (homed.setPullConnection connectionName _).setStage
          intro name held
          rw [List.mem_singleton.mp held]
        refine ⟨?_, staged.home⟩
        refine List.Nodup.append (homed.nodup.filter _) (List.nodup_singleton _) ?_
        simp
      · exact homed
  | sendHeader loop answer =>
      show (state.sendHeader loopOf loop answer).Homed loopOf
      rw [sendHeader]
      split
      · apply Homed.send
        exact homed.setStage nofun
      · exact homed
  | swapPendingFunc loop =>
      show (state.swapPendingFunc loop).Homed loopOf
      rw [swapPendingFunc]
      split
      · refine homed.setLoop fun name held => homed.home loop name ?_
        rw [EventLoop.names, List.map_nil, List.append_nil] at held
        exact List.mem_append_right _ held
      · exact homed
  | callPendingFunc loop answer =>
      show (state.callPendingFunc loop answer).Homed loopOf
      rw [callPendingFunc]
      split
      · next function functions stage =>
          apply Homed.sendInLoop
          refine homed.setStage fun name held => homed.home loop name ?_
          rw [EventLoop.names, stage]
          exact List.mem_append_left _ (List.mem_cons_of_mem _ held)
      · exact homed.setStage nofun
      · exact homed
  | onWritable connectionName answer => exact ⟨homed.nodup, homed.home⟩
  | shutdown connectionName => exact ⟨homed.nodup, homed.home⟩
  | onClose connectionName => exact ⟨homed.nodup.filter _, homed.home⟩

/-! ## How payloads move -/

/-- `RunInLoop` puts a payload behind the others of its connection. -/
theorem passedOn_runInLoop (connectionName data : Bytes) :
    (state.runInLoop (loopOf connectionName) ⟨connectionName, data⟩).passedOn name loopOf =
      state.passedOn name loopOf ++ if connectionName = name then [data] else [] := by
  simp only [passedOn, runInLoop, setLoop_loops]
  by_cases same : connectionName = name
  · subst same
    rw [if_pos rfl, if_pos rfl, EventLoop.underway, dataFor_concat, if_pos rfl,
      EventLoop.underway]
    simp only [List.append_assoc]
    rfl
  · rw [if_neg same, List.append_nil]
    split
    · next shared =>
        rw [EventLoop.underway, dataFor_concat, if_neg same, List.append_nil, shared,
          EventLoop.underway]
        rfl
    · rfl

/-- A payload that leaves the hands of its loop for `SendInLoop` stays in its place. -/
theorem passedOn_deliver {connectionName data : Bytes} {stage : LoopStage}
    (first : (state.loops (loopOf connectionName)).stage.underway connectionName =
      data :: stage.underway connectionName)
    (others : ∀ other, other ≠ connectionName →
      (state.loops (loopOf connectionName)).stage.underway other = stage.underway other)
    (answer : KernelAnswer) :
    ((state.setStage (loopOf connectionName) stage).sendInLoop connectionName data
      answer).passedOn name loopOf = state.passedOn name loopOf := by
  simp only [passedOn, sendInLoop, setConnection, setStage, setLoop_loops, Function.update_apply]
  by_cases same : name = connectionName
  · rw [same, if_pos rfl, if_pos rfl, EventLoop.underway, EventLoop.underway, first]
    simp only [List.append_assoc]
    rfl
  · rw [if_neg same]
    split
    · next shared =>
        rw [EventLoop.underway, EventLoop.underway, shared, others name same]
        rfl
    · rfl

/-- Nothing changes for the viewer: its payloads and the tags still to be passed to it lead to
the same end, it is as much in the map as before, and it has not come back. -/
structure Steady (loopOf : Bytes → Nat) (state after : StreamThreads) (name : Bytes) :
    Prop where
  client : (after.afterCalls name).1 = (state.afterCalls name).1
  line : after.line name loopOf = state.line name loopOf
  listed : name ∈ after.clientConnectionMap ↔ name ∈ state.clientConnectionMap
  connected : (after.connections name).connectionStatus = .connected →
    (state.connections name).connectionStatus = .connected

/-! ## What the viewer is promised -/

/-- Before its insertion a viewer has no payloads. When it has been inserted once and is still
connected, it is in the map, and its payloads are the header and a chunk for each tag
published since. -/
structure Served (loopOf : Bytes → Nat) (state : StreamThreads) (name : Bytes) : Prop where
  waits : NotInserted name state.accesses →
    name ∉ state.clientConnectionMap ∧ state.line name loopOf = []
  serves : ∀ headerBuffer tags, InsertedOnce name headerBuffer tags state.accesses →
    (state.connections name).connectionStatus = .connected →
      name ∈ state.clientConnectionMap ∧
        (state.afterCalls name).1 = ((HttpPullConnection.new name).addFlvTags tags).1 ∧
        state.line name loopOf =
          (HttpPullConnection.new name).sendHeaderOnConnection headerBuffer ::
            ((HttpPullConnection.new name).addFlvTags tags).2

variable {after : StreamThreads}

/-- What is steady for a viewer keeps the promise, when the accesses say the same of it. -/
theorem Served.steady (served : state.Served loopOf name) (steady : Steady loopOf state after name)
    (absent : NotInserted name after.accesses → NotInserted name state.accesses)
    (once : ∀ headerBuffer tags, InsertedOnce name headerBuffer tags after.accesses →
      InsertedOnce name headerBuffer tags state.accesses) : after.Served loopOf name where
  waits apart := by
    rw [steady.listed, steady.line]
    exact served.waits (absent apart)
  serves headerBuffer tags inserted connected := by
    rw [steady.listed, steady.client, steady.line]
    exact served.serves headerBuffer tags (once headerBuffer tags inserted)
      (steady.connected connected)

/-! ## The steps, as a viewer sees them -/

theorem Served.unmoved (served : state.Served loopOf name)
    (steady : Steady loopOf state after name) (same : after.accesses = state.accesses) :
    after.Served loopOf name := by
  apply served.steady steady
  · rw [same]
    exact id
  · rw [same]
    exact fun _ _ => id

/-- A step that touches neither the viewer's payloads nor its calls. -/
theorem steady_of_same (client : after.pullConnections name = state.pullConnections name)
    (calls : after.calls = state.calls)
    (passed : after.passedOn name loopOf = state.passedOn name loopOf)
    (listed : name ∈ after.clientConnectionMap ↔ name ∈ state.clientConnectionMap)
    (connected : (after.connections name).connectionStatus = .connected →
      (state.connections name).connectionStatus = .connected) :
    Steady loopOf state after name := by
  have calls_same : after.afterCalls name = state.afterCalls name := by
    rw [afterCalls, afterCalls, tagsFor, tagsFor, client, calls]
  refine ⟨?_, ?_, listed, connected⟩
  · rw [calls_same]
  · rw [line_eq, line_eq, calls_same, passed]

/-- Only the connections change, and none becomes connected. -/
theorem Served.setConnection (served : state.Served loopOf name) {connectionName : Bytes}
    {connection : TcpConnection}
    (connected : connection.connectionStatus = .connected →
      (state.connections connectionName).connectionStatus = .connected) :
    (state.setConnection connectionName connection).Served loopOf name := by
  refine served.unmoved ?_ rfl
  refine steady_of_same rfl rfl rfl Iff.rfl ?_
  intro still
  simp only [StreamThreads.setConnection, Function.update_apply] at still
  split at still
  · next same =>
      rw [same]
      exact connected still
  · exact still

/-- A payload leaves the hands of its loop. -/
theorem steady_deliver {connectionName data : Bytes} {stage : LoopStage}
    (first : (state.loops (loopOf connectionName)).stage.underway connectionName =
      data :: stage.underway connectionName)
    (others : ∀ other, other ≠ connectionName →
      (state.loops (loopOf connectionName)).stage.underway other = stage.underway other)
    (answer : KernelAnswer) :
    Steady loopOf state ((state.setStage (loopOf connectionName) stage).sendInLoop
      connectionName data answer) name := by
  refine steady_of_same rfl rfl (passedOn_deliver first others answer) Iff.rfl ?_
  intro still
  simp only [sendInLoop, StreamThreads.setConnection, Function.update_apply] at still
  split at still
  · next same =>
      rw [same]
      exact sendInLoop_connected still
  · exact still

theorem passedOn_setLoop {loop : Nat} {eventLoop : EventLoop}
    (same : eventLoop.underway name = (state.loops loop).underway name) :
    (state.setLoop loop eventLoop).passedOn name loopOf = state.passedOn name loopOf := by
  rw [passedOn, passedOn, setLoop_loops]
  split
  · next here =>
      rw [here, same]
      rfl
  · rfl

/-- A loop changes, and what it holds of the viewer stays. -/
theorem steady_setLoop {loop : Nat} {eventLoop : EventLoop}
    (same : eventLoop.underway name = (state.loops loop).underway name) :
    Steady loopOf state (state.setLoop loop eventLoop) name :=
  steady_of_same rfl rfl (passedOn_setLoop same) Iff.rfl id

theorem Served.swapPendingFunc (served : state.Served loopOf name) (loop : Nat) :
    (state.swapPendingFunc loop).Served loopOf name := by
  rw [StreamThreads.swapPendingFunc]
  split
  · next stage =>
      refine served.unmoved ?_ rfl
      apply steady_setLoop
      rw [EventLoop.underway, EventLoop.underway, stage]
      exact List.append_nil _
  · exact served

theorem Served.callPendingFunc (served : state.Served loopOf name) (homed : state.Homed loopOf)
    (loop : Nat) (answer : KernelAnswer) :
    (state.callPendingFunc loop answer).Served loopOf name := by
  rw [StreamThreads.callPendingFunc]
  split
  · next function functions stage =>
      have home : loopOf function.connectionName = loop := by
        apply homed.home loop
        rw [EventLoop.names, stage]
        exact List.mem_cons_self
      subst home
      refine served.unmoved ?_ rfl
      apply steady_deliver
      · rw [stage, LoopStage.underway, dataFor_cons, if_pos rfl, LoopStage.underway]
      · intro other different
        rw [stage, LoopStage.underway, dataFor_cons, if_neg (Ne.symm different),
          LoopStage.underway]
  · next stage =>
      refine served.unmoved ?_ rfl
      apply steady_setLoop
      rw [EventLoop.underway, EventLoop.underway, stage]
      rfl
  · exact served

/-- The header leaves the hands of its loop, unless `Send` drops it. -/
theorem Served.sendHeader (served : state.Served loopOf name) (homed : state.Homed loopOf)
    (loop : Nat) (answer : KernelAnswer) :
    (state.sendHeader loopOf loop answer).Served loopOf name := by
  rw [StreamThreads.sendHeader]
  split
  · next connectionName headerBuffer stage =>
      have home : loopOf connectionName = loop := by
        apply homed.home loop
        rw [EventLoop.names, stage]
        exact List.mem_cons_self
      subst home
      have others : ∀ other, other ≠ connectionName →
          (state.loops (loopOf connectionName)).stage.underway other =
            LoopStage.handlingEvents.underway other := by
        intro other different
        rw [stage]
        exact if_neg (Ne.symm different)
      rw [StreamThreads.send]
      split
      · rw [if_pos rfl]
        refine served.unmoved (steady_deliver ?_ others answer) rfl
        rw [stage]
        exact if_pos rfl
      · next dropped =>
          by_cases same : name = connectionName
          · subst same
            refine ⟨fun absent => ?_, fun _ _ _ connected => absurd connected dropped⟩
            -- A viewer in the hands of its loop has been inserted.
            have empty := (served.waits absent).2
            rw [line_eq, passedOn, EventLoop.underway, stage] at empty
            simp [LoopStage.underway] at empty
          · refine served.unmoved (steady_setLoop ?_) rfl
            rw [EventLoop.underway, EventLoop.underway, others name same]
  · exact served

theorem tagsFor_cons {connectionName : Bytes} {tag : FlvTag} {calls : List (Bytes × FlvTag)}
    (next : state.calls = (connectionName, tag) :: calls) :
    state.tagsFor name =
      if connectionName = name then tag :: (state.setCalls calls).tagsFor name
      else (state.setCalls calls).tagsFor name := by
  rw [tagsFor, next]
  by_cases same : connectionName = name <;> simp [tagsFor, setCalls, same]

section Call

variable {connectionName : Bytes} {tag : FlvTag} {calls : List (Bytes × FlvTag)}

/-- The state between `AddFlvTag` and `Send`. -/
def beforeSend (state : StreamThreads) (connectionName : Bytes) (tag : FlvTag)
    (calls : List (Bytes × FlvTag)) : StreamThreads :=
  (state.setCalls calls).setPullConnection connectionName
    ((state.pullConnections connectionName).addFlvTag tag).1

theorem addFlvTag_connected (next : state.calls = (connectionName, tag) :: calls)
    (connected : (state.connections connectionName).connectionStatus = .connected)
    (answer : KernelAnswer) :
    state.addFlvTag loopOf answer =
      (state.beforeSend connectionName tag calls).runInLoop (loopOf connectionName)
        ⟨connectionName, ((state.pullConnections connectionName).addFlvTag tag).2⟩ := by
  simp only [addFlvTag, next]
  exact (if_pos connected).trans (if_neg nofun)

theorem addFlvTag_dropped (next : state.calls = (connectionName, tag) :: calls)
    (dropped : (state.connections connectionName).connectionStatus ≠ .connected)
    (answer : KernelAnswer) :
    state.addFlvTag loopOf answer = state.beforeSend connectionName tag calls := by
  simp only [addFlvTag, next]
  exact if_neg dropped

theorem afterCalls_beforeSend_other (next : state.calls = (connectionName, tag) :: calls)
    (different : connectionName ≠ name) :
    (state.beforeSend connectionName tag calls).afterCalls name = state.afterCalls name := by
  rw [afterCalls, afterCalls, tagsFor_cons next, if_neg different, beforeSend,
    setPullConnection_pullConnections, if_neg (Ne.symm different)]
  rfl

/-- `AddFlvTag` does the first of the calls on its viewer. -/
theorem afterCalls_beforeSend_self (next : state.calls = (name, tag) :: calls) :
    state.afterCalls name =
      (((state.beforeSend name tag calls).afterCalls name).1,
        ((state.pullConnections name).addFlvTag tag).2 ::
          ((state.beforeSend name tag calls).afterCalls name).2) := by
  rw [afterCalls, tagsFor_cons next, if_pos rfl, HttpPullConnection.addFlvTags, afterCalls,
    beforeSend, setPullConnection_pullConnections, if_pos rfl]
  rfl

/-- The call on another viewer. -/
theorem steady_addFlvTag_other (next : state.calls = (connectionName, tag) :: calls)
    (different : connectionName ≠ name) (answer : KernelAnswer) :
    Steady loopOf state (state.addFlvTag loopOf answer) name := by
  have client_same := @afterCalls_beforeSend_other state name connectionName tag calls next
    different
  by_cases connected : (state.connections connectionName).connectionStatus = .connected
  · rw [addFlvTag_connected next connected]
    refine ⟨congrArg Prod.fst client_same, ?_, Iff.rfl, id⟩
    rw [line_eq, passedOn_runInLoop, if_neg different, List.append_nil, line_eq, ← client_same]
    rfl
  · rw [addFlvTag_dropped next connected]
    refine ⟨congrArg Prod.fst client_same, ?_, Iff.rfl, id⟩
    rw [line_eq, line_eq, client_same]
    rfl

/-- The call on the viewer itself: the chunk goes from the hands of the publisher into the
pending functions. -/
theorem steady_addFlvTag_self (next : state.calls = (name, tag) :: calls)
    (connected : (state.connections name).connectionStatus = .connected)
    (answer : KernelAnswer) : Steady loopOf state (state.addFlvTag loopOf answer) name := by
  have first := afterCalls_beforeSend_self next
  rw [addFlvTag_connected next connected]
  refine ⟨?_, ?_, Iff.rfl, id⟩
  · rw [first]
    rfl
  · rw [line_eq, passedOn_runInLoop, if_pos rfl, line_eq, first, List.append_assoc]
    rfl

theorem addFlvTag_accesses (answer : KernelAnswer) :
    (state.addFlvTag loopOf answer).accesses = state.accesses := by
  cases next : state.calls with
  | nil => rw [addFlvTag, next]
  | cons call calls =>
      by_cases connected : (state.connections call.1).connectionStatus = .connected
      · rw [addFlvTag_connected next connected]
        rfl
      · rw [addFlvTag_dropped next connected]
        rfl

end Call

theorem Served.addFlvTag (served : state.Served loopOf name) (answer : KernelAnswer) :
    (state.addFlvTag loopOf answer).Served loopOf name := by
  cases next : state.calls with
  | nil =>
      rw [StreamThreads.addFlvTag, next]
      exact served
  | cons call calls =>
      obtain ⟨connectionName, tag⟩ := call
      by_cases same : connectionName = name
      · subst same
        by_cases connected : (state.connections connectionName).connectionStatus = .connected
        · exact served.unmoved (steady_addFlvTag_self next connected answer)
            (addFlvTag_accesses answer)
        · rw [addFlvTag_dropped next connected]
          refine ⟨fun absent => ?_, fun _ _ _ still => absurd still connected⟩
          -- A viewer that the publisher calls has been inserted.
          have empty := (served.waits absent).2
          rw [line_eq, afterCalls_beforeSend_self next] at empty
          simp at empty
      · exact served.unmoved (steady_addFlvTag_other next same answer)
          (addFlvTag_accesses answer)

/-- One call for each viewer. -/
theorem tagsFor_map {names : List Bytes} (nodup : names.Nodup) (tag : FlvTag) (name : Bytes) :
    (((names.map fun connectionName => (connectionName, tag)).filter
      fun call => call.1 = name).map Prod.snd) = if name ∈ names then [tag] else [] := by
  induction names with
  | nil => rfl
  | cons first names ih =>
      obtain ⟨fresh, nodup⟩ := List.nodup_cons.mp nodup
      rw [List.map_cons]
      by_cases same : first = name
      · rw [List.filter_cons_of_pos (by simpa using same), List.map_cons, ih nodup, ← same,
          if_neg fresh, if_pos List.mem_cons_self]
      · rw [List.filter_cons_of_neg (by simp [same]), ih nodup]
        simp only [List.mem_cons, Ne.symm same, false_or]

theorem afterCalls_idle (idle : state.calls = []) :
    state.afterCalls name = (state.pullConnections name, []) := by
  rw [afterCalls, tagsFor, idle]
  rfl

/-- `OnNewFlvTag` has the viewers in the map called with the tag. -/
theorem afterCalls_onNewFlvTag (homed : state.Homed loopOf) (idle : state.calls = [])
    (tag : FlvTag) :
    (state.onNewFlvTag tag).afterCalls name =
      if name ∈ state.clientConnectionMap then
        (((state.afterCalls name).1.addFlvTag tag).1,
          [((state.afterCalls name).1.addFlvTag tag).2])
      else state.afterCalls name := by
  rw [afterCalls, tagsFor, onNewFlvTag, if_pos idle, afterCalls_idle idle]
  simp only [tagsFor_map homed.nodup]
  split <;> rfl

theorem line_onNewFlvTag (idle : state.calls = []) (tag : FlvTag) :
    (state.onNewFlvTag tag).line name loopOf =
      state.line name loopOf ++ ((state.onNewFlvTag tag).afterCalls name).2 := by
  rw [line_eq, line_eq, afterCalls_idle idle, List.append_nil, onNewFlvTag, if_pos idle]
  rfl

/-- **A tag is published**: to the viewers in the map, behind all of their payloads. -/
theorem Served.onNewFlvTag (served : state.Served loopOf name) (homed : state.Homed loopOf)
    (tag : FlvTag) : (state.onNewFlvTag tag).Served loopOf name := by
  by_cases idle : state.calls = []
  · have accesses : (state.onNewFlvTag tag).accesses = state.accesses ++ [.publish tag] := by
      rw [StreamThreads.onNewFlvTag, if_pos idle]
    have listed : (state.onNewFlvTag tag).clientConnectionMap = state.clientConnectionMap := by
      rw [StreamThreads.onNewFlvTag, if_pos idle]
    have connections : (state.onNewFlvTag tag).connections = state.connections := by
      rw [StreamThreads.onNewFlvTag, if_pos idle]
    have calls := @afterCalls_onNewFlvTag state name loopOf homed idle tag
    constructor
    · intro absent
      rw [accesses] at absent
      obtain ⟨apart, empty⟩ := served.waits fun headerBuffer held =>
        absent headerBuffer (List.mem_append_left _ held)
      rw [if_neg apart, afterCalls_idle idle] at calls
      rw [listed, line_onNewFlvTag idle, empty, calls]
      exact ⟨apart, rfl⟩
    · intro headerBuffer tags inserted connected
      rw [accesses] at inserted
      rw [connections] at connected
      rcases inserted.concat with ⟨impossible, -, -⟩ | ⟨earlier, before, -, tags_eq⟩
      · cases impossible
      · obtain ⟨inside, client, line⟩ := served.serves headerBuffer earlier before connected
        rw [if_pos inside] at calls
        have concat : tags = earlier ++ [tag] := tags_eq
        rw [listed, line_onNewFlvTag idle, line, calls, client, concat,
          HttpPullConnection.addFlvTags_concat]
        exact ⟨inside, rfl, rfl⟩
  · rw [StreamThreads.onNewFlvTag, if_neg idle]
    exact served

/-- **A viewer is inserted**: it had no payloads, and its first one is the header. -/
theorem Served.addClientConnection (served : state.Served loopOf name)
    (connectionName headerBuffer : Bytes) :
    (state.addClientConnection loopOf connectionName headerBuffer).Served loopOf name := by
  rw [StreamThreads.addClientConnection]
  split
  · next stage =>
      by_cases same : connectionName = name
      · subst same
        constructor
        · intro absent
          exact absurd (List.mem_append_right _ (List.mem_singleton_self _)) (absent headerBuffer)
        · intro inserted_buffer tags inserted _
          rcases inserted.concat with ⟨access, rfl, absent⟩ | ⟨-, -, impossible, -⟩
          · obtain rfl := (MapAccess.insert.inj access).2
            have empty := (served.waits absent).2
            rw [line_eq, passedOn, EventLoop.underway] at empty
            simp only [List.append_eq_nil_iff] at empty
            obtain ⟨⟨none_reached, -, none_pending⟩, none_called⟩ := empty
            have no_calls := HttpPullConnection.addFlvTags_nil_iff.mp none_called
            refine ⟨List.mem_append_right _ (List.mem_singleton_self _), ?_, ?_⟩
            · rw [afterCalls, tagsFor]
              show ((Function.update state.pullConnections connectionName
                (.new connectionName) connectionName).addFlvTags
                  (state.tagsFor connectionName)).1 = _
              rw [no_calls, Function.update_self]
            · show state.reached connectionName ++
                ((Function.update state.loops (loopOf connectionName)
                    { state.loops (loopOf connectionName) with
                      stage := .addingClient connectionName headerBuffer }
                    (loopOf connectionName)).underway connectionName ++
                  ((Function.update state.pullConnections connectionName
                    (.new connectionName) connectionName).addFlvTags
                      (state.tagsFor connectionName)).2) = _
              rw [none_reached, Function.update_self, EventLoop.underway, none_pending, no_calls,
                LoopStage.underway, if_pos rfl]
              rfl
          · exact absurd rfl (impossible headerBuffer)
      · have passed : (state.setStage (loopOf connectionName)
            (.addingClient connectionName headerBuffer)).passedOn name loopOf =
              state.passedOn name loopOf := by
          have held : (LoopStage.addingClient connectionName headerBuffer).underway name = [] :=
            if_neg same
          apply passedOn_setLoop
          rw [EventLoop.underway, EventLoop.underway, stage]
          exact congrArg (· ++ _) held
        refine served.steady (steady_of_same ?_ rfl passed ?_ id) ?_ ?_
        · exact Function.update_of_ne (Ne.symm same) _ _
        · simp [Ne.symm same]
        · exact fun absent other held => absent other (List.mem_append_left _ held)
        · intro inserted_buffer tags inserted
          rcases inserted.concat with ⟨access, -, -⟩ | ⟨earlier, before, -, tags_eq⟩
          · exact absurd (MapAccess.insert.inj access).1 same
          · rw [tags_eq]
            exact (List.append_nil earlier).symm ▸ before
  · exact served

/-- **A viewer leaves**, and is connected no more. -/
theorem Served.onClose (served : state.Served loopOf name) (connectionName : Bytes) :
    (state.onClose connectionName).Served loopOf name := by
  by_cases same : name = connectionName
  · subst same
    constructor
    · intro absent
      obtain ⟨apart, empty⟩ := served.waits absent
      exact ⟨fun listed => apart (List.mem_filter.mp listed).1, empty⟩
    · intro _ _ _ still
      simp only [StreamThreads.onClose, StreamThreads.setConnection, Function.update_self] at still
      exact absurd still onClose_not_connected
  · refine served.unmoved (steady_of_same rfl rfl rfl ?_ ?_) rfl
    · exact List.mem_filter.trans (and_iff_left (decide_eq_true same))
    · intro still
      simpa only [StreamThreads.onClose, StreamThreads.setConnection,
        Function.update_of_ne same] using still

/-! ## Runs -/

theorem served_atStart (connections : Bytes → TcpConnection) :
    (atStart connections).Served loopOf name where
  waits _ := ⟨List.not_mem_nil, rfl⟩
  serves headerBuffer tags inserted _ := by
    obtain ⟨before, after, impossible, -⟩ := inserted
    simp [atStart] at impossible

/-- **Every step keeps the promise to every viewer.** -/
theorem Served.step (served : state.Served loopOf name) (homed : state.Homed loopOf)
    (event : ThreadEvent) : ((machine loopOf).step state event).Served loopOf name := by
  cases event with
  | onNewFlvTag tag => exact served.onNewFlvTag homed tag
  | addFlvTag answer => exact served.addFlvTag answer
  | addClientConnection connectionName headerBuffer =>
      exact served.addClientConnection connectionName headerBuffer
  | sendHeader loop answer => exact served.sendHeader homed loop answer
  | swapPendingFunc loop => exact served.swapPendingFunc loop
  | callPendingFunc loop answer => exact served.callPendingFunc homed loop answer
  | onWritable connectionName answer => exact served.setConnection onWritable_connected
  | shutdown connectionName =>
      exact served.setConnection fun still => absurd still shutdown_not_connected
  | onClose connectionName => exact served.onClose connectionName

theorem run_served (connections : Bytes → TcpConnection) (events : List ThreadEvent)
    (name : Bytes) :
    ((machine loopOf).run (.atStart connections) events).Homed loopOf ∧
      ((machine loopOf).run (.atStart connections) events).Served loopOf name := by
  have kept : ∀ (state : StreamThreads) (event : ThreadEvent),
      state.Homed loopOf ∧ state.Served loopOf name →
        ((machine loopOf).step state event).Homed loopOf ∧
          ((machine loopOf).step state event).Served loopOf name :=
    fun _ event holds => ⟨holds.1.step event, holds.2.step holds.1 event⟩
  have leads : (machine loopOf).Leads (.atStart connections)
      ((machine loopOf).run (.atStart connections) events) := ⟨events, rfl⟩
  exact leads.keeps kept ⟨homed_atStart connections, served_atStart connections⟩

/-! ## Nothing is stuck -/

/-- The kernel would block. -/
def blocked : KernelAnswer := ⟨0, .wouldBlock⟩

theorem sendInLoop_stays (state : StreamThreads) (connectionName data name : Bytes) :
    ((state.sendInLoop connectionName data blocked).connections name).connectionStatus =
      (state.connections name).connectionStatus := by
  simp only [sendInLoop, setConnection, Function.update_apply]
  split
  · next same => rw [same, sendInLoop_connectionStatus _ _ rfl]
  · rfl

theorem send_stays (state : StreamThreads) (thread : LoopThread)
    (connectionName data name : Bytes) :
    ((state.send loopOf thread connectionName data blocked).connections name).connectionStatus =
      (state.connections name).connectionStatus := by
  rw [send]
  split
  · split
    · exact sendInLoop_stays state connectionName data name
    · rfl
  · rfl

/-- How much a loop has to do, with the publisher's calls, each of which may add to it. -/
def work (state : StreamThreads) (loop : Nat) : Nat :=
  6 * state.calls.length + 3 * (state.loops loop).pendingFunc.length +
    (state.loops loop).stage.work

theorem work_setLoop (state : StreamThreads) (loop : Nat) (eventLoop : EventLoop) :
    (state.setLoop loop eventLoop).work loop =
      6 * state.calls.length + 3 * eventLoop.pendingFunc.length + eventLoop.stage.work := by
  rw [work, setLoop_loops, if_pos rfl]
  rfl

theorem send_inLoop_work (state : StreamThreads) (connectionName data : Bytes)
    (answer : KernelAnswer) (loop : Nat) :
    (state.send loopOf (.viewers (loopOf connectionName)) connectionName data answer).work loop =
      state.work loop := by
  rw [send, if_pos rfl]
  split <;> rfl

theorem runInLoop_work (state : StreamThreads) (loop : Nat) (function : PendingFunc)
    (other : Nat) : (state.runInLoop loop function).work other ≤ state.work other + 3 := by
  rw [runInLoop]
  by_cases same : other = loop
  · rw [same, work_setLoop, work, List.length_append, List.length_singleton]
    dsimp only
    omega
  · rw [work, setLoop_loops, if_neg same]
    exact Nat.le_add_right _ 3

/-- A call of `AddFlvTag` leaves less to do, even if it adds a function to the loop. -/
theorem addFlvTag_work {call : Bytes × FlvTag} {calls : List (Bytes × FlvTag)}
    (next : state.calls = call :: calls) (answer : KernelAnswer) (loop : Nat) :
    (state.addFlvTag loopOf answer).work loop < state.work loop := by
  have before : (state.beforeSend call.1 call.2 calls).work loop + 6 = state.work loop := by
    rw [work, work, next, List.length_cons, beforeSend]
    simp only [setPullConnection, setCalls]
    omega
  by_cases connected : (state.connections call.1).connectionStatus = .connected
  · rw [addFlvTag_connected next connected]
    have added := runInLoop_work (state.beforeSend call.1 call.2 calls) (loopOf call.1)
      ⟨call.1, ((state.pullConnections call.1).addFlvTag call.2).2⟩ loop
    omega
  · rw [addFlvTag_dropped next connected]
    omega

/-- **While a loop or the publisher has something to do, one of them can do it**, with no tag
published, no viewer inserted, and no connection lost. -/
theorem exists_step (homed : state.Homed loopOf) (loop : Nat) (busy : 0 < state.work loop)
    (name : Bytes) :
    ∃ event, ((machine loopOf).step state event).work loop < state.work loop ∧
      ((machine loopOf).step state event).accesses = state.accesses ∧
      (((machine loopOf).step state event).connections name).connectionStatus =
        (state.connections name).connectionStatus := by
  cases stage : (state.loops loop).stage with
  | addingClient connectionName headerBuffer =>
      have home : loopOf connectionName = loop := by
        apply homed.home loop
        rw [EventLoop.names, stage]
        exact List.mem_cons_self
      subst home
      refine ⟨.sendHeader (loopOf connectionName) blocked, ?_⟩
      show (state.sendHeader loopOf (loopOf connectionName) blocked).work _ < _ ∧
        (state.sendHeader loopOf (loopOf connectionName) blocked).accesses = _ ∧
        ((state.sendHeader loopOf (loopOf connectionName) blocked).connections name).1 = _
      simp only [sendHeader, stage]
      refine ⟨?_, ?_, send_stays _ _ _ _ _⟩
      · rw [send_inLoop_work, setStage, work_setLoop, work, stage]
        exact Nat.lt_succ_self _
      · rw [send, if_pos rfl]
        split <;> rfl
  | handlingPending functions =>
      refine ⟨.callPendingFunc loop blocked, ?_⟩
      show (state.callPendingFunc loop blocked).work _ < _ ∧
        (state.callPendingFunc loop blocked).accesses = _ ∧
        ((state.callPendingFunc loop blocked).connections name).1 = _
      cases functions with
      | nil =>
          simp only [callPendingFunc, stage]
          refine ⟨?_, rfl, rfl⟩
          rw [setStage, work_setLoop, work, stage]
          exact Nat.lt_succ_self _
      | cons function functions =>
          simp only [callPendingFunc, stage]
          refine ⟨?_, rfl, sendInLoop_stays _ _ _ _⟩
          show (state.setStage loop (.handlingPending functions)).work loop < _
          rw [setStage, work_setLoop, work, stage]
          exact Nat.lt_succ_self _
  | handlingEvents =>
      cases next : state.calls with
      | cons call calls =>
          refine ⟨.addFlvTag blocked, ?_, addFlvTag_accesses blocked, ?_⟩
          · exact addFlvTag_work next blocked loop
          · show ((state.addFlvTag loopOf blocked).connections name).1 = _
            simp only [addFlvTag, next]
            exact send_stays _ _ _ _ _
      | nil =>
          refine ⟨.swapPendingFunc loop, ?_⟩
          show (state.swapPendingFunc loop).work _ < _ ∧
            (state.swapPendingFunc loop).accesses = _ ∧
            ((state.swapPendingFunc loop).connections name).1 = _
          simp only [swapPendingFunc, stage]
          refine ⟨?_, rfl, rfl⟩
          rw [work, next, stage, LoopStage.work] at busy
          rw [work_setLoop, work, stage, next]
          simp only [List.length_nil, LoopStage.work] at busy ⊢
          omega

theorem underway_of_no_work (idle : state.work (loopOf name) = 0) :
    state.underway name loopOf = [] := by
  rw [work] at idle
  have no_calls : state.calls = [] := List.eq_nil_of_length_eq_zero (by omega)
  have no_functions : (state.loops (loopOf name)).pendingFunc = [] :=
    List.eq_nil_of_length_eq_zero (by omega)
  have no_work : (state.loops (loopOf name)).stage.work = 0 := by omega
  rw [underway, afterCalls_idle no_calls, EventLoop.underway, no_functions]
  cases stage : (state.loops (loopOf name)).stage with
  | handlingEvents => rfl
  | addingClient connectionName headerBuffer =>
      rw [stage] at no_work
      cases no_work
  | handlingPending functions =>
      rw [stage] at no_work
      cases no_work

/-- The threads can go on until a loop and the publisher have nothing to do. -/
theorem exists_no_work (homed : state.Homed loopOf) (loop : Nat) (name : Bytes) :
    ∃ later, ((machine loopOf).run state later).work loop = 0 ∧
      ((machine loopOf).run state later).accesses = state.accesses ∧
      (((machine loopOf).run state later).connections name).connectionStatus =
        (state.connections name).connectionStatus := by
  induction left : state.work loop using Nat.strongRecOn generalizing state with
  | ind amount ih =>
      by_cases idle : state.work loop = 0
      · exact ⟨[], idle, rfl, rfl⟩
      · obtain ⟨event, less, accesses, status⟩ :=
          exists_step homed loop (Nat.pos_of_ne_zero idle) name
        obtain ⟨later, done, accesses_later, status_later⟩ :=
          ih _ (left ▸ less) (homed.step event) rfl
        refine ⟨event :: later, done, ?_, ?_⟩
        · exact accesses_later.trans accesses
        · exact status_later.trans status

/-- **A viewer gets the header first and then every tag, in order.** However the publisher's
thread and the loops of the viewers take their steps: when a viewer has been inserted once and
is still connected, the payloads that have reached `SendInLoop` on its connection, and behind
them those that are underway, are the header and one chunk for each tag published since the
insertion, in the order of publication. And the threads can always go on, without another
access to the map, until all of them have reached it. -/
theorem viewer_gets_header_then_tags (loopOf : Bytes → Nat) (connections : Bytes → TcpConnection)
    (events : List ThreadEvent) (name headerBuffer : Bytes) (tags : List FlvTag)
    (inserted : InsertedOnce name headerBuffer tags
      ((machine loopOf).run (.atStart connections) events).accesses)
    (connected : (((machine loopOf).run (.atStart connections) events).connections
      name).connectionStatus = .connected) :
    let payloads := (HttpPullConnection.new name).sendHeaderOnConnection headerBuffer ::
      ((HttpPullConnection.new name).addFlvTags tags).2
    ((machine loopOf).run (.atStart connections) events).reached name ++
        ((machine loopOf).run (.atStart connections) events).underway name loopOf = payloads ∧
      ∃ later,
        ((machine loopOf).run (.atStart connections) (events ++ later)).accesses =
          ((machine loopOf).run (.atStart connections) events).accesses ∧
        (((machine loopOf).run (.atStart connections) (events ++ later)).connections
          name).connectionStatus = .connected ∧
        ((machine loopOf).run (.atStart connections) (events ++ later)).reached name =
          payloads := by
  intro payloads
  obtain ⟨homed, served⟩ := @run_served loopOf connections events name
  refine ⟨(served.serves headerBuffer tags inserted connected).2.2, ?_⟩
  obtain ⟨later, done, accesses, status⟩ := exists_no_work homed (loopOf name) name
  rw [← Machine.run_append] at done accesses status
  obtain ⟨-, served_later⟩ := @run_served loopOf connections (events ++ later) name
  refine ⟨later, accesses, status.trans connected, ?_⟩
  have line := (served_later.serves headerBuffer tags (accesses ▸ inserted)
    (status.trans connected)).2.2
  rwa [StreamThreads.line, underway_of_no_work done, List.append_nil] at line

/-- A tag of some bytes. -/
def bodyTag (body : Bytes) : FlvTag :=
  { FlvTag.new with dataSize := .ofNat body.length, body := body }

/-- A connection that is established. -/
def establishedConnection : TcpConnection := TcpConnection.new.established .done

/-- One tag is published before the viewer comes, one between its insertion and its header, and
one while its loop calls the pending functions. -/
def tagsInBetween : List ThreadEvent :=
  [.onNewFlvTag (bodyTag [1]), .addClientConnection [118] [7], .onNewFlvTag (bodyTag [2]),
    .addFlvTag blocked, .sendHeader 0 blocked, .swapPendingFunc 0, .onNewFlvTag (bodyTag [3]),
    .addFlvTag blocked, .callPendingFunc 0 blocked]

theorem viewer_gets_header_then_tags_inBetween :
    let state := (machine fun _ => 0).run (.atStart fun _ => establishedConnection) tagsInBetween
    state.reached [118] ++ state.underway [118] (fun _ => 0) =
      (HttpPullConnection.new [118]).sendHeaderOnConnection [7] ::
        ((HttpPullConnection.new [118]).addFlvTags [bodyTag [2], bodyTag [3]]).2 :=
  (viewer_gets_header_then_tags (fun _ => 0) (fun _ => establishedConnection) tagsInBetween [118]
    [7] [bodyTag [2], bodyTag [3]]
    ⟨[.publish (bodyTag [1])], [.publish (bodyTag [2]), .publish (bodyTag [3])], by decide +kernel,
      fun _ => by simp, rfl⟩ (by decide +kernel)).1

/-! ## The bytes a viewer is sent -/

/-- While a connection is connected, its bytes are those it started with and those of the
payloads that have reached `SendInLoop`. -/
def BytesReached (connections : Bytes → TcpConnection) (state : StreamThreads) : Prop :=
  ∀ name, (state.connections name).connectionStatus = .connected →
    (state.connections name).bytes = (connections name).bytes ++ (state.reached name).flatten

variable {connections : Bytes → TcpConnection}

theorem BytesReached.sendInLoop (kept : BytesReached connections state)
    (connectionName data : Bytes) (answer : KernelAnswer) :
    BytesReached connections (state.sendInLoop connectionName data answer) := by
  intro name still
  simp only [StreamThreads.sendInLoop, setConnection, Function.update_apply] at still ⊢
  by_cases same : name = connectionName
  · subst same
    rw [if_pos rfl] at still ⊢
    rw [if_pos rfl, TcpConnection.sendInLoop_bytes still, kept name (sendInLoop_connected still),
      List.flatten_append, List.flatten_singleton, List.append_assoc]
  · rw [if_neg same] at still ⊢
    rw [if_neg same]
    exact kept name still

theorem BytesReached.setConnection (kept : BytesReached connections state)
    {connectionName : Bytes} {connection : TcpConnection}
    (same_bytes : connection.connectionStatus = .connected →
      (state.connections connectionName).connectionStatus = .connected ∧
        connection.bytes = (state.connections connectionName).bytes) :
    BytesReached connections (state.setConnection connectionName connection) := by
  intro name still
  simp only [StreamThreads.setConnection, Function.update_apply] at still ⊢
  by_cases same : name = connectionName
  · subst same
    rw [if_pos rfl] at still ⊢
    rw [(same_bytes still).2, kept name (same_bytes still).1]
  · rw [if_neg same] at still ⊢
    exact kept name still

theorem BytesReached.send (kept : BytesReached connections state) (thread : LoopThread)
    (connectionName data : Bytes) (answer : KernelAnswer) :
    BytesReached connections (state.send loopOf thread connectionName data answer) := by
  rw [StreamThreads.send]
  split
  · split
    · exact kept.sendInLoop connectionName data answer
    · exact kept
  · exact kept

/-- **Every step keeps the bytes with the payloads.** -/
theorem BytesReached.step (kept : BytesReached connections state) (event : ThreadEvent) :
    BytesReached connections ((machine loopOf).step state event) := by
  cases event with
  | onNewFlvTag tag =>
      show BytesReached connections (state.onNewFlvTag tag)
      rw [StreamThreads.onNewFlvTag]
      split <;> exact kept
  | addFlvTag answer =>
      show BytesReached connections (state.addFlvTag loopOf answer)
      rw [StreamThreads.addFlvTag]
      split
      · exact kept
      · apply BytesReached.send
        exact kept
  | addClientConnection connectionName headerBuffer =>
      show BytesReached connections (state.addClientConnection loopOf connectionName headerBuffer)
      rw [StreamThreads.addClientConnection]
      split <;> exact kept
  | sendHeader loop answer =>
      show BytesReached connections (state.sendHeader loopOf loop answer)
      rw [StreamThreads.sendHeader]
      split
      · apply BytesReached.send
        exact kept
      · exact kept
  | swapPendingFunc loop =>
      show BytesReached connections (state.swapPendingFunc loop)
      rw [StreamThreads.swapPendingFunc]
      split <;> exact kept
  | callPendingFunc loop answer =>
      show BytesReached connections (state.callPendingFunc loop answer)
      rw [StreamThreads.callPendingFunc]
      split
      · apply BytesReached.sendInLoop
        exact kept
      · exact kept
      · exact kept
  | onWritable connectionName answer =>
      exact kept.setConnection fun still =>
        ⟨onWritable_connected still, onWritable_bytes still⟩
  | shutdown connectionName =>
      exact kept.setConnection fun still => absurd still shutdown_not_connected
  | onClose connectionName =>
      exact @BytesReached.setConnection state connections kept connectionName
        ((state.connections connectionName).onClose .done)
        fun still => absurd still onClose_not_connected

/-- **Every run keeps the bytes with the payloads.** -/
theorem run_bytesReached (loopOf : Bytes → Nat) (connections : Bytes → TcpConnection)
    (events : List ThreadEvent) :
    BytesReached connections ((machine loopOf).run (.atStart connections) events) := by
  have leads : (machine loopOf).Leads (.atStart connections)
      ((machine loopOf).run (.atStart connections) events) := ⟨events, rfl⟩
  have start : BytesReached connections (.atStart connections) :=
    fun _ _ => (List.append_nil _).symm
  have step : ∀ (state : StreamThreads) (event : ThreadEvent), BytesReached connections state →
      BytesReached connections ((machine loopOf).step state event) :=
    fun _ event kept => kept.step event
  exact leads.keeps step start

/-- **What the socket takes is a piece of the stream.** The bytes that the socket of a viewer
has taken are the first bytes of the header and the chunks of its tags. -/
theorem taken_prefix (loopOf : Bytes → Nat) (connections : Bytes → TcpConnection)
    (events : List ThreadEvent) (name headerBuffer : Bytes) (tags : List FlvTag)
    (fresh : (connections name).bytes = [])
    (inserted : InsertedOnce name headerBuffer tags
      ((machine loopOf).run (.atStart connections) events).accesses)
    (connected : (((machine loopOf).run (.atStart connections) events).connections
      name).connectionStatus = .connected) :
    (((machine loopOf).run (.atStart connections) events).connections name).taken <+:
      (HttpPullConnection.new name).sendHeaderOnConnection headerBuffer ++
        ((HttpPullConnection.new name).addFlvTags tags).2.flatten := by
  have bytes := run_bytesReached loopOf connections events name connected
  rw [fresh, List.nil_append] at bytes
  obtain ⟨homed, served⟩ := @run_served loopOf connections events name
  have line := (served.serves headerBuffer tags inserted connected).2.2
  rw [StreamThreads.line] at line
  have whole := congrArg List.flatten line
  rw [List.flatten_append, List.flatten_cons, ← bytes, TcpConnection.bytes,
    List.append_assoc] at whole
  exact ⟨_, whole⟩

end StreamThreads

end LiveBroadcast
