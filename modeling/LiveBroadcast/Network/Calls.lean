import LiveBroadcast.Network.PendingOutput

/-!
# The calls of user code

User code calls `Send` and `Shutdown` from its callbacks and from tasks. `Script.calls` lists
the calls of a script in their order, each with the connection as the call finds it: a call
from the write-complete callback comes behind the `Send` that invoked the callback.
`TcpConnection.calls` does so for an event of the loop.

Calls on a connection that is not connected find it as it is and leave it so.
-/

set_option autoImplicit false

namespace LiveBroadcast

/-- A call of user code, with what the kernel answers if it is asked. -/
inductive UserCall where
  | send (data : Bytes) (answer : KernelAnswer)
  | shutdown
  deriving DecidableEq, Repr

/-- A call, and the connection it finds. -/
structure CallMade where
  found : TcpConnection
  call : UserCall
  deriving DecidableEq, Repr

/-- The calls of a script. -/
def Script.calls : Script → TcpConnection → List CallMade
  | .done, _ => []
  | .send data answer onComplete next, connection =>
      ⟨connection, .send data answer⟩ ::
        ((if connection.connectionStatus = .connected ∧
            (connection.sendInLoop data answer).2 = true then
          onComplete.calls (connection.sendInLoop data answer).1
        else []) ++
          next.calls (connection.send data answer fun drained => onComplete.run drained))
  | .shutdown next, connection => ⟨connection, .shutdown⟩ :: next.calls connection.shutdown

namespace TcpConnection

/-- The connection that the callbacks of `OnClose` find. -/
def closed (connection : TcpConnection) : TcpConnection :=
  { connection with
    connectionStatus := .disconnected
    channel := connection.channel.disableAll }.record .disconnected

/-- The calls from `OnReadable`. -/
def readCalls (connection : TcpConnection) : ReadResult → List CallMade
  | .data onMessage => onMessage.calls connection
  | .endOfStream closing => closing.calls connection.closed
  | .failed => []

/-- The calls from `OnWritable`. -/
def writeCalls (connection : TcpConnection) (answer : KernelAnswer) (onComplete : Script) :
    List CallMade :=
  if (connection.writePending answer).2 then onComplete.calls (connection.writePending answer).1
  else []

/-- The calls of user code while an event is handled. -/
def calls (connection : TcpConnection) : LoopEvent → List CallMade
  | .setEvent _ => []
  | .handleEvent read answer onComplete =>
      (if EventMask.readable connection.channel.event then connection.readCalls read else []) ++
        if (connection.handleReadable read).channel.isWriting then
          (connection.handleReadable read).writeCalls answer onComplete
        else []
  | .task script => script.calls connection
  | .connectDestroyed closing =>
      if connection.connectionStatus = .connected then closing.calls connection.closed else []

end TcpConnection

open TcpConnection

/-- **Calls on a connection that is not connected** all find it as it is. -/
theorem Script.calls_closed {script : Script} {connection : TcpConnection}
    (notConnected : connection.connectionStatus ≠ .connected) {made : CallMade}
    (inside : made ∈ script.calls connection) : made.found = connection := by
  induction script with
  | done => cases inside
  | send data answer onComplete next _ ihNext =>
      have same : connection.send data answer (fun drained => onComplete.run drained) =
          connection := by rw [TcpConnection.send, if_neg notConnected]
      rw [calls, if_neg fun both => notConnected both.1, same, List.nil_append] at inside
      rcases List.mem_cons.mp inside with rfl | later
      · rfl
      · exact ihNext later
  | shutdown next ihNext =>
      have same : connection.shutdown = connection := by
        rw [TcpConnection.shutdown, if_neg notConnected]
      rw [calls, same] at inside
      rcases List.mem_cons.mp inside with rfl | later
      · rfl
      · exact ihNext later

namespace TcpConnection

variable {connection : TcpConnection}

theorem closed_not_connected (connection : TcpConnection) :
    connection.closed.connectionStatus ≠ .connected := by
  intro impossible
  cases impossible

theorem onClose_eq (connection : TcpConnection) (closing : Script) :
    connection.onClose closing = connection.closed :=
  closing.run_closed connection.closed_not_connected

theorem keepRemain_effects (connection : TcpConnection) (remain : Bytes) :
    (connection.keepRemain remain).effects = connection.effects := by
  unfold keepRemain
  dsimp only
  split
  · rfl
  · split <;> rfl

/-! ## The poll result -/

theorem update_event (channel : Channel) : channel.update.event = channel.event := by
  rw [Channel.update]
  split <;> rfl

theorem keepRemain_event (connection : TcpConnection) (remain : Bytes) :
    (connection.keepRemain remain).channel.event = connection.channel.event := by
  unfold keepRemain
  dsimp only
  split
  · rfl
  · split
    · rfl
    · exact update_event _

@[simp] theorem shutdown_channel (connection : TcpConnection) :
    connection.shutdown.channel = connection.channel := by
  unfold shutdown
  dsimp only
  split
  · split <;> rfl
  · rfl

theorem sendInLoop_event (connection : TcpConnection) (data : Bytes) (answer : KernelAnswer) :
    (connection.sendInLoop data answer).1.channel.event = connection.channel.event := by
  unfold sendInLoop
  dsimp only
  split
  · rfl
  · split
    · split
      · exact keepRemain_event _ _
      · split
        · rw [shutdown_channel]
          rfl
        · exact keepRemain_event _ _
    · exact keepRemain_event _ _

theorem closed_event (connection : TcpConnection) :
    connection.closed.channel.event = connection.channel.event := rfl

end TcpConnection

/-- User code leaves the poll result. -/
theorem Script.run_event (script : Script) (connection : TcpConnection) :
    (script.run connection).channel.event = connection.channel.event := by
  induction script generalizing connection with
  | done => rfl
  | shutdown next ihNext => rw [run, ihNext, shutdown_channel]
  | send data answer onComplete next ihComplete ihNext =>
      rw [run, ihNext, TcpConnection.send]
      dsimp only
      split
      · split
        · rw [ihComplete, sendInLoop_event]
        · exact sendInLoop_event _ _ _
      · rfl

/-- So does the read handler. -/
theorem TcpConnection.handleReadable_event (connection : TcpConnection) (read : ReadResult) :
    (connection.handleReadable read).channel.event = connection.channel.event := by
  rw [handleReadable]
  split
  · cases read with
    | data onMessage => exact onMessage.run_event connection
    | endOfStream closing => rw [onReadable, onClose_eq, closed_event]
    | failed => rfl
  · rfl

end LiveBroadcast
