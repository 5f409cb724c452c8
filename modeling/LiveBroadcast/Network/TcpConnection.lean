import LiveBroadcast.Utils.Bytes
import LiveBroadcast.Network.Channel

/-!
# TCP connections in their loop

A `TcpConnection` writes directly while nothing is pending and otherwise appends to
`send_buffer_`, which `OnWritable` empties. The loop thread calls into it in turns: a poll
result is stored in the channel, the channel's events are handled, or a task runs.

What the kernel answers to a send and what the user's callbacks do is input here. A `Script`
is the sequence of calls that user code makes on the connection; a send in it comes with the
kernel's answer, if the kernel is asked, and with the script that the write-complete
callback runs, if it is invoked. What the connection does to the outside is recorded in
`effects`.
-/

set_option autoImplicit false

namespace LiveBroadcast

inductive ConnectionStatus where
  | disconnecting
  | disconnected
  | connecting
  | connected
  deriving DecidableEq, Repr

/-- The values of `errno` that `SendInLoop` tells apart. -/
inductive Errno where
  | wouldBlock
  | pipe
  | connReset
  | other
  deriving DecidableEq, Repr

/-- The kernel's answer to a send: how many bytes it would take, and the `errno` that is
looked at when it takes none. -/
structure KernelAnswer where
  accepted : Nat
  errno : Errno
  deriving DecidableEq, Repr

/-- A send returns at most the offered length. -/
def KernelAnswer.sent (answer : KernelAnswer) (offered : Bytes) : Nat :=
  min answer.accepted offered.length

/-- What a connection does to the outside. -/
inductive NetworkEffect where
  /-- `send` was called with these bytes and took so many of them. -/
  | send (offered : Bytes) (sent : Nat)
  /-- The write half was shut down. -/
  | shutdownWrite
  /-- `connection_callback_` was invoked on a connection that is no longer connected. -/
  | disconnected
  deriving DecidableEq, Repr

/-- `class TcpConnection`, without its receive buffer. -/
structure TcpConnection where
  connectionStatus : ConnectionStatus
  channel : Channel
  sendBuffer : Bytes
  effects : List NetworkEffect
  deriving DecidableEq, Repr

/-- The calls user code makes on a connection, one after the other. -/
inductive Script where
  | done
  | send (data : Bytes) (answer : KernelAnswer) (onComplete : Script) (next : Script)
  | shutdown (next : Script)
  deriving DecidableEq, Repr

namespace TcpConnection

/-- The constructor. -/
def new : TcpConnection := ⟨.connecting, .new, [], []⟩

def record (connection : TcpConnection) (effect : NetworkEffect) : TcpConnection :=
  { connection with effects := connection.effects ++ [effect] }

/-- `Shutdown`. -/
def shutdown (connection : TcpConnection) : TcpConnection :=
  if connection.connectionStatus = .connected then
    let connection := { connection with connectionStatus := .disconnecting }
    if connection.channel.isWriting then connection
    else connection.record .shutdownWrite
  else connection

/-- The end of `SendInLoop`: keep what was not sent and wait for the socket. -/
def keepRemain (connection : TcpConnection) (remain : Bytes) : TcpConnection :=
  if remain = [] then connection
  else
    let connection := { connection with sendBuffer := connection.sendBuffer ++ remain }
    if connection.channel.isWriting then connection
    else { connection with channel := connection.channel.enableWritable }

/-- `SendInLoop`, and whether it invokes `write_complete_callback_`. When it does, all the
data was sent and nothing is left to do behind the callback. -/
def sendInLoop (connection : TcpConnection) (data : Bytes) (answer : KernelAnswer) :
    TcpConnection × Bool :=
  if connection.connectionStatus = .disconnected ∨
      connection.connectionStatus = .disconnecting then
    (connection, false)
  else if !connection.channel.isWriting ∧ connection.sendBuffer = [] then
    let sendSize := answer.sent data
    let connection := connection.record (.send data sendSize)
    if 0 < sendSize then
      (connection.keepRemain (data.drop sendSize), decide (data.drop sendSize = []))
    else if answer.errno = .pipe ∨ answer.errno = .connReset then
      (connection.shutdown, false)
    else
      (connection.keepRemain data, false)
  else
    (connection.keepRemain data, false)

/-- `Send` in the loop thread, with what the write-complete callback does. -/
def send (connection : TcpConnection) (data : Bytes) (answer : KernelAnswer)
    (writeComplete : TcpConnection → TcpConnection) : TcpConnection :=
  if connection.connectionStatus = .connected then
    let step := connection.sendInLoop data answer
    if step.2 then writeComplete step.1 else step.1
  else connection

end TcpConnection

/-- The connection after the calls of a script. -/
def Script.run : Script → TcpConnection → TcpConnection
  | .done, connection => connection
  | .send data answer onComplete next, connection =>
      next.run (connection.send data answer fun drained => onComplete.run drained)
  | .shutdown next, connection => next.run connection.shutdown

namespace TcpConnection

/-- `Established`, with what the connection callback does. -/
def established (connection : TcpConnection) (opening : Script) : TcpConnection :=
  opening.run
    { connection with
      connectionStatus := .connected, channel := connection.channel.enableReadable }

/-- The first half of `OnWritable`: offer the pending bytes, and say whether they are all
gone and the write-complete callback is invoked. -/
def writePending (connection : TcpConnection) (answer : KernelAnswer) : TcpConnection × Bool :=
  if connection.channel.isWriting then
    let sendSize := answer.sent connection.sendBuffer
    let connection := connection.record (.send connection.sendBuffer sendSize)
    if 0 < sendSize then
      let connection := { connection with sendBuffer := connection.sendBuffer.drop sendSize }
      if connection.sendBuffer = [] then
        ({ connection with channel := connection.channel.disableWritable }, true)
      else (connection, false)
    else (connection, false)
  else (connection, false)

/-- `OnWritable`, with what the write-complete callback does. -/
def onWritable (connection : TcpConnection) (answer : KernelAnswer) (onComplete : Script) :
    TcpConnection :=
  let step := connection.writePending answer
  if step.2 then
    let connection := onComplete.run step.1
    if connection.connectionStatus = .disconnecting then connection.shutdown else connection
  else step.1

/-- `OnClose`, with what the connection and the close callback do. -/
def onClose (connection : TcpConnection) (closing : Script) : TcpConnection :=
  closing.run
    ({ connection with
      connectionStatus := .disconnected
      channel := connection.channel.disableAll }.record .disconnected)

/-- `ConnectDestroyed`. -/
def connectDestroyed (connection : TcpConnection) (closing : Script) : TcpConnection :=
  if connection.connectionStatus = .connected then connection.onClose closing else connection

end TcpConnection

/-- The result of reading from the socket, with what the callbacks then do. -/
inductive ReadResult where
  | data (onMessage : Script)
  | endOfStream (closing : Script)
  | failed
  deriving DecidableEq, Repr

/-- `OnReadable`. -/
def TcpConnection.onReadable (connection : TcpConnection) : ReadResult → TcpConnection
  | .data onMessage => onMessage.run connection
  | .endOfStream closing => connection.onClose closing
  | .failed => connection

/-- What the loop thread does with a connection between two states at rest. -/
inductive LoopEvent where
  /-- `FillActiveSocketVector` stores a poll result. -/
  | setEvent (event : EventMask)
  /-- `HandleEvent`, with the answers to the reads and writes it leads to. -/
  | handleEvent (read : ReadResult) (answer : KernelAnswer) (onComplete : Script)
  /-- Other code of the loop thread uses the connection. -/
  | task (script : Script)
  | connectDestroyed (closing : Script)
  deriving DecidableEq, Repr

namespace TcpConnection

/-- The first half of `Channel::HandleEvent`. -/
def handleReadable (connection : TcpConnection) (read : ReadResult) : TcpConnection :=
  if EventMask.readable connection.channel.event then connection.onReadable read
  else connection

/-- `Channel::HandleEvent`. -/
def handleEvent (connection : TcpConnection) (read : ReadResult) (answer : KernelAnswer)
    (onComplete : Script) : TcpConnection :=
  let connection := connection.handleReadable read
  if connection.channel.isWriting then connection.onWritable answer onComplete else connection

/-- One event of the loop. -/
def step (connection : TcpConnection) : LoopEvent → TcpConnection
  | .setEvent event => { connection with channel := connection.channel.setEvent event }
  | .handleEvent read answer onComplete => connection.handleEvent read answer onComplete
  | .task script => script.run connection
  | .connectDestroyed closing => connection.connectDestroyed closing

end TcpConnection

end LiveBroadcast
