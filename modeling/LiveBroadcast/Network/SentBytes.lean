import LiveBroadcast.Network.PendingOutput

/-!
# The bytes of a connection

Bytes handed to `SendInLoop` are taken by the socket or kept in `send_buffer_`, and
`OnWritable` offers what is kept in its order. As long as a connection stays connected, what
was taken and what is kept together are the bytes handed over (`sendInLoop_bytes`,
`onWritable_bytes`). No step of either makes a connection connected.
-/

set_option autoImplicit false

namespace LiveBroadcast

/-- The bytes that the socket took in a step. -/
def NetworkEffect.taken : NetworkEffect → Bytes
  | .send offered sent => offered.take sent
  | .shutdownWrite => []
  | .disconnected => []

namespace TcpConnection

/-- The bytes that the socket has taken. -/
def taken (connection : TcpConnection) : Bytes := connection.effects.flatMap NetworkEffect.taken

/-- The bytes that the socket has taken, and behind them those in `send_buffer_`. -/
def bytes (connection : TcpConnection) : Bytes := connection.taken ++ connection.sendBuffer

variable {connection : TcpConnection}

@[simp] theorem taken_record (connection : TcpConnection) (effect : NetworkEffect) :
    (connection.record effect).taken = connection.taken ++ effect.taken := by
  simp only [taken, record, List.flatMap_append, List.flatMap_cons, List.flatMap_nil,
    List.append_nil]

@[simp] theorem keepRemain_connectionStatus (connection : TcpConnection) (remain : Bytes) :
    (connection.keepRemain remain).connectionStatus = connection.connectionStatus := by
  unfold keepRemain
  dsimp only
  split
  · rfl
  · split <;> rfl

theorem keepRemain_bytes (connection : TcpConnection) (remain : Bytes) :
    (connection.keepRemain remain).bytes = connection.bytes ++ remain := by
  unfold keepRemain
  dsimp only
  split
  · next empty => rw [empty, List.append_nil]
  · split <;> exact (List.append_assoc _ _ _).symm

/-! ## Status -/

/-- What is connected behind `SendInLoop` was connected before. -/
theorem sendInLoop_connected {data : Bytes} {answer : KernelAnswer}
    (connected : (connection.sendInLoop data answer).1.connectionStatus = .connected) :
    connection.connectionStatus = .connected := by
  unfold sendInLoop at connected
  dsimp only at connected
  split at connected
  · exact connected
  · split at connected
    · split at connected
      · rwa [keepRemain_connectionStatus] at connected
      · split at connected
        · exact absurd connected shutdown_not_connected
        · rwa [keepRemain_connectionStatus] at connected
    · rwa [keepRemain_connectionStatus] at connected

/-- An answer that is no fatal error leaves the status. -/
theorem sendInLoop_connectionStatus (connection : TcpConnection) (data : Bytes)
    {answer : KernelAnswer} (mild : answer.errno = .wouldBlock) :
    (connection.sendInLoop data answer).1.connectionStatus = connection.connectionStatus := by
  unfold sendInLoop
  dsimp only
  split
  · rfl
  · split
    · split
      · exact keepRemain_connectionStatus _ _
      · rw [if_neg (by simp [mild])]
        exact keepRemain_connectionStatus _ _
    · exact keepRemain_connectionStatus _ _

theorem writePending_connectionStatus (connection : TcpConnection) (answer : KernelAnswer) :
    (connection.writePending answer).1.connectionStatus = connection.connectionStatus := by
  unfold writePending
  dsimp only
  repeat' split
  all_goals rfl

theorem onWritable_connected {answer : KernelAnswer}
    (connected : (connection.onWritable answer .done).connectionStatus = .connected) :
    connection.connectionStatus = .connected := by
  unfold onWritable at connected
  dsimp only at connected
  rw [← writePending_connectionStatus connection answer]
  split at connected
  · split at connected
    · exact absurd connected shutdown_not_connected
    · exact connected
  · exact connected

theorem onClose_not_connected :
    (connection.onClose .done).connectionStatus ≠ .connected := nofun

/-! ## Bytes -/

/-- **`SendInLoop` takes the bytes on**, unless the connection is not connected behind it. -/
theorem sendInLoop_bytes {data : Bytes} {answer : KernelAnswer}
    (connected : (connection.sendInLoop data answer).1.connectionStatus = .connected) :
    (connection.sendInLoop data answer).1.bytes = connection.bytes ++ data := by
  have before := sendInLoop_connected connected
  unfold sendInLoop at connected ⊢
  dsimp only at connected ⊢
  rw [if_neg (by simp [before])] at connected ⊢
  split at connected
  · next direct =>
      have empty := direct.2
      rw [if_pos direct]
      split at connected
      · next some_sent =>
          rw [if_pos some_sent, keepRemain_bytes, bytes, bytes, taken_record]
          simp only [record, empty, List.append_nil, List.append_assoc, NetworkEffect.taken,
            List.take_append_drop]
      · next none_sent =>
          rw [if_neg none_sent]
          split at connected
          · exact absurd connected shutdown_not_connected
          · next not_fatal =>
              rw [if_neg not_fatal, keepRemain_bytes, bytes, bytes, taken_record]
              have zero : answer.sent data = 0 := Nat.eq_zero_of_not_pos none_sent
              simp only [record, zero, NetworkEffect.taken, List.take_zero, List.append_nil]
  · next pending => rw [if_neg pending, keepRemain_bytes]

/-- `OnWritable` moves bytes from `send_buffer_` to the socket. -/
theorem writePending_bytes (connection : TcpConnection) (answer : KernelAnswer) :
    (connection.writePending answer).1.bytes = connection.bytes := by
  unfold writePending
  dsimp only
  split
  · have moved : (connection.record (.send connection.sendBuffer
        (answer.sent connection.sendBuffer))).taken ++
          connection.sendBuffer.drop (answer.sent connection.sendBuffer) = connection.bytes := by
      rw [taken_record, NetworkEffect.taken, List.append_assoc, List.take_append_drop, bytes]
    split
    · split <;> exact moved
    · next none_sent =>
        have zero : answer.sent connection.sendBuffer = 0 := Nat.eq_zero_of_not_pos none_sent
        rw [zero, List.drop_zero] at moved
        rw [zero]
        exact moved
  · rfl

/-- **`OnWritable` loses nothing**, unless the connection is not connected behind it. -/
theorem onWritable_bytes {answer : KernelAnswer}
    (connected : (connection.onWritable answer .done).connectionStatus = .connected) :
    (connection.onWritable answer .done).bytes = connection.bytes := by
  rw [← writePending_bytes connection answer]
  unfold onWritable at connected ⊢
  dsimp only at connected ⊢
  split at connected
  · next drained =>
      rw [if_pos drained]
      split at connected
      · exact absurd connected shutdown_not_connected
      · next staying => rw [if_neg staying, Script.run]
  · next some_left => rw [if_neg some_left]

end TcpConnection

end LiveBroadcast
