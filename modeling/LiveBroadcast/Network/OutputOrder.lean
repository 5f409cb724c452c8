import LiveBroadcast.Network.Calls
import LiveBroadcast.Network.SentBytes

/-!
# Output bytes keep their order

What is sent on a connection takes one of two ways: the kernel takes it at once, or it waits in
`send_buffer_` for `OnWritable`. Which way depends on the last poll result, which may be stale,
and the write-complete callback may send again in the middle of a `Send`.

Still the bytes the kernel has taken, and behind them those that wait, are what user code has
sent on the connected connection, in the order of its calls (`output_in_order`). Only a send that
fails with `EPIPE` or `ECONNRESET` loses its bytes (`FailsFatally`).
-/

set_option autoImplicit false

namespace LiveBroadcast

namespace TcpConnection

/-- A send of these bytes would ask the kernel and fail with `EPIPE` or `ECONNRESET`. -/
def FailsFatally (connection : TcpConnection) (data : Bytes) (answer : KernelAnswer) : Prop :=
  connection.connectionStatus = .connected ∧ connection.channel.isWriting = false ∧
    connection.sendBuffer = [] ∧ data ≠ [] ∧ answer.accepted = 0 ∧
      (answer.errno = .pipe ∨ answer.errno = .connReset)

instance (connection : TcpConnection) (data : Bytes) (answer : KernelAnswer) :
    Decidable (connection.FailsFatally data answer) :=
  inferInstanceAs (Decidable (_ ∧ _ ∧ _ ∧ _ ∧ _ ∧ _))

end TcpConnection

namespace CallMade

/-- The bytes that a call of `Send` hands over; without a connection it hands over none. -/
def payload (made : CallMade) : Bytes :=
  match made.call with
  | .send data _ => if made.found.connectionStatus = .connected then data else []
  | .shutdown => []

/-- The call is no send that fails for good. -/
def Mild (made : CallMade) : Prop :=
  match made.call with
  | .send data answer => ¬ made.found.FailsFatally data answer
  | .shutdown => True

instance : DecidablePred Mild
  | ⟨found, .send data answer⟩ =>
      inferInstanceAs (Decidable (¬ found.FailsFatally data answer))
  | ⟨_, .shutdown⟩ => inferInstanceAs (Decidable True)

end CallMade

namespace TcpConnection

variable {connection : TcpConnection}

/-- Shutting down moves no bytes. -/
theorem shutdown_bytes (connection : TcpConnection) :
    connection.shutdown.bytes = connection.bytes := by
  rw [shutdown]
  split
  · dsimp only
    split
    · rfl
    · rw [bytes, taken_record]
      exact congrArg (· ++ connection.sendBuffer) (List.append_nil _)
  · rfl

theorem closed_bytes (connection : TcpConnection) : connection.closed.bytes = connection.bytes := by
  rw [closed, bytes, taken_record]
  exact congrArg (· ++ connection.sendBuffer) (List.append_nil _)

/-- **`SendInLoop` takes the bytes on**, unless the send fails for good. A send of no bytes may
find an old `errno` and shut down, and loses nothing. -/
theorem sendInLoop_bytes_of_mild (connected : connection.connectionStatus = .connected)
    {data : Bytes} {answer : KernelAnswer} (mild : ¬ connection.FailsFatally data answer) :
    (connection.sendInLoop data answer).1.bytes = connection.bytes ++ data := by
  by_cases still : (connection.sendInLoop data answer).1.connectionStatus = .connected
  · exact sendInLoop_bytes still
  · unfold sendInLoop at still ⊢
    dsimp only at still ⊢
    rw [if_neg (by simp [connected])] at still ⊢
    split at still
    · next direct =>
        rw [if_pos direct]
        split at still
        · rw [keepRemain_connectionStatus] at still
          exact absurd connected still
        · next none_sent =>
            rw [if_neg none_sent]
            split at still
            · next fatal =>
                have nothing : data = [] := by
                  by_contra some_data
                  have refused : answer.accepted = 0 := by
                    have := List.length_pos_iff.mpr some_data
                    rw [KernelAnswer.sent] at none_sent
                    omega
                  refine mild ⟨connected, ?_, direct.2, some_data, refused, fatal⟩
                  simpa using direct.1
                rw [if_pos fatal, shutdown_bytes, nothing, List.append_nil, bytes, taken_record,
                  NetworkEffect.taken, List.take_nil, List.append_nil]
                rfl
            · rw [keepRemain_connectionStatus] at still
              exact absurd connected still
    · rw [keepRemain_connectionStatus] at still
      exact absurd connected still

end TcpConnection

open TcpConnection

/-- **A script hands its payloads over in the order of its calls.** -/
theorem Script.run_bytes (script : Script) {connection : TcpConnection}
    (mild : ∀ made ∈ script.calls connection, made.Mild) :
    (script.run connection).bytes =
      connection.bytes ++ (script.calls connection).flatMap CallMade.payload := by
  induction script generalizing connection with
  | done => exact (List.append_nil _).symm
  | shutdown next ihNext =>
      rw [calls, List.forall_mem_cons] at mild
      rw [run, ihNext mild.2, shutdown_bytes, calls, List.flatMap_cons]
      rfl
  | send data answer onComplete next ihComplete ihNext =>
      rw [calls, List.forall_mem_cons, List.forall_mem_append] at mild
      obtain ⟨here, inside, later⟩ := mild
      rw [run, ihNext later, calls, List.flatMap_cons, List.flatMap_append, ← List.append_assoc,
        ← List.append_assoc]
      refine congrArg (· ++ _) ?_
      by_cases connected : connection.connectionStatus = .connected
      · have payload : CallMade.payload ⟨connection, .send data answer⟩ = data :=
          if_pos connected
        have sent := sendInLoop_bytes_of_mild connected here
        rw [TcpConnection.send, if_pos connected, payload, ← sent]
        cases complete : (connection.sendInLoop data answer).2 with
        | true =>
            simp only [connected, complete, and_self, if_true] at inside ⊢
            exact ihComplete inside
        | false =>
            simp only [connected, complete, and_false, Bool.false_eq_true, if_false]
            exact (List.append_nil _).symm
      · have payload : CallMade.payload ⟨connection, .send data answer⟩ = [] :=
          if_neg connected
        rw [TcpConnection.send, if_neg connected, payload, if_neg fun both => connected both.1]
        simp only [List.flatMap_nil, List.append_nil]

namespace TcpConnection

variable {connection : TcpConnection}

/-- What a script on a connection that is not connected hands over. -/
theorem calls_closed_payload {script : Script}
    (notConnected : connection.connectionStatus ≠ .connected) :
    (script.calls connection).flatMap CallMade.payload = [] := by
  refine List.flatMap_eq_nil_iff.mpr fun made inside => ?_
  have same := Script.calls_closed notConnected inside
  obtain ⟨found, call⟩ := made
  cases call with
  | send data answer => exact if_neg (same ▸ notConnected)
  | shutdown => rfl

theorem onClose_bytes (connection : TcpConnection) (closing : Script) :
    (connection.onClose closing).bytes =
      connection.bytes ++ (closing.calls connection.closed).flatMap CallMade.payload := by
  rw [onClose_eq, closed_bytes, calls_closed_payload connection.closed_not_connected,
    List.append_nil]

theorem onReadable_bytes {read : ReadResult}
    (mild : ∀ made ∈ connection.readCalls read, made.Mild) :
    (connection.onReadable read).bytes =
      connection.bytes ++ (connection.readCalls read).flatMap CallMade.payload := by
  cases read with
  | data onMessage => exact onMessage.run_bytes mild
  | endOfStream closing => exact connection.onClose_bytes closing
  | failed => exact (List.append_nil _).symm

/-- `OnWritable` moves bytes, and then the write-complete callback may send. -/
theorem onWritable_bytes_of_mild {answer : KernelAnswer} {onComplete : Script}
    (mild : ∀ made ∈ connection.writeCalls answer onComplete, made.Mild) :
    (connection.onWritable answer onComplete).bytes =
      connection.bytes ++
        (connection.writeCalls answer onComplete).flatMap CallMade.payload := by
  rw [onWritable, ← writePending_bytes connection answer]
  rw [writeCalls] at mild ⊢
  dsimp only
  cases complete : (connection.writePending answer).2 with
  | true =>
      rw [complete, if_pos rfl] at mild
      simp only [if_true]
      rw [← onComplete.run_bytes mild]
      split
      · exact shutdown_bytes _
      · rfl
  | false =>
      simp only [Bool.false_eq_true, if_false, List.flatMap_nil, List.append_nil]

/-- **One event of the loop.** -/
theorem step_bytes (connection : TcpConnection) (event : LoopEvent)
    (mild : ∀ made ∈ connection.calls event, made.Mild) :
    (machine.step connection event).bytes =
      connection.bytes ++ (connection.calls event).flatMap CallMade.payload := by
  cases event with
  | setEvent event => exact (List.append_nil _).symm
  | task script => exact script.run_bytes mild
  | connectDestroyed closing =>
      simp only [machine, step, connectDestroyed, calls]
      split
      · exact connection.onClose_bytes closing
      · exact (List.append_nil _).symm
  | handleEvent read answer onComplete =>
      rw [calls, List.forall_mem_append] at mild
      obtain ⟨reading, writing⟩ := mild
      have afterRead : (connection.handleReadable read).bytes = connection.bytes ++
          (if EventMask.readable connection.channel.event then connection.readCalls read
            else []).flatMap CallMade.payload := by
        rw [handleReadable]
        split
        · next readable =>
            rw [if_pos readable] at reading
            exact onReadable_bytes reading
        · exact (List.append_nil _).symm
      simp only [machine, step, handleEvent, calls, List.flatMap_append]
      rw [← List.append_assoc, ← afterRead]
      split
      · next writable =>
          rw [if_pos writable] at writing
          exact onWritable_bytes_of_mild writing
      · exact (List.append_nil _).symm

/-- The calls of user code in a run, from the connection callback on. -/
def runCalls (opening : Script) (events : List LoopEvent) : List CallMade :=
  opening.calls (TcpConnection.new.established .done) ++
    machine.emitted calls (TcpConnection.new.established opening) events

end TcpConnection

/-- **Output bytes are neither lost nor reordered.** In every run of a connection in its loop
thread, whatever user code calls, the kernel answers and polls return: as long as no send has
failed with `EPIPE` or `ECONNRESET`, the bytes that the kernel has taken and behind them those
in `send_buffer_` are the payloads of all calls of `Send` on the connected connection, in the
order of the calls. -/
theorem output_in_order (opening : Script) (events : List LoopEvent)
    (mild : ∀ made ∈ runCalls opening events, made.Mild) :
    (machine.run (TcpConnection.new.established opening) events).taken ++
        (machine.run (TcpConnection.new.established opening) events).sendBuffer =
      (runCalls opening events).flatMap CallMade.payload := by
  rw [runCalls, List.forall_mem_append] at mild
  obtain ⟨opens, runs⟩ := mild
  have opened : (TcpConnection.new.established opening).bytes =
      (opening.calls (TcpConnection.new.established .done)).flatMap CallMade.payload :=
    opening.run_bytes opens
  have run := @Machine.emitted_total _ _ machine _ _ calls CallMade.Mild bytes CallMade.payload
    step_bytes (TcpConnection.new.established opening) events runs
  rw [runCalls, List.flatMap_append, ← opened]
  exact run

/-- The kernel takes four of six bytes, and the rest when it can. The write-complete callback then
sends one more byte, which waits since the poll result is stale; behind it come a send of no
bytes that finds an old error, and one that is too late. -/
def sentInThreeWays : List LoopEvent :=
  [.task (.send [1, 2, 3, 4, 5, 6] ⟨4, .other⟩ .done .done), .setEvent epollOut,
    .handleEvent .failed ⟨9, .other⟩ (.send [7] ⟨1, .other⟩ .done .done),
    .handleEvent .failed ⟨9, .other⟩ .done, .setEvent epollIn,
    .task (.send [] ⟨0, .pipe⟩ .done (.send [8] ⟨1, .other⟩ .done .done))]

theorem output_in_order_sentInThreeWays :
    (machine.run (TcpConnection.new.established .done) sentInThreeWays).taken ++
        (machine.run (TcpConnection.new.established .done) sentInThreeWays).sendBuffer =
      [1, 2, 3, 4, 5, 6, 7] :=
  (output_in_order .done sentInThreeWays (by decide)).trans (by decide)

end LiveBroadcast
