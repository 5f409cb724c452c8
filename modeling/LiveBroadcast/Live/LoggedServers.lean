import LiveBroadcast.Live.LogRecords

/-!
# The servers with what they log

`OnShakeHandSuccess` logs the path of a publisher and `OnClientMessage` the target of a request,
both as they were sent. In `LiveServer` and `PullServer` these statements are left out. Here they
are carried out: a record that goes on behind its array is a fault, as any other is.

An event comes with what its record finds around it. The servers with their log statements are
the servers without them, as long as the records have room (`loggedMachine_run_iff`): what is
known of the runs of the latter is known of the runs of the former. The other log statements of
the two servers stream literals, numbers and the names that the server itself gives its
connections, and are left out here too.
-/

set_option autoImplicit false

namespace LiveBroadcast

/-! ## Publishers -/

namespace Publisher

variable {build : Build} {environment : ReadEnvironment} {moment : LogMoment}
  {publisher : Publisher} {data : Bytes} {outcome : ReadOutcome}

/-- `OnReadable`; a success of the handshake is logged behind the entry in the map. -/
def loggedOnReadable (build : Build) (environment : ReadEnvironment) (moment : LogMoment)
    (publisher : Publisher) (data : Bytes) : Except Fault ReadOutcome := do
  let outcome ← publisher.onReadable build environment data
  match outcome.registered with
  | none => return outcome
  | some path => do
      writeRecord (RtmpPushServer.onShakeHandSuccessLog moment
        publisher.pushConnection.connectionName path)
      return outcome

/-- There is room for the path in the record of its success. -/
def HasRoomFor (publisher : Publisher) (moment : LogMoment) (path : Bytes) : Prop :=
  moment.HasRoom .info (74 + publisher.pushConnection.connectionName.length + path.length)

/-- **A read with its log statement** is the read, when there is room for the path that it
registers. -/
theorem loggedOnReadable_ok_iff :
    publisher.loggedOnReadable build environment moment data = .ok outcome ↔
      publisher.onReadable build environment data = .ok outcome ∧
        ∀ path, outcome.registered = some path → publisher.HasRoomFor moment path := by
  rw [loggedOnReadable]
  cases read : publisher.onReadable build environment data with
  | error fault => exact iff_of_false nofun fun both => nomatch both.1
  | ok made =>
      simp only [bind, Except.bind, pure, Except.pure]
      cases registered : made.registered with
      | none =>
          refine ⟨fun same => ?_, fun both => both.1⟩
          obtain rfl := Except.ok.inj same
          refine ⟨rfl, fun path some_path => ?_⟩
          rw [registered] at some_path
          cases some_path
      | some path =>
          have room := RtmpPushServer.onShakeHandSuccessLog_iff moment
            publisher.pushConnection.connectionName path
          dsimp only
          cases written : writeRecord (RtmpPushServer.onShakeHandSuccessLog moment
              publisher.pushConnection.connectionName path) with
          | error fault =>
              refine iff_of_false nofun fun both => ?_
              obtain rfl := Except.ok.inj both.1
              rw [room.mpr (both.2 path registered)] at written
              cases written
          | ok _ =>
              refine ⟨fun same => ?_, fun both => both.1⟩
              obtain rfl := Except.ok.inj same
              refine ⟨rfl, fun other same_path => ?_⟩
              rw [registered] at same_path
              obtain rfl := Option.some.inj same_path
              exact room.mp written

end Publisher

/-! ## Requests -/

namespace LiveServer

variable {build : Build} {server next : LiveServer} {moment : LogMoment}
  {connectionName data : Bytes}

/-- The log statement of `OnClientMessage`, behind the lookup. -/
def logRequest (server : LiveServer) (moment : LogMoment) (connectionName data : Bytes) :
    Except Fault Unit := do
  let url ← requestKey data
  match server.registered url with
  | some _ => writeRecord (HttpPullServer.successLog moment connectionName url)
  | none => writeRecord (HttpPullServer.failedLog moment connectionName url)

/-- There is room for the target of a request in its record. -/
def HasRoomFor (server : LiveServer) (moment : LogMoment) (connectionName url : Bytes) : Prop :=
  moment.HasRoom .info
    ((if (server.registered url).isSome then 92 else 91) + connectionName.length + url.length)

theorem logRequest_ok_iff :
    server.logRequest moment connectionName data = .ok () ↔
      ∃ url, requestKey data = .ok url ∧ server.HasRoomFor moment connectionName url := by
  rw [logRequest]
  cases key : requestKey data with
  | error fault =>
      refine iff_of_false (fun made => ?_) ?_
      · cases made
      · rintro ⟨_, made, _⟩
        cases made
  | ok url =>
      simp only [bind, Except.bind, Except.ok.injEq, exists_eq_left', HasRoomFor]
      cases server.registered url with
      | none => exact HttpPullServer.failedLog_iff moment connectionName url
      | some found => exact HttpPullServer.successLog_iff moment connectionName url

/-- A request that is handled has a key. -/
theorem onClientMessage_key {unset : HeaderUnset}
    (made : server.onClientMessage build connectionName data unset = .ok next) :
    ∃ url, requestKey data = .ok url := by
  rw [onClientMessage, getPushConn_eq] at made
  cases key : requestKey data with
  | error fault =>
      rw [key] at made
      cases made
  | ok url => exact ⟨url, rfl⟩

/-! ## The servers -/

/-- One call from a loop, with its log statement. -/
def loggedStep (build : Build) (server : LiveServer) :
    LiveEvent × LogMoment → Except Fault LiveServer
  | (.readable id data environment, moment) =>
      match server.publishers id with
      | none => .ok server
      | some publisher => do
          let _ ← publisher.loggedOnReadable build environment moment data
          server.step build (.readable id data environment)
  | (.clientMessage connectionName data unset, moment) => do
      server.logRequest moment connectionName data
      server.step build (.clientMessage connectionName data unset)
  | (event, _) => server.step build event

/-- The servers with their log statements as a machine. -/
def loggedMachine (build : Build) : Machine (Except Fault LiveServer) (LiveEvent × LogMoment) :=
  .faulting (loggedStep build)

/-- What an event logs has room in its record. -/
def LogsWithRoom (build : Build) (server : LiveServer) : LiveEvent × LogMoment → Prop
  | (.readable id data environment, moment) => ∀ publisher, server.publishers id = some publisher →
      ∀ outcome, publisher.onReadable build environment data = .ok outcome →
        ∀ path, outcome.registered = some path → publisher.HasRoomFor moment path
  | (.clientMessage connectionName data _, moment) => ∀ url, requestKey data = .ok url →
      server.HasRoomFor moment connectionName url
  | _ => True

/-- **A step with its log statement** is the step, when there is room for what it logs. -/
theorem loggedStep_ok_iff (server : LiveServer) (input : LiveEvent × LogMoment)
    (next : LiveServer) :
    server.loggedStep build input = .ok next ↔
      server.LogsWithRoom build input ∧ server.step build input.1 = .ok next := by
  obtain ⟨event, moment⟩ := input
  cases event with
  | readable id data environment =>
      simp only [loggedStep, LogsWithRoom]
      cases there : server.publishers id with
      | none =>
          simp only [step, onReadable, there]
          exact (and_iff_right (by simp)).symm
      | some publisher =>
          simp only [Option.some.injEq, forall_eq', bind, Except.bind]
          cases read : publisher.onReadable build environment data with
          | error fault =>
              have faults : publisher.loggedOnReadable build environment moment data =
                  .error fault := by
                rw [Publisher.loggedOnReadable, read]
                rfl
              simp only [faults, step, onReadable, there, read]
              exact iff_of_false (by simp) (by simp)
          | ok outcome =>
              simp only [Except.ok.injEq, forall_eq']
              have room := @Publisher.loggedOnReadable_ok_iff build environment moment publisher
                data outcome
              rw [read, and_iff_right rfl] at room
              rw [← room]
              cases logged : publisher.loggedOnReadable build environment moment data with
              | error fault => exact iff_of_false (by simp) (by simp)
              | ok made =>
                  have same := (Publisher.loggedOnReadable_ok_iff.mp logged).1
                  rw [read] at same
                  exact (and_iff_right same.symm).symm
  | clientMessage connectionName data unset =>
      simp only [loggedStep, LogsWithRoom, bind, Except.bind]
      have room := @logRequest_ok_iff server moment connectionName data
      cases logged : server.logRequest moment connectionName data with
      | error fault =>
          rw [logged] at room
          refine iff_of_false (by simp) fun both => ?_
          obtain ⟨url, key⟩ := onClientMessage_key both.2
          cases room.mpr ⟨url, key, both.1 url key⟩
      | ok _ =>
          obtain ⟨url, key, enough⟩ := room.mp logged
          refine (and_iff_right fun other same => ?_).symm
          rw [key] at same
          exact Except.ok.inj same ▸ enough
  | connect | close | clientClose => exact (and_iff_right trivial).symm

/-- **The servers with their log statements** reach what they reach without them, as long as
there is room for what they log. -/
theorem loggedMachine_run_iff {start state : LiveServer} {inputs : List (LiveEvent × LogMoment)} :
    (loggedMachine build).run (.ok start) inputs = .ok state ↔
      (machine build).run (.ok start) (inputs.map Prod.fst) = .ok state ∧
        ∀ before input, before ++ [input] <+: inputs → ∀ middle,
          (machine build).run (.ok start) (before.map Prod.fst) = .ok middle →
            middle.LogsWithRoom build input :=
  Machine.faulting_run_checked_iff loggedStep_ok_iff

end LiveServer

/-! ## The viewers' side -/

namespace PullServer

/-- `HttpPullServer::OnClientMessage` with its log statement. -/
def loggedOnClientMessage (build : Build) (moment : LogMoment) (state : PullServer)
    (connectionName data : Bytes) (unset : HeaderUnset) : Except Fault PullServer := do
  state.live.logRequest moment connectionName data
  state.onClientMessage build connectionName data unset

variable {build : Build} {moment : LogMoment} {state after : PullServer}
  {connectionName data : Bytes} {unset : HeaderUnset}

/-- **A request with its log statement** is the request, when there is room for its target. -/
theorem loggedOnClientMessage_ok_iff :
    state.loggedOnClientMessage build moment connectionName data unset = .ok after ↔
      state.live.logRequest moment connectionName data = .ok () ∧
        state.onClientMessage build connectionName data unset = .ok after := by
  simp only [loggedOnClientMessage, bind, Except.bind]
  cases state.live.logRequest moment connectionName data with
  | error fault => exact iff_of_false nofun fun both => nomatch both.1
  | ok _ => exact (and_iff_right rfl).symm

/-- A request is handled: `OnClientMessage` returns, and has shut the connection of the viewer
down if no publisher is registered under the path. -/
def HandlesRequest (build : Build) (moment : LogMoment) (state : PullServer)
    (connectionName data : Bytes) (unset : HeaderUnset) : Prop :=
  ∃ after, state.loggedOnClientMessage build moment connectionName data unset = .ok after ∧
    (state.live.registered (requestTarget data).tail = none →
      after.viewers connectionName = (state.viewers connectionName).shutdown)

/-- **Requests are handled exactly when they have a target that fits the log, and its publisher
a header.** For every state of the servers and every bytes of a request: `OnClientMessage`
returns normally, and shuts the viewer down if no publisher matches, if and only if the target
of the request is not empty, the publisher registered under it, if there is one, can send a
header, and there is room for the target in the record that is made of it. -/
theorem onClientMessage_handles_iff (moment : LogMoment) (state : PullServer)
    (connectionName : Bytes) {data : Bytes} (short : data.length < npos) (unset : HeaderUnset) :
    state.HandlesRequest build moment connectionName data unset ↔
      requestTarget data ≠ [] ∧
        (∀ id publisher,
          state.live.registered (requestTarget data).tail = some (id, publisher) →
            publisher.pushConnection.HasHeader) ∧
        moment.HasRoom .info
          ((if (state.live.registered (requestTarget data).tail).isSome then 92 else 91) +
            connectionName.length + (requestTarget data).tail.length) := by
  have answers := @onClientMessage_answers_iff build state connectionName data short unset
  have logs := @LiveServer.logRequest_ok_iff state.live moment connectionName data
  have same : state.HandlesRequest build moment connectionName data unset ↔
      state.live.logRequest moment connectionName data = .ok () ∧
        state.AnswersRequest build connectionName data unset := by
    simp only [HandlesRequest, AnswersRequest, loggedOnClientMessage_ok_iff, and_assoc,
      exists_and_left]
  rw [same, answers, logs, requestKey_eq short]
  by_cases empty : requestTarget data = []
  · exact iff_of_false (fun both => both.2.1 empty) fun all => all.1 empty
  · rw [if_neg empty]
    simp only [Except.ok.injEq, exists_eq_left', LiveServer.HasRoomFor]
    exact ⟨fun both => ⟨both.2.1, both.2.2, both.1⟩, fun all => ⟨all.2.2, all.1, all.2.1⟩⟩

/-- `GET / HTTP`, when no publisher is there. -/
theorem onClientMessage_handles_iff_slash :
    PullServer.empty.HandlesRequest .standard infoMoment [1]
      [71, 69, 84, 32, 47, 32, 72, 84, 84, 80] ⟨0, 0, 0⟩ := by
  refine (onClientMessage_handles_iff _ PullServer.empty [1] (by decide) ⟨0, 0, 0⟩).mpr
    ⟨?_, ?_, ?_⟩
  · decide
  · intro id publisher known
    cases known
  · exact .inr (by decide)

/-- **Requests end the process.** Two blanks behind each other: the target is empty, and cutting
off its first byte raises `out_of_range`. A target of 600 letters: its record goes on behind the
array. -/
theorem requests_fault :
    PullServer.empty.loggedOnClientMessage .standard infoMoment [1]
        [71, 69, 84, 32, 32, 72, 84, 84, 80] ⟨0, 0, 0⟩ = .error .outOfRange ∧
      ¬ PullServer.empty.HandlesRequest .standard infoMoment [1]
        [71, 69, 84, 32, 32, 72, 84, 84, 80] ⟨0, 0, 0⟩ ∧
      ¬ PullServer.empty.HandlesRequest .standard infoMoment [1] longRequest ⟨0, 0, 0⟩ := by
  have fault : PullServer.empty.loggedOnClientMessage .standard infoMoment [1]
      [71, 69, 84, 32, 32, 72, 84, 84, 80] ⟨0, 0, 0⟩ = .error .outOfRange := rfl
  refine ⟨fault, ?_, ?_⟩
  · rintro ⟨after, made, -⟩
    rw [fault] at made
    cases made
  · rintro ⟨after, made, -⟩
    obtain ⟨url, key, room⟩ := LiveServer.logRequest_ok_iff.mp
      (loggedOnClientMessage_ok_iff.mp made).1
    have short : longRequest.length < npos := by
      rw [longRequest_length]
      decide
    rw [requestKey_eq short, requestTarget_longRequest, if_neg (by simp [longTarget])] at key
    obtain rfl := Except.ok.inj key
    rcases room with below | fits
    · exact absurd below (Nat.lt_irrefl _)
    · rw [List.length_tail, longTarget_length] at fits
      exact absurd (le_trans (Nat.le_add_left _ _) (le_trans (Nat.le_add_right _ _) fits))
        (by decide)

end PullServer

end LiveBroadcast
