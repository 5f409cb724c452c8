import Mathlib.Data.List.TakeWhile
import LiveBroadcast.Live.Addresses
import LiveBroadcast.Live.PullServer

/-!
# The bytes of a request

`OnClientMessage` takes whatever a viewer sends as one request. `GetUrl` cuts out what stands
between the first two blanks; its arithmetic on positions wraps where a blank is missing, and
wraps so that nothing is raised: without a blank it returns all bytes, with one blank all
behind it (`getUrl_eq`). The target that it returns can however be empty, and then the
`substr(1)` on it starts behind its end.

**Main.** Apart from its log statement, a request is answered without a fault exactly when its
target is not empty and the publisher that it names, if there is one, has the header that the
viewer is to be sent (`onClientMessage_answers_iff`).
-/

set_option autoImplicit false

namespace LiveBroadcast

/-! ## The target of a request -/

/-- What stands between the first two blanks of a request, up to its end if there is only
one, and the whole request if there is none. -/
def requestTarget (data : Bytes) : Bytes :=
  match data.dropWhile (· ≠ 32) with
  | [] => data
  | _ :: rest => rest.takeWhile (· ≠ 32)

theorem not_blank {front : Bytes} (absent : 32 ∉ front) :
    ∀ byte ∈ front, decide (byte ≠ 32) = true := by
  intro byte inside
  apply decide_eq_true
  rintro rfl
  exact absent inside

theorem requestTarget_no_blank {data : Bytes} (absent : 32 ∉ data) :
    requestTarget data = data := by
  rw [requestTarget, List.dropWhile_eq_nil_iff.mpr (not_blank absent)]

theorem requestTarget_blank {front : Bytes} (absent : 32 ∉ front) (rest : Bytes) :
    requestTarget (front ++ 32 :: rest) = rest.takeWhile (· ≠ 32) := by
  rw [requestTarget, List.dropWhile_append_of_pos (not_blank absent)]
  rfl

/-- A byte that does not come any more is not found. -/
theorem find_absent {str : Bytes} {byte : UInt8} {pos : Nat} (absent : byte ∉ str.drop pos) :
    find str [byte] pos = npos := by
  rcases find_cases str [byte] pos with ⟨behind, -, here, -⟩ | ⟨nowhere, -⟩
  · have inside : byte ∈ str.drop (find str [byte] pos) := here.subset List.mem_cons_self
    exact absurd (List.drop_subset_drop_left str behind inside) absent
  · exact nowhere

/-- **`GetUrl` returns the target of a request**, whatever its bytes. -/
theorem Format.getUrl_eq {data : Bytes} (short : data.length < npos) :
    getUrl data = .ok (requestTarget data) := by
  have limit : npos = 2 ^ 64 - 1 := rfl
  by_cases blank : 32 ∈ data
  · obtain ⟨front, rest, rfl, absent⟩ := List.eq_append_cons_of_mem blank
    rw [List.length_append, List.length_cons] at short
    have first : find (front ++ 32 :: rest) [32] 0 = front.length := by
      have found := @find_byte [] front rest 32 absent
      simpa using found
    have begins : addSize front.length 1 = front.length + 1 := by
      rw [addSize]
      omega
    have behind : (front ++ 32 :: rest).drop (front.length + 1) = rest := by
      rw [List.drop_append, List.drop_of_length_le (Nat.le_succ _), Nat.add_sub_cancel_left]
      rfl
    have inside : ¬ (front ++ 32 :: rest).length < front.length + 1 := by
      rw [List.length_append, List.length_cons]
      omega
    simp only [getUrl, first, begins]
    rw [substr, if_neg inside, behind, requestTarget_blank absent]
    refine congrArg Except.ok ?_
    by_cases second : 32 ∈ rest
    · obtain ⟨middle, more, rfl, apart⟩ := List.eq_append_cons_of_mem second
      rw [List.length_append, List.length_cons] at short
      have ends : find (front ++ 32 :: (middle ++ 32 :: more)) [32] (front.length + 1) =
          front.length + 1 + middle.length := by
        have found := @find_byte (front ++ [32]) middle more 32 apart
        simpa using found
      have count : subSize (front.length + 1 + middle.length) (front.length + 1) =
          middle.length := by
        rw [subSize]
        omega
      rw [ends, count, List.take_left, List.takeWhile_append_of_pos (not_blank apart)]
      exact (List.append_nil middle).symm
    · rw [find_absent (by rwa [behind]), List.takeWhile_eq_self_iff.mpr (not_blank second)]
      apply List.take_of_length_le
      rw [subSize]
      omega
  · have starts : addSize npos 1 = 0 := rfl
    have all : subSize npos 0 = npos := rfl
    have nowhere : find data [32] 0 = npos := find_absent blank
    simp only [getUrl, nowhere, starts, all]
    rw [substr, if_neg (Nat.not_lt_zero _), requestTarget_no_blank blank]
    exact congrArg Except.ok (List.take_of_length_le (Nat.le_of_lt short))

theorem requestTarget_sublist (data : Bytes) : (requestTarget data).Sublist data := by
  rw [requestTarget]
  cases behind : data.dropWhile (· ≠ 32) with
  | nil => exact List.Sublist.refl data
  | cons blank rest =>
      have inside : (blank :: rest).Sublist data := behind ▸ List.dropWhile_sublist _
      exact (List.takeWhile_sublist _).trans ((List.sublist_cons_self blank rest).trans inside)

/-- **The key of a request** is its target without the first byte, if it has one. -/
theorem requestKey_eq {data : Bytes} (short : data.length < npos) :
    requestKey data =
      if requestTarget data = [] then .error .outOfRange else .ok (requestTarget data).tail := by
  have length := (requestTarget_sublist data).length_le
  simp only [requestKey, Format.getUrl_eq short, bind, Except.bind]
  cases target : requestTarget data with
  | nil => rfl
  | cons first path =>
      rw [target, List.length_cons] at length
      have cut : substr (first :: path) 1 npos = .ok path := by
        rw [substr, if_neg (by rw [List.length_cons]; omega), List.drop_succ_cons, List.drop_zero,
          List.take_of_length_le (by omega)]
      rw [cut, if_neg (List.cons_ne_nil first path), List.tail_cons]

/-! ## The publisher of a request -/

/-- A header can be sent: it is built, or the packs for it are there. -/
def RtmpPushConnection.HasHeader (connection : RtmpPushConnection) : Prop :=
  connection.headerBuffer ≠ [] ∨
    connection.rtmpManager.rtmpCodec.firstScriptPack.isSome ∧
      connection.rtmpManager.rtmpCodec.firstVideoPack.isSome

namespace RtmpPushConnection

variable {build : Build} {unset : HeaderUnset} {connection : RtmpPushConnection}

theorem transformHeaderPacks_ok_iff :
    (∃ transformed, connection.transformHeaderPacks build unset = .ok transformed) ↔
      connection.rtmpManager.rtmpCodec.firstScriptPack.isSome ∧
        connection.rtmpManager.rtmpCodec.firstVideoPack.isSome := by
  constructor
  · rintro ⟨transformed, made⟩
    rw [transformHeaderPacks] at made
    cases script : connection.rtmpManager.rtmpCodec.firstScriptPack with
    | none =>
        simp only [script, transformPack, bind, Except.bind] at made
        cases made
    | some scriptPack =>
        cases video : connection.rtmpManager.rtmpCodec.firstVideoPack with
        | none =>
            simp only [script, video, transformPack, bind, Except.bind] at made
            cases made
        | some videoPack => exact ⟨rfl, rfl⟩
  · rintro ⟨script, video⟩
    obtain ⟨scriptPack, hasScript⟩ := Option.isSome_iff_exists.mp script
    obtain ⟨videoPack, hasVideo⟩ := Option.isSome_iff_exists.mp video
    obtain ⟨transformed, made, -⟩ :=
      @transformHeaderPacks_present build unset connection _ _ _ hasScript hasVideo rfl
    exact ⟨transformed, made⟩

/-- **A viewer can be attached** to a publisher that has a header for it. -/
theorem addClientConnection_ok_iff {client : HttpPullConnection} :
    (∃ added, connection.addClientConnection build unset client = .ok added) ↔
      connection.HasHeader := by
  by_cases empty : connection.headerBuffer = []
  · have same : (∃ added, connection.addClientConnection build unset client = .ok added) ↔
        ∃ transformed, connection.transformHeaderPacks build unset = .ok transformed := by
      rw [addClientConnection_empty empty]
      cases connection.transformHeaderPacks build unset with
      | error fault =>
          exact iff_of_false (fun ⟨_, made⟩ => by cases made) fun ⟨_, made⟩ => by cases made
      | ok transformed => exact iff_of_true ⟨_, rfl⟩ ⟨_, rfl⟩
    rw [same, transformHeaderPacks_ok_iff, HasHeader, or_iff_right (not_not_intro empty)]
  · rw [addClientConnection_kept empty]
    exact iff_of_true ⟨_, rfl⟩ (.inl empty)

end RtmpPushConnection

/-- The publisher that is registered under a path. -/
def LiveServer.registered (server : LiveServer) (path : Bytes) : Option (Nat × Publisher) :=
  (server.registry.getPushConnByUrl path).bind fun id => (server.publishers id).map (id, ·)

/-! ## Requests -/

namespace PullServer

/-- A request is answered: `OnClientMessage` returns, and has shut the connection of the viewer
down if no publisher is registered under the path. -/
def AnswersRequest (build : Build) (state : PullServer) (connectionName data : Bytes)
    (unset : HeaderUnset) : Prop :=
  ∃ after, state.onClientMessage build connectionName data unset = .ok after ∧
    (state.live.registered (requestTarget data).tail = none →
      after.viewers connectionName = (state.viewers connectionName).shutdown)

/-- **Requests are answered exactly when they have a target and its publisher a header.** For
every state of the servers and every bytes of a request, its log statement left out. -/
theorem onClientMessage_answers_iff {build : Build} (state : PullServer) (connectionName : Bytes)
    {data : Bytes} (short : data.length < npos) (unset : HeaderUnset) :
    state.AnswersRequest build connectionName data unset ↔
      requestTarget data ≠ [] ∧
        ∀ id publisher,
          state.live.registered (requestTarget data).tail = some (id, publisher) →
            publisher.pushConnection.HasHeader := by
  have found := state.live.getPushConn_eq data
  rw [requestKey_eq short] at found
  by_cases empty : requestTarget data = []
  · rw [if_pos empty] at found
    refine iff_of_false ?_ fun target => target.1 empty
    rintro ⟨after, made, -⟩
    simp only [onClientMessage, found, Except.map, bind, Except.bind] at made
    cases made
  · rw [if_neg empty] at found
    rw [and_iff_right empty]
    have answer : state.live.getPushConn data =
        .ok (state.live.registered (requestTarget data).tail) := found
    cases registered : state.live.registered (requestTarget data).tail with
    | none =>
        rw [registered] at answer
        refine iff_of_true ⟨_, onClientMessage_refuses answer, fun _ => ?_⟩ ?_
        · rw [setViewer_viewers, if_pos rfl]
        · intro id publisher other
          cases other
    | some entry =>
        obtain ⟨id, publisher⟩ := entry
        rw [registered] at answer
        have granted := @onClientMessage_attaches build state connectionName data unset _ _ answer
        have attachable := @RtmpPushConnection.addClientConnection_ok_iff build unset
          publisher.pushConnection (.new connectionName)
        constructor
        · rintro ⟨after, made, -⟩ other known same
          obtain ⟨rfl, rfl⟩ := Prod.mk.inj (Option.some.inj same)
          apply attachable.mp
          rw [granted] at made
          cases added : publisher.pushConnection.addClientConnection build unset
              (.new connectionName) with
          | error fault =>
              rw [added] at made
              cases made
          | ok both => exact ⟨both, rfl⟩
        · intro ready
          obtain ⟨added, made⟩ := attachable.mpr (ready id publisher rfl)
          rw [made] at granted
          refine ⟨_, granted, fun none => ?_⟩
          rw [registered] at none
          cases none

end PullServer

end LiveBroadcast
