import LiveBroadcast.Mysql.DbMysql

/-!
# Closed handles

The library may not be called with a handle that has been closed. What its calls have to be
(`CallsRight`) is a property of the recorded calls; adding a call keeps it exactly if the handle
of the call is not closed, and connected if the flag is set (`callsRight_concat_iff`).

A `DbMysql` is untouched at first (`Fresh`). One `Initialize` makes it `Alive`, or `Dead` if the
connection fails, with a pointer to the handle that has just been closed. Queries leave it
alive. Entering `Initialize` again breaks the calls, whether it is alive or dead
(`initializeDb_breaks`). So the runs that are safe are those that never do
(`handles_safe_iff`).
-/

set_option autoImplicit false

namespace LiveBroadcast

/-- The handle has been closed. -/
def Closed (calls : List MysqlCall) (handle : Handle) : Prop :=
  ∃ call ∈ calls, call.function = .close ∧ call.mysql = some handle

/-- What a call makes of whether a handle is connected. -/
def MysqlCall.connects (call : MysqlCall) (handle : Handle) (connected : Bool) : Bool :=
  if call.mysql = some handle then
    match call.function with
    | .realConnect now => now
    | .init => false
    | .close => false
    | _ => connected
  else connected

/-- The handle is connected. -/
def isConnected (calls : List MysqlCall) (handle : Handle) : Bool :=
  calls.foldl (fun connected call => call.connects handle connected) false

/-- The pointer and the flag are those of a handle that is connected, if the flag is set. -/
def FlagRight (calls : List MysqlCall) (mysql : Option Handle) (inited : Bool) : Prop :=
  inited = true → ∃ handle, mysql = some handle ∧ isConnected calls handle = true

/-- No call is made on a handle that has been closed, no handle is closed twice, and at every
call `inited_` is only set if the handle is connected. -/
structure CallsRight (calls : List MysqlCall) : Prop where
  live : ∀ before call, before ++ [call] <+: calls → ∀ handle, call.mysql = some handle →
    ¬ Closed before handle
  once : ∀ handle, (calls.countP fun call =>
    decide (call.function = .close ∧ call.mysql = some handle)) ≤ 1
  flag : ∀ before call, before ++ [call] <+: calls → FlagRight before call.mysql call.inited

/-- The calls are right, with that of the destructor, and so are the members. -/
structure DbMysql.Safe (db : DbMysql) : Prop where
  calls : CallsRight db.destroy.calls
  flag : FlagRight db.calls db.mysql db.inited

/-! ## Adding calls -/

variable {handle : Handle}

section

variable {calls : List MysqlCall} {call : MysqlCall}

theorem not_closed_nil : ¬ Closed [] handle := by
  rintro ⟨call, inside, -⟩
  cases inside

theorem closed_concat_iff :
    Closed (calls ++ [call]) handle ↔
      Closed calls handle ∨ call.function = .close ∧ call.mysql = some handle := by
  simp only [Closed, List.mem_append, List.mem_singleton]
  constructor
  · rintro ⟨other, before | rfl, closes⟩
    · exact Or.inl ⟨other, before, closes⟩
    · exact Or.inr closes
  · rintro (⟨other, before, closes⟩ | closes)
    · exact ⟨other, Or.inl before, closes⟩
    · exact ⟨call, Or.inr rfl, closes⟩

theorem isConnected_concat :
    isConnected (calls ++ [call]) handle = call.connects handle (isConnected calls handle) := by
  rw [isConnected, List.foldl_append]
  rfl

theorem countP_eq_zero (open_handle : ¬ Closed calls handle) :
    (calls.countP fun call => decide (call.function = .close ∧ call.mysql = some handle)) = 0 := by
  apply List.countP_eq_zero.mpr
  intro call inside closes
  exact open_handle ⟨call, inside, of_decide_eq_true closes⟩

theorem callsRight_nil : CallsRight [] := by
  have nothing (before : List MysqlCall) (call : MysqlCall) : ¬ before ++ [call] <+: [] := by
    intro le
    have empty := List.prefix_nil.mp le
    simp at empty
  refine ⟨?_, fun _ => Nat.zero_le 1, ?_⟩
  · intro before call le
    exact absurd le (nothing before call)
  · intro before call le
    exact absurd le (nothing before call)

/-- What is right of some calls is right of those before them. -/
theorem CallsRight.of_prefix {later : List MysqlCall} (right : CallsRight later)
    (le : calls <+: later) : CallsRight calls where
  live before call reached := right.live before call (reached.trans le)
  once handle := Nat.le_trans le.sublist.countP_le (right.once handle)
  flag before call reached := right.flag before call (reached.trans le)

/-- **A further call.** -/
theorem callsRight_concat_iff :
    CallsRight (calls ++ [call]) ↔ CallsRight calls ∧
      (∀ handle, call.mysql = some handle → ¬ Closed calls handle) ∧
        FlagRight calls call.mysql call.inited := by
  constructor
  · intro right
    exact ⟨right.of_prefix (List.prefix_append _ _), right.live calls call List.prefix_rfl,
      right.flag calls call List.prefix_rfl⟩
  · rintro ⟨right, live, flag⟩
    refine ⟨?_, ?_, ?_⟩
    · intro before other le
      rcases List.prefix_concat_iff.mp le with last | earlier
      · obtain ⟨rfl, same⟩ := List.append_inj' last rfl
        obtain rfl := List.singleton_inj.mp same
        exact live
      · exact right.live before other earlier
    · intro handle
      rw [List.countP_append, List.countP_singleton]
      by_cases closes : call.function = .close ∧ call.mysql = some handle
      · have none_before := countP_eq_zero (live handle closes.2)
        rw [if_pos (decide_eq_true closes)]
        omega
      · rw [decide_eq_false closes]
        exact right.once handle
    · intro before other le
      rcases List.prefix_concat_iff.mp le with last | earlier
      · obtain ⟨rfl, same⟩ := List.append_inj' last rfl
        obtain rfl := List.singleton_inj.mp same
        exact flag
      · exact right.flag before other earlier

end

namespace MysqlFunction

/-- The function neither opens, connects nor closes the handle. -/
def isPlain : MysqlFunction → Bool
  | init => false
  | realConnect _ => false
  | close => false
  | _ => true

theorem connects_plain {function : MysqlFunction} (plain : function.isPlain = true)
    (mysql : Option Handle) (inited connected : Bool) :
    (MysqlCall.mk function mysql inited).connects handle connected = connected := by
  rw [MysqlCall.connects]
  split
  · cases function with
    | init => cases plain
    | realConnect now => cases plain
    | close => cases plain
    | _ => rfl
  · rfl

end MysqlFunction

namespace DbMysql

/-! ## The states of a database -/

variable {db : DbMysql} {function : MysqlFunction} {info : DatabaseInfo}

/-- Nothing has been called. -/
structure Fresh (db : DbMysql) : Prop where
  mysql : db.mysql = none
  inited : db.inited = false
  calls : db.calls = []

/-- The handle is connected. -/
structure Alive (db : DbMysql) (handle : Handle) : Prop where
  mysql : db.mysql = some handle
  inited : db.inited = true
  calls : CallsRight db.calls
  connected : isConnected db.calls handle = true
  unclosed : ¬ Closed db.calls handle

/-- The handle has been closed, and the pointer still leads to it. -/
structure Dead (db : DbMysql) (handle : Handle) : Prop where
  mysql : db.mysql = some handle
  inited : db.inited = false
  calls : CallsRight db.calls
  closed : Closed db.calls handle

theorem call_grows (db : DbMysql) (function : MysqlFunction) :
    db.calls <+: (db.call function).calls := List.prefix_append _ _

theorem Alive.callsRight (alive : db.Alive handle) (function : MysqlFunction) :
    CallsRight (db.call function).calls := by
  have flag : FlagRight db.calls db.mysql db.inited :=
    fun _ => ⟨handle, alive.mysql, alive.connected⟩
  refine callsRight_concat_iff.mpr ⟨alive.calls, ?_, flag⟩
  intro other same
  obtain rfl := Option.some.inj (alive.mysql.symm.trans same)
  exact alive.unclosed

/-- **A query leaves a database alive.** -/
theorem Alive.call (alive : db.Alive handle) (plain : function.isPlain = true) :
    (db.call function).Alive handle where
  mysql := alive.mysql
  inited := alive.inited
  calls := alive.callsRight function
  connected := isConnected_concat.trans
    ((MysqlFunction.connects_plain plain _ _ _).trans alive.connected)
  unclosed closed := by
    rcases closed_concat_iff.mp closed with before | ⟨closes, -⟩
    · exact alive.unclosed before
    · have other : function = .close := closes
      rw [other] at plain
      cases plain

theorem Fresh.safe (fresh : db.Fresh) : db.Safe := by
  have same : db.destroy = db := by
    rw [destroy, fresh.mysql]
    rfl
  refine ⟨?_, fun inited => ?_⟩
  · rw [same, fresh.calls]
    exact callsRight_nil
  · rw [fresh.inited] at inited
    cases inited

theorem Alive.safe (alive : db.Alive handle) : db.Safe := by
  have same : db.destroy = db.call .close := by
    rw [destroy, alive.mysql, alive.inited]
    rfl
  refine ⟨?_, fun _ => ⟨handle, alive.mysql, alive.connected⟩⟩
  rw [same]
  exact alive.callsRight .close

theorem Dead.safe (dead : db.Dead handle) : db.Safe := by
  have same : db.destroy = db := by
    rw [destroy, dead.mysql, dead.inited]
    rfl
  refine ⟨?_, fun inited => ?_⟩
  · rw [same]
    exact dead.calls
  · rw [dead.inited] at inited
    cases inited

/-! ## Initialize -/

/-- The calls of the first `Initialize`, up to the connection. -/
def opening (handle : Handle) (connects : Bool) : List MysqlCall :=
  [⟨.init, none, false⟩, ⟨.realConnect connects, some handle, false⟩]

theorem not_closed_opening (other : Handle) (connects : Bool) :
    ¬ Closed (opening handle connects) other := by
  simp [Closed, opening]

theorem callsRight_opening (connects : Bool) : CallsRight (opening handle connects) := by
  have first : CallsRight [⟨.init, none, false⟩] := by
    apply (@callsRight_concat_iff [] _).mpr
    exact ⟨callsRight_nil, fun _ _ => not_closed_nil, fun inited => by cases inited⟩
  apply (@callsRight_concat_iff [_] _).mpr
  exact ⟨first, fun _ _ => by simp [Closed], fun inited => by cases inited⟩

/-- **The first `Initialize`**, connecting. -/
theorem Fresh.connects (fresh : db.Fresh) (info : DatabaseInfo) :
    (db.initializeDb info true).2 = true ∧ (db.initializeDb info true).1.Alive db.allocated := by
  obtain ⟨dbInfo, inited, mysql, calls, allocated⟩ := db
  obtain ⟨rfl, rfl, rfl⟩ := fresh
  have connected : isConnected (opening allocated true) allocated = true := by
    simp [isConnected, opening, MysqlCall.connects]
  have opened : Alive ⟨info, true, some allocated, opening allocated true, allocated + 1⟩
      allocated :=
    ⟨rfl, rfl, callsRight_opening true, connected, not_closed_opening _ _⟩
  exact ⟨rfl, opened.call rfl⟩

/-- **The first `Initialize`**, failing to connect. -/
theorem Fresh.fails (fresh : db.Fresh) (info : DatabaseInfo) :
    (db.initializeDb info false).2 = false ∧
      (db.initializeDb info false).1.Dead db.allocated := by
  obtain ⟨dbInfo, inited, mysql, calls, allocated⟩ := db
  obtain ⟨rfl, rfl, rfl⟩ := fresh
  have told : CallsRight (opening allocated false ++ [⟨.error, some allocated, false⟩]) :=
    callsRight_concat_iff.mpr ⟨callsRight_opening false, fun _ _ => not_closed_opening _ _,
      fun inited => by cases inited⟩
  have unclosed (other : Handle) :
      ¬ Closed (opening allocated false ++ [⟨.error, some allocated, false⟩]) other := by
    simp [Closed, opening]
  refine ⟨rfl, rfl, rfl, ?_, ?_⟩
  · exact callsRight_concat_iff.mpr ⟨told, fun other _ => unclosed other,
      fun inited => by cases inited⟩
  · exact closed_concat_iff.mpr (Or.inr ⟨rfl, rfl⟩)

theorem mysqlInit_calls (db : DbMysql) : db.mysqlInit.calls = (db.call .init).calls := by
  rw [mysqlInit]
  split
  · rfl
  · rfl

/-- A handle that has been closed is given to `mysql_init`. -/
theorem mysqlInit_breaks (mysql : db.mysql = some handle) (closed : Closed db.calls handle) :
    ¬ CallsRight db.mysqlInit.calls := by
  intro right
  rw [mysqlInit_calls] at right
  obtain ⟨-, live, -⟩ := callsRight_concat_iff.mp right
  exact live handle mysql closed

/-- What `Initialize` calls behind `mysql_init`. -/
theorem mysqlInit_grows (db : DbMysql) (info : DatabaseInfo) (connects : Bool) :
    ({ (if db.inited then db.call .close else db) with
        dbInfo := info } : DbMysql).mysqlInit.calls <+:
      (db.initializeDb info connects).1.calls := by
  cases connects with
  | true => exact (call_grows _ _).trans (List.prefix_append _ _)
  | false => exact (call_grows _ _).trans ((call_grows _ _).trans (call_grows _ _))

theorem initializeDb_grows (db : DbMysql) (info : DatabaseInfo) (connects : Bool) :
    db.calls <+: (db.initializeDb info connects).1.calls := by
  have closing : db.calls <+: (if db.inited then db.call .close else db).calls := by
    split
    · exact call_grows _ _
    · exact List.prefix_rfl
  have opened := db.mysqlInit_grows info connects
  rw [mysqlInit_calls] at opened
  exact closing.trans ((call_grows _ .init).trans opened)

/-- **Entering `Initialize` again** breaks the calls: if the flag is set the handle is closed, and
if the connection had failed it has been, and then it is given to `mysql_init`. -/
theorem initializeDb_breaks (mysql : db.mysql = some handle)
    (stale : db.inited = true ∨ Closed db.calls handle) (info : DatabaseInfo) (connects : Bool) :
    ¬ CallsRight (db.initializeDb info connects).1.calls := by
  intro right
  have reached := right.of_prefix (db.mysqlInit_grows info connects)
  cases flag : db.inited with
  | true =>
      rw [flag, if_pos rfl] at reached
      have closed : Closed (db.call .close).calls handle :=
        closed_concat_iff.mpr (Or.inr ⟨rfl, mysql⟩)
      exact @mysqlInit_breaks handle { db.call .close with dbInfo := info } mysql closed reached
  | false =>
      rw [flag, if_neg Bool.false_ne_true] at reached
      rcases stale with inited | closed
      · rw [flag] at inited
        cases inited
      · exact @mysqlInit_breaks handle { db with dbInfo := info } mysql closed reached

/-! ## Queries -/

theorem destroy_grows (db : DbMysql) : db.calls <+: db.destroy.calls := by
  rw [destroy]
  split
  · exact call_grows _ _
  · exact List.prefix_rfl

theorem Safe.right (safe : db.Safe) : CallsRight db.calls :=
  safe.calls.of_prefix db.destroy_grows

theorem Alive.ready (alive : db.Alive handle) (connects : Bool) : db.ready connects = (db, true) :=
  if_pos alive.inited

theorem ready_of_not_inited (inited : db.inited = false) (connects : Bool) :
    db.ready connects = db.initializeDb db.dbInfo connects := by
  rw [DbMysql.ready, inited, if_neg Bool.false_ne_true]

theorem query_grows (db : DbMysql) (answers : QueryAnswers) :
    (db.ready answers.connects).1.calls <+: (db.query answers).1.calls := by
  rw [query]
  dsimp only
  split
  · split
    · split
      · exact (call_grows _ _).trans (call_grows _ _)
      · exact (call_grows _ _).trans ((call_grows _ _).trans
          ((call_grows _ _).trans (call_grows _ _)))
    · exact call_grows _ _
  · exact List.prefix_rfl

theorem execute_grows (db : DbMysql) (answers : ExecuteAnswers) :
    (db.ready answers.connects).1.calls <+: (db.execute answers).1.calls := by
  rw [execute]
  dsimp only
  split
  · have asked := call_grows (db.ready answers.connects).1 .query
    split
    · exact asked
    · have told := asked.trans (call_grows _ .errno)
      split
      · have again := told.trans (initializeDb_grows _
          (((db.ready answers.connects).1.call .query).call .errno).dbInfo answers.reconnects)
        split
        · exact again.trans (call_grows _ _)
        · exact again
      · exact told
  · exact List.prefix_rfl

/-- **A `Query` leaves a database alive.** -/
theorem Alive.query (alive : db.Alive handle) (answers : QueryAnswers) :
    (db.query answers).1.Alive handle := by
  rw [DbMysql.query, alive.ready]
  dsimp only
  rw [if_pos rfl]
  have asked := @Alive.call _ _ .realQuery alive rfl
  split
  · have stored := @Alive.call _ _ .storeResult asked rfl
    split
    · exact stored
    · exact Alive.call (Alive.call stored rfl) rfl
  · exact asked

/-- **An `Execute` leaves a database alive**, if the server has not gone. -/
theorem Alive.execute (alive : db.Alive handle) {answers : ExecuteAnswers}
    (stays : answers.failure ≠ some crServerGoneError) :
    (db.execute answers).1.Alive handle := by
  have asked := @Alive.call _ _ .query alive rfl
  rw [DbMysql.execute, alive.ready]
  cases failure : answers.failure with
  | none => exact asked
  | some errno =>
      have other : errno ≠ crServerGoneError := by
        intro gone
        rw [failure, gone] at stays
        exact stays rfl
      dsimp only
      rw [if_pos rfl, if_neg other]
      exact Alive.call asked rfl

/-- **An `Execute` that finds the server gone** enters `Initialize` with the flag set. -/
theorem Alive.execute_breaks (alive : db.Alive handle) {answers : ExecuteAnswers}
    (gone : answers.failure = some crServerGoneError) :
    ¬ CallsRight (db.execute answers).1.calls := by
  have told : ((db.call .query).call .errno).Alive handle :=
    Alive.call (Alive.call alive rfl) rfl
  have breaks := initializeDb_breaks told.mysql (Or.inl told.inited)
    ((db.call .query).call .errno).dbInfo answers.reconnects
  rw [DbMysql.execute, alive.ready, gone]
  dsimp only
  rw [if_pos rfl, if_pos rfl]
  split
  · exact fun right => breaks (right.of_prefix (call_grows _ _))
  · exact breaks

/-! ## Runs -/

/-- What every safe run leads to. -/
def Known (db : DbMysql) : Prop := db.Fresh ∨ ∃ handle, db.Alive handle ∨ db.Dead handle

/-- The step does not enter `Initialize` for a second time: `Initialize` itself is only called
while the pointer is null, `Query` and `Execute` not after a connection has failed, and no
`Execute` that gets to its statement finds the server gone. -/
def EntersOnce (db : DbMysql) : Operation → Prop
  | .initializeDb _ _ => db.mysql = none
  | .query _ => db.mysql = none ∨ db.inited = true
  | .execute answers => (db.mysql = none ∨ db.inited = true) ∧
      ¬ ((db.inited = true ∨ answers.connects = true) ∧
        answers.failure = some crServerGoneError)

theorem fresh_new : new.Fresh := ⟨rfl, rfl, rfl⟩

theorem Known.safe (known : db.Known) : db.Safe := by
  rcases known with fresh | ⟨handle, alive | dead⟩
  · exact fresh.safe
  · exact alive.safe
  · exact dead.safe

/-- Whatever `Initialize` makes of an untouched database is known. -/
theorem Fresh.initializeDb (fresh : db.Fresh) (info : DatabaseInfo) (connects : Bool) :
    (db.initializeDb info connects).1.Known := by
  cases connects with
  | true => exact Or.inr ⟨_, Or.inl (fresh.connects info).2⟩
  | false => exact Or.inr ⟨_, Or.inr (fresh.fails info).2⟩

/-- An untouched database that can be connected goes on like the connected one. -/
theorem Fresh.ready_connects (fresh : db.Fresh) {connects : Bool} (can : connects = true) :
    db.ready connects = (db.initializeDb db.dbInfo true).1.ready connects := by
  obtain ⟨connected, alive⟩ := fresh.connects db.dbInfo
  rw [alive.ready, ready_of_not_inited fresh.inited, can]
  exact Prod.ext rfl connected

/-- One that cannot be connected stops there. -/
theorem Fresh.ready_fails (fresh : db.Fresh) :
    db.ready false = ((db.initializeDb db.dbInfo false).1, false) := by
  rw [ready_of_not_inited fresh.inited]
  exact Prod.ext rfl (fresh.fails db.dbInfo).1

theorem query_of_ready {other : DbMysql} {answers : QueryAnswers}
    (same : db.ready answers.connects = other.ready answers.connects) :
    db.query answers = other.query answers := by
  rw [query, query, same]

theorem execute_of_ready {other : DbMysql} {answers : ExecuteAnswers}
    (same : db.ready answers.connects = other.ready answers.connects) :
    db.execute answers = other.execute answers := by
  rw [execute, execute, same]

/-- **A step from an untouched database** is safe unless it finds the server gone. -/
theorem Fresh.step (fresh : db.Fresh) (operation : Operation)
    (once : db.EntersOnce operation) : (db.step operation).Known := by
  cases operation with
  | initializeDb info connects => exact fresh.initializeDb info connects
  | query answers =>
      show (db.query answers).1.Known
      cases connects : answers.connects with
      | true =>
          rw [query_of_ready (fresh.ready_connects connects)]
          exact Or.inr ⟨_, Or.inl ((fresh.connects db.dbInfo).2.query answers)⟩
      | false =>
          rw [DbMysql.query, connects, fresh.ready_fails]
          exact fresh.initializeDb db.dbInfo false
  | execute answers =>
      show (db.execute answers).1.Known
      cases connects : answers.connects with
      | true =>
          have stays : answers.failure ≠ some crServerGoneError :=
            fun gone => once.2 ⟨Or.inr connects, gone⟩
          rw [execute_of_ready (fresh.ready_connects connects)]
          exact Or.inr ⟨_, Or.inl ((fresh.connects db.dbInfo).2.execute stays)⟩
      | false =>
          rw [DbMysql.execute, connects, fresh.ready_fails]
          exact fresh.initializeDb db.dbInfo false

/-- An untouched database that finds the server gone is not. -/
theorem Fresh.enters_once (fresh : db.Fresh) (operation : Operation)
    (safe : (db.step operation).Safe) : db.EntersOnce operation := by
  cases operation with
  | initializeDb info connects => exact fresh.mysql
  | query answers => exact Or.inl fresh.mysql
  | execute answers =>
      refine ⟨Or.inl fresh.mysql, ?_⟩
      rintro ⟨inited | connects, gone⟩
      · rw [fresh.inited] at inited
        cases inited
      · have right := safe.right
        rw [DbMysql.step, execute_of_ready (fresh.ready_connects connects)] at right
        exact (fresh.connects db.dbInfo).2.execute_breaks gone right

/-- **A step of a connected database** is safe exactly if it does not enter `Initialize`. -/
theorem Alive.step (alive : db.Alive handle) (operation : Operation)
    (once : db.EntersOnce operation) : (db.step operation).Alive handle := by
  cases operation with
  | initializeDb info connects =>
      have untouched : db.mysql = none := once
      rw [alive.mysql] at untouched
      cases untouched
  | query answers => exact alive.query answers
  | execute answers => exact alive.execute fun gone => once.2 ⟨Or.inl alive.inited, gone⟩

theorem Alive.enters_once (alive : db.Alive handle) (operation : Operation)
    (safe : (db.step operation).Safe) : db.EntersOnce operation := by
  cases operation with
  | initializeDb info connects =>
      exact absurd safe.right
        (initializeDb_breaks alive.mysql (Or.inl alive.inited) info connects)
  | query answers => exact Or.inr alive.inited
  | execute answers =>
      exact ⟨Or.inr alive.inited, fun again => alive.execute_breaks again.2 safe.right⟩

/-- **No step is safe behind a connection that has failed.** -/
theorem Dead.step_breaks (dead : db.Dead handle) (operation : Operation) :
    ¬ (db.step operation).Safe := by
  intro safe
  have breaks := initializeDb_breaks dead.mysql (Or.inr dead.closed)
  have entered (connects : Bool) : ¬ CallsRight (db.ready connects).1.calls := by
    rw [ready_of_not_inited dead.inited]
    exact breaks db.dbInfo connects
  cases operation with
  | initializeDb info connects => exact breaks info connects safe.right
  | query answers => exact entered _ (safe.right.of_prefix (db.query_grows answers))
  | execute answers => exact entered _ (safe.right.of_prefix (db.execute_grows answers))

theorem Dead.not_enters_once (dead : db.Dead handle) (operation : Operation) :
    ¬ db.EntersOnce operation := by
  have behind : ¬ (db.mysql = none ∨ db.inited = true) := by
    rw [dead.mysql, dead.inited]
    simp
  cases operation with
  | initializeDb info connects => exact fun untouched => behind (Or.inl untouched)
  | query answers => exact behind
  | execute answers => exact fun once => behind once.1

/-- **The handles are safe**, over a run and the destruction behind any part of it, exactly if
no step enters `Initialize` for a second time. -/
theorem handles_safe_iff (operations : List Operation) :
    machine.Always Safe new operations ↔ machine.Guarded EntersOnce new operations := by
  have preserves : machine.Preserves EntersOnce Known := by
    constructor
    intro db operation known once
    rcases known with fresh | ⟨handle, alive | dead⟩
    · exact fresh.step operation once
    · exact Or.inr ⟨handle, Or.inl (alive.step operation once)⟩
    · exact absurd once (dead.not_enters_once operation)
  apply preserves.always_iff (fun _ known => known.safe) _ (Or.inl fresh_new)
  intro db operation known safe
  rcases known with fresh | ⟨handle, alive | dead⟩
  · exact fresh.enters_once operation safe
  · exact alive.enters_once operation safe
  · exact absurd safe (dead.step_breaks operation)

/-- The answers of a server that cannot be connected. -/
def refusal : QueryAnswers := ⟨false, false, none⟩

/-- Two queries when the database is down: the second one uses the handle that the first one has
closed. -/
theorem refusedTwice_unsafe : ¬ machine.Always Safe new [.query refusal, .query refusal] := by
  intro always
  have dead := (fresh_new.fails new.dbInfo).2
  exact dead.step_breaks (.query refusal) (always _ List.prefix_rfl)

end DbMysql

end LiveBroadcast
