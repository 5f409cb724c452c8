import Mathlib.Data.List.Find
import LiveBroadcast.Foundation.Loops
import LiveBroadcast.Mysql.DbMysql

/-!
# Looking up a password

`UserMapper::GetPasswdByUser` selects all users with their passwords, and goes through the rows
until one has the user that it looks for. It reads a row before it goes to the next one, as
`QueryResult` stands at the first row from the beginning; of an empty table it stands behind the
end, and the first read is one of a null pointer (`emptyTable_faults`).

A user that is null is an empty string in its field. So a lookup of the empty string also finds
the rows without a user, and it is right if this makes no difference (`passwd_right_iff`).
-/

set_option autoImplicit false

namespace LiveBroadcast

/-- A row of `live_user`. -/
structure LiveUser where
  user : Option Bytes
  passwd : Option Bytes
  deriving DecidableEq, Repr

namespace UserMapper

/-- The name `user`. -/
def userName : Bytes := [117, 115, 101, 114]

/-- The name `passwd`. -/
def passwdName : Bytes := [112, 97, 115, 115, 119, 100]

/-- What the server keeps for `select user, passwd from live_user`. -/
def liveUserRes (rows : List LiveUser) : MysqlRes where
  fieldNames := [userName, passwdName]
  rows := rows.map fun row => [row.user, row.passwd]

/-- The loop of `GetPasswdByUser`. What it logs is left out: a user that was found has 20
characters at most and a password 32, the columns being `varchar(20)` and `char(32)`, so the
record has room for both. -/
def getPasswdLoop (username : Bytes) : Loop QueryResult (Except Fault Bytes) where
  body result :=
    match result.field userName with
    | .error fault => .inr (.error fault)
    | .ok user =>
        if user.getString = username then
          .inr ((result.field passwdName).map Field.getString)
        else
          match result.nextRow with
          | .error fault => .inr (.error fault)
          | .ok (next, true) => .inl next
          | .ok (_, false) => .inr (.ok [])

/-- `GetPasswdByUser` comes to this outcome, with what `Query` returns; `none` is its null
pointer. -/
def GetsPasswdByUser (username : Bytes) (queried : Option (Except Fault QueryResult))
    (outcome : Except Fault Bytes) : Prop :=
  match queried with
  | none => outcome = .ok []
  | some (.error fault) => outcome = .error fault
  | some (.ok result) => (getPasswdLoop username).Returns result outcome

/-- The password of a row that was found, a null pointer as the empty string. -/
def passwdAt : Option LiveUser → Bytes
  | none => []
  | some row => row.passwd.getD []

/-- The password of the first row with the user. -/
def passwdOf (rows : List LiveUser) (username : Bytes) : Bytes :=
  passwdAt (rows.find? fun row => row.user = some username)

/-- The first row whose user reads like this one: a user that is null reads like an empty one. -/
def firstRead (rows : List LiveUser) (username : Bytes) : Option LiveUser :=
  rows.find? fun row => row.user.getD [] = username

/-- The result at a row. -/
def atRow (row : LiveUser) (rows : List LiveUser) : QueryResult where
  fieldMap := [(userName, 0), (passwdName, 1)]
  fields := some [Field.new.update row.user, Field.new.update row.passwd]
  res := some (liveUserRes rows)

theorem update_getString (field : Field) (column : Option Bytes) :
    (field.update column).getString = column.getD [] := by
  cases column with
  | none => rfl
  | some data => rfl

theorem update_update (field : Field) (column other : Option Bytes) :
    (field.update other).update column = field.update column := by
  cases column with
  | none => rfl
  | some data => rfl

/-- **The constructor** goes to the first row, and behind the end if there is none. -/
theorem new_liveUserRes (rows : List LiveUser) :
    QueryResult.new (some (liveUserRes rows)) 2 = .ok
      (match rows with
      | [] => ⟨[(userName, 0), (passwdName, 1)], none, none⟩
      | row :: rows => atRow row rows) := by
  cases rows with
  | nil => rfl
  | cons row rows => rfl

/-- What `Query` returns for the table. -/
theorem query_liveUserRes {db : DbMysql} {answers : QueryAnswers} {rows : List LiveUser}
    (connected : (db.ready answers.connects).2 = true) (succeeds : answers.succeeds = true)
    (stored : answers.stored = some (liveUserRes rows)) :
    (db.query answers).2 = some (QueryResult.new (some (liveUserRes rows)) 2) := by
  rw [DbMysql.query, stored]
  dsimp only
  rw [if_pos connected, if_pos succeeds]
  rfl

/-- `NextRow` goes to the next row. -/
theorem nextRow_atRow (row next : LiveUser) (rows : List LiveUser) :
    (atRow row (next :: rows)).nextRow = .ok (atRow next rows, true) := by
  simp only [QueryResult.nextRow, atRow, liveUserRes, List.map_cons, MysqlRes.fetchRow,
    List.zipWith_cons_cons, List.zipWith_nil_left, update_update]

/-- The fields of a row. -/
theorem field_atRow (row : LiveUser) (rows : List LiveUser) :
    (atRow row rows).field userName = .ok (Field.new.update row.user) ∧
      (atRow row rows).field passwdName = .ok (Field.new.update row.passwd) := ⟨rfl, rfl⟩

/-- **A round** ends the lookup at a row with the user that it looks for, and behind the end. -/
theorem body_atRow (username : Bytes) (row : LiveUser) (rows : List LiveUser) :
    (getPasswdLoop username).body (atRow row rows) =
      if row.user.getD [] = username then .inr (.ok (row.passwd.getD []))
      else
        match rows with
        | [] => .inr (.ok [])
        | next :: rows => .inl (atRow next rows) := by
  obtain ⟨user, passwd⟩ := field_atRow row rows
  simp only [getPasswdLoop, user, passwd, update_getString, Except.map]
  split
  · rfl
  · cases rows with
    | nil => rfl
    | cons next rows => rw [nextRow_atRow]

theorem passwdAt_firstRead_cons (username : Bytes) (row : LiveUser) (rows : List LiveUser) :
    passwdAt (firstRead (row :: rows) username) =
      if row.user.getD [] = username then row.passwd.getD []
      else passwdAt (firstRead rows username) := by
  by_cases found : row.user.getD [] = username
  · rw [if_pos found, firstRead, List.find?_cons, decide_eq_true found]
    rfl
  · rw [if_neg found, firstRead, List.find?_cons, decide_eq_false found]
    rfl

/-- **A lookup from a row on** returns the password of the first row whose user reads like the
one that is looked for. -/
theorem returns_atRow (username : Bytes) (row : LiveUser) (rows : List LiveUser) :
    (getPasswdLoop username).Returns (atRow row rows)
      (.ok (passwdAt (firstRead (row :: rows) username))) := by
  induction rows generalizing row with
  | nil =>
      apply Loop.Returns.leaves
      rw [body_atRow, passwdAt_firstRead_cons]
      split
      · rfl
      · rfl
  | cons next rows ih =>
      have round := body_atRow username row (next :: rows)
      rw [passwdAt_firstRead_cons]
      by_cases found : row.user.getD [] = username
      · rw [if_pos found] at round ⊢
        exact .leaves round
      · rw [if_neg found] at round ⊢
        exact .goes round (ih next)

/-- **What a lookup in a table returns.** -/
theorem getsPasswdByUser_iff (username : Bytes) (row : LiveUser) (rows : List LiveUser)
    (outcome : Except Fault Bytes) :
    GetsPasswdByUser username (some (QueryResult.new (some (liveUserRes (row :: rows))) 2))
        outcome ↔
      outcome = .ok (passwdAt (firstRead (row :: rows) username)) := by
  have found := returns_atRow username row rows
  rw [new_liveUserRes]
  constructor
  · intro returns
    exact returns.unique found
  · rintro rfl
    exact found

/-- **An empty table**: the first read is one of the fields that the constructor has released. -/
theorem emptyTable_faults (username : Bytes) (outcome : Except Fault Bytes) :
    GetsPasswdByUser username (some (QueryResult.new (some (liveUserRes [])) 2)) outcome ↔
      outcome = .error .nullPointer :=
  Loop.returns_leaves_iff rfl

/-- A user that is not empty is read as it is. -/
theorem firstRead_eq {username : Bytes} (named : username ≠ []) (rows : List LiveUser) :
    firstRead rows username = rows.find? fun row => row.user = some username := by
  apply List.find?_congr
  intro row _
  cases row.user with
  | none => exact decide_eq_decide.mpr (iff_of_false named.symm (by simp))
  | some data => exact decide_eq_decide.mpr Option.some_inj.symm

/-- Before the first row with an empty user, only a row without a user is found. -/
theorem firstRead_empty (rows : List LiveUser) :
    (∃ row, firstRead rows [] = some row ∧ row.user = none) ∨
      firstRead rows [] = rows.find? fun row => row.user = some [] := by
  induction rows with
  | nil => exact Or.inr rfl
  | cons row rows ih =>
      rw [firstRead, List.find?_cons, List.find?_cons]
      cases user : row.user with
      | none => exact Or.inl ⟨row, rfl, user⟩
      | some data =>
          by_cases empty : data = []
          · obtain rfl := empty
            exact Or.inr rfl
          · have other : ¬ (some data : Option Bytes) = some [] :=
              fun same => empty (Option.some.inj same)
            rw [Option.getD_some, decide_eq_false empty, decide_eq_false other]
            exact ih

/-- **The lookup is right** exactly if the table is not empty, and if a lookup of the empty
string does not come upon a row without a user that has another password. -/
theorem passwd_right_iff (rows : List LiveUser) (username : Bytes) :
    GetsPasswdByUser username (some (QueryResult.new (some (liveUserRes rows)) 2))
        (.ok (passwdOf rows username)) ↔
      rows ≠ [] ∧ (username = [] → ∀ row, firstRead rows [] = some row → row.user = none →
        row.passwd.getD [] = passwdOf rows []) := by
  cases rows with
  | nil =>
      rw [emptyTable_faults]
      exact iff_of_false (fun same => by cases same) fun right => right.1 rfl
  | cons row rows =>
      rw [getsPasswdByUser_iff, Except.ok.injEq, passwdOf]
      by_cases named : username = []
      · obtain rfl := named
        rw [and_iff_right (List.cons_ne_nil _ _), forall_prop_of_true rfl]
        rcases firstRead_empty (row :: rows) with ⟨found, first, no_user⟩ | same
        · rw [first]
          constructor
          · intro right other again _
            obtain rfl := Option.some.inj again
            exact right.symm
          · intro right
            exact (right found rfl no_user).symm
        · rw [same]
          refine iff_of_true rfl fun found first _ => ?_
          rw [passwdOf, first]
          rfl
      · rw [firstRead_eq named]
        exact iff_of_true rfl ⟨List.cons_ne_nil _ _, fun empty => absurd empty named⟩

/-- A table without rows. -/
theorem noRows_fault :
    GetsPasswdByUser [119, 119] (some (QueryResult.new (some (liveUserRes [])) 2))
        (.error .nullPointer) ∧
      ¬ GetsPasswdByUser [119, 119] (some (QueryResult.new (some (liveUserRes [])) 2))
        (.ok (passwdOf [] [119, 119])) := by
  rw [emptyTable_faults, emptyTable_faults]
  exact ⟨rfl, fun same => by cases same⟩

end UserMapper

end LiveBroadcast
