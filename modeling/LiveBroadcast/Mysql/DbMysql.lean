import LiveBroadcast.Foundation.Runs
import LiveBroadcast.Mysql.QueryResult

/-!
# Database handles

A `DbMysql` has a pointer to a handle of the client library and a flag `inited_`. The library
allocates a handle when `mysql_init` is given a null pointer; given a handle, it needs one that
has not been closed. Here every call is recorded with the pointer and the flag of its moment.

`Initialize` closes the handle if the flag is set, and again if the connection fails, but it
never makes the pointer null. So the next `mysql_init` is given a handle that has been closed.
`Query` and `Execute` enter `Initialize` when the flag is not set, and `Execute` also when the
server has gone.
-/

set_option autoImplicit false

namespace LiveBroadcast

/-- What `mysql_init` allocates, by number. -/
abbrev Handle := Nat

/-- The functions of the library that are called with `mysql_`. -/
inductive MysqlFunction where
  | init
  | realConnect (connected : Bool)
  | query
  | realQuery
  | storeResult
  | fieldCount
  | affectedRows
  | errno
  | error
  | close
  deriving DecidableEq, Repr

/-- A call, with `mysql_` and `inited_` at its moment. -/
structure MysqlCall where
  function : MysqlFunction
  mysql : Option Handle
  inited : Bool
  deriving DecidableEq, Repr

/-- `struct DatabaseInfo`. -/
structure DatabaseInfo where
  host : Bytes
  user : Bytes
  passwd : Bytes
  dbName : Bytes
  deriving DecidableEq, Repr

/-- `class DbMysql`, with the calls that it has made and the number of handles that the library
has allocated. -/
structure DbMysql where
  dbInfo : DatabaseInfo
  inited : Bool
  mysql : Option Handle
  calls : List MysqlCall
  allocated : Nat
  deriving DecidableEq, Repr

/-- `CR_SERVER_GONE_ERROR`. -/
def crServerGoneError : Nat := 2006

/-- What the server makes of a `Query`: whether it can be connected, if it has to be, whether
`mysql_real_query` returns 0, and what `mysql_store_result` returns. -/
structure QueryAnswers where
  connects : Bool
  succeeds : Bool
  stored : Option MysqlRes
  deriving DecidableEq, Repr

/-- What the server makes of an `Execute`: whether it can be connected, the error of the
statement if it fails, whether the server can be connected again, and whether the statement
succeeds then. -/
structure ExecuteAnswers where
  connects : Bool
  failure : Option Nat
  reconnects : Bool
  succeedsAgain : Bool
  deriving DecidableEq, Repr

namespace DbMysql

/-- The constructor. -/
def new : DbMysql where
  dbInfo := ⟨[], [], [], []⟩
  inited := false
  mysql := none
  calls := []
  allocated := 0

/-- A function of the library is called with `mysql_`. -/
def call (db : DbMysql) (function : MysqlFunction) : DbMysql :=
  { db with calls := db.calls ++ [⟨function, db.mysql, db.inited⟩] }

/-- `mysql_ = mysql_init(mysql_)`. -/
def mysqlInit (db : DbMysql) : DbMysql :=
  let called := db.call .init
  match db.mysql with
  | none => { called with mysql := some db.allocated, allocated := db.allocated + 1 }
  | some _ => called

/-- `Initialize`, where `mysql_real_connect` connects or does not, and errors are logged. -/
def initializeDb (db : DbMysql) (info : DatabaseInfo) (connects : Bool) : DbMysql × Bool :=
  let db := if db.inited then db.call .close else db
  let db := ({ db with dbInfo := info } : DbMysql).mysqlInit
  let db := db.call (.realConnect connects)
  if connects then (({ db with inited := true } : DbMysql).call .query, true)
  else ((db.call .error).call .close, false)

/-- The beginning of `Query` and of `Execute`. -/
def ready (db : DbMysql) (connects : Bool) : DbMysql × Bool :=
  if db.inited then (db, true) else db.initializeDb db.dbInfo connects

/-- `Query`; `none` is a null pointer. -/
def query (db : DbMysql) (answers : QueryAnswers) : DbMysql × Option (Except Fault QueryResult) :=
  let (db, initialized) := db.ready answers.connects
  if initialized then
    let db := db.call .realQuery
    if answers.succeeds then
      let db := db.call .storeResult
      match answers.stored with
      | none => (db, none)
      | some res =>
          ((db.call .fieldCount).call .affectedRows,
            some (QueryResult.new (some res) res.fieldNames.length))
    else (db, none)
  else (db, none)

/-- `Execute`. -/
def execute (db : DbMysql) (answers : ExecuteAnswers) : DbMysql × Bool :=
  let (db, initialized) := db.ready answers.connects
  if initialized then
    let db := db.call .query
    match answers.failure with
    | none => (db, true)
    | some errno =>
        let db := db.call .errno
        if errno = crServerGoneError then
          let (db, again) := db.initializeDb db.dbInfo answers.reconnects
          if again then (db.call .query, answers.succeedsAgain) else (db, false)
        else (db, false)
  else (db, false)

/-- The destructor. -/
def destroy (db : DbMysql) : DbMysql :=
  if db.mysql.isSome && db.inited then db.call .close else db

/-- What is done with a `DbMysql`. -/
inductive Operation where
  | initializeDb (info : DatabaseInfo) (connects : Bool)
  | query (answers : QueryAnswers)
  | execute (answers : ExecuteAnswers)
  deriving DecidableEq, Repr

def step (db : DbMysql) : Operation → DbMysql
  | .initializeDb info connects => (db.initializeDb info connects).1
  | .query answers => (db.query answers).1
  | .execute answers => (db.execute answers).1

def machine : Machine DbMysql Operation := ⟨step⟩

end DbMysql

end LiveBroadcast
