import LiveBroadcast.Utils.Bytes

/-!
# Results of queries

A `QueryResult` stands at one row of a result. Its constructor already goes to the first row,
and `NextRow` to the next one: it puts the columns of the row into `fields_`. When
`mysql_fetch_row` has no more rows to deliver, `EndQuery` releases the fields and the result, and
both pointers are null from then on.

A null column is an empty string in its field, beside a flag that nothing reads.
-/

set_option autoImplicit false

namespace LiveBroadcast

/-- `class Field`, without the type of its data, which nothing reads. -/
structure Field where
  data : Bytes
  nullptrData : Bool
  deriving DecidableEq, Repr

namespace Field

/-- The constructor. -/
def new : Field := ⟨[], true⟩

def setData (field : Field) (data : Bytes) : Field := { field with data := data }

def setNullptr (field : Field) (nullptrData : Bool) : Field :=
  { field with nullptrData := nullptrData }

def getString (field : Field) : Bytes := field.data

/-- What `NextRow` makes of a field, with a column that is a null pointer or has data. -/
def update (field : Field) : Option Bytes → Field
  | some data => (field.setNullptr false).setData data
  | none => (field.setNullptr true).setData []

end Field

/-- A `MYSQL_RES`: the names of the columns, and the rows that are still to be fetched. -/
structure MysqlRes where
  fieldNames : List Bytes
  rows : List (List (Option Bytes))
  deriving DecidableEq, Repr

/-- `mysql_fetch_row`: the rows in order, and then a null pointer. -/
def MysqlRes.fetchRow (res : MysqlRes) : Option (List (Option Bytes) × MysqlRes) :=
  match res.rows with
  | [] => none
  | row :: rows => some (row, { res with rows := rows })

/-- `emplace` of a `std::map`, which keeps what is there. -/
def emplace (map : List (Bytes × Nat)) (entry : Bytes × Nat) : List (Bytes × Nat) :=
  if (map.lookup entry.1).isSome then map else map ++ [entry]

/-- `class QueryResult`, without the number of rows, which nothing reads. -/
structure QueryResult where
  fieldMap : List (Bytes × Nat)
  fields : Option (List Field)
  res : Option MysqlRes
  deriving DecidableEq, Repr

namespace QueryResult

/-- `EndQuery`. -/
def endQuery (result : QueryResult) : QueryResult := { result with fields := none, res := none }

/-- `NextRow`. A row has as many columns as the result has fields. -/
def nextRow (result : QueryResult) : Except Fault (QueryResult × Bool) :=
  match result.res with
  | none => .ok (result, false)
  | some res =>
      match res.fetchRow with
      | none => .ok (result.endQuery, false)
      | some (row, rest) =>
          match result.fields with
          | none => .error .nullPointer
          | some fields =>
              .ok ({ result with
                  fields := some (fields.zipWith Field.update row)
                  res := some rest }, true)

/-- The constructor. -/
def new (res : Option MysqlRes) (numFields : Nat) : Except Fault QueryResult :=
  let result : QueryResult := ⟨[], some (List.replicate numFields .new), res⟩
  match res with
  | none => .ok result
  | some res =>
      let fieldMap := (res.fieldNames.take numFields).zipIdx.foldl emplace []
      ({ result with fieldMap := fieldMap }.nextRow).map Prod.fst

/-- `field_map_[name]`, which is 0 for a name that is not there. -/
def fieldIndex (result : QueryResult) (fieldName : Bytes) : Nat :=
  (result.fieldMap.lookup fieldName).getD 0

/-- `operator[]`, and what is read of the field. -/
def field (result : QueryResult) (fieldName : Bytes) : Except Fault Field :=
  match result.fields with
  | none => .error .nullPointer
  | some fields =>
      match fields[result.fieldIndex fieldName]? with
      | none => .error .outOfBounds
      | some field => .ok field

end QueryResult

end LiveBroadcast
