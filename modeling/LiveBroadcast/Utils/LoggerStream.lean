import Mathlib.Algebra.GroupWithZero.Nat
import LiveBroadcast.Foundation.Runs
import LiveBroadcast.Utils.Bytes

/-!
# Log records

A `Logger` lives as long as its log statement. Its constructor writes the time, the thread and
the level into a `LoggerBuffer`, `<<` appends the values of the statement, and the destructor
appends the place of the statement and hands the record to the output. The buffer is an array
of 512 bytes behind a length; `Append` copies to where the length points and does not look at
how much room is left.

The memory of a buffer goes on behind its array here, so that an append that does not fit is a
write to an index of 512 or more. A record stays inside the array exactly when its whole text
fits (`staysInside_iff`), and it is put out as it was written (`output_run`).
-/

set_option autoImplicit false

namespace LiveBroadcast

/-- `DEFAULT_LOGGER_BUFFER_SIZE`. -/
def defaultLoggerBufferSize : Nat := 512

/-- `class LoggerBuffer`; the memory is counted from `buffer_` on. -/
structure LoggerBuffer where
  length : Nat
  memory : Nat → UInt8

namespace LoggerBuffer

/-- The constructor, with what the array happens to hold. -/
def new (memory : Nat → UInt8) : LoggerBuffer := ⟨0, memory⟩

/-- `Append`: `std::copy` to `WriteBegin`, and `AddWriteIdx`. -/
def append (buffer : LoggerBuffer) (data : Bytes) : LoggerBuffer where
  length := buffer.length + data.length
  memory i := if buffer.length ≤ i then (data[i - buffer.length]?).getD (buffer.memory i)
    else buffer.memory i

/-- The indices that `Append` writes. -/
def writes (buffer : LoggerBuffer) (data : Bytes) : List Nat :=
  List.range' buffer.length data.length

/-- What the destructor of the record puts out: `GetLength` bytes from `ReadBegin` on. -/
def output (buffer : LoggerBuffer) : Bytes := (List.range buffer.length).map buffer.memory

/-- A buffer that is appended to. -/
def machine : Machine LoggerBuffer Bytes := ⟨append⟩

variable (buffer : LoggerBuffer)

/-- **An append extends the output.** -/
theorem output_append (data : Bytes) :
    (buffer.append data).output = buffer.output ++ data := by
  apply List.ext_getElem
  · simp only [output, append, List.length_map, List.length_range, List.length_append]
  · intro i inside _
    rw [output, List.length_map, List.length_range] at inside
    have room : i < buffer.length + data.length := inside
    simp only [output, List.getElem_map, List.getElem_range]
    rcases Nat.lt_or_ge i buffer.length with earlier | here
    · rw [List.getElem_append_left (by simpa using earlier), List.getElem_map,
        List.getElem_range]
      exact if_neg (Nat.not_le.mpr earlier)
    · rw [List.getElem_append_right (by simpa using here)]
      simp only [append, if_pos here, List.length_map, List.length_range]
      rw [List.getElem?_eq_getElem (by omega), Option.getD_some]

/-- What is put out is what was appended. -/
theorem output_run (parts : List Bytes) :
    (machine.run buffer parts).output = buffer.output ++ parts.flatten := by
  induction parts generalizing buffer with
  | nil => exact (List.append_nil _).symm
  | cons part parts ih =>
      rw [Machine.run_cons, ih, List.flatten_cons, ← List.append_assoc]
      exact congrArg (· ++ _) (buffer.output_append part)

/-- The length is that of all parts. -/
theorem length_run (parts : List Bytes) :
    (machine.run buffer parts).length = buffer.length + parts.flatten.length := by
  have length (some_buffer : LoggerBuffer) :
      some_buffer.output.length = some_buffer.length := by
    rw [output, List.length_map, List.length_range]
  rw [← length, output_run, List.length_append, length]

end LoggerBuffer

open LoggerBuffer

/-- Appending one part after the other stays inside the array: every index that is written is
one of it, and the length never says otherwise. -/
def StaysInside (parts : List Bytes) : Prop :=
  ∀ memory before part, before ++ [part] <+: parts →
    (∀ i ∈ (machine.run (.new memory) before).writes part, i < defaultLoggerBufferSize) ∧
      ((machine.run (.new memory) before).append part).length ≤ defaultLoggerBufferSize

/-- **Appends stay inside exactly when all of them fit.** -/
theorem staysInside_iff (parts : List Bytes) :
    StaysInside parts ↔ parts.flatten.length ≤ defaultLoggerBufferSize := by
  constructor
  · intro inside
    rcases List.eq_nil_or_concat' parts with rfl | ⟨before, part, rfl⟩
    · exact Nat.zero_le _
    · have last := (inside (fun _ => 0) before part List.prefix_rfl).2
      have total := length_run (.new fun _ => 0) (before ++ [part])
      rw [Machine.run_append] at total
      exact (Nat.zero_add (before ++ [part]).flatten.length) ▸ total ▸ last
  · intro fits memory before part ⟨later, whole⟩
    have room : (machine.run (.new memory) before).length + part.length ≤
        defaultLoggerBufferSize := by
      rw [← whole] at fits
      rw [length_run]
      simp only [LoggerBuffer.new, List.flatten_append, List.flatten_cons, List.flatten_nil,
        List.length_append, List.append_nil] at fits ⊢
      omega
    refine ⟨fun i written => ?_, room⟩
    rw [writes, List.mem_range'_1] at written
    omega

/-- Appending one part after the other. What is behind the array belongs to something else, so an
append that goes on there is a fault. -/
def writeParts : LoggerBuffer → List Bytes → Except Fault LoggerBuffer
  | buffer, [] => .ok buffer
  | buffer, part :: parts =>
      if buffer.length + part.length ≤ defaultLoggerBufferSize then
        writeParts (buffer.append part) parts
      else .error .outOfBounds

/-- What a log statement does, from an empty buffer on. -/
def writeRecord (parts : List Bytes) : Except Fault Unit :=
  (writeParts (.new fun _ => 0) parts).map fun _ => ()

theorem writeParts_eq (buffer : LoggerBuffer) (parts : List Bytes)
    (inside : buffer.length ≤ defaultLoggerBufferSize) :
    writeParts buffer parts =
      if buffer.length + parts.flatten.length ≤ defaultLoggerBufferSize then
        .ok (machine.run buffer parts)
      else .error .outOfBounds := by
  induction parts generalizing buffer with
  | nil => exact (if_pos inside).symm
  | cons part parts ih =>
      rw [writeParts, List.flatten_cons, List.length_append, Machine.run_cons, ← Nat.add_assoc]
      by_cases fits : buffer.length + part.length ≤ defaultLoggerBufferSize
      · rw [if_pos fits]
        exact ih (buffer.append part) fits
      · rw [if_neg fits, if_neg (by omega)]

/-- **A record is written exactly when it stays inside.** -/
theorem writeRecord_ok_iff (parts : List Bytes) :
    writeRecord parts = .ok () ↔ StaysInside parts := by
  rw [staysInside_iff, writeRecord, writeParts_eq _ _ (Nat.zero_le _)]
  simp only [LoggerBuffer.new, Nat.zero_add]
  split
  · next fits => exact iff_of_true rfl fits
  · next long => exact iff_of_false nofun long

/-! ## Values -/

/-- The bytes of a string literal. -/
def ascii (text : String) : Bytes := text.toList.map fun c => UInt8.ofNat c.toNat

/-- `std::to_string` of a number. -/
def toDecimal (number : Int) : Bytes :=
  let digits := (Nat.toDigits 10 number.natAbs).map fun digit => UInt8.ofNat digit.toNat
  if number < 0 then 45 :: digits else digits

/-- What `<<` of a `LoggerStream` takes, by its overloads. -/
inductive LogValue where
  | string (str : Bytes)
  /-- A pointer to these bytes; the text ends in front of the first null. -/
  | cString (str : Bytes)
  | char (c : UInt8)
  | view (str : Bytes)
  | int (val : Int)
  | sizeT (val : Nat)
  | uint32 (val : UInt32)
  deriving DecidableEq, Repr

namespace LogValue

/-- The parts that `<<` of a string appends: an empty one is skipped. -/
def stringParts (str : Bytes) : List Bytes := if str = [] then [] else [str]

/-- The parts that `<<` appends. -/
def parts : LogValue → List Bytes
  | string str => stringParts str
  | cString str => [str.takeWhile (· ≠ 0)]
  | char c => [[c]]
  | view str => [str]
  | int val => stringParts (toDecimal val)
  | sizeT val => stringParts (toDecimal val)
  | uint32 val => stringParts (toDecimal val.toNat)

/-- The text of a value. -/
def text : LogValue → Bytes
  | string str => str
  | cString str => str.takeWhile (· ≠ 0)
  | char c => [c]
  | view str => str
  | int val => toDecimal val
  | sizeT val => toDecimal val
  | uint32 val => toDecimal val.toNat

theorem stringParts_flatten (str : Bytes) : (stringParts str).flatten = str := by
  rw [stringParts]
  split
  · next empty => exact empty.symm
  · exact List.flatten_singleton

/-- What is appended is the text. -/
@[simp] theorem parts_flatten (value : LogValue) : value.parts.flatten = value.text := by
  cases value with
  | string str => exact stringParts_flatten str
  | int val => exact stringParts_flatten _
  | sizeT val => exact stringParts_flatten _
  | uint32 val => exact stringParts_flatten _
  | _ => exact List.flatten_singleton

/-- The parts of some values have the length of their texts. -/
theorem length_flatMap_parts (values : List LogValue) :
    (values.flatMap parts).flatten.length = (values.map fun value => value.text.length).sum := by
  induction values with
  | nil => rfl
  | cons value values ih =>
      rw [List.flatMap_cons, List.flatten_append, List.length_append, parts_flatten, ih,
        List.map_cons, List.sum_cons]

end LogValue

/-! ## Records -/

/-- `enum LogLevel`. -/
inductive LogLevel where
  | debug
  | info
  | warn
  | error
  | fatal
  deriving DecidableEq, Repr

namespace LogLevel

/-- `LogLevelStr`. -/
def str : LogLevel → Bytes
  | debug => ascii "DEBUG "
  | info => ascii "INFO  "
  | warn => ascii "WARN  "
  | error => ascii "ERROR "
  | fatal => ascii "FATAL "

/-- The number of a level. -/
def rank : LogLevel → Nat
  | debug => 0
  | info => 1
  | warn => 2
  | error => 3
  | fatal => 4

theorem str_length (level : LogLevel) : level.str.length = 6 := by
  cases level <;> rfl

end LogLevel

/-- A log statement: the level of its macro, and where it stands. -/
structure LogStatement where
  level : LogLevel
  fileName : Bytes
  line : Int
  deriving DecidableEq, Repr

/-- What a record finds when it is made: the level of the process, the number of the thread,
and `time_str`, of which `FormatTime` has just rewritten the first 25 characters. -/
structure LogMoment where
  logLevel : LogLevel
  tid : Int
  timeStr : Vector UInt8 64

namespace LogStatement

/-- What the constructor of `Logger` streams. -/
def head (statement : LogStatement) (moment : LogMoment) : List LogValue :=
  [.view (moment.timeStr.toList.take 25), .int moment.tid, .char 32, .view statement.level.str]

/-- What `Finish` streams. -/
def finish (statement : LogStatement) : List LogValue :=
  [.cString (ascii " - "), .cString statement.fileName, .char 58, .int statement.line, .char 10]

/-- The appends of a log statement with its values. Below the level of the process it makes no
`Logger`. -/
def record (statement : LogStatement) (moment : LogMoment) (values : List LogValue) :
    List Bytes :=
  if moment.logLevel.rank ≤ statement.level.rank then
    (statement.head moment ++ values ++ statement.finish).flatMap LogValue.parts
  else []

/-- The length of a record apart from the values. -/
def frameLength (statement : LogStatement) (moment : LogMoment) : Nat :=
  37 + (toDecimal moment.tid).length + (statement.fileName.takeWhile (· ≠ 0)).length +
    (toDecimal statement.line).length

theorem record_length {statement : LogStatement} {moment : LogMoment}
    (made : moment.logLevel.rank ≤ statement.level.rank) (values : List LogValue) :
    (statement.record moment values).flatten.length =
      statement.frameLength moment + (values.map fun value => value.text.length).sum := by
  have time : (moment.timeStr.toList.take 25).length = 25 := by
    rw [List.length_take, Vector.length_toList]
    rfl
  have level := statement.level.str_length
  have dash : ((ascii " - ").takeWhile (· ≠ 0)).length = 3 := by decide
  rw [record, if_pos made, LogValue.length_flatMap_parts]
  simp only [head, finish, List.map_append, List.map_cons, List.map_nil, List.sum_append,
    List.sum_cons, List.sum_nil, LogValue.text, List.length_singleton, time, level, dash,
    frameLength]
  omega

/-- **Log records stay inside their buffer exactly when they fit.** For every log statement,
whatever is streamed into it: all appends of the record write inside the 512 bytes of the
buffer, if and only if the statement is below the level of the process, or the texts of the
values and what stands around them are 512 bytes or fewer. -/
theorem record_staysInside_iff (statement : LogStatement) (moment : LogMoment)
    (values : List LogValue) :
    StaysInside (statement.record moment values) ↔
      statement.level.rank < moment.logLevel.rank ∨
        statement.frameLength moment + (values.map fun value => value.text.length).sum ≤
          defaultLoggerBufferSize := by
  rw [staysInside_iff]
  rcases Nat.lt_or_ge statement.level.rank moment.logLevel.rank with below | made
  · rw [record, if_neg (Nat.not_le.mpr below)]
    exact iff_of_true (Nat.zero_le _) (.inl below)
  · rw [record_length made, or_iff_right (Nat.not_lt.mpr made)]

end LogStatement

end LiveBroadcast
