import LiveBroadcast.Foundation.ContentLength
import LiveBroadcast.Utils.LoggerStream

/-!
# The time in front of a log record

`FormatTime` writes the time of a statement into `time_str`, of which each thread has its own. The
first 17 characters are the date and the second, which it writes only if the second is not
`last_second`, that of the last statement; the microseconds behind them are written each time.

`gmtime_r` is whatever the library makes of a second (`gmtime`). A thread writes for each of its
statements what it would write without `last_second`, whatever `gmtime_r` makes of the seconds,
exactly if its statements are `Steady` (`log_times_iff`): `last_second` starts as 0, so the first
statement must not be made in second 0, and it is an `int`, so a statement must not be made in a
second that is what an `int` holds of another one, that of the statement before it. A clock that
is not set back meets the second condition for ever (`steady_of_sorted`).
-/

set_option autoImplicit false

namespace LiveBroadcast

open ContentLength

/-! ## Printing -/

/-- `%d` with a width and a character to fill it. -/
def printed (fill : UInt8) (width number : Nat) : Bytes :=
  List.replicate (width - (toDecimal number).length) fill ++ toDecimal number

/-- `struct tm`, as far as it is printed. -/
structure BrokenDownTime where
  tmYear : Nat
  tmMon : Nat
  tmMday : Nat
  tmHour : Nat
  tmMin : Nat
  tmSec : Nat
  deriving DecidableEq, Repr

/-- `"%4d%02d%02d %02d:%02d:%02d"` -/
def BrokenDownTime.text (tm : BrokenDownTime) : Bytes :=
  printed 32 4 (tm.tmYear + 1900) ++ printed 48 2 (tm.tmMon + 1) ++ printed 48 2 tm.tmMday ++
    ascii " " ++ printed 48 2 tm.tmHour ++ ascii ":" ++ printed 48 2 tm.tmMin ++ ascii ":" ++
      printed 48 2 tm.tmSec

/-- `Timestamp::UsPerSecond`. -/
def usPerSecond : Nat := 1000 * 1000

/-- `".%06d "` -/
def microsecondText (usSinceEpoch : Nat) : Bytes :=
  ascii "." ++ printed 48 6 (usSinceEpoch % usPerSecond) ++ ascii " "

/-- `snprintf` into the characters of an array from one of them on: what fits, and a null. -/
def snprintf (buffer : Vector UInt8 64) (start : Nat) (text : Bytes) : Vector UInt8 64 :=
  Vector.ofFn fun i =>
    if i < start then buffer[i]
    else ((text.take (63 - start) ++ [0])[i - start]?).getD buffer[i]

/-! ## `FormatTime` -/

/-- `last_second` and `time_str` of a thread. -/
structure LoggerThread where
  lastSecond : Int
  timeStr : Vector UInt8 64

/-- An assertion ends the process. -/
inductive LoggerFault where
  | assertion
  deriving DecidableEq, Repr

/-- What an `int` holds of a second. -/
def intOf (second : Nat) : Int := Int.bmod second 4294967296

namespace LoggerThread

/-- A thread that has logged nothing. -/
def new : LoggerThread := ⟨0, Vector.replicate 64 0⟩

/-- The first part of `FormatTime`: the date and the second. -/
def formatSecond (gmtime : Nat → BrokenDownTime) (thread : LoggerThread) (second : Nat) :
    Except LoggerFault LoggerThread :=
  if (second : Int) ≠ thread.lastSecond then
    if (gmtime second).text.length = 17 then
      .ok ⟨intOf second, snprintf thread.timeStr 0 (gmtime second).text⟩
    else .error .assertion
  else .ok thread

/-- `FormatTime` -/
def formatTime (gmtime : Nat → BrokenDownTime) (thread : LoggerThread) (usSinceEpoch : Nat) :
    Except LoggerFault LoggerThread :=
  (thread.formatSecond gmtime (usSinceEpoch / usPerSecond)).bind fun thread =>
    if (microsecondText usSinceEpoch).length = 8 then
      .ok { thread with timeStr := snprintf thread.timeStr 17 (microsecondText usSinceEpoch) }
    else .error .assertion

/-- What the records of a thread find. -/
def moment (thread : LoggerThread) (logLevel : LogLevel) (tid : Int) : LogMoment :=
  ⟨logLevel, tid, thread.timeStr⟩

/-- The times that a thread writes for its statements. -/
def logTimes (gmtime : Nat → BrokenDownTime) :
    LoggerThread → List Nat → Except LoggerFault (List Bytes)
  | _, [] => .ok []
  | thread, usSinceEpoch :: later =>
      (thread.formatTime gmtime usSinceEpoch).bind fun thread =>
        (logTimes gmtime thread later).map (thread.timeStr.toList.take 25 :: ·)

/-- A record starts with the time. -/
theorem time_prefix_record (thread : LoggerThread) {statement : LogStatement} {logLevel : LogLevel}
    (made : logLevel.rank ≤ statement.level.rank) (tid : Int) (values : List LogValue) :
    thread.timeStr.toList.take 25 <+:
      (statement.record (thread.moment logLevel tid) values).flatten := by
  have enabled : (thread.moment logLevel tid).logLevel.rank ≤ statement.level.rank := made
  rw [LogStatement.record, if_pos enabled, LogStatement.head, List.cons_append, List.cons_append,
    List.flatMap_cons, List.flatten_append]
  exact ⟨_, congrArg (· ++ _) (LogValue.parts_flatten (.view _)).symm⟩

end LoggerThread

/-- The time of a statement. -/
def timeText (gmtime : Nat → BrokenDownTime) (usSinceEpoch : Nat) : Bytes :=
  (gmtime (usSinceEpoch / usPerSecond)).text ++ microsecondText usSinceEpoch

/-- The years of the statements have four digits. -/
def FourDigitYears (gmtime : Nat → BrokenDownTime) (times : List Nat) : Prop :=
  ∀ usSinceEpoch ∈ times, (gmtime (usSinceEpoch / usPerSecond)).text.length = 17

/-! ## What is written -/

theorem getElem_snprintf (buffer : Vector UInt8 64) (start : Nat) (text : Bytes) (i : Fin 64) :
    (snprintf buffer start text)[i] =
      if i < start then buffer[i]
      else ((text.take (63 - start) ++ [0])[i - start]?).getD buffer[i] :=
  Vector.getElem_ofFn i.isLt

/-- **What is in front of the text and the text**, which fits, are the first characters. -/
theorem take_snprintf (buffer : Vector UInt8 64) {start : Nat} {text : Bytes}
    (fits : start + text.length ≤ 63) :
    (snprintf buffer start text).toList.take (start + text.length) =
      buffer.toList.take start ++ text := by
  have front : (buffer.toList.take start).length = start := by
    rw [List.length_take, Vector.length_toList]
    omega
  apply List.ext_getElem
  · rw [List.length_take, Vector.length_toList, List.length_append, front]
    omega
  · intro i inside _
    rw [List.length_take, Vector.length_toList] at inside
    have printed := getElem_snprintf buffer start text ⟨i, by omega⟩
    rw [List.getElem_take, Vector.getElem_toList]
    refine printed.trans ?_
    rcases Nat.lt_or_ge i start with before | behind
    · rw [if_pos before, List.getElem_append_left (by omega), List.getElem_take,
        Vector.getElem_toList]
      rfl
    · have there : i - start < text.length := by omega
      rw [if_neg (Nat.not_lt.mpr behind), List.getElem_append_right (by omega)]
      simp only [front]
      rw [List.take_of_length_le (by omega), List.getElem?_append_left there,
        List.getElem?_eq_getElem there, Option.getD_some]

theorem length_microsecondText (usSinceEpoch : Nat) :
    (microsecondText usSinceEpoch).length = 8 := by
  have few : usSinceEpoch % usPerSecond < 10 ^ 6 := Nat.mod_lt _ (by decide)
  have digits : (toDecimal (usSinceEpoch % usPerSecond : Nat)).length ≤ 6 := by
    rw [show toDecimal _ = decimalString _ from rfl, decimalString, List.length_map]
    exact (Nat.length_toDigits_le_iff (by decide) (by decide)).mpr few
  rw [microsecondText, List.length_append, List.length_append, printed, List.length_append,
    List.length_replicate]
  change 1 + (6 - (toDecimal (usSinceEpoch % usPerSecond : Nat)).length + _) + 1 = 8
  omega

/-! ## One statement -/

namespace LoggerThread

/-- A statement is not mistaken for one of another second: behind a statement in some second, or
as the first one. -/
def Distinct : Option Nat → Nat → Prop
  | none, second => second ≠ 0
  | some last, second => intOf last = second → last = second

/-- No statement is mistaken for one of another second. -/
def Steady : Option Nat → List Nat → Prop
  | _, [] => True
  | last, usSinceEpoch :: later =>
      Distinct last (usSinceEpoch / usPerSecond) ∧ Steady (some (usSinceEpoch / usPerSecond)) later

/-- `last_second` behind a statement in some second, or before all of them. -/
def lastSecondBehind : Option Nat → Int
  | none => 0
  | some second => intOf second

/-- The start of `time_str` there. -/
def dateBehind (gmtime : Nat → BrokenDownTime) : Option Nat → Bytes
  | none => List.replicate 17 0
  | some second => (gmtime second).text

/-- The thread has made its last statement in some second, or none. -/
structure Shows (gmtime : Nat → BrokenDownTime) (thread : LoggerThread) (last : Option Nat) :
    Prop where
  second : thread.lastSecond = lastSecondBehind last
  date : thread.timeStr.toList.take 17 = dateBehind gmtime last

variable {gmtime : Nat → BrokenDownTime} {thread : LoggerThread} {last : Option Nat}

/-- A second that is not mistaken is written. -/
theorem Shows.formatSecond (known : thread.Shows gmtime last) {second : Nat}
    (chars : (gmtime second).text.length = 17) (distinct : Distinct last second) :
    ∃ after, thread.formatSecond gmtime second = .ok after ∧ after.Shows gmtime (some second) := by
  rw [LoggerThread.formatSecond]
  by_cases hit : (second : Int) = thread.lastSecond
  · rw [if_neg (not_not_intro hit)]
    rw [known.second] at hit
    cases last with
    | none => exact absurd (Int.ofNat_eq_zero.mp hit) distinct
    | some before =>
        have same : before = second := distinct hit.symm
        exact ⟨thread, rfl, same ▸ known⟩
  · rw [if_pos hit, if_pos chars]
    refine ⟨⟨intOf second, _⟩, rfl, ⟨by rw [lastSecondBehind], ?_⟩⟩
    have written := @take_snprintf thread.timeStr 0 (gmtime second).text (by rw [chars]; decide)
    rw [chars, Nat.zero_add, List.take_zero, List.nil_append] at written
    exact written

/-- **A statement that is not mistaken** gets its time. -/
theorem Shows.formatTime (known : thread.Shows gmtime last) {usSinceEpoch : Nat}
    (chars : (gmtime (usSinceEpoch / usPerSecond)).text.length = 17)
    (distinct : Distinct last (usSinceEpoch / usPerSecond)) :
    ∃ after, thread.formatTime gmtime usSinceEpoch = .ok after ∧
      after.Shows gmtime (some (usSinceEpoch / usPerSecond)) ∧
        after.timeStr.toList.take 25 = timeText gmtime usSinceEpoch := by
  obtain ⟨between, made, second, date⟩ := known.formatSecond chars distinct
  have length := length_microsecondText usSinceEpoch
  have written := @take_snprintf between.timeStr 17 (microsecondText usSinceEpoch)
    (by rw [length]; decide)
  rw [length, date] at written
  refine ⟨{ between with timeStr := snprintf between.timeStr 17 (microsecondText usSinceEpoch) },
    ?_, ⟨second, ?_⟩, written⟩
  · rw [LoggerThread.formatTime, made]
    exact if_pos length
  · have front := congrArg (List.take 17) written
    rw [List.take_take] at front
    exact front.trans (List.take_left' chars)

/-- A statement that is mistaken writes nothing in front of its microseconds. -/
theorem Shows.mistaken (known : thread.Shows gmtime last) {usSinceEpoch : Nat}
    (same : lastSecondBehind last = (usSinceEpoch / usPerSecond : Nat)) {after : LoggerThread}
    (made : thread.formatTime gmtime usSinceEpoch = .ok after) :
    after.timeStr.toList.take 17 = dateBehind gmtime last := by
  have hit : ((usSinceEpoch / usPerSecond : Nat) : Int) = thread.lastSecond :=
    same.symm.trans known.second.symm
  have length := length_microsecondText usSinceEpoch
  rw [LoggerThread.formatTime, LoggerThread.formatSecond, if_neg (not_not_intro hit)] at made
  have written := @take_snprintf thread.timeStr 17 (microsecondText usSinceEpoch)
    (by rw [length]; decide)
  change (if _ then _ else _) = _ at made
  rw [if_pos length] at made
  obtain rfl := Except.ok.inj made
  have front := congrArg (List.take 17) written
  rw [length, List.take_take] at front
  refine front.trans ?_
  rw [← known.date]
  exact List.take_left' (by rw [List.length_take, Vector.length_toList]; rfl)

/-! ## All statements of a thread -/

theorem logTimes_cons_eq {usSinceEpoch : Nat} {later : List Nat} {text : Bytes}
    {texts : List Bytes} :
    thread.logTimes gmtime (usSinceEpoch :: later) = .ok (text :: texts) ↔
      ∃ after, thread.formatTime gmtime usSinceEpoch = .ok after ∧
        after.timeStr.toList.take 25 = text ∧ after.logTimes gmtime later = .ok texts := by
  rw [logTimes]
  cases thread.formatTime gmtime usSinceEpoch with
  | error fault => exact iff_of_false nofun fun ⟨_, made, _⟩ => nomatch made
  | ok after =>
      change Except.map _ (after.logTimes gmtime later) = _ ↔ _
      cases rest : after.logTimes gmtime later with
      | error fault =>
          refine iff_of_false nofun ?_
          rintro ⟨other, made, -, there⟩
          obtain rfl := Except.ok.inj made
          rw [rest] at there
          cases there
      | ok others =>
          constructor
          · intro made
            obtain ⟨rfl, rfl⟩ := List.cons.inj (Except.ok.inj made)
            exact ⟨after, rfl, rfl, rest⟩
          · rintro ⟨other, made, rfl, there⟩
            obtain rfl := Except.ok.inj made
            rw [rest] at there
            obtain rfl := Except.ok.inj there
            rfl

/-- Steady statements get their times. -/
theorem Shows.logTimes (known : thread.Shows gmtime last) {times : List Nat}
    (chars : FourDigitYears gmtime times) (steady : Steady last times) :
    thread.logTimes gmtime times = .ok (times.map (timeText gmtime)) := by
  induction times generalizing thread last with
  | nil => rfl
  | cons usSinceEpoch later ih =>
      obtain ⟨distinct, steady⟩ := steady
      obtain ⟨here, chars⟩ := List.forall_mem_cons.mp chars
      obtain ⟨after, made, shown, text⟩ := known.formatTime here distinct
      exact logTimes_cons_eq.mpr ⟨after, made, text, ih shown chars steady⟩

/-- A library that tells one second from all others. -/
def tellApart (second other : Nat) : BrokenDownTime :=
  ⟨70, 0, 1, 0, 0, if other = second then 0 else 1⟩

theorem tellApart_chars (second other : Nat) : (tellApart second other).text.length = 17 := by
  unfold tellApart
  split <;> decide

/-- A second that is mistaken has another text than what is written. -/
theorem dateBehind_ne {second : Nat} (mistaken : ¬ Distinct last second) :
    lastSecondBehind last = second ∧
      dateBehind (tellApart second) last ≠ (tellApart second second).text := by
  cases last with
  | none =>
      obtain rfl : second = 0 := not_not.mp mistaken
      exact ⟨rfl, by decide⟩
  | some before =>
      obtain ⟨hit, differs⟩ := Classical.not_imp.mp mistaken
      refine ⟨hit, ?_⟩
      rw [dateBehind, tellApart, tellApart, if_neg differs, if_pos rfl]
      decide

/-- Statements that get their times, whatever the library makes of the seconds, are steady. -/
theorem steady_of_logTimes {times : List Nat}
    (right : ∀ gmtime, (∀ second, (gmtime second).text.length = 17) →
      ∃ thread : LoggerThread, thread.Shows gmtime last ∧
        thread.logTimes gmtime times = .ok (times.map (timeText gmtime))) :
    Steady last times := by
  induction times generalizing last with
  | nil => trivial
  | cons usSinceEpoch later ih =>
      have distinct : Distinct last (usSinceEpoch / usPerSecond) := by
        by_contra mistaken
        obtain ⟨same, differs⟩ := dateBehind_ne mistaken
        have chars := tellApart_chars (usSinceEpoch / usPerSecond)
        obtain ⟨thread, known, texts⟩ := right _ chars
        obtain ⟨after, made, text, -⟩ := logTimes_cons_eq.mp texts
        have front := congrArg (List.take 17) text
        rw [List.take_take, timeText, List.take_left' (chars _)] at front
        exact differs ((known.mistaken same made).symm.trans front)
      refine ⟨distinct, ih fun gmtime chars => ?_⟩
      obtain ⟨thread, known, texts⟩ := right gmtime chars
      obtain ⟨after, made, -, rest⟩ := logTimes_cons_eq.mp texts
      obtain ⟨other, made', shown, -⟩ := known.formatTime (chars _) distinct
      obtain rfl := Except.ok.inj (made.symm.trans made')
      exact ⟨after, shown, rest⟩

theorem shows_new (gmtime : Nat → BrokenDownTime) : new.Shows gmtime none where
  second := rfl
  date := by
    rw [dateBehind]
    decide

/-- **The times of log records.** Whatever `gmtime_r` makes of the seconds, a thread writes for
each of its statements the time of this statement, exactly if the statements are steady. -/
theorem log_times_iff (times : List Nat) :
    (∀ gmtime, FourDigitYears gmtime times →
        new.logTimes gmtime times = .ok (times.map (timeText gmtime))) ↔
      Steady none times := by
  constructor
  · intro right
    refine steady_of_logTimes fun gmtime chars => ?_
    exact ⟨new, shows_new gmtime, right gmtime fun _ _ => chars _⟩
  · intro steady gmtime chars
    exact (shows_new gmtime).logTimes chars steady

theorem intOf_le (second : Nat) : intOf second ≤ second := by
  unfold intOf
  rw [Int.bmod_def]
  split <;> omega

/-- Behind a statement, a clock that is not set back is steady. -/
theorem steady_behind {before : Nat} {times : List Nat}
    (sorted : (before :: times).Pairwise (· ≤ ·)) : Steady (some (before / usPerSecond)) times := by
  induction times generalizing before with
  | nil => trivial
  | cons usSinceEpoch later ih =>
      obtain ⟨least, sorted⟩ := List.pairwise_cons.mp sorted
      refine ⟨fun hit => ?_, ih sorted⟩
      have earlier : before / usPerSecond ≤ usSinceEpoch / usPerSecond :=
        Nat.div_le_div_right (least usSinceEpoch List.mem_cons_self)
      have held := intOf_le (before / usPerSecond)
      omega

/-- **A clock that is not set back is steady**, when it has come to its first second. -/
theorem steady_of_sorted {first : Nat} {times : List Nat}
    (sorted : (first :: times).Pairwise (· ≤ ·)) (begun : usPerSecond ≤ first) :
    Steady none (first :: times) :=
  ⟨Nat.ne_of_gt (Nat.div_pos begun (by decide)), steady_behind sorted⟩

end LoggerThread

end LiveBroadcast
