import Mathlib.Algebra.GroupWithZero.Nat
import Mathlib.Algebra.Order.BigOperators.Group.List
import Mathlib.Algebra.Order.Group.Nat
import LiveBroadcast.Live.RequestBytes
import LiveBroadcast.Utils.LoggerStream

/-!
# What clients put into log records

The servers log the target of every request and the path of every publisher, as they were
sent. A receive buffer holds 4096 bytes and a record 512, so a client that sends a long target
has the server write behind the array of the record (`long_target_overflows`); a long path does
the same (`long_path_overflows`).

For each of these statements a lemma says how much room its record needs (`LogMoment.HasRoom`).
The other log statements of the servers stream literals, numbers and the names that the server
itself gives its connections.
-/

set_option autoImplicit false

namespace LiveBroadcast

/-- The log statement of `HttpServer::OnHttpMessage`. -/
def HttpServer.onHttpMessageLog (moment : LogMoment) (connectionName url : Bytes) : List Bytes :=
  LogStatement.record ⟨.info, ascii "HttpServer.cpp", 32⟩ moment
    [.string connectionName, .cString (ascii " "), .string url]

/-- The log statement of `HttpServer::GetResponseTextFromFile` when the file cannot be read. -/
def HttpServer.readFileErrorLog (moment : LogMoment) (filePath : Bytes) : List Bytes :=
  LogStatement.record ⟨.error, ascii "HttpServer.cpp", 73⟩ moment
    [.cString (ascii "read file error "), .string filePath]

/-- The log statement of `HttpPullServer::OnClientMessage` when a publisher is found. -/
def HttpPullServer.successLog (moment : LogMoment) (connectionName url : Bytes) : List Bytes :=
  LogStatement.record ⟨.info, ascii "HttpPullServer.cpp", 53⟩ moment
    [.cString (ascii "connection: "), .string connectionName, .cString (ascii ", request url: "),
      .string url, .cString (ascii " success")]

/-- The log statement of `HttpPullServer::OnClientMessage` when none is. -/
def HttpPullServer.failedLog (moment : LogMoment) (connectionName url : Bytes) : List Bytes :=
  LogStatement.record ⟨.info, ascii "HttpPullServer.cpp", 61⟩ moment
    [.cString (ascii "connection: "), .string connectionName, .cString (ascii ", request url: "),
      .string url, .cString (ascii " failed")]

/-- The log statement of `RtmpPushServer::OnShakeHandSuccess`. -/
def RtmpPushServer.onShakeHandSuccessLog (moment : LogMoment) (connectionName path : Bytes) :
    List Bytes :=
  LogStatement.record ⟨.info, ascii "RtmpPushServer.cpp", 58⟩ moment
    [.cString (ascii "server: "), .string connectionName, .cString (ascii " bind to "),
      .string path]

/-! ## Room -/

/-- A record of this length has room in its buffer, when the number of the thread stands in it as
well, or none is made at this level. -/
def LogMoment.HasRoom (moment : LogMoment) (level : LogLevel) (length : Nat) : Prop :=
  level.rank < moment.logLevel.rank ∨
    length + (toDecimal moment.tid).length ≤ defaultLoggerBufferSize

/-- A statement is carried out when there is room for what it streams. -/
theorem LogStatement.writeRecord_iff (statement : LogStatement) (moment : LogMoment)
    (values : List LogValue) {length : Nat}
    (counted : 37 + (statement.fileName.takeWhile (· ≠ 0)).length +
      (toDecimal statement.line).length + (values.map fun value => value.text.length).sum =
        length) :
    writeRecord (statement.record moment values) = .ok () ↔
      moment.HasRoom statement.level length := by
  rw [writeRecord_ok_iff, record_staysInside_iff, LogMoment.HasRoom, frameLength, ← counted]
  refine or_congr_right ?_
  rw [show 37 + (toDecimal moment.tid).length + (statement.fileName.takeWhile (· ≠ 0)).length +
      (toDecimal statement.line).length + (values.map fun value => value.text.length).sum =
    37 + (statement.fileName.takeWhile (· ≠ 0)).length + (toDecimal statement.line).length +
      (values.map fun value => value.text.length).sum + (toDecimal moment.tid).length by omega]

/-- Thread 1 logs what is `INFO` or higher. -/
def infoMoment : LogMoment := ⟨.info, 1, Vector.replicate 64 48⟩

section

variable (moment : LogMoment) (connectionName url path : Bytes)

theorem HttpServer.onHttpMessageLog_iff :
    writeRecord (HttpServer.onHttpMessageLog moment connectionName url) = .ok () ↔
      moment.HasRoom .info (54 + connectionName.length + url.length) :=
  LogStatement.writeRecord_iff ⟨.info, ascii "HttpServer.cpp", 32⟩ moment _
    (show 53 + (connectionName.length + (1 + (url.length + 0))) = _ by omega)

theorem HttpServer.readFileErrorLog_iff :
    writeRecord (HttpServer.readFileErrorLog moment path) = .ok () ↔
      moment.HasRoom .error (69 + path.length) :=
  LogStatement.writeRecord_iff ⟨.error, ascii "HttpServer.cpp", 73⟩ moment _
    (show 53 + (16 + (path.length + 0)) = _ by omega)

theorem HttpPullServer.successLog_iff :
    writeRecord (HttpPullServer.successLog moment connectionName url) = .ok () ↔
      moment.HasRoom .info (92 + connectionName.length + url.length) :=
  LogStatement.writeRecord_iff ⟨.info, ascii "HttpPullServer.cpp", 53⟩ moment _
    (show 57 + (12 + (connectionName.length + (15 + (url.length + (8 + 0))))) = _ by omega)

theorem HttpPullServer.failedLog_iff :
    writeRecord (HttpPullServer.failedLog moment connectionName url) = .ok () ↔
      moment.HasRoom .info (91 + connectionName.length + url.length) :=
  LogStatement.writeRecord_iff ⟨.info, ascii "HttpPullServer.cpp", 61⟩ moment _
    (show 57 + (12 + (connectionName.length + (15 + (url.length + (7 + 0))))) = _ by omega)

theorem RtmpPushServer.onShakeHandSuccessLog_iff :
    writeRecord (RtmpPushServer.onShakeHandSuccessLog moment connectionName path) = .ok () ↔
      moment.HasRoom .info (74 + connectionName.length + path.length) :=
  LogStatement.writeRecord_iff ⟨.info, ascii "RtmpPushServer.cpp", 58⟩ moment _
    (show 57 + (8 + (connectionName.length + (9 + (path.length + 0)))) = _ by omega)

end

/-! ## Long values -/

/-- **A long value overflows its record**, whatever else is streamed. -/
theorem LogStatement.long_value_overflows {statement : LogStatement} {moment : LogMoment}
    (made : moment.logLevel.rank ≤ statement.level.rank) {values : List LogValue}
    {value : LogValue} (streamed : value ∈ values) (long : 475 < value.text.length) :
    ¬ StaysInside (statement.record moment values) := by
  have part : value.text.length ≤ (values.map fun value => value.text.length).sum :=
    List.le_sum_of_mem (List.mem_map_of_mem streamed)
  rw [staysInside_iff, record_length made, frameLength, defaultLoggerBufferSize]
  omega

theorem fourth_streamed (first second third fourth fifth : LogValue) :
    fourth ∈ [first, second, third, fourth, fifth] := by simp

variable {moment : LogMoment}

/-- **A request with a long target** overflows the record of each server that reads it. -/
theorem long_target_overflows (made : moment.logLevel.rank ≤ LogLevel.info.rank)
    (connectionName : Bytes) {data : Bytes} (short : data.length < npos)
    (long : 476 < (requestTarget data).length) :
    (∃ url, Format.getUrl data = .ok url ∧
        ¬ StaysInside (HttpServer.onHttpMessageLog moment connectionName url)) ∧
      ∃ url, requestKey data = .ok url ∧
        ¬ StaysInside (HttpPullServer.successLog moment connectionName url) ∧
          ¬ StaysInside (HttpPullServer.failedLog moment connectionName url) := by
  have target : requestTarget data ≠ [] := by
    intro empty
    rw [empty] at long
    exact absurd long (Nat.not_lt_zero _)
  have key : 475 < (requestTarget data).tail.length := by
    rw [List.length_tail]
    omega
  refine ⟨⟨_, Format.getUrl_eq short, ?_⟩, _, (requestKey_eq short).trans (if_neg target), ?_, ?_⟩
  · have streamed : LogValue.string (requestTarget data) ∈
        [.string connectionName, .cString (ascii " "), .string (requestTarget data)] := by simp
    exact LogStatement.long_value_overflows made streamed (Nat.lt_of_succ_lt long)
  · exact LogStatement.long_value_overflows made (fourth_streamed _ _ _ _ _) key
  · exact LogStatement.long_value_overflows made (fourth_streamed _ _ _ _ _) key

/-- **A publisher with a long path** overflows the record of its success. -/
theorem long_path_overflows (made : moment.logLevel.rank ≤ LogLevel.info.rank)
    (connectionName : Bytes) {path : Bytes} (long : 475 < path.length) :
    ¬ StaysInside (RtmpPushServer.onShakeHandSuccessLog moment connectionName path) :=
  LogStatement.long_value_overflows made
    (List.mem_cons_of_mem _ (List.mem_cons_of_mem _ (List.mem_cons_of_mem _
      List.mem_cons_self))) (show 475 < (LogValue.string path).text.length from long)

/-- A target of 600 letters. -/
def longTarget : Bytes := List.replicate 600 97

theorem longTarget_length : longTarget.length = 600 := List.length_replicate

/-- A request for it. -/
def longRequest : Bytes := ascii "GET" ++ 32 :: longTarget

theorem longRequest_length : longRequest.length = 604 := by
  rw [longRequest, List.length_append, List.length_cons, longTarget_length]
  rfl

theorem requestTarget_longRequest : requestTarget longRequest = longTarget := by
  rw [longRequest, requestTarget_blank (by decide), List.takeWhile_eq_self_iff]
  exact fun byte inside => (List.eq_of_mem_replicate inside) ▸ rfl

/-- **A request of 604 bytes writes behind the record.** The receive buffer takes it in one
read, and its target alone is longer than the array. -/
theorem longRequest_overflows :
    longRequest.length ≤ 4096 ∧ Format.getUrl longRequest = .ok longTarget ∧
      ¬ StaysInside (HttpServer.onHttpMessageLog ⟨.info, 1, Vector.replicate 64 48⟩ [49]
        longTarget) := by
  refine ⟨by rw [longRequest_length]; decide, ?_, ?_⟩
  · rw [Format.getUrl_eq (by rw [longRequest_length]; decide), requestTarget_longRequest]
  · have streamed : LogValue.string longTarget ∈
        [.string [49], .cString (ascii " "), .string longTarget] := by simp
    apply LogStatement.long_value_overflows (Nat.le_refl _) streamed
    rw [LogValue.text, longTarget_length]
    decide

end LiveBroadcast
