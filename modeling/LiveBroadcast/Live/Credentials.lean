import Mathlib.Data.List.TakeWhile
import Mathlib.Tactic.IntervalCases
import LiveBroadcast.Foundation.Amf0
import LiveBroadcast.Live.CommandBodies

/-!
# The credentials of a publisher

A publisher names its stream by the property `tcUrl` of its connect command, and its key
stands in its releaseStream command. `Authenticate` takes the user name from the text that
starts at the first `rtmp` of the one command, and the password from a fixed place of the
other, with the low byte of its length as a signed number.

So the callback is asked about the path of `tcUrl` and about the key exactly if the key is
shorter than 128 bytes and the text that is found leads to the same path
(`credentials_checked_iff`). What is found is `tcUrl` itself if nothing in front of it contains
`rtmp`; it then has to end where the URL ends. The commands are well formed by their types, so
that nothing else of them matters.
-/

set_option autoImplicit false

namespace LiveBroadcast

open Amf0

/-! ## Commands -/

/-- `rtmp://`. -/
def urlScheme : Bytes := [114, 116, 109, 112, 58, 47, 47]

/-- A URL of the form `rtmp://authority/path` that is short enough for a string. -/
structure RtmpUrl where
  authority : Bytes
  path : Bytes
  noSlash : 47 ∉ authority
  short : authority.length + path.length + 8 < 2 ^ 16
  deriving DecidableEq, Repr

def RtmpUrl.bytes (url : RtmpUrl) : Bytes := urlScheme ++ (url.authority ++ 47 :: url.path)

def RtmpUrl.text (url : RtmpUrl) : Text where
  bytes := url.bytes
  short := by
    have short := url.short
    rw [RtmpUrl.bytes, List.length_append, List.length_append, List.length_cons,
      show urlScheme.length = 7 from rfl]
    omega

def connectName : Text := ⟨[99, 111, 110, 110, 101, 99, 116], by decide⟩

def tcUrlName : Text := ⟨[116, 99, 85, 114, 108], by decide⟩

def releaseStreamName : Text :=
  ⟨[114, 101, 108, 101, 97, 115, 101, 83, 116, 114, 101, 97, 109], by decide⟩

/-- What a connect command holds: the properties of its command object in front of `tcUrl` and
behind it, and the arguments behind the object. -/
structure ConnectFields where
  transaction : BitVec 64
  before : Properties
  tcUrl : RtmpUrl
  after : Properties
  arguments : List Value
  deriving DecidableEq, Repr

namespace ConnectFields

def properties (fields : ConnectFields) : Properties :=
  fields.before ++ (tcUrlName, .string fields.tcUrl.text) :: fields.after

/-- The body of the message. -/
def body (fields : ConnectFields) : Bytes :=
  encodeString connectName ++ encodeNumber fields.transaction ++
    3 :: fields.properties.encode ++ objectEnd ++ fields.arguments.flatMap Value.encode

/-- The body in front of the property `tcUrl`. -/
def front (fields : ConnectFields) : Bytes :=
  encodeString connectName ++ encodeNumber fields.transaction ++ 3 :: fields.before.encode

/-- The body behind the value of `tcUrl`. -/
def back (fields : ConnectFields) : Bytes :=
  fields.after.encode ++ objectEnd ++ fields.arguments.flatMap Value.encode

theorem body_eq (fields : ConnectFields) :
    fields.body =
      fields.front ++ 0 :: 5 :: 116 :: 99 :: 85 :: 114 :: 108 :: 2 :: fields.tcUrl.text.high ::
        fields.tcUrl.text.low :: (fields.tcUrl.bytes ++ fields.back) := by
  rw [body, front, back, properties, Properties.encode_append]
  simp only [Properties.encode, List.flatMap_cons, List.append_assoc, List.cons_append]
  rfl

end ConnectFields

/-- A connect command, short enough for a message. -/
structure ConnectCommand extends ConnectFields where
  fits : toConnectFields.body.length < 2 ^ 24

/-- A releaseStream command: behind the name and the number, null, the stream key, and possibly
more arguments. -/
structure ReleaseCommand where
  transaction : BitVec 64
  key : Text
  arguments : List Value
  deriving DecidableEq, Repr

/-- The body of the message. -/
def ReleaseCommand.body (command : ReleaseCommand) : Bytes :=
  encodeString releaseStreamName ++ encodeNumber command.transaction ++ Value.null.encode ++
    encodeString command.key ++ command.arguments.flatMap Value.encode

/-! ## The text that is found -/

/-- The text up to a zero byte. -/
theorem takeWhile_zero (text rest : Bytes) :
    (text ++ 0 :: rest).takeWhile (· ≠ 0) = text.takeWhile (· ≠ 0) := by
  induction text with
  | nil => rfl
  | cons byte text ih => rw [List.cons_append, List.takeWhile_cons, List.takeWhile_cons, ih]

namespace ConnectCommand

variable {command : ConnectCommand}

/-- A position where `find` finds nothing is behind the end of what stands in front. -/
theorem front_length_lt_npos (command : ConnectCommand) : command.front.length < npos := by
  have fits := command.fits
  rw [ConnectFields.body_eq, List.length_append] at fits
  have small : 2 ^ 24 < npos := by decide
  omega

theorem find_body_front
    (earlier : find command.front [114, 116, 109, 112] 0 ≤ command.front.length) :
    find command.body [114, 116, 109, 112] 0 = find command.front [114, 116, 109, 112] 0 := by
  rcases find_cases command.front [114, 116, 109, 112] 0 with ⟨-, -, there, -⟩ | ⟨nowhere, -⟩
  · rw [ConnectFields.body_eq, find_append earlier there]
  · have bound := front_length_lt_npos command
    omega

/-- `rtmp` in front of `tcUrl` hides it: the text that starts there ends in front of it. -/
theorem urlOfBody_front
    (earlier : find command.front [114, 116, 109, 112] 0 ≤ command.front.length) :
    urlOfBody command.body = urlOfBody command.front := by
  rw [urlOfBody, urlOfBody, find_body_front earlier, ConnectFields.body_eq,
    List.drop_append_of_le_length earlier, takeWhile_zero]

/-- **Between what stands in front and the URL there is no `rtmp`**, not even one that begins
or ends outside. -/
theorem find_body (apart : command.front.length < find command.front [114, 116, 109, 112] 0) :
    find command.body [114, 116, 109, 112] 0 = command.front.length + 10 := by
  have scheme : command.tcUrl.bytes ++ command.back =
      114 :: 116 :: 109 :: 112 :: 58 :: 47 :: 47 ::
        (command.tcUrl.authority ++ 47 :: command.tcUrl.path ++ command.back) := rfl
  rw [ConnectFields.body_eq, scheme]
  apply find_eq (Nat.zero_le _)
  · simp only [List.length_append, List.length_cons]
    omega
  · rw [← List.drop_drop, List.drop_left]
    simp [List.cons_prefix_cons]
  · intro j _ before stands
    rcases Nat.lt_or_ge j command.front.length with inside | beyond
    · rw [List.drop_append_of_le_length (Nat.le_of_lt inside)] at stands
      have some_left : command.front.drop j ≠ [] := by simpa using inside
      have nowhere : ¬ [114, 116, 109, 112] <+: command.front.drop j := by
        rcases find_cases command.front [114, 116, 109, 112] 0 with ⟨-, there, -, -⟩ | ⟨-, none⟩
        · omega
        · exact none j (Nat.zero_le j) (Nat.le_of_lt inside)
      -- `rtmp` would have to reach beyond the front and hold the zero behind it
      generalize command.front.drop j = part at stands some_left nowhere
      match part with
      | [] => exact some_left rfl
      | [b0] => simp [List.cons_prefix_cons] at stands
      | [b0, b1] => simp [List.cons_prefix_cons] at stands
      | [b0, b1, b2] => simp [List.cons_prefix_cons] at stands
      | b0 :: b1 :: b2 :: b3 :: rest =>
          simp only [List.cons_append, List.cons_prefix_cons, List.nil_prefix, and_true]
            at stands nowhere
          exact nowhere stands
    · obtain ⟨k, rfl⟩ := Nat.exists_eq_add_of_le beyond
      rw [← List.drop_drop, List.drop_left] at stands
      have small : k < 10 := by omega
      interval_cases k <;> simp [List.cons_prefix_cons] at stands

/-- Without `rtmp` in front of it `tcUrl` is found, with what follows it up to a zero byte. -/
theorem urlOfBody_tcUrl
    (apart : command.front.length < find command.front [114, 116, 109, 112] 0) :
    urlOfBody command.body = (command.tcUrl.bytes ++ command.back).takeWhile (· ≠ 0) := by
  rw [urlOfBody, find_body apart, ConnectFields.body_eq, ← List.drop_drop, List.drop_left]
  rfl

/-- In both cases the text stands in the body. -/
theorem find_body_le (command : ConnectCommand) :
    find command.body [114, 116, 109, 112] 0 ≤ command.body.length := by
  have longer : command.front.length + 10 ≤ command.body.length := by
    rw [ConnectFields.body_eq]
    simp only [List.length_append, List.length_cons]
    omega
  rcases Nat.lt_or_ge command.front.length (find command.front [114, 116, 109, 112] 0) with
    apart | earlier
  · rw [find_body apart]
    exact longer
  · rw [find_body_front earlier]
    omega

end ConnectCommand

/-! ## The path of a text -/

namespace RtmpUrl

variable {url : RtmpUrl}

theorem bytes_eq (url : RtmpUrl) (rest : Bytes) :
    url.bytes ++ rest = urlScheme ++ (url.authority ++ 47 :: (url.path ++ rest)) := by
  simp only [bytes, List.append_assoc, List.cons_append]

theorem drop_scheme (k : Nat) (rest : Bytes) : (urlScheme ++ rest).drop (7 + k) = rest.drop k := by
  rw [← List.drop_drop]
  rfl

/-- Where a byte does not occur it does not stand. -/
theorem not_stands {text : Bytes} {byte : UInt8} (absent : byte ∉ text) {k : Nat}
    (inside : k < text.length) (rest : Bytes) : ¬ [byte] <+: text.drop k ++ rest := by
  intro stands
  rw [List.drop_eq_getElem_cons inside, List.cons_append, List.cons_prefix_cons] at stands
  exact absent (stands.1 ▸ List.getElem_mem inside)

theorem find_scheme (rest : Bytes) : find (urlScheme ++ rest) [47, 47] 0 = 5 := by
  apply find_eq (Nat.zero_le _)
  · simp [urlScheme]
  · simp [urlScheme, List.cons_prefix_cons]
  · intro j _ before stands
    interval_cases j <;> simp [urlScheme, List.cons_prefix_cons] at stands

/-- **The path of a URL** with something behind it. -/
theorem getPathFromUrl_append (url : RtmpUrl) {rest : Bytes}
    (short : (url.bytes ++ rest).length < npos) :
    Format.getPathFromUrl (url.bytes ++ rest) = .ok (Format.withoutSlash (url.path ++ rest)) := by
  refine @Format.getPathFromUrl_eq _ _ (7 + url.authority.length) ?_ ?_ short
  · rw [bytes_eq, find_scheme]
    apply find_eq (by rw [addSize]; omega)
    · simp only [urlScheme, List.length_append, List.length_cons, List.length_nil]
      omega
    · rw [drop_scheme, List.drop_left]
      simp [List.cons_prefix_cons]
    · intro j behind before stands
      obtain ⟨k, rfl⟩ := Nat.exists_eq_add_of_le (show 7 ≤ j from behind)
      have inside : k < url.authority.length := by omega
      rw [drop_scheme, List.drop_append_of_le_length (Nat.le_of_lt inside)] at stands
      exact not_stands url.noSlash inside _ stands
  · rw [bytes_eq, drop_scheme, List.drop_left]

/-- A URL that is cut in its authority has no path. -/
theorem getPathFromUrl_cut {authority path : Bytes} (noSlash : 47 ∉ authority)
    (short : (urlScheme ++ authority).length < npos) :
    Format.getPathFromUrl (urlScheme ++ authority) ≠ .ok path := by
  intro made
  have slash := (Format.getPathFromUrl_ok_iff _).mp ⟨path, made⟩
  rw [find_scheme] at slash
  rcases find_cases (urlScheme ++ authority) [47] (addSize 5 2) with
    ⟨behind, -, stands, -⟩ | ⟨nowhere, -⟩
  · obtain ⟨k, at_k⟩ := Nat.exists_eq_add_of_le (show 7 ≤ _ from behind)
    rw [at_k, List.length_append, show urlScheme.length = 7 from rfl] at slash
    rw [at_k, drop_scheme, ← List.append_nil (authority.drop k)] at stands
    exact not_stands noSlash (by omega) [] stands
  · rw [nowhere] at slash
    omega

end RtmpUrl

theorem withoutSlash_concat (path : Bytes) (last : UInt8) :
    Format.withoutSlash (path ++ [last]) = if last = 47 then path else path ++ [last] := by
  rw [Format.withoutSlash, List.getLast?_concat, List.dropLast_concat]
  by_cases slash : last = 47 <;> simp [slash]

/-- A path that ends with a slash gets shorter. -/
theorem length_withoutSlash_lt {path : Bytes} (slash : path.getLast? = some 47) :
    (Format.withoutSlash path).length < path.length := by
  have nonempty : path ≠ [] := by
    rintro rfl
    cases slash
  have positive := List.length_pos_iff.mpr nonempty
  rw [Format.withoutSlash, if_pos slash, List.length_dropLast]
  omega

theorem length_withoutSlash_le (path : Bytes) :
    (Format.withoutSlash path).length ≤ path.length := by
  by_cases slash : path.getLast? = some 47
  · exact Nat.le_of_lt (length_withoutSlash_lt slash)
  · rw [Format.withoutSlash, if_neg slash]

/-- A text goes on without changing the path exactly if nothing follows, or one slash behind a
path that does not end with one. -/
theorem withoutSlash_append_iff (path rest : Bytes) :
    Format.withoutSlash (path ++ rest) = Format.withoutSlash path ↔
      rest = [] ∨ rest = [47] ∧ path.getLast? ≠ some 47 := by
  rcases List.eq_nil_or_concat' rest with rfl | ⟨init, last, rfl⟩
  · simp
  · rw [← List.append_assoc, withoutSlash_concat]
    by_cases is_slash : last = 47
    · subst is_slash
      rw [if_pos rfl]
      by_cases slash : path.getLast? = some 47
      · refine iff_of_false (fun same => ?_) (by simp [slash])
        have shorter := length_withoutSlash_lt slash
        rw [← same, List.length_append] at shorter
        omega
      · rw [Format.withoutSlash, if_neg slash]
        simp [slash]
    · rw [if_neg is_slash]
      have not_slash : init ++ [last] ≠ [47] := fun same =>
        is_slash (List.singleton_inj.mp
          (List.append_inj' (show init ++ [last] = [] ++ [47] from same) rfl).2)
      refine iff_of_false (fun same => ?_) (by simp [not_slash])
      have shorter := length_withoutSlash_le path
      rw [← same, List.length_append, List.length_append, List.length_singleton] at shorter
      omega

namespace ConnectCommand

/-- Behind the URL a zero byte stands: `tcUrl` is the last property, or the name of the next
one is shorter than 256 bytes. A name of 12032 bytes, the length of which is a slash and a zero
byte, does no harm to a path that does not end with a slash. -/
def Terminated (command : ConnectCommand) : Prop :=
  ∀ property, command.after.head? = some property →
    property.1.bytes.length < 256 ∨
      property.1.bytes.length = 12032 ∧ command.tcUrl.path.getLast? ≠ some 47

/-- What the text that is found has to be: if `rtmp` stands in front of `tcUrl`, the text that
starts there has the path of `tcUrl`; otherwise `tcUrl` contains no zero byte, and one stands
behind it. -/
def FindsUrl (command : ConnectCommand) : Prop :=
  if find command.front [114, 116, 109, 112] 0 ≤ command.front.length then
    Format.getPathFromUrl (urlOfBody command.front) =
      .ok (Format.withoutSlash command.tcUrl.path)
  else 0 ∉ command.tcUrl.bytes ∧ command.Terminated

/-- What stands behind the URL up to a zero byte. -/
theorem back_takeWhile (command : ConnectCommand) :
    command.back.takeWhile (· ≠ 0) =
      match command.after with
      | [] => []
      | property :: after =>
          (property.1.high :: property.1.low :: (property.1.bytes ++ property.2.encode ++
            Properties.encode after ++ objectEnd ++
              command.arguments.flatMap Value.encode)).takeWhile (· ≠ 0) := by
  rw [ConnectFields.back]
  cases command.after with
  | nil => rfl
  | cons property after =>
      simp only [Properties.encode, List.flatMap_cons, Text.encode, List.cons_append,
        List.append_assoc]

/-- **Where the text ends.** -/
theorem terminated_iff (command : ConnectCommand) :
    command.back.takeWhile (· ≠ 0) = [] ∨
        command.back.takeWhile (· ≠ 0) = [47] ∧ command.tcUrl.path.getLast? ≠ some 47 ↔
      command.Terminated := by
  rw [back_takeWhile, Terminated]
  cases command.after with
  | nil => simp
  | cons property after =>
      have slash : property.1.high = 47 ∧ property.1.low = 0 ↔
          property.1.bytes.length = 12032 := property.1.length_eq_iff 47 0
      simp only [List.head?_cons, Option.some.injEq, forall_eq', List.takeWhile_cons]
      rw [← property.1.high_eq_zero_iff, ← slash]
      by_cases high : property.1.high = 0
      · simp [high]
      · by_cases low : property.1.low = 0 <;> simp [high, low]

variable {command : ConnectCommand}

theorem takeWhile_of_absent {text : Bytes} (absent : 0 ∉ text) (rest : Bytes) :
    (text ++ rest).takeWhile (· ≠ 0) = text ++ rest.takeWhile (· ≠ 0) := by
  apply List.takeWhile_append_of_pos
  intro byte inside
  rw [decide_eq_true_eq]
  rintro rfl
  exact absent inside

/-- A URL with a zero byte in it is cut, and does not lead to its path. -/
theorem path_ne_of_zero (zero : 0 ∈ command.tcUrl.bytes) :
    Format.getPathFromUrl ((command.tcUrl.bytes ++ command.back).takeWhile (· ≠ 0)) ≠
      .ok (Format.withoutSlash command.tcUrl.path) := by
  intro made
  by_cases in_path : 0 ∈ command.tcUrl.path
  · -- the path has the zero byte, the text has not
    have kept : 0 ∈ Format.withoutSlash command.tcUrl.path := by
      rcases List.eq_nil_or_concat' command.tcUrl.path with empty | ⟨init, last, concat⟩
      · rw [empty] at in_path
        cases in_path
      · rw [concat] at in_path ⊢
        rw [withoutSlash_concat]
        split
        · next slash =>
            rw [slash] at in_path
            simpa using in_path
        · exact in_path
    have inside := Format.mem_of_mem_getPathFromUrl made kept
    simpa using List.mem_takeWhile_imp inside
  · -- the text ends in the authority
    have in_authority : 0 ∈ command.tcUrl.authority := by
      rw [RtmpUrl.bytes] at zero
      simpa [urlScheme, in_path] using zero
    obtain ⟨kept, lost, split, absent⟩ := List.eq_append_cons_of_mem in_authority
    have noSlash : 47 ∉ kept := fun slash =>
      command.tcUrl.noSlash (split ▸ List.mem_append_left _ slash)
    have no_zero : 0 ∉ urlScheme ++ kept := by
      rw [List.mem_append, not_or]
      exact ⟨by decide, absent⟩
    have cut : (command.tcUrl.bytes ++ command.back).takeWhile (· ≠ 0) = urlScheme ++ kept := by
      rw [RtmpUrl.bytes_eq, split, List.append_assoc, List.cons_append, ← List.append_assoc,
        takeWhile_of_absent no_zero]
      exact List.append_nil _
    have short := command.tcUrl.short
    rw [cut] at made
    refine RtmpUrl.getPathFromUrl_cut noSlash ?_ made
    have part : kept.length ≤ command.tcUrl.authority.length := by
      rw [split, List.length_append]
      omega
    rw [List.length_append, show urlScheme.length = 7 from rfl]
    have large : 2 ^ 16 < npos := by decide
    omega

/-- **When the text leads to the path.** -/
theorem getPathFromUrl_urlOfBody_iff (command : ConnectCommand) :
    Format.getPathFromUrl (urlOfBody command.body) =
        .ok (Format.withoutSlash command.tcUrl.path) ↔ command.FindsUrl := by
  rcases Nat.lt_or_ge command.front.length (find command.front [114, 116, 109, 112] 0) with
    apart | earlier
  · rw [FindsUrl, if_neg (Nat.not_le.mpr apart), urlOfBody_tcUrl apart]
    by_cases zero : 0 ∈ command.tcUrl.bytes
    · exact iff_of_false (path_ne_of_zero zero) fun finds => finds.1 zero
    · have short : (command.tcUrl.bytes ++ command.back.takeWhile (· ≠ 0)).length < npos := by
        have fits := command.fits
        have part : (command.back.takeWhile (· ≠ 0)).length ≤ command.back.length :=
          (List.takeWhile_prefix _).length_le
        rw [ConnectFields.body_eq] at fits
        simp only [List.length_append, List.length_cons] at fits ⊢
        have large : 2 ^ 24 < npos := by decide
        omega
      rw [takeWhile_of_absent zero, RtmpUrl.getPathFromUrl_append _ short, Except.ok.injEq,
        withoutSlash_append_iff, terminated_iff]
      exact (and_iff_right zero).symm
  · rw [FindsUrl, if_pos earlier, urlOfBody_front earlier]

end ConnectCommand

namespace ReleaseCommand

/-- The low byte of the length of the key is byte 28. -/
theorem body_eq (command : ReleaseCommand) :
    ∃ front : Bytes, front.length = 28 ∧ command.body =
      front ++ command.key.low :: (command.key.bytes ++
        command.arguments.flatMap Value.encode) := by
  refine ⟨encodeString releaseStreamName ++ encodeNumber command.transaction ++
    Value.null.encode ++ [2, command.key.high], ?_, ?_⟩
  · simp only [List.length_append, length_encodeNumber]
    rfl
  · rw [body, encodeString, encodeString, Text.encode, Text.encode]
    simp only [List.append_assoc, List.cons_append, List.nil_append]

/-- **What is taken for the password**: as many bytes of the key as the low byte of its length
says, if that byte is not negative. -/
theorem getPasswordFromReleasePack_body (command : ReleaseCommand) {manager : RtmpManager}
    (released : manager.releasePack.buffer = command.body) (behind : Nat → UInt8) :
    manager.getPasswordFromReleasePack behind =
      if 128 ≤ command.key.bytes.length % 256 then .error .lengthError
      else .ok (command.key.bytes.take (command.key.bytes.length % 256)) := by
  obtain ⟨front, length, split⟩ := command.body_eq
  have there : manager.releasePack.buffer[28]? = some command.key.low := by
    rw [released, split, ← length, List.getElem?_append_right (Nat.le_refl _), Nat.sub_self]
    rfl
  have rest : manager.releasePack.buffer.drop 29 =
      command.key.bytes ++ command.arguments.flatMap Value.encode := by
    rw [released, split, show 29 = 28 + 1 from rfl, ← List.drop_drop, ← length, List.drop_left]
    rfl
  obtain ⟨long, same⟩ := List.getElem?_eq_some_iff.mp there
  split
  · next negative =>
      rw [RtmpManager.getPasswordFromReleasePack_eq_byteAt, RtmpManager.byteAt_inside long, same,
        if_pos (by rw [Text.low_toNat]; exact negative)]
  · next signed =>
      have inside : 29 + command.key.low.toNat ≤ manager.releasePack.buffer.length := by
        have behind_key := congrArg List.length rest
        rw [List.length_drop, List.length_append] at behind_key
        rw [Text.low_toNat]
        omega
      rw [RtmpManager.getPasswordFromReleasePack_eq there
        (by rw [Text.low_toNat]; omega) inside, rest, Text.low_toNat,
        List.take_append_of_le_length (Nat.mod_le _ _)]

/-- The password is the key exactly if the key is shorter than 128 bytes. -/
theorem password_eq_iff (command : ReleaseCommand) {manager : RtmpManager}
    (released : manager.releasePack.buffer = command.body) (behind : Nat → UInt8) :
    manager.getPasswordFromReleasePack behind = .ok command.key.bytes ↔
      command.key.bytes.length < 128 := by
  rw [getPasswordFromReleasePack_body command released behind]
  split
  · exact iff_of_false nofun (by omega)
  · next signed =>
      rw [Except.ok.injEq, List.take_eq_self_iff]
      omega

end ReleaseCommand

/-! ## Authentication -/

/-- The path is taken from the text that is found. -/
theorem ConnectCommand.getRtmpPath_eq (command : ConnectCommand) {connection : RtmpPushConnection}
    (connected : connection.rtmpManager.connectPack.buffer = command.body) :
    connection.getRtmpPath = Format.getPathFromUrl (urlOfBody command.body) := by
  have inside := command.find_body_le
  rw [← connected] at inside ⊢
  rw [RtmpPushConnection.getRtmpPath, RtmpManager.getUrlFromConnectPack_eq inside]
  simp only [bind, Except.bind]

/-- **When the credentials checked are the ones the client sent.** For every connect command
and every releaseStream command, `Authenticate` asks the callback about the path of `tcUrl`
without one slash at its end and about the stream key, and returns its answer, exactly if the
text that is found leads to that path and the key is shorter than 128 bytes. -/
theorem credentials_checked_iff (connect : ConnectCommand) (release : ReleaseCommand)
    (publisher : Publisher) (environment : ReadEnvironment) (callback : Bytes → Bytes → Bool)
    (asks : environment.authenticationCallback = some callback)
    (connected : publisher.pushConnection.rtmpManager.connectPack.buffer = connect.body)
    (released : publisher.pushConnection.rtmpManager.releasePack.buffer = release.body) :
    publisher.authenticate environment =
        .ok (publisher.record [.authenticated (Format.withoutSlash connect.tcUrl.path)
            release.key.bytes
            (callback (Format.withoutSlash connect.tcUrl.path) release.key.bytes)],
          callback (Format.withoutSlash connect.tcUrl.path) release.key.bytes) ↔
      connect.FindsUrl ∧ release.key.bytes.length < 128 := by
  rw [← connect.getPathFromUrl_urlOfBody_iff,
    ← release.password_eq_iff released environment.behind]
  rw [Publisher.authenticate, connect.getRtmpPath_eq connected]
  cases known : Format.getPathFromUrl (urlOfBody connect.body) with
  | error fault =>
      apply iff_of_false
      · intro made
        cases made
      · rintro ⟨impossible, -⟩
        cases impossible
  | ok username =>
      cases read : publisher.pushConnection.rtmpManager.getPasswordFromReleasePack
          environment.behind with
      | error fault =>
          apply iff_of_false
          · intro made
            cases made
          · rintro ⟨-, impossible⟩
            cases impossible
      | ok password =>
          simp only [bind, Except.bind, asks]
          constructor
          · intro made
            have recorded := congrArg Publisher.effects (Prod.mk.inj (Except.ok.inj made)).1
            have one := List.append_cancel_left recorded
            obtain ⟨rfl, rfl, -⟩ := PublisherEffect.authenticated.inj (List.singleton_inj.mp one)
            exact ⟨rfl, rfl⟩
          · rintro ⟨⟨⟩, ⟨⟩⟩
            rfl

/-- `rtmp://h/` and a path of one byte. -/
def shortUrl (path : UInt8) : RtmpUrl := ⟨[104], [path], by decide, by simp⟩

/-- A connect command for `rtmp://h/b`, with a property `app`. -/
def appConnect : ConnectCommand where
  transaction := 0
  before := [(⟨[97, 112, 112], by decide⟩, .string ⟨[98], by decide⟩)]
  tcUrl := shortUrl 98
  after := []
  arguments := []
  fits := by decide

/-- A connect command for `rtmp://h/b`, with a property `swfUrl` of the value `rtmp://h/a`. -/
def swfUrlConnect : ConnectCommand where
  transaction := 0
  before := [(⟨[115, 119, 102, 85, 114, 108], by decide⟩, .string (shortUrl 97).text)]
  tcUrl := shortUrl 98
  after := []
  arguments := []
  fits := by decide

/-- A key of so many bytes. -/
def keyOfLength (n : Nat) (short : n < 2 ^ 16) : ReleaseCommand where
  transaction := 0
  key := ⟨List.replicate n 107, by rwa [List.length_replicate]⟩
  arguments := []

/-- A publisher that has sent these commands. -/
def publisherWith (connect release : Bytes) : Publisher :=
  { plainPublisher with
    pushConnection := { plainPublisher.pushConnection with
      rtmpManager := { plainPublisher.pushConnection.rtmpManager with
        connectPack := { RtmpPack.zero with buffer := connect }
        releasePack := { RtmpPack.zero with buffer := release } } } }

theorem credentials_checked_iff_plain :
    let publisher := publisherWith appConnect.body (keyOfLength 1 (by decide)).body
    publisher.authenticate ⟨some fun _ _ => true, fun _ => 0, 0⟩ =
      .ok (publisher.record [.authenticated [98] [107] true], true) := by
  intro publisher
  refine (credentials_checked_iff appConnect (keyOfLength 1 (by decide)) publisher
    ⟨some fun _ _ => true, fun _ => 0, 0⟩ _ rfl rfl rfl).mpr ⟨?_, by decide⟩
  rw [ConnectCommand.FindsUrl, if_neg (by decide +kernel)]
  refine ⟨by decide, ?_⟩
  intro behind last
  cases last

/-- A command in a chunk, or in two if it is longer than 128 bytes. -/
def chunkedCommand (body : Bytes) : Bytes :=
  [3, 0, 0, 0] ++ (ByteTriple.ofNat body.length).bytes ++ [20, 0, 0, 0, 0] ++ body.take 128 ++
    if body.length ≤ 128 then [] else 0xc3 :: body.drop 128

/-- A publisher sends a handshake up to releaseStream. -/
def handshakeWith (connect : ConnectCommand) (release : ReleaseCommand) : List LiveEvent :=
  [.connect 0 [99] ⟨0, false, .zero, .zero⟩ .zero .zero,
    .readable 0 (List.replicate 3073 0 ++ chunkedCommand [0, 0, 16, 0] ++
      chunkedCommand connect.body ++ chunkedCommand release.body)
      ⟨some fun _ _ => true, fun _ => 0, 0⟩]

/-- **Other credentials are checked.** An earlier property hides `tcUrl`, and the callback is
asked about the path of that property; and a key of 128 bytes ends the process. -/
theorem other_credentials_checked :
    (∃ server publisher, (LiveServer.machine .standard).run (.ok .empty)
          (handshakeWith swfUrlConnect (keyOfLength 1 (by decide))) = .ok server ∧
        server.publishers 0 = some publisher ∧
        .authenticated [97] [107] true ∈ publisher.effects ∧
        .authenticated [98] [107] true ∉ publisher.effects) ∧
      (LiveServer.machine .standard).run (.ok .empty)
        (handshakeWith appConnect (keyOfLength 128 (by decide))) = .error .lengthError := by
  constructor
  · have asked : ((LiveServer.machine .standard).run (.ok .empty)
        (handshakeWith swfUrlConnect (keyOfLength 1 (by decide)))).toOption.any
          (fun server => (server.publishers 0).any fun publisher =>
            decide (.authenticated [97] [107] true ∈ publisher.effects ∧
              .authenticated [98] [107] true ∉ publisher.effects)) = true := by
      decide +kernel
    obtain ⟨server, reached, checked⟩ := Machine.exists_of_any asked
    obtain ⟨publisher, known, both⟩ := (Option.any_eq_true _ _).mp checked
    exact ⟨server, publisher, reached, known, of_decide_eq_true both⟩
  · apply eq_error_of_endsIn
    decide +kernel

end LiveBroadcast
