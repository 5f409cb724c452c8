import Mathlib.Data.List.Basic
import Mathlib.Data.List.Find
import LiveBroadcast.Utils.Bytes

/-!
# String helpers

`Format` works on `std::string`, here a list of bytes, with `size_t` positions. `find`
returns `npos` when nothing is found, and the arithmetic on positions wraps, so that
`npos + 1` is 0. `substr` throws when it starts behind the end.
-/

set_option autoImplicit false

namespace LiveBroadcast

/-- `std::string::npos`. -/
def npos : Nat := 2 ^ 64 - 1

/-- `a + b` on `size_t`. -/
def addSize (a b : Nat) : Nat := (a + b) % 2 ^ 64

/-- `a - b` on `size_t`. -/
def subSize (a b : Nat) : Nat := (a + (2 ^ 64 - b % 2 ^ 64)) % 2 ^ 64

/-- `str.find(pattern, pos)`: the first position from `pos` on where the pattern stands. -/
def find (str pattern : Bytes) (pos : Nat) : Nat :=
  ((List.range (str.length + 1)).find? fun i =>
    decide (pos ≤ i) && pattern.isPrefixOf (str.drop i)).getD npos

/-- `str.find_last_of(c)`. -/
def findLastOf (str : Bytes) (c : UInt8) : Nat :=
  ((List.range str.length).reverse.find? fun i => str[i]? == some c).getD npos

/-- `str.substr(pos, count)`. -/
def substr (str : Bytes) (pos count : Nat) : Except Fault Bytes :=
  if str.length < pos then .error .outOfRange else .ok ((str.drop pos).take count)

/-- **What `find` finds**: the first position of the pattern, or `npos` if there is none. -/
theorem find_cases (str pattern : Bytes) (pos : Nat) :
    (pos ≤ find str pattern pos ∧ find str pattern pos ≤ str.length ∧
        pattern <+: str.drop (find str pattern pos) ∧
        ∀ j, pos ≤ j → j < find str pattern pos → ¬ pattern <+: str.drop j) ∨
      find str pattern pos = npos ∧
        ∀ j, pos ≤ j → j ≤ str.length → ¬ pattern <+: str.drop j := by
  rw [find]
  cases found : (List.range (str.length + 1)).find? fun i =>
      decide (pos ≤ i) && pattern.isPrefixOf (str.drop i) with
  | none =>
      refine Or.inr ⟨rfl, fun j behind inside here => ?_⟩
      have nowhere := List.find?_range_eq_none.mp found j (Nat.lt_succ_of_le inside)
      rw [decide_eq_true behind, Bool.true_and, List.isPrefixOf_iff_prefix.mpr here] at nowhere
      cases nowhere
  | some i =>
      obtain ⟨here, inside, first⟩ := List.find?_range_eq_some.mp found
      rw [Bool.and_eq_true, decide_eq_true_eq, List.isPrefixOf_iff_prefix] at here
      refine Or.inl ⟨here.1, Nat.le_of_lt_succ (List.mem_range.mp inside), here.2, ?_⟩
      intro j behind before stands
      have nowhere := first j before
      rw [decide_eq_true behind, Bool.true_and, List.isPrefixOf_iff_prefix.mpr stands] at nowhere
      cases nowhere

/-- The first position of a pattern is found. -/
theorem find_eq {str pattern : Bytes} {pos i : Nat} (behind : pos ≤ i) (inside : i ≤ str.length)
    (here : pattern <+: str.drop i) (first : ∀ j, pos ≤ j → j < i → ¬ pattern <+: str.drop j) :
    find str pattern pos = i := by
  rcases find_cases str pattern pos with ⟨from_pos, -, stands, earliest⟩ | ⟨-, nowhere⟩
  · by_contra differ
    rcases Nat.lt_or_gt_of_ne differ with before | after
    · exact first _ from_pos before stands
    · exact earliest i behind after here
  · exact absurd here (nowhere i behind inside)

/-- What stands in the front of a text is found there. -/
theorem find_append {str rest pattern : Bytes} (there : find str pattern 0 ≤ str.length)
    (found : pattern <+: str.drop (find str pattern 0)) :
    find (str ++ rest) pattern 0 = find str pattern 0 := by
  apply find_eq (Nat.zero_le _)
  · rw [List.length_append]
    omega
  · rw [List.drop_append_of_le_length there]
    exact found.trans (List.prefix_append _ _)
  · intro j _ before stands
    have room := found.length_le
    rw [List.length_drop] at room
    rw [List.drop_append_of_le_length (by omega)] at stands
    have earlier : pattern <+: str.drop j :=
      List.prefix_of_prefix_length_le stands (List.prefix_append _ _)
        (by rw [List.length_drop]; omega)
    rcases find_cases str pattern 0 with ⟨-, -, -, first⟩ | ⟨-, nowhere⟩
    · exact first j (Nat.zero_le j) before earlier
    · exact nowhere j (Nat.zero_le j) (by omega) earlier

/-- The last byte is found first. -/
theorem findLastOf_concat (str : Bytes) (last c : UInt8) :
    findLastOf (str ++ [last]) c = if last = c then str.length else findLastOf str c := by
  rw [findLastOf, List.length_append, List.length_singleton, List.range_succ,
    List.reverse_append, List.reverse_singleton, List.singleton_append]
  by_cases same : last = c
  · rw [List.find?_cons_of_pos (by simp [same]), if_pos same]
    rfl
  · rw [List.find?_cons_of_neg (by simp [same]), if_neg same, findLastOf]
    refine congrArg (Option.getD · npos) (List.find?_congr fun i inside => ?_)
    rw [List.mem_reverse, List.mem_range] at inside
    rw [List.getElem?_append_left inside]

theorem findLastOf_cases (str : Bytes) (c : UInt8) :
    findLastOf str c < str.length ∨ findLastOf str c = npos := by
  rw [findLastOf]
  cases found : (List.range str.length).reverse.find? fun i => str[i]? == some c with
  | none => exact .inr rfl
  | some i => exact .inl (List.mem_range.mp (List.mem_reverse.mp (List.mem_of_find?_eq_some found)))

namespace Format

/-- `ToHexString`. -/
def toHexString (decimalNum : Nat) : Bytes :=
  (Nat.toDigits 16 decimalNum).map fun digit => UInt8.ofNat digit.toNat

/-- `ToHexStringWithCrlf`. -/
def toHexStringWithCrlf (decimalNum : Nat) : Bytes := toHexString decimalNum ++ [13, 10]

/-- `GetUrl`: what stands between the first two blanks. -/
def getUrl (str : Bytes) : Except Fault Bytes :=
  let urlBegin := addSize (find str [32] 0) 1
  let urlEnd := find str [32] urlBegin
  substr str urlBegin (subSize urlEnd urlBegin)

/-- `GetPathFromUrl`: what stands behind the authority, without the slashes around it. -/
def getPathFromUrl (url : Bytes) : Except Fault Bytes := do
  let idx := find url [47, 47] 0
  let idx1 := find url [47] (addSize idx 2)
  let path ← substr url idx1 npos
  let pathLen := path.length
  let pathLen := if findLastOf path 47 = subSize path.length 1 then subSize pathLen 1 else pathLen
  substr path 1 (subSize pathLen 1)

/-- **`GetPathFromUrl` returns** when it finds a slash behind the authority. -/
theorem getPathFromUrl_ok_iff (url : Bytes) :
    (∃ path, getPathFromUrl url = .ok path) ↔
      find url [47] (addSize (find url [47, 47] 0) 2) < url.length := by
  simp only [getPathFromUrl, substr, bind, Except.bind]
  generalize find url [47] (addSize (find url [47, 47] 0) 2) = slash
  rcases Nat.lt_or_ge url.length slash with beyond | inside
  · rw [if_pos beyond]
    refine iff_of_false ?_ (by omega)
    rintro ⟨path, made⟩
    cases made
  · rw [if_neg (Nat.not_lt.mpr inside)]
    dsimp only
    have length : ((url.drop slash).take npos).length = min npos (url.length - slash) := by
      rw [List.length_take, List.length_drop]
    have positive : 0 < npos := by decide
    rcases Nat.lt_or_ge slash url.length with before | behind
    · rw [if_neg (by omega)]
      exact iff_of_true ⟨_, rfl⟩ before
    · rw [if_pos (by omega)]
      exact iff_of_false (fun ⟨path, made⟩ => nomatch made) (Nat.not_lt.mpr behind)

/-- A path without one slash at its end. -/
def withoutSlash (path : Bytes) : Bytes :=
  if path.getLast? = some 47 then path.dropLast else path

/-- What `GetPathFromUrl` returns for a text that is not too long behind the slash: what stands
behind it, without one slash at its end. -/
theorem getPathFromUrl_behind {url path : Bytes} {first : UInt8} {slash : Nat}
    (found : find url [47] (addSize (find url [47, 47] 0) 2) = slash)
    (behind : url.drop slash = first :: path) (short : path.length + 1 < npos) :
    getPathFromUrl url = .ok (withoutSlash path) := by
  have length : path.length + 1 = url.length - slash := by
    rw [← List.length_cons, ← behind, List.length_drop]
  have whole : (url.drop slash).take npos = first :: path := by
    rw [behind]
    exact List.take_of_length_le (by rw [List.length_cons]; omega)
  have size : subSize (first :: path).length 1 = path.length := by
    rw [subSize, List.length_cons]
    unfold npos at short
    omega
  have cut (n : Nat) : substr (first :: path) 1 n = .ok (path.take n) := by
    rw [substr, if_neg (by rw [List.length_cons]; omega)]
    rfl
  simp only [getPathFromUrl, found, bind, Except.bind]
  rw [substr, if_neg (by omega), whole]
  dsimp only
  rw [size, cut, withoutSlash]
  refine congrArg Except.ok ?_
  rcases List.eq_nil_or_concat' path with rfl | ⟨init, last, rfl⟩
  · exact List.take_nil
  · rw [← List.cons_append, findLastOf_concat, List.length_cons, List.length_append,
      List.length_singleton, List.getLast?_concat]
    by_cases is_slash : last = 47
    · have shorter : subSize (init.length + 1) 1 = init.length := by
        rw [subSize]
        rw [List.length_append, List.length_singleton] at short
        unfold npos at short
        omega
      rw [if_pos is_slash, if_pos rfl, if_pos (by rw [is_slash]), shorter,
        List.dropLast_concat, List.take_left]
    · have elsewhere : findLastOf (first :: init) 47 ≠ init.length + 1 := by
        rcases findLastOf_cases (first :: init) 47 with inside | nowhere
        · rw [List.length_cons] at inside
          omega
        · rw [List.length_append, List.length_singleton] at short
          omega
      rw [if_neg is_slash, if_neg elsewhere, if_neg (by simpa using is_slash)]
      exact (congrArg (fun n => (init ++ [last]).take n) size).trans List.take_length

/-- **What `GetPathFromUrl` returns**: what stands behind the slash that it finds, without one
slash at its end. -/
theorem getPathFromUrl_eq {url path : Bytes} {slash : Nat}
    (found : find url [47] (addSize (find url [47, 47] 0) 2) = slash)
    (behind : url.drop slash = 47 :: path) (short : url.length < npos) :
    getPathFromUrl url = .ok (withoutSlash path) := by
  refine getPathFromUrl_behind found behind ?_
  rw [← List.length_cons, ← behind, List.length_drop]
  exact Nat.lt_of_le_of_lt (Nat.sub_le _ _) short

/-- The path of a URL: what stands behind the slash behind the authority, without one slash at
its end. -/
def pathOf (url : Bytes) : Bytes :=
  withoutSlash (url.drop (find url [47] (addSize (find url [47, 47] 0) 2) + 1))

theorem withoutSlash_length (path : Bytes) : path.length - 1 ≤ (withoutSlash path).length := by
  rw [withoutSlash]
  split
  · rw [List.length_dropLast]
  · exact Nat.sub_le _ _

/-- **`GetPathFromUrl` returns the path of a URL**, except that it cuts off what stands behind
`npos` bytes of it. -/
theorem getPathFromUrl_pathOf {url path : Bytes} (made : getPathFromUrl url = .ok path) :
    path = pathOf url ∨ npos - 2 ≤ path.length ∧ npos - 2 ≤ (pathOf url).length := by
  have inside := (getPathFromUrl_ok_iff url).mp ⟨path, made⟩
  rw [pathOf]
  generalize found : find url [47] (addSize (find url [47, 47] 0) 2) = slash at inside
  have behind : url.drop slash = url[slash] :: url.drop (slash + 1) :=
    List.drop_eq_getElem_cons inside
  rcases Nat.lt_or_ge ((url.drop (slash + 1)).length + 1) npos with short | long
  · left
    rw [getPathFromUrl_behind found behind short] at made
    exact (Except.ok.inj made).symm
  · right
    have limit : npos = 2 ^ 64 - 1 := rfl
    have whole : ((url.drop slash).take npos).length = npos := by
      rw [List.length_take, behind, List.length_cons]
      omega
    have without := withoutSlash_length (url.drop (slash + 1))
    simp only [getPathFromUrl, found, bind, Except.bind] at made
    rw [substr, if_neg (by omega)] at made
    dsimp only at made
    rw [substr, if_neg (by omega), whole] at made
    obtain rfl := Except.ok.inj made
    rw [List.length_take, List.length_drop, whole]
    refine ⟨le_min ?_ (Nat.sub_le_sub_left (by decide) _), by omega⟩
    split
    · decide
    · decide

/-- The bytes of a path are bytes of the URL. -/
theorem mem_of_mem_getPathFromUrl {url path : Bytes} (made : getPathFromUrl url = .ok path)
    {byte : UInt8} (inside : byte ∈ path) : byte ∈ url := by
  have cut {str part : Bytes} {pos count : Nat} (cut : substr str pos count = .ok part)
      (inside : byte ∈ part) : byte ∈ str := by
    rw [substr] at cut
    split at cut
    · cases cut
    · obtain rfl := Except.ok.inj cut
      exact List.mem_of_mem_drop (List.mem_of_mem_take inside)
  simp only [getPathFromUrl, bind, Except.bind] at made
  split at made
  · cases made
  · next rest first => exact cut first (cut made inside)

end Format

end LiveBroadcast
