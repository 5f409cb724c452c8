import Mathlib.Data.Nat.Init
import LiveBroadcast.Foundation.Reading

/-!
# Bodies with a declared length

A message begins with fixed bytes, the last of which introduce the length of its body. The length
is written in decimal, an empty line ends the head, and the body follows, whatever it consists of.
Reading inverts writing: messages written one behind the other are read back and use up the input
(`readToEnd_messages`).
-/

set_option autoImplicit false

namespace LiveBroadcast

namespace ContentLength

/-- The line feeds of an empty line, behind a line. -/
def emptyLine : List UInt8 := [13, 10, 13, 10]

/-- A number in decimal, without leading zeros. -/
def decimalString (n : Nat) : List UInt8 :=
  (Nat.toDigits 10 n).map fun digit => UInt8.ofNat digit.toNat

/-- The value of a decimal digit. -/
def decimalValue (digit : UInt8) : Option Nat :=
  if 48 ≤ digit ∧ digit ≤ 57 then some (digit.toNat - 48) else none

/-- The number that the digits at the front stand for, behind a number already read. -/
def readDecimal (read : Nat) : List UInt8 → Nat × List UInt8
  | [] => (read, [])
  | digit :: rest =>
      match decimalValue digit with
      | some value => readDecimal (10 * read + value) rest
      | none => (read, digit :: rest)

/-- A message with its body. -/
def encode (start body : List UInt8) : List UInt8 :=
  start ++ decimalString body.length ++ emptyLine ++ body

/-- The body of one message off the front. It is refused when the head is another one, or has no
length, or when the body is not there as a whole. -/
def decode (start : List UInt8) : Reader UInt8 (List UInt8) := fun input =>
  if start.isPrefixOf input = true ∧ ((input.drop start.length).head?.bind decimalValue).isSome then
    match readDecimal 0 (input.drop start.length) with
    | (size, 13 :: 10 :: 13 :: 10 :: rest) =>
        if size ≤ rest.length then some (rest.take size, rest.drop size) else none
    | _ => none
  else none

/-! ## Lengths in decimal -/

theorem decimalValue_digitChar {value : Nat} (digit : value < 10) :
    decimalValue (UInt8.ofNat value.digitChar.toNat) = some value := by
  have table : ∀ n : Fin 10, decimalValue (UInt8.ofNat (Nat.digitChar n).toNat) = some n.val := by
    decide
  exact table ⟨value, digit⟩

theorem decimalString_small {n : Nat} (small : n < 10) :
    decimalString n = [UInt8.ofNat n.digitChar.toNat] := by
  rw [decimalString, Nat.toDigits_of_lt_base small, List.map_singleton]

theorem decimalString_large {n : Nat} (large : 10 ≤ n) :
    decimalString n = decimalString (n / 10) ++ [UInt8.ofNat (n % 10).digitChar.toNat] := by
  rw [decimalString, Nat.toDigits_of_base_le (by decide) large, List.map_append,
    List.map_singleton, decimalString]

/-- **A number written in decimal is read back**, whatever follows. -/
theorem readDecimal_decimalString (n : Nat) (rest : List UInt8) :
    readDecimal 0 (decimalString n ++ rest) = readDecimal n rest := by
  induction n using Nat.strongRecOn generalizing rest with
  | ind n ih =>
      rcases Nat.lt_or_ge n 10 with small | large
      · simp only [decimalString_small small, List.singleton_append, readDecimal,
          decimalValue_digitChar small]
        rw [Nat.mul_zero, Nat.zero_add]
      · have last : n % 10 < 10 := Nat.mod_lt _ (by decide)
        have shorter : n / 10 < n := by omega
        rw [decimalString_large large, List.append_assoc, ih _ shorter, List.singleton_append]
        simp only [readDecimal, decimalValue_digitChar last]
        rw [Nat.div_add_mod]

/-- A number begins with a digit. -/
theorem decimalString_head (n : Nat) (rest : List UInt8) :
    ((decimalString n ++ rest).head?.bind decimalValue).isSome = true := by
  induction n using Nat.strongRecOn generalizing rest with
  | ind n ih =>
      rcases Nat.lt_or_ge n 10 with small | large
      · rw [decimalString_small small, List.singleton_append, List.head?_cons, Option.bind_some,
          decimalValue_digitChar small]
        rfl
      · rw [decimalString_large large, List.append_assoc]
        exact ih (n / 10) (by omega) _

/-- Different numbers are written differently. -/
theorem decimalString_injective {n m : Nat} (same : decimalString n = decimalString m) :
    n = m := by
  have first := readDecimal_decimalString n []
  have second := readDecimal_decimalString m []
  rw [same] at first
  exact congrArg Prod.fst (first.symm.trans second)

/-- Only digits are written. -/
theorem not_mem_decimalString {byte : UInt8} (other : decimalValue byte = none) (n : Nat) :
    byte ∉ decimalString n := by
  induction n using Nat.strongRecOn with
  | ind n ih =>
      have differs {value : Nat} (digit : value < 10) :
          byte ≠ UInt8.ofNat value.digitChar.toNat := by
        rintro rfl
        exact Option.some_ne_none _ ((decimalValue_digitChar digit).symm.trans other)
      rcases Nat.lt_or_ge n 10 with small | large
      · rw [decimalString_small small, List.mem_singleton]
        exact differs small
      · rw [decimalString_large large, List.mem_append, List.mem_singleton, not_or]
        exact ⟨ih (n / 10) (by omega), differs (Nat.mod_lt _ (by decide))⟩

theorem readDecimal_emptyLine (n : Nat) (rest : List UInt8) :
    readDecimal n (emptyLine ++ rest) = (n, emptyLine ++ rest) := rfl

/-! ## Messages -/

theorem decode_encode (start body rest : List UInt8) :
    decode start (encode start body ++ rest) = some (body, rest) := by
  have head : encode start body ++ rest =
      start ++ (decimalString body.length ++ (emptyLine ++ (body ++ rest))) := by
    simp only [encode, List.append_assoc]
  have read : readDecimal 0 (decimalString body.length ++ (emptyLine ++ (body ++ rest))) =
      (body.length, 13 :: 10 :: 13 :: 10 :: (body ++ rest)) := by
    rw [readDecimal_decimalString, readDecimal_emptyLine]
    rfl
  have begins : start.isPrefixOf
      (start ++ (decimalString body.length ++ (emptyLine ++ (body ++ rest)))) = true :=
    List.isPrefixOf_iff_prefix.mpr (List.prefix_append _ _)
  have fits : body.length ≤ (body ++ rest).length := by
    rw [List.length_append]
    exact Nat.le_add_right _ _
  rw [head, decode, List.drop_left, if_pos ⟨begins, decimalString_head _ _⟩]
  simp only [read, if_pos fits, List.take_left, List.drop_left]

/-- Messages can be read back, with any bodies. -/
theorem reads_messages (start : List UInt8) :
    Reader.Reads (decode start) (encode start) fun _ => True where
  back body rest _ := decode_encode start body rest
  nonempty body _ := by
    simp [encode, emptyLine]

/-- **Reading inverts writing**, and uses up the input. -/
theorem readToEnd_messages (start : List UInt8) (bodies : List (List UInt8)) :
    Reader.readToEnd (decode start) (bodies.flatMap (encode start)) = some bodies :=
  (reads_messages start).readToEnd_flatMap fun _ _ => trivial

end ContentLength

end LiveBroadcast
