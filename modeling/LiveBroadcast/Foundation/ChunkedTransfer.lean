import Mathlib.Data.Nat.Init
import LiveBroadcast.Foundation.Reading

/-!
# The chunked transfer coding

A chunk is the length of its data in lower-case hexadecimal, CRLF, the data and CRLF. A
chunk of length zero would end the body, so the reader takes chunks with data only. Reading
inverts writing: chunks with data, written one behind the other, are read back and use up
the input (`readToEnd_chunks`).
-/

set_option autoImplicit false

namespace LiveBroadcast

namespace ChunkedTransfer

/-- Carriage return and line feed. -/
def crlf : List UInt8 := [13, 10]

/-- A number in lower-case hexadecimal, without leading zeros. -/
def hexString (n : Nat) : List UInt8 :=
  (Nat.toDigits 16 n).map fun digit => UInt8.ofNat digit.toNat

/-- The value of a hexadecimal digit. -/
def hexValue (digit : UInt8) : Option Nat :=
  if 48 ≤ digit ∧ digit ≤ 57 then some (digit.toNat - 48)
  else if 97 ≤ digit ∧ digit ≤ 102 then some (digit.toNat - 87)
  else none

/-- The number that the digits at the front stand for, behind a number already read. -/
def readHex (read : Nat) : List UInt8 → Nat × List UInt8
  | [] => (read, [])
  | digit :: rest =>
      match hexValue digit with
      | some value => readHex (16 * read + value) rest
      | none => (read, digit :: rest)

def encodeChunk (data : List UInt8) : List UInt8 :=
  hexString data.length ++ crlf ++ data ++ crlf

/-- One chunk off the front. A length of zero, or none at all, is refused. -/
def decodeChunk : Reader UInt8 (List UInt8) := fun input =>
  match readHex 0 input with
  | (0, _) => none
  | (size, 13 :: 10 :: rest) =>
      if (rest.drop size).take 2 = crlf then some (rest.take size, rest.drop (size + 2)) else none
  | _ => none

/-! ## Lengths in hexadecimal -/

theorem hexValue_digitChar {value : Nat} (digit : value < 16) :
    hexValue (UInt8.ofNat value.digitChar.toNat) = some value := by
  have table : ∀ n : Fin 16, hexValue (UInt8.ofNat (Nat.digitChar n).toNat) = some n.val := by
    decide
  exact table ⟨value, digit⟩

/-- **A number written in hexadecimal is read back**, whatever follows. -/
theorem readHex_hexString (n : Nat) (rest : List UInt8) :
    readHex 0 (hexString n ++ rest) = readHex n rest := by
  induction n using Nat.strongRecOn generalizing rest with
  | ind n ih =>
      rcases Nat.lt_or_ge n 16 with small | large
      · have digits : hexString n = [UInt8.ofNat n.digitChar.toNat] := by
          rw [hexString, Nat.toDigits_of_lt_base small, List.map_singleton]
        simp only [digits, List.singleton_append, readHex, hexValue_digitChar small]
        rw [Nat.mul_zero, Nat.zero_add]
      · have last : n % 16 < 16 := Nat.mod_lt _ (by decide)
        have digits : hexString n =
            hexString (n / 16) ++ [UInt8.ofNat (n % 16).digitChar.toNat] := by
          rw [hexString, Nat.toDigits_of_base_le (by decide) large, List.map_append,
            List.map_singleton, hexString]
        have shorter : n / 16 < n := by omega
        rw [digits, List.append_assoc, ih _ shorter, List.singleton_append]
        simp only [readHex, hexValue_digitChar last]
        rw [Nat.div_add_mod]

theorem readHex_crlf (n : Nat) (rest : List UInt8) :
    readHex n (crlf ++ rest) = (n, crlf ++ rest) := rfl

/-! ## Chunks -/

theorem decodeChunk_encodeChunk {data : List UInt8} (nonempty : data ≠ []) (rest : List UInt8) :
    decodeChunk (encodeChunk data ++ rest) = some (data, rest) := by
  have positive := List.length_pos_iff.mpr nonempty
  obtain ⟨size, length⟩ : ∃ size, data.length = size + 1 := ⟨data.length - 1, by omega⟩
  have read : readHex 0 (encodeChunk data ++ rest) =
      (data.length, 13 :: 10 :: (data ++ (crlf ++ rest))) := by
    rw [encodeChunk]
    simp only [List.append_assoc]
    rw [readHex_hexString, readHex_crlf]
    rfl
  have end_crlf : ((data ++ (crlf ++ rest)).drop (size + 1)).take 2 = crlf := by
    rw [← length, List.drop_left]
    rfl
  have behind : (data ++ (crlf ++ rest)).drop (size + 1 + 2) = rest := by
    rw [← List.append_assoc, List.drop_left' (by rw [List.length_append, length]; rfl)]
  rw [length] at read
  simp only [decodeChunk, read, end_crlf, if_true, behind]
  rw [← length, List.take_left]

/-- Chunks with data can be read back. -/
theorem reads_chunks : Reader.Reads decodeChunk encodeChunk (· ≠ []) where
  back data rest nonempty := decodeChunk_encodeChunk nonempty rest
  nonempty data _ := by
    simp [encodeChunk, crlf]

/-- **Reading inverts writing**, and uses up the input. -/
theorem readToEnd_chunks {pieces : List (List UInt8)} (nonempty : ∀ piece ∈ pieces, piece ≠ []) :
    Reader.readToEnd decodeChunk (pieces.flatMap encodeChunk) = some pieces :=
  reads_chunks.readToEnd_flatMap nonempty

end ChunkedTransfer

end LiveBroadcast
