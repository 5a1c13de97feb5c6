import Mathlib.Data.Nat.Digits.Lemmas
import Mathlib.Tactic.Ring

/-!
Hexadecimal numerals with the prefix `0x`: writing without leading zeros in
lower case, and reading with either case and any leading zeros.
-/

namespace Snip36.Library.Hex

/-- `{:#x}` of an unsigned number. -/
def lowerHex (n : Nat) : String := "0x" ++ String.ofList (Nat.toDigits 16 n)

def digitValue (c : Char) : Option Nat :=
  if '0' ≤ c ∧ c ≤ '9' then some (c.toNat - '0'.toNat)
  else if 'a' ≤ c ∧ c ≤ 'f' then some (c.toNat - 'a'.toNat + 10)
  else if 'A' ≤ c ∧ c ≤ 'F' then some (c.toNat - 'A'.toNat + 10)
  else none

theorem digitValue_digitChar : ∀ d < 16, digitValue d.digitChar = some d := by decide

/-- The value of a digit string after the digits with value `value`. -/
def readDigits (value : Nat) (digits : List Char) : Option Nat :=
  digits.foldlM (fun value c => (digitValue c).map (16 * value + ·)) value

def parseHex (s : String) : Option Nat :=
  match s.toList with
  | '0' :: 'x' :: d :: digits => readDigits 0 (d :: digits)
  | _ => none

theorem readDigits_digitChar (value : Nat) {d : Nat} (hd : d < 16) :
    readDigits value [d.digitChar] = some (16 * value + d) := by
  simp [readDigits, digitValue_digitChar d hd]

theorem readDigits_toDigits (n : Nat) : readDigits 0 (Nat.toDigits 16 n) = some n := by
  induction n using Nat.base_induction 16 (by decide) with
  | single d hd =>
      rw [Nat.toDigits_of_lt_base hd, readDigits_digitChar 0 hd, Nat.mul_zero, Nat.zero_add]
  | digit m d hd hm ih =>
      rw [← Nat.toDigits_append_toDigits (by decide) hm hd, readDigits, List.foldlM_append]
      change (readDigits 0 (Nat.toDigits 16 m)).bind _ = _
      rw [ih, Nat.toDigits_of_lt_base hd]
      exact readDigits_digitChar m hd

@[simp] theorem parseHex_lowerHex (n : Nat) : parseHex (lowerHex n) = some n := by
  have hread := readDigits_toDigits n
  cases hdigits : Nat.toDigits 16 n with
  | nil => exact absurd hdigits Nat.toDigits_ne_nil
  | cons d digits =>
      rw [hdigits] at hread
      simpa [parseHex, lowerHex, hdigits] using hread

theorem length_lowerHex_le {n length : Nat} (hlength : 0 < length) (hn : n < 16 ^ length) :
    (lowerHex n).length ≤ length + 2 := by
  have hdigits := Nat.toDigits_length 16 n length hlength hn
  have hprefix : "0x".length = 2 := by decide
  rw [lowerHex, String.length_append, hprefix, String.length_ofList]
  omega

/-! ### Bytes, with two digits each -/

/-- `padStart(2, "0")` of the digits of a byte. -/
def twoDigits (n : Nat) : List Char :=
  List.replicate (2 - (Nat.toDigits 16 n).length) '0' ++ Nat.toDigits 16 n

def hexBytes (bytes : List Nat) : String := "0x" ++ String.ofList (bytes.flatMap twoDigits)

theorem readDigits_append (value : Nat) (digits later : List Char) :
    readDigits value (digits ++ later) =
      (readDigits value digits).bind fun value => readDigits value later :=
  List.foldlM_append

theorem twoDigits_eq : ∀ n < 256, twoDigits n = [(n / 16).digitChar, (n % 16).digitChar] := by
  decide +kernel

theorem readDigits_twoDigits (value : Nat) {n : Nat} (hn : n < 256) :
    readDigits value (twoDigits n) = some (value * 256 + n) := by
  have hhigh : n / 16 < 16 := by omega
  have hlow : n % 16 < 16 := by omega
  rw [twoDigits_eq n hn, ← List.singleton_append, readDigits_append,
    readDigits_digitChar value hhigh, Option.bind_some, readDigits_digitChar _ hlow]
  congr 1
  omega

theorem readDigits_flatMap_twoDigits (value : Nat) {bytes : List Nat}
    (hbytes : ∀ b ∈ bytes, b < 256) : readDigits value (bytes.flatMap twoDigits) =
      some (value * 256 ^ bytes.length + Nat.ofDigits 256 bytes.reverse) := by
  induction bytes generalizing value with
  | nil => simp [readDigits]
  | cons b rest ih =>
      rw [List.forall_mem_cons] at hbytes
      rw [List.flatMap_cons, readDigits_append, readDigits_twoDigits value hbytes.1,
        Option.bind_some, ih _ hbytes.2, List.reverse_cons, Nat.ofDigits_append,
        Nat.ofDigits_singleton, List.length_reverse, List.length_cons, pow_succ]
      congr 1
      ring

theorem length_hexBytes {bytes : List Nat} (hbytes : ∀ b ∈ bytes, b < 256) :
    (hexBytes bytes).length = 2 * bytes.length + 2 := by
  have hdigits : (bytes.flatMap twoDigits).length = 2 * bytes.length := by
    induction bytes with
    | nil => rfl
    | cons b rest ih =>
        rw [List.forall_mem_cons] at hbytes
        rw [List.flatMap_cons, List.length_append, ih hbytes.2, twoDigits_eq b hbytes.1,
          List.length_cons]
        simp only [List.length_cons, List.length_nil]
        omega
  have hprefix : "0x".length = 2 := by decide
  rw [hexBytes, String.length_append, hprefix, String.length_ofList, hdigits, Nat.add_comm]

/-- Bytes are read back as the number that they write. -/
theorem parseHex_hexBytes {bytes : List Nat} (hne : bytes ≠ []) (hbytes : ∀ b ∈ bytes, b < 256) :
    parseHex (hexBytes bytes) = some (Nat.ofDigits 256 bytes.reverse) := by
  have hread := readDigits_flatMap_twoDigits 0 hbytes
  rw [Nat.zero_mul, Nat.zero_add] at hread
  cases hdigits : bytes.flatMap twoDigits with
  | nil =>
      obtain ⟨b, rest, rfl⟩ := List.exists_cons_of_ne_nil hne
      have hnil := (List.append_eq_nil_iff.mp hdigits).1
      rw [twoDigits_eq b (hbytes b List.mem_cons_self)] at hnil
      cases hnil
  | cons d digits =>
      rw [hdigits] at hread
      simpa [parseHex, hexBytes, hdigits] using hread

end Snip36.Library.Hex
