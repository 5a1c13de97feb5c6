import Mathlib.Data.List.Basic

/-!
Base64 with the standard alphabet and padding: three bytes are written as four
digits of six bits each, and a shorter group at the end is filled up with `=`.
-/

namespace Snip36.Library.Base64

def alphabet : List Char :=
  "ABCDEFGHIJKLMNOPQRSTUVWXYZabcdefghijklmnopqrstuvwxyz0123456789+/".toList

def digit (n : Nat) : Char := alphabet.getD n '='

def digitValue (c : Char) : Option Nat := alphabet.idxOf? c

theorem digitValue_digit : ∀ n < 64, digitValue (digit n) = some n := by decide

theorem digit_mem_alphabet {n : Nat} (h : n < 64) : digit n ∈ alphabet := by
  have hlength : n < alphabet.length := h
  rw [digit, List.getD_eq_getElem?_getD, List.getElem?_eq_getElem hlength, Option.getD_some]
  exact List.getElem_mem hlength

theorem digit_ne_padding {n : Nat} (h : n < 64) : digit n ≠ '=' := by
  intro hpadding
  have hvalue := digitValue_digit n h
  have hnone : digitValue '=' = none := by decide
  rw [hpadding, hnone] at hvalue
  cases hvalue

def encode : List (BitVec 8) → List Char
  | a :: b :: c :: rest =>
      digit (a.toNat / 4) :: digit (a.toNat % 4 * 16 + b.toNat / 16) ::
        digit (b.toNat % 16 * 4 + c.toNat / 64) :: digit (c.toNat % 64) :: encode rest
  | [a, b] =>
      [digit (a.toNat / 4), digit (a.toNat % 4 * 16 + b.toNat / 16), digit (b.toNat % 16 * 4), '=']
  | [a] => [digit (a.toNat / 4), digit (a.toNat % 4 * 16), '=', '=']
  | [] => []

/-- The bytes of four characters, without bits that the padding cuts off. -/
def decodeGroup (c₁ c₂ c₃ c₄ : Char) : Option (List (BitVec 8)) := do
  let x ← digitValue c₁
  let y ← digitValue c₂
  let a := BitVec.ofNat 8 (x * 4 + y / 16)
  if c₃ = '=' ∧ c₄ = '=' then
    if y % 16 = 0 then pure [a] else none
  else do
    let z ← digitValue c₃
    let b := BitVec.ofNat 8 (y % 16 * 16 + z / 4)
    if c₄ = '=' then
      if z % 4 = 0 then pure [a, b] else none
    else do
      let w ← digitValue c₄
      pure [a, b, BitVec.ofNat 8 (z % 4 * 64 + w)]

/-- Only the last group may be padded. -/
def decode : List Char → Option (List (BitVec 8))
  | [] => some []
  | c₁ :: c₂ :: c₃ :: c₄ :: rest =>
      if c₄ = '=' ∧ rest ≠ [] then none
      else do
        let bytes ← decodeGroup c₁ c₂ c₃ c₄
        let others ← decode rest
        pure (bytes ++ others)
  | _ => none

/-! ### Round trip -/

section

variable {x y z w : Nat}

theorem decodeGroup_digits (hx : x < 64) (hy : y < 64) (hz : z < 64) (hw : w < 64) :
    decodeGroup (digit x) (digit y) (digit z) (digit w) =
      some [BitVec.ofNat 8 (x * 4 + y / 16), BitVec.ofNat 8 (y % 16 * 16 + z / 4),
        BitVec.ofNat 8 (z % 4 * 64 + w)] := by
  simp [decodeGroup, digitValue_digit, digit_ne_padding, hx, hy, hz, hw]

theorem decodeGroup_one_padding (hx : x < 64) (hy : y < 64) (hz : z < 64) (hrest : z % 4 = 0) :
    decodeGroup (digit x) (digit y) (digit z) '=' =
      some [BitVec.ofNat 8 (x * 4 + y / 16), BitVec.ofNat 8 (y % 16 * 16 + z / 4)] := by
  simp [decodeGroup, digitValue_digit, digit_ne_padding, hx, hy, hz, hrest]

theorem decodeGroup_two_paddings (hx : x < 64) (hy : y < 64) (hrest : y % 16 = 0) :
    decodeGroup (digit x) (digit y) '=' '=' = some [BitVec.ofNat 8 (x * 4 + y / 16)] := by
  simp [decodeGroup, digitValue_digit, hx, hy, hrest]

end

theorem ofNat_eq {a : BitVec 8} {n : Nat} (h : n = a.toNat) : BitVec.ofNat 8 n = a := by
  rw [h, BitVec.ofNat_toNat, BitVec.setWidth_eq]

theorem decode_encode (bytes : List (BitVec 8)) : decode (encode bytes) = some bytes := by
  induction bytes using encode.induct with
  | case1 a b c rest ih =>
      have ha := a.isLt
      have hb := b.isLt
      have hc := c.isLt
      have hw : c.toNat % 64 < 64 := Nat.mod_lt _ (by decide)
      have hgroup := decodeGroup_digits (x := a.toNat / 4) (y := a.toNat % 4 * 16 + b.toNat / 16)
        (z := b.toNat % 16 * 4 + c.toNat / 64) (by omega) (by omega) (by omega) hw
      rw [ofNat_eq (a := a) (by omega), ofNat_eq (a := b) (by omega),
        ofNat_eq (a := c) (by omega)] at hgroup
      simp [encode, decode, digit_ne_padding hw, hgroup, ih]
  | case2 a b =>
      have ha := a.isLt
      have hb := b.isLt
      have hgroup := decodeGroup_one_padding (x := a.toNat / 4)
        (y := a.toNat % 4 * 16 + b.toNat / 16) (z := b.toNat % 16 * 4)
        (by omega) (by omega) (by omega) (by omega)
      rw [ofNat_eq (a := a) (by omega), ofNat_eq (a := b) (by omega)] at hgroup
      simp [encode, decode, hgroup]
  | case3 a =>
      have ha := a.isLt
      have hgroup := decodeGroup_two_paddings (x := a.toNat / 4) (y := a.toNat % 4 * 16)
        (by omega) (by omega) (by omega)
      rw [ofNat_eq (a := a) (by omega)] at hgroup
      simp [encode, decode, hgroup]
  | case4 => rfl

/-- Nothing else is ever written. -/
theorem mem_encode {ch : Char} {bytes : List (BitVec 8)} (h : ch ∈ encode bytes) :
    ch ∈ alphabet ∨ ch = '=' := by
  have hdigit : ∀ {n : Nat}, n < 64 → ch = digit n → ch ∈ alphabet ∨ ch = '=' := by
    rintro n hn rfl
    exact Or.inl (digit_mem_alphabet hn)
  induction bytes using encode.induct with
  | case1 a b c rest ih =>
      have ha := a.isLt
      have hb := b.isLt
      have hc := c.isLt
      simp only [encode, List.mem_cons] at h
      rcases h with h | h | h | h | h
      · exact hdigit (by omega) h
      · exact hdigit (by omega) h
      · exact hdigit (by omega) h
      · exact hdigit (by omega) h
      · exact ih h
  | case2 a b =>
      have ha := a.isLt
      have hb := b.isLt
      simp only [encode, List.mem_cons, List.not_mem_nil, or_false] at h
      rcases h with h | h | h | h
      · exact hdigit (by omega) h
      · exact hdigit (by omega) h
      · exact hdigit (by omega) h
      · exact Or.inr h
  | case3 a =>
      have ha := a.isLt
      simp only [encode, List.mem_cons, List.not_mem_nil, or_false] at h
      rcases h with h | h | h | h
      · exact hdigit (by omega) h
      · exact hdigit (by omega) h
      · exact Or.inr h
      · exact Or.inr h
  | case4 => cases h

end Snip36.Library.Base64
