import Mathlib.Data.Nat.Digits.Lemmas

/-!
Words that are put together from narrower ones (big-endian byte strings, and
fields shifted into disjoint bit ranges of one word), and arithmetic that fails
where the result does not fit.
-/

namespace Snip36.Library.Words

/-- The number that a byte string writes, most significant byte first. -/
def fromBeBytes (bytes : List UInt8) : Nat :=
  Nat.ofDigits 256 (bytes.reverse.map UInt8.toNat)

theorem fromBeBytes_lt (bytes : List UInt8) :
    fromBeBytes bytes < 2 ^ (8 * bytes.length) := by
  have hdigits : ∀ d ∈ bytes.reverse.map UInt8.toNat, d < 256 := by
    intro d hd
    obtain ⟨byte, -, rfl⟩ := List.mem_map.mp hd
    exact byte.toNat_lt
  have h := Nat.ofDigits_lt_base_pow_length (by decide : 1 < 256) hdigits
  simpa [fromBeBytes, pow_mul] using h

/-- Leading zero bytes do not count. -/
@[simp] theorem fromBeBytes_replicate_zero_append (n : Nat) (bytes : List UInt8) :
    fromBeBytes (List.replicate n 0 ++ bytes) = fromBeBytes bytes := by
  simp [fromBeBytes, Nat.ofDigits_append_replicate_zero]

/-- Without leading zeros the number determines the bytes. -/
theorem fromBeBytes_inj {bytes bytes' : List UInt8} (hhead : bytes.head? ≠ some 0)
    (hhead' : bytes'.head? ≠ some 0) (h : fromBeBytes bytes = fromBeBytes bytes') :
    bytes = bytes' := by
  have hdigits : ∀ {bytes : List UInt8}, bytes.head? ≠ some 0 →
      Nat.digits 256 (fromBeBytes bytes) = bytes.reverse.map UInt8.toNat := by
    intro bytes hhead
    apply Nat.digits_ofDigits 256 (by decide)
    · intro d hd
      obtain ⟨byte, -, rfl⟩ := List.mem_map.mp hd
      exact byte.toNat_lt
    · intro hne hlast
      cases bytes with
      | nil => exact hne rfl
      | cons byte rest =>
          apply hhead
          simpa [← UInt8.toNat_inj] using hlast
  have hmap := (hdigits hhead).symm.trans (h ▸ hdigits hhead')
  have hreverse := List.map_injective_iff.mpr (fun _ _ => UInt8.toNat_inj.mp) hmap
  exact List.reverse_injective hreverse

/-- The low `n` bytes of a number, most significant byte first. -/
def toBeBytes (n value : Nat) : List (BitVec 8) :=
  ((List.range n).map fun i => BitVec.ofNat 8 (value >>> (8 * i))).reverse

@[simp] theorem length_toBeBytes (n value : Nat) : (toBeBytes n value).length = n := by
  simp [toBeBytes]

def ofBeBytes (bytes : List (BitVec 8)) : Nat := fromBeBytes (bytes.map UInt8.ofBitVec)

theorem ofDigits_map_range (base value n : Nat) :
    Nat.ofDigits base ((List.range n).map fun i => value / base ^ i % base) =
      value % base ^ n := by
  induction n with
  | zero => simp [Nat.mod_one]
  | succ n ih =>
      rw [List.range_succ, List.map_append, Nat.ofDigits_append, ih, List.length_map,
        List.length_range, List.map_singleton, Nat.ofDigits_singleton, Nat.mod_pow_succ]

/-- Reading back what was written keeps what fits in the bytes. -/
theorem ofBeBytes_toBeBytes (n value : Nat) : ofBeBytes (toBeBytes n value) = value % 256 ^ n := by
  have hdigit : ∀ i, (UInt8.ofBitVec (BitVec.ofNat 8 (value >>> (8 * i)))).toNat =
      value / 256 ^ i % 256 := by
    intro i
    rw [Nat.shiftRight_eq_div_pow, pow_mul]
    rfl
  simp only [ofBeBytes, fromBeBytes, toBeBytes, List.map_reverse, List.reverse_reverse,
    List.map_map, ← ofDigits_map_range 256 value n]
  exact congrArg _ (List.map_congr_left fun i _ => hdigit i)

/-- A field shifted above another one is a positional sum. -/
theorem toNat_shiftLeft_or {w k : Nat} {high low : BitVec w}
    (hhigh : high.toNat * 2 ^ k < 2 ^ w) (hlow : low.toNat < 2 ^ k) :
    ((high <<< k) ||| low).toNat = high.toNat * 2 ^ k + low.toNat := by
  rw [BitVec.toNat_or, BitVec.toNat_shiftLeft, Nat.shiftLeft_eq,
    Nat.mod_eq_of_lt hhigh, ← Nat.shiftLeft_eq, Nat.shiftLeft_add_eq_or_of_lt hlow]

/-- Two narrower words in one, the second in the low `k` bits. -/
theorem toNat_pack {w k n m : Nat} {high : BitVec n} {low : BitVec m} (hk : k ≤ w)
    (hhigh : high.toNat * 2 ^ k < 2 ^ w) (hlow : low.toNat < 2 ^ k) :
    ((high.setWidth w <<< k) ||| low.setWidth w).toNat = high.toNat * 2 ^ k + low.toNat := by
  have hhighWidth : (high.setWidth w).toNat = high.toNat := by
    rw [BitVec.toNat_setWidth]
    exact Nat.mod_eq_of_lt (Nat.lt_of_le_of_lt (Nat.le_mul_of_pos_right _ (by positivity)) hhigh)
  have hlowWidth : (low.setWidth w).toNat = low.toNat := by
    rw [BitVec.toNat_setWidth]
    exact Nat.mod_eq_of_lt (Nat.lt_of_lt_of_le hlow (Nat.pow_le_pow_right (by decide) hk))
  rw [toNat_shiftLeft_or (by rwa [hhighWidth]) (by rwa [hlowWidth]), hhighWidth, hlowWidth]

/-- Two positional sums agree only when both of their fields do. -/
theorem positional_inj {base high high' low low' : Nat}
    (hlow : low < base) (hlow' : low' < base)
    (h : high * base + low = high' * base + low') : high = high' ∧ low = low' := by
  have hpos : 0 < base := Nat.zero_lt_of_lt hlow
  have hquotient := congrArg (· / base) h
  have hremainder := congrArg (· % base) h
  simp only [Nat.mul_comm _ base, Nat.mul_add_div hpos, Nat.mul_add_mod,
    Nat.div_eq_of_lt hlow, Nat.div_eq_of_lt hlow', Nat.mod_eq_of_lt hlow,
    Nat.mod_eq_of_lt hlow'] at hquotient hremainder
  exact ⟨by simpa using hquotient, hremainder⟩

section Checked

variable {w : Nat} (a b : BitVec w)

def checkedAdd : Option (BitVec w) := if a.toNat + b.toNat < 2 ^ w then some (a + b) else none

def checkedSub : Option (BitVec w) := if b.toNat ≤ a.toNat then some (a - b) else none

def checkedMul : Option (BitVec w) := if a.toNat * b.toNat < 2 ^ w then some (a * b) else none

variable {a b} {c : BitVec w}

theorem checkedAdd_eq_some_iff : checkedAdd a b = some c ↔ c.toNat = a.toNat + b.toNat := by
  have hc := c.isLt
  by_cases hfits : a.toNat + b.toNat < 2 ^ w
  · simp only [checkedAdd, if_pos hfits, Option.some.injEq, ← BitVec.toNat_inj,
      BitVec.toNat_add, Nat.mod_eq_of_lt hfits, eq_comm]
  · simp only [checkedAdd, if_neg hfits, reduceCtorEq, false_iff]
    omega

theorem checkedSub_eq_some_iff : checkedSub a b = some c ↔ c.toNat + b.toNat = a.toNat := by
  by_cases hle : b.toNat ≤ a.toNat
  · simp only [checkedSub, if_pos hle, Option.some.injEq, ← BitVec.toNat_inj,
      BitVec.toNat_sub_of_le (BitVec.le_def.mpr hle)]
    omega
  · simp only [checkedSub, if_neg hle, reduceCtorEq, false_iff]
    omega

theorem checkedMul_eq_some_iff : checkedMul a b = some c ↔ c.toNat = a.toNat * b.toNat := by
  have hc := c.isLt
  by_cases hfits : a.toNat * b.toNat < 2 ^ w
  · simp only [checkedMul, if_pos hfits, Option.some.injEq, ← BitVec.toNat_inj,
      BitVec.toNat_mul, Nat.mod_eq_of_lt hfits, eq_comm]
  · simp only [checkedMul, if_neg hfits, reduceCtorEq, false_iff]
    omega

theorem exists_checkedAdd (h : a.toNat + b.toNat < 2 ^ w) : ∃ c, checkedAdd a b = some c :=
  ⟨a + b, if_pos h⟩

theorem exists_checkedSub (h : b.toNat ≤ a.toNat) : ∃ c, checkedSub a b = some c :=
  ⟨a - b, if_pos h⟩

theorem exists_checkedMul (h : a.toNat * b.toNat < 2 ^ w) : ∃ c, checkedMul a b = some c :=
  ⟨a * b, if_pos h⟩

end Checked

end Snip36.Library.Words
