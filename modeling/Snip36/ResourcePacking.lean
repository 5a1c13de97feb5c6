import Snip36.Signing

/-!
The field element of a resource as a record of three fields, which can be read
back from it.
-/

namespace Snip36.ResourcePacking

open Library.Words
open Signing

def nameField (felt : Felt) : Nat := felt.val / 2 ^ 192

def amountField (felt : Felt) : U64 := BitVec.ofNat 64 (felt.val / 2 ^ 128)

def priceField (felt : Felt) : U128 := BitVec.ofNat 128 felt.val

/-- The field element is the sum of the three fields, with nothing lost. -/
structure Packs (felt : Felt) (nameBytes : List UInt8) (maxAmount : U64) (maxPrice : U128) :
    Prop where
  value : felt.val =
    fromBeBytes nameBytes * 2 ^ 192 + maxAmount.toNat * 2 ^ 128 + maxPrice.toNat
  fits : felt.val < 2 ^ 248
  name : nameField felt = fromBeBytes nameBytes
  amount : amountField felt = maxAmount
  price : priceField felt = maxPrice

/-- Only the first seven bytes of a name count. -/
theorem toNat_resourceNameFelt (name : String) :
    (resourceNameFelt name).toNat = fromBeBytes ((asBytes name).take 7) := by
  have hbound := fromBeBytes_lt ((asBytes name).take 7)
  have hlen : ((asBytes name).take 7).length ≤ 7 := by simp
  have hpow : 2 ^ (8 * ((asBytes name).take 7).length) ≤ 2 ^ 56 :=
    Nat.pow_le_pow_right (by decide) (by omega)
  have htake : (asBytes name).take (min (asBytes name).length 7) = (asBytes name).take 7 := by
    rw [Nat.min_comm, ← List.take_eq_take_min]
  rw [resourceNameFelt, htake, fromBeBytes_replicate_zero_append, BitVec.toNat_ofNat]
  apply Nat.mod_eq_of_lt
  omega

theorem concatResource_congr {maxAmount : U64} {maxPrice : U128} {name name' : String}
    (h : (asBytes name).take 7 = (asBytes name').take 7) :
    concatResource maxAmount maxPrice name = concatResource maxAmount maxPrice name' := by
  have hname : resourceNameFelt name = resourceNameFelt name' := by
    apply BitVec.eq_of_toNat_eq
    rw [toNat_resourceNameFelt, toNat_resourceNameFelt, h]
  rw [concatResource, concatResource, hname]

variable (maxAmount : U64) (maxPrice : U128) (name : String)

theorem packs_take :
    Packs (concatResource maxAmount maxPrice name) ((asBytes name).take 7) maxAmount
      maxPrice := by
  have hname := toNat_resourceNameFelt name
  have hbound := toNat_resourceNameFelt_lt name
  have hamount := maxAmount.isLt
  have hprice := maxPrice.isLt
  have hvalue := val_concatResource maxAmount maxPrice name
  rw [hname] at hvalue hbound
  constructor
  · rw [hvalue]
    omega
  · omega
  · rw [nameField]
    omega
  · apply BitVec.eq_of_toNat_eq
    rw [amountField, BitVec.toNat_ofNat]
    omega
  · apply BitVec.eq_of_toNat_eq
    rw [priceField, BitVec.toNat_ofNat]
    omega

/-- The three fields of a resource are packed exactly, and a longer name stands
for its first seven bytes. -/
theorem concatResource_exact :
    2 ^ 248 < starkPrime ∧
      ((asBytes name).length ≤ 7 →
        Packs (concatResource maxAmount maxPrice name) (asBytes name) maxAmount maxPrice) ∧
      (7 < (asBytes name).length →
        Packs (concatResource maxAmount maxPrice name) ((asBytes name).take 7) maxAmount
            maxPrice ∧
          ∀ short, asBytes short = (asBytes name).take 7 →
            concatResource maxAmount maxPrice name =
              concatResource maxAmount maxPrice short) := by
  have hpacks := packs_take maxAmount maxPrice name
  refine ⟨by decide, ?_, ?_⟩
  · intro hlen
    rwa [List.take_of_length_le hlen] at hpacks
  · intro _
    refine ⟨hpacks, ?_⟩
    intro short hshort
    apply concatResource_congr
    rw [hshort, List.take_take]
    rfl

/-- A short name at the largest amount and price, and a name that is cut. -/
theorem concatResource_exact_gas :
    Packs (concatResource (BitVec.allOnes 64) (BitVec.allOnes 128) "L1_GAS") (asBytes "L1_GAS")
        (BitVec.allOnes 64) (BitVec.allOnes 128) ∧
      concatResource 1 2 "L1_DATA_GAS" = concatResource 1 2 "L1_DATA" :=
  ⟨(concatResource_exact (BitVec.allOnes 64) (BitVec.allOnes 128) "L1_GAS").2.1 (by decide),
    ((concatResource_exact 1 2 "L1_DATA_GAS").2.2 (by decide)).2 "L1_DATA" (by decide)⟩

end Snip36.ResourcePacking
