import Mathlib.Algebra.Group.Nat.Defs
import Mathlib.Algebra.Ring.Nat
import Mathlib.Data.Fin.Basic
import Mathlib.Data.Fintype.Basic
import Mathlib.Data.Fintype.OfMap
import Mathlib.Order.Fin.Basic

/-!
The number types of the program. Field elements are residues modulo the Stark
prime; addresses and storage keys are field elements below `2 ^ 251`, which the
type of a Patricia key guarantees.
-/

namespace Snip36

abbrev starkPrime : Nat := 2 ^ 251 + 17 * 2 ^ 192 + 1

instance (priority := high) : NeZero starkPrime := ⟨by decide⟩

abbrev Felt := Fin starkPrime

/-- `Felt::from` of an unsigned integer of the host language. -/
def Felt.fromNat (n : Nat) : Felt := Fin.ofNat starkPrime n

/-- The 32 bytes of `to_bytes_be`. -/
def Felt.toBytesBe (felt : Felt) : List (BitVec 8) :=
  ((List.range 32).map fun i => BitVec.ofNat 8 (felt.val >>> (8 * i))).reverse

theorem Felt.val_fromNat {n : Nat} (h : n < starkPrime) : (Felt.fromNat n).val = n :=
  Nat.mod_eq_of_lt h

theorem lt_starkPrime {n : Nat} (h : n < 2 ^ 251) : n < starkPrime :=
  Nat.lt_of_lt_of_le h (by decide)

abbrev U8 := BitVec 8
abbrev U32 := BitVec 32
abbrev U64 := BitVec 64
abbrev U128 := BitVec 128
abbrev U256 := BitVec 256

def patriciaKeyUpperBound : Nat := 2 ^ 251

/-- A field element that can be the key of a leaf in a Patricia tree. -/
structure PatriciaKey where
  key : Felt
  inRange : key.val < patriciaKeyUpperBound
  deriving DecidableEq

namespace PatriciaKey

theorem key_injective : Function.Injective PatriciaKey.key := by
  rintro ⟨a, ha⟩ ⟨b, hb⟩ h
  cases h
  rfl

/-- Keys are ordered as the numbers they are. -/
instance : LinearOrder PatriciaKey := LinearOrder.lift' PatriciaKey.key key_injective

noncomputable instance : Fintype PatriciaKey :=
  Fintype.ofInjective PatriciaKey.key key_injective

instance : Zero PatriciaKey := ⟨⟨0, by decide⟩⟩

instance : Inhabited PatriciaKey := ⟨0⟩

/-- `ContractAddress::try_from` and `StorageKey::try_from`. -/
def tryFrom (felt : Felt) : Except String PatriciaKey :=
  if h : felt.val < patriciaKeyUpperBound then .ok ⟨felt, h⟩
  else .error "Out of range"

@[simp] theorem tryFrom_key (k : PatriciaKey) : tryFrom k.key = .ok k := by
  simp [tryFrom, k.inRange]

end PatriciaKey

abbrev ContractAddress := PatriciaKey
abbrev StorageKey := PatriciaKey
abbrev ClassHash := Felt
abbrev CompiledClassHash := Felt
abbrev Nonce := Felt
abbrev BlockHash := Felt
abbrev TransactionHash := Felt

structure ResourceBound where
  maxAmount : U64
  maxPricePerUnit : U128
  deriving DecidableEq

structure ResourceBounds where
  l1Gas : ResourceBound
  l2Gas : ResourceBound
  l1DataGas : ResourceBound
  deriving DecidableEq

end Snip36
