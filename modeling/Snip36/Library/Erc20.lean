import Mathlib.Algebra.BigOperators.Group.Finset.Piecewise
import Mathlib.Algebra.BigOperators.Ring.Finset
import Mathlib.Algebra.Order.BigOperators.Group.Finset
import Snip36.Library.Words

/-!
A standard token ledger over words of a fixed width. Transfers from or to the
zero address, above the balance or above the allowance fail as a whole.
-/

namespace Snip36.Library.Erc20

open Library.Words

/-- A sum over a family of which one member was replaced. -/
theorem sum_update {ι : Type} [Fintype ι] [DecidableEq ι] (f : ι → Nat) (i : ι) (b : Nat) :
    ∑ j, Function.update f i b j + f i = ∑ j, f j + b := by
  rw [Finset.sum_update_of_mem (Finset.mem_univ i),
    ← Finset.add_sum_erase Finset.univ f (Finset.mem_univ i), Finset.sdiff_singleton_eq_erase]
  omega

structure Token (A : Type) (w : Nat) where
  balance : A → BitVec w
  allowance : A → A → BitVec w

inductive Call (A : Type) (w : Nat) where
  | transfer (recipient : A) (amount : BitVec w)
  | transferFrom (sender recipient : A) (amount : BitVec w)
  | approve (spender : A) (amount : BitVec w)

variable {A : Type} {w : Nat} [DecidableEq A] [Zero A]

namespace Token

def move (token : Token A w) (sender recipient : A) (amount : BitVec w) :
    Option (Token A w) :=
  if sender = 0 ∨ recipient = 0 then none
  else do
    let debited ← checkedSub (token.balance sender) amount
    let balance := Function.update token.balance sender debited
    let credited ← checkedAdd (balance recipient) amount
    some { token with balance := Function.update balance recipient credited }

/-- An allowance of the largest word is never used up. -/
def spendAllowance (token : Token A w) (owner spender : A) (amount : BitVec w) :
    Option (Token A w) :=
  if token.allowance owner spender = BitVec.allOnes w then some token
  else do
    let rest ← checkedSub (token.allowance owner spender) amount
    some { token with
      allowance := Function.update token.allowance owner
        (Function.update (token.allowance owner) spender rest) }

def transfer (token : Token A w) (caller recipient : A) (amount : BitVec w) :
    Option (Token A w) :=
  token.move caller recipient amount

def transferFrom (token : Token A w) (caller sender recipient : A) (amount : BitVec w) :
    Option (Token A w) := do
  let spent ← token.spendAllowance sender caller amount
  spent.move sender recipient amount

def approve (token : Token A w) (caller spender : A) (amount : BitVec w) :
    Option (Token A w) :=
  if caller = 0 ∨ spender = 0 then none
  else some { token with
    allowance := Function.update token.allowance caller
      (Function.update (token.allowance caller) spender amount) }

def call (token : Token A w) (caller : A) : Call A w → Option (Token A w)
  | .transfer recipient amount => token.transfer caller recipient amount
  | .transferFrom sender recipient amount => token.transferFrom caller sender recipient amount
  | .approve spender amount => token.approve caller spender amount

/-- What a successful move of `amount` changes. -/
structure Moved (token token' : Token A w) (sender recipient : A) (amount : BitVec w) :
    Prop where
  sender_ne_zero : sender ≠ 0
  recipient_ne_zero : recipient ≠ 0
  funds : amount.toNat ≤ (token.balance sender).toNat
  flow : ∀ a, (token'.balance a).toNat + (if a = sender then amount.toNat else 0) =
    (token.balance a).toNat + (if a = recipient then amount.toNat else 0)
  allowance_le : ∀ owner spender,
    (token'.allowance owner spender).toNat ≤ (token.allowance owner spender).toNat

variable {token token' : Token A w} {caller sender recipient : A} {amount : BitVec w}

theorem moved_of_move (h : token.move sender recipient amount = some token') :
    Moved token token' sender recipient amount := by
  unfold move at h
  split at h
  · cases h
  · rename_i hzero
    rw [not_or] at hzero
    simp only [Option.bind_eq_bind, Option.bind_eq_some_iff, Option.some.injEq] at h
    obtain ⟨debited, hdebited, credited, hcredited, rfl⟩ := h
    rw [checkedSub_eq_some_iff] at hdebited
    rw [checkedAdd_eq_some_iff] at hcredited
    refine ⟨hzero.1, hzero.2, by omega, fun a => ?_, fun _ _ => Nat.le_refl _⟩
    rcases eq_or_ne a recipient with rfl | hr
    · rcases eq_or_ne a sender with rfl | hs
      · simp only [Function.update_self] at hcredited ⊢
        simp only [if_true]
        omega
      · simp only [Function.update_self, Function.update_of_ne hs, if_neg hs] at hcredited ⊢
        simp only [if_true]
        omega
    · rcases eq_or_ne a sender with rfl | hs
      · simp only [Function.update_of_ne hr, Function.update_self, if_neg hr, if_true]
        omega
      · simp only [Function.update_of_ne hr, Function.update_of_ne hs, if_neg hr, if_neg hs]

omit [Zero A] in
theorem spendAllowance_spec {spent : Token A w}
    (h : token.spendAllowance sender caller amount = some spent) :
    spent.balance = token.balance ∧ amount.toNat ≤ (token.allowance sender caller).toNat ∧
      ∀ owner spender,
        (spent.allowance owner spender).toNat ≤ (token.allowance owner spender).toNat := by
  unfold spendAllowance at h
  split at h
  · rename_i hmax
    cases h
    refine ⟨rfl, ?_, fun _ _ => Nat.le_refl _⟩
    rw [hmax, BitVec.toNat_allOnes]
    have hamount := amount.isLt
    omega
  · simp only [Option.bind_eq_bind, Option.bind_eq_some_iff, Option.some.injEq] at h
    obtain ⟨rest, hrest, rfl⟩ := h
    rw [checkedSub_eq_some_iff] at hrest
    refine ⟨rfl, by omega, fun owner spender => ?_⟩
    rcases eq_or_ne owner sender with rfl | ho
    · rcases eq_or_ne spender caller with rfl | hc
      · simp only [Function.update_self]
        omega
      · simp only [Function.update_self, Function.update_of_ne hc, Nat.le_refl]
    · simp only [Function.update_of_ne ho, Nat.le_refl]

theorem moved_of_transferFrom
    (h : token.transferFrom caller sender recipient amount = some token') :
    Moved token token' sender recipient amount ∧
      amount.toNat ≤ (token.allowance sender caller).toNat := by
  simp only [transferFrom, Option.bind_eq_bind, Option.bind_eq_some_iff] at h
  obtain ⟨spent, hspent, hmove⟩ := h
  obtain ⟨hbalance, hallowed, hle⟩ := spendAllowance_spec hspent
  have hmoved := moved_of_move hmove
  refine ⟨⟨hmoved.sender_ne_zero, hmoved.recipient_ne_zero, ?_, fun a => ?_, ?_⟩, hallowed⟩
  · exact hbalance ▸ hmoved.funds
  · have hflow := hmoved.flow a
    rwa [hbalance] at hflow
  · exact fun owner spender => (hmoved.allowance_le owner spender).trans (hle owner spender)

theorem Moved.allowance_eq_zero {owner spender : A}
    (h : Moved token token' sender recipient amount)
    (hzero : token.allowance owner spender = 0) : token'.allowance owner spender = 0 := by
  have hle := h.allowance_le owner spender
  rw [hzero] at hle
  apply BitVec.eq_of_toNat_eq
  simpa using hle

section Supply

variable [Fintype A]

def supply (token : Token A w) : Nat := ∑ a, (token.balance a).toNat

theorem Moved.supply_eq (h : Moved token token' sender recipient amount) :
    token'.supply = token.supply := by
  have hsum := Finset.sum_congr rfl fun a (_ : a ∈ Finset.univ) => h.flow a
  simp only [Finset.sum_add_distrib, Finset.sum_ite_eq', Finset.mem_univ, if_true] at hsum
  simpa [supply] using hsum

omit [Zero A] in
theorem balance_add_le_supply (token : Token A w) {a b : A} (h : a ≠ b) :
    (token.balance a).toNat + (token.balance b).toNat ≤ token.supply := by
  have hle := Finset.sum_le_sum_of_subset (f := fun a => (token.balance a).toNat)
    (Finset.subset_univ {a, b})
  rwa [Finset.sum_pair h] at hle

/-- Within the balance, a move between nonzero addresses succeeds. -/
theorem exists_move (hsupply : token.supply < 2 ^ w) (hs : sender ≠ 0) (hr : recipient ≠ 0)
    (hfunds : amount.toNat ≤ (token.balance sender).toNat) :
    ∃ token', token.move sender recipient amount = some token' := by
  obtain ⟨debited, hdebited⟩ := exists_checkedSub hfunds
  have hdebit := checkedSub_eq_some_iff.mp hdebited
  have hfits : (Function.update token.balance sender debited recipient).toNat +
      amount.toNat < 2 ^ w := by
    rcases eq_or_ne recipient sender with rfl | heq
    · rw [Function.update_self]
      have hbound := (token.balance recipient).isLt
      omega
    · rw [Function.update_of_ne heq]
      have hle := balance_add_le_supply token (Ne.symm heq)
      omega
  obtain ⟨credited, hcredited⟩ := exists_checkedAdd hfits
  refine ⟨{ token with
    balance := Function.update (Function.update token.balance sender debited) recipient
      credited }, ?_⟩
  simp [move, hs, hr, hdebited, hcredited]

end Supply

/-- What a call moves to `target` from other addresses. -/
def inflow (target : A) : Call A w → Nat
  | .transfer recipient amount => if recipient = target then amount.toNat else 0
  | .transferFrom sender recipient amount =>
      if recipient = target ∧ sender ≠ target then amount.toNat else 0
  | .approve _ _ => 0

/-- Nobody else moves the tokens of an address that has approved nothing. -/
theorem balance_of_outside_call {target : A} {c : Call A w} (hcaller : caller ≠ target)
    (hallow : ∀ spender, token.allowance target spender = 0)
    (h : token.call caller c = some token') :
    (token'.balance target).toNat = (token.balance target).toNat + inflow target c := by
  cases c with
  | transfer recipient amount =>
      have hflow := (moved_of_move h).flow target
      rw [if_neg (Ne.symm hcaller), Nat.add_zero] at hflow
      simp only [hflow, inflow, eq_comm]
  | transferFrom sender recipient amount =>
      obtain ⟨hmoved, hallowed⟩ := moved_of_transferFrom h
      have hflow := hmoved.flow target
      rcases eq_or_ne sender target with rfl | hs
      · -- the allowance is zero, so nothing moves
        rw [hallow caller] at hallowed
        have hzero : amount.toNat = 0 := by simpa using hallowed
        simp only [inflow, ne_eq, not_true_eq_false, and_false, if_false]
        simp only [hzero, ite_self, Nat.add_zero] at hflow
        exact hflow
      · rw [if_neg (Ne.symm hs), Nat.add_zero] at hflow
        simp only [hflow, inflow, ne_eq, hs, not_false_eq_true, and_true, eq_comm]
  | approve spender amount =>
      simp only [call, approve] at h
      split at h
      · cases h
      · cases h
        rfl

theorem allowance_of_outside_call {target : A} {c : Call A w} (hcaller : caller ≠ target)
    (hallow : ∀ spender, token.allowance target spender = 0)
    (h : token.call caller c = some token') (spender : A) :
    token'.allowance target spender = 0 := by
  cases c with
  | transfer recipient amount => exact (moved_of_move h).allowance_eq_zero (hallow spender)
  | transferFrom sender recipient amount =>
      exact (moved_of_transferFrom h).1.allowance_eq_zero (hallow spender)
  | approve spender' amount =>
      simp only [call, approve] at h
      split at h
      · cases h
      · cases h
        simp only [Function.update_of_ne (Ne.symm hcaller), hallow spender]

theorem supply_of_call [Fintype A] {c : Call A w} (h : token.call caller c = some token') :
    token'.supply = token.supply := by
  cases c with
  | transfer recipient amount => exact (moved_of_move h).supply_eq
  | transferFrom sender recipient amount => exact (moved_of_transferFrom h).1.supply_eq
  | approve spender amount =>
      simp only [call, approve] at h
      split at h
      · cases h
      · cases h
        rfl


end Token

end Snip36.Library.Erc20
