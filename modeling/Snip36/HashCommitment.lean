import Snip36.Signing

/-!
The transaction hash commits to every input of the transaction. Poseidon is a
parameter; it has to tell apart only the lists that the two computations hash,
since no function into a finite field is injective on all lists.
-/

namespace Snip36.HashCommitment

open Signing

/-- The inputs of `compute_invoke_v3_tx_hash`. -/
structure InvokeV3 where
  senderAddress : Felt
  calldata : List Felt
  chainId : Felt
  nonce : Felt
  tip : Felt
  resourceBounds : ResourceBounds
  paymasterData : List Felt
  accountDeploymentData : List Felt
  nonceDaMode : U32
  feeDaMode : U32
  proofFacts : List Felt
  deriving DecidableEq

section

variable (poseidonHashMany : List Felt → Felt)

def InvokeV3.elements (tx : InvokeV3) : List Felt :=
  invokeV3Elements poseidonHashMany tx.senderAddress tx.calldata tx.chainId tx.nonce tx.tip
    tx.resourceBounds tx.paymasterData tx.accountDeploymentData tx.nonceDaMode tx.feeDaMode
    tx.proofFacts

def InvokeV3.txHash (tx : InvokeV3) : Felt :=
  computeInvokeV3TxHash poseidonHashMany tx.senderAddress tx.calldata tx.chainId tx.nonce
    tx.tip tx.resourceBounds tx.paymasterData tx.accountDeploymentData tx.nonceDaMode
    tx.feeDaMode tx.proofFacts

/-- Every list that the computation of the hash of `tx` passes to Poseidon. -/
def InvokeV3.hashedLists (tx : InvokeV3) : List (List Felt) :=
  [tx.paymasterData, tx.accountDeploymentData, tx.calldata,
    tipResourceBoundsElements tx.tip tx.resourceBounds, tx.elements poseidonHashMany] ++
  if tx.proofFacts.isEmpty then [] else [tx.proofFacts]

def CollisionFreeOn (lists : List (List Felt)) : Prop :=
  ∀ x ∈ lists, ∀ y ∈ lists, poseidonHashMany x = poseidonHashMany y → x = y

instance (lists : List (List Felt)) : Decidable (CollisionFreeOn poseidonHashMany lists) :=
  inferInstanceAs (Decidable (∀ x ∈ lists, ∀ y ∈ lists, _ → x = y))

end

variable {poseidonHashMany : List Felt → Felt} {a b : InvokeV3}

theorem CollisionFreeOn.eq (h : CollisionFreeOn poseidonHashMany
      (a.hashedLists poseidonHashMany ++ b.hashedLists poseidonHashMany))
    {x y : List Felt} (hx : x ∈ a.hashedLists poseidonHashMany)
    (hy : y ∈ b.hashedLists poseidonHashMany)
    (hxy : poseidonHashMany x = poseidonHashMany y) : x = y :=
  h x (List.mem_append_left _ hx) y (List.mem_append_right _ hy) hxy

namespace InvokeV3

theorem mem_hashedLists {tx : InvokeV3} {x : List Felt}
    (h : x ∈ [tx.paymasterData, tx.accountDeploymentData, tx.calldata,
      tipResourceBoundsElements tx.tip tx.resourceBounds, tx.elements poseidonHashMany]) :
    x ∈ tx.hashedLists poseidonHashMany :=
  List.mem_append_left _ h

theorem proofFacts_mem {tx : InvokeV3} (h : tx.proofFacts ≠ []) :
    tx.proofFacts ∈ tx.hashedLists poseidonHashMany := by
  simp [hashedLists, h]

theorem length_elements (tx : InvokeV3) :
    (tx.elements poseidonHashMany).length = if tx.proofFacts.isEmpty then 10 else 11 := by
  unfold elements invokeV3Elements
  split <;> rfl

/-- Equal element lists have both an eleventh element or both none. -/
theorem proofFacts_isEmpty_eq
    (h : a.elements poseidonHashMany = b.elements poseidonHashMany) :
    a.proofFacts.isEmpty = b.proofFacts.isEmpty := by
  have hlen := congrArg List.length h
  rw [length_elements, length_elements] at hlen
  cases ha : a.proofFacts.isEmpty <;> cases hb : b.proofFacts.isEmpty <;>
    simp [ha, hb] at hlen ⊢

theorem fields_of_elements_eq
    (h : a.elements poseidonHashMany = b.elements poseidonHashMany) :
    a.senderAddress = b.senderAddress ∧
    poseidonHashMany (tipResourceBoundsElements a.tip a.resourceBounds) =
      poseidonHashMany (tipResourceBoundsElements b.tip b.resourceBounds) ∧
    poseidonHashMany a.paymasterData = poseidonHashMany b.paymasterData ∧
    a.chainId = b.chainId ∧ a.nonce = b.nonce ∧
    daMode a.nonceDaMode a.feeDaMode = daMode b.nonceDaMode b.feeDaMode ∧
    poseidonHashMany a.accountDeploymentData = poseidonHashMany b.accountDeploymentData ∧
    poseidonHashMany a.calldata = poseidonHashMany b.calldata ∧
    (a.proofFacts.isEmpty = false →
      poseidonHashMany a.proofFacts = poseidonHashMany b.proofFacts) := by
  have hempty := proofFacts_isEmpty_eq h
  unfold elements invokeV3Elements at h
  rw [← hempty] at h
  cases hcase : a.proofFacts.isEmpty <;>
    simpa [hcase, computeTipResourceBoundsHash] using h

theorem elements_inj (hfree : CollisionFreeOn poseidonHashMany
      (a.hashedLists poseidonHashMany ++ b.hashedLists poseidonHashMany))
    (h : a.elements poseidonHashMany = b.elements poseidonHashMany) : a = b := by
  obtain ⟨hsender, htip, hpaymaster, hchain, hnonce, hda, haccount, hcalldata, hfacts⟩ :=
    fields_of_elements_eq h
  obtain ⟨htip, hbounds⟩ := tipResourceBoundsElements_inj
    (hfree.eq (mem_hashedLists (by simp)) (mem_hashedLists (by simp)) htip)
  obtain ⟨hnonceDa, hfeeDa⟩ := daMode_inj hda
  have hpaymaster := hfree.eq (mem_hashedLists (by simp)) (mem_hashedLists (by simp)) hpaymaster
  have haccount := hfree.eq (mem_hashedLists (by simp)) (mem_hashedLists (by simp)) haccount
  have hcalldata := hfree.eq (mem_hashedLists (by simp)) (mem_hashedLists (by simp)) hcalldata
  have hfacts : a.proofFacts = b.proofFacts := by
    have hempty := proofFacts_isEmpty_eq h
    cases hcase : a.proofFacts.isEmpty with
    | true =>
        rw [hcase] at hempty
        rw [List.isEmpty_iff.mp hcase, List.isEmpty_iff.mp hempty.symm]
    | false =>
        rw [hcase] at hempty
        exact hfree.eq (proofFacts_mem (List.isEmpty_eq_false_iff.mp hcase))
          (proofFacts_mem (List.isEmpty_eq_false_iff.mp hempty.symm)) (hfacts hcase)
  cases a
  cases b
  simp_all

theorem txHash_inj (hfree : CollisionFreeOn poseidonHashMany
      (a.hashedLists poseidonHashMany ++ b.hashedLists poseidonHashMany))
    (h : a.txHash poseidonHashMany = b.txHash poseidonHashMany) : a = b := by
  apply elements_inj hfree
  exact hfree.eq (mem_hashedLists (by simp)) (mem_hashedLists (by simp)) h

end InvokeV3

/-- Equal hashes come from equal inputs. So whatever accepts a signature only for
the hash of a standard transaction accepts it for no transaction with proof
facts, and different proof facts never share a hash. -/
theorem txHash_commits (hfree : CollisionFreeOn poseidonHashMany
      (a.hashedLists poseidonHashMany ++ b.hashedLists poseidonHashMany)) :
    (a.txHash poseidonHashMany = b.txHash poseidonHashMany → a = b) ∧
    (a.proofFacts = [] → b.proofFacts ≠ [] → ∀ validates : Felt → Prop,
      (∀ messageHash, validates messageHash → messageHash = a.txHash poseidonHashMany) →
      ¬ validates (b.txHash poseidonHashMany)) ∧
    (a.proofFacts ≠ b.proofFacts →
      a.txHash poseidonHashMany ≠ b.txHash poseidonHashMany) := by
  have hinj := fun h => InvokeV3.txHash_inj hfree h
  refine ⟨hinj, ?_, ?_⟩
  · intro ha hb validates honly hvalid
    have heq := hinj (honly _ hvalid).symm
    exact hb (heq ▸ ha)
  · intro hne h
    exact hne (congrArg InvokeV3.proofFacts (hinj h))

/-- A positional hash, enough for the two transactions below. -/
def positionalHash (elements : List Felt) : Felt :=
  elements.foldl (fun acc element => acc * 1000003 + element + 1) 0

def standardTx : InvokeV3 where
  senderAddress := 0x123
  calldata := [1]
  chainId := chainIdFelt "SN_SEPOLIA"
  nonce := 0
  tip := 0
  resourceBounds := ⟨⟨0x10000, 0x38d7ea4c68000⟩, ⟨0x7000000, 0x1dcd65000⟩,
    ⟨0x1b0, 0x38d7ea4c68000⟩⟩
  paymasterData := []
  accountDeploymentData := []
  nonceDaMode := 0
  feeDaMode := 0
  proofFacts := []

theorem txHash_commits_proofFacts :
    (standardTx.proofFacts = [] ∧
      ({ standardTx with proofFacts := [0x50524f4f4630] } : InvokeV3).proofFacts ≠ []) ∧
    standardTx.txHash positionalHash ≠
      ({ standardTx with proofFacts := [0x50524f4f4630] } : InvokeV3).txHash positionalHash := by
  refine ⟨⟨rfl, by decide⟩, ?_⟩
  exact (txHash_commits (by decide +kernel)).2.2 (by decide)

end Snip36.HashCommitment
