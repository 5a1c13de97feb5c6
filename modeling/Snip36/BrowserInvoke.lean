import Snip36.CounterRoutes
import Snip36.SignedPayload

/-!
An increment that the browser signs and the server submits. The browser hashes
the transaction that it has put together itself, the server puts its own together
and sends it with the browser's signature.
-/

namespace Snip36.BrowserInvoke

open CounterRoutes
open HashCommitment
open Library.Fallible
open Library.Hex
open Payload
open SignedPayload
open Signing

/-! ### The server -/

def sepoliaGasPriceCeil : U128 := 0x38d7ea4c68000

def playgroundBounds : ResourceBounds where
  l1Gas := ⟨0x0, sepoliaGasPriceCeil⟩
  l2Gas := ⟨0x2000000, 0x2cb417800⟩
  l1DataGas := ⟨0x1b0, sepoliaGasPriceCeil⟩

structure InvokeRequest where
  amount : U64
  signatureR : String
  signatureS : String
  nonce : U64

/-- The fields of a session that the route uses. -/
structure InvokeSession where
  contractAddress : Option String
  accountAddress : Option String

def incrementCalldata (contractAddress : String) (amount : U64) : List String :=
  ["0x1", contractAddress, incrementSelector, "0x1", lowerHex amount.toNat]

def invokeTx (accountAddress contractAddress : String) (req : InvokeRequest) : Json :=
  .obj [
    ("type", .str "INVOKE"),
    ("version", .str "0x3"),
    ("sender_address", .str accountAddress),
    ("calldata", .ofStrings (incrementCalldata contractAddress req.amount)),
    ("nonce", .str (lowerHex req.nonce.toNat)),
    ("resource_bounds", toRpcJson playgroundBounds),
    ("tip", .str "0x0"),
    ("paymaster_data", .arr []),
    ("account_deployment_data", .arr []),
    ("nonce_data_availability_mode", .str "L1"),
    ("fee_data_availability_mode", .str "L1"),
    ("signature", .ofStrings [req.signatureR, req.signatureS])]

/-- What the route sends to the node, or the status and the text of its answer. -/
def invokeIncrement (session : InvokeSession) (req : InvokeRequest) : Except (Nat × String) Json :=
  match session.contractAddress, session.accountAddress with
  | none, _ => .error (400, "No counter contract deployed")
  | some _, none => .error (400, "No account deployed")
  | some contractAddress, some accountAddress =>
      .ok (.obj [
        ("jsonrpc", .str "2.0"),
        ("method", .str "starknet_addInvokeTransaction"),
        ("params", .obj [("invoke_transaction", invokeTx accountAddress contractAddress req)]),
        ("id", .num 1)])

/-! ### The browser -/

def snSepoliaChainId : Felt := chainIdFelt "SN_SEPOLIA"

/-- `RESOURCE_BOUNDS`. -/
def resourceBounds : ResourceBounds where
  l1Gas := ⟨0x0, 0xe8d4a51000⟩
  l2Gas := ⟨0x2000000, 0x2cb417800⟩
  l1DataGas := ⟨0x1b0, 0x5dc⟩

structure InvokeV3TxHashParams where
  senderAddress : String
  calldata : List String
  nonce : Nat

/-- The arguments of `calculateInvokeTransactionHash`, read as it reads them. -/
def calculatedInvoke (fromHex : String → Except String Felt) (params : InvokeV3TxHashParams) :
    Except String InvokeV3 := do
  let senderAddress ← fromHex params.senderAddress
  let calldata ← collect fromHex params.calldata
  let nonce ← fromHex (lowerHex params.nonce)
  pure
    { senderAddress
      calldata
      chainId := snSepoliaChainId
      nonce
      tip := 0
      resourceBounds
      paymasterData := []
      accountDeploymentData := []
      nonceDaMode := 0
      feeDaMode := 0
      proofFacts := [] }

def computeInvokeV3TxHash (fromHex : String → Except String Felt)
    (poseidonHashMany : List Felt → Felt) (params : InvokeV3TxHashParams) : Except String Felt := do
  let tx ← calculatedInvoke fromHex params
  pure (tx.txHash poseidonHashMany)

/-! ### The two transactions -/

def selectorFelt : Felt :=
  Felt.fromNat 0x7a44dde9fea32737a5cf3f9683b3235138654aa2d189f6fe44af37a61dc60d

/-- A transaction with one call of `increment`. -/
def incrementInvoke (chainId account contract : Felt) (amount nonce : U64)
    (bounds : ResourceBounds) : InvokeV3 where
  senderAddress := account
  calldata := [1, contract, selectorFelt, 1, Felt.fromNat amount.toNat]
  chainId := chainId
  nonce := Felt.fromNat nonce.toNat
  tip := 0
  resourceBounds := bounds
  paymasterData := []
  accountDeploymentData := []
  nonceDaMode := 0
  feeDaMode := 0
  proofFacts := []

/-- What the node reads in the request, for its chain. -/
def submittedInvoke (fromHex : String → Except String Felt) (chainId : Felt) (payload : Json) :
    Option (InvokeV3 × Signature) := do
  let params ← payload.get? "params"
  let tx ← params.get? "invoke_transaction"
  decodeInvoke fromHex jsonRpc chainId tx

section

variable {fromHex : String → Except String Felt} {accountAddress contractAddress : String}
  {account contract chainId : Felt} {amount nonce : U64}

theorem fromHex_word (hformat : HexRoundTrip fromHex) (word : U64) :
    fromHex (lowerHex word.toNat) = .ok (Felt.fromNat word.toNat) := by
  have hval : (Felt.fromNat word.toNat).val = word.toNat :=
    Felt.val_fromNat (word.isLt.trans (by decide))
  simpa [feltHex, hval] using hformat (Felt.fromNat word.toNat)

theorem forall₂_incrementCalldata (hformat : HexRoundTrip fromHex)
    (hcontract : fromHex contractAddress = .ok contract) (amount : U64) :
    List.Forall₂ (fun s felt => fromHex s = .ok felt) (incrementCalldata contractAddress amount)
      [1, contract, selectorFelt, 1, Felt.fromNat amount.toNat] := by
  have hone : fromHex "0x1" = .ok 1 := hformat 1
  have hselector : incrementSelector = feltHex selectorFelt := by decide +kernel
  refine .cons hone (.cons hcontract (.cons ?_ (.cons hone (.cons ?_ .nil))))
  · rw [hselector]
    exact hformat selectorFelt
  · exact fromHex_word hformat amount

theorem calculatedInvoke_increment (hformat : HexRoundTrip fromHex)
    (haccount : fromHex accountAddress = .ok account)
    (hcontract : fromHex contractAddress = .ok contract) (amount nonce : U64) :
    calculatedInvoke fromHex
        ⟨accountAddress, incrementCalldata contractAddress amount, nonce.toNat⟩ =
      .ok (incrementInvoke snSepoliaChainId account contract amount nonce resourceBounds) := by
  have hcalldata := collect_eq_ok_iff.mpr (forall₂_incrementCalldata hformat hcontract amount)
  simp only [calculatedInvoke, haccount, hcalldata, fromHex_word hformat]
  rfl

theorem submittedInvoke_increment (hformat : HexRoundTrip fromHex)
    (haccount : fromHex accountAddress = .ok account)
    (hcontract : fromHex contractAddress = .ok contract) (sig : Signature) {payload : Json}
    (h : invokeIncrement ⟨some contractAddress, some accountAddress⟩
      ⟨amount, feltHex sig.r, feltHex sig.s, nonce⟩ = .ok payload) :
    submittedInvoke fromHex chainId payload =
      some (incrementInvoke chainId account contract amount nonce playgroundBounds, sig) := by
  have hfacts : (Json.obj []).fieldOr (Json.elements (decodeFelt fromHex)) [] "proof_facts" =
      some [] := rfl
  have hdecode := decodeInvoke_members hformat jsonRpc [] sig chainId haccount
    (forall₂_incrementCalldata hformat hcontract amount) (fromHex_word hformat nonce)
    (decodeBounds_toRpcJson playgroundBounds) hfacts
  rw [List.append_nil] at hdecode
  cases h
  simp only [submittedInvoke, Json.get?_obj_cons]
  exact hdecode

end

/-! ### Their hashes -/

/-- The hash that the browser signs is the hash of what the node gets with its
signature. -/
def HashAgrees (fromHex : String → Except String Felt) (poseidonHashMany : List Felt → Felt)
    (chainId : Felt) (accountAddress contractAddress : String) (amount nonce : U64) : Prop :=
  ∀ sig payload, invokeIncrement ⟨some contractAddress, some accountAddress⟩
      ⟨amount, feltHex sig.r, feltHex sig.s, nonce⟩ = .ok payload →
    ∃ tx, submittedInvoke fromHex chainId payload = some (tx, sig) ∧
      computeInvokeV3TxHash fromHex poseidonHashMany
        ⟨accountAddress, incrementCalldata contractAddress amount, nonce.toNat⟩ =
          .ok (tx.txHash poseidonHashMany)

section

variable {fromHex : String → Except String Felt} {poseidonHashMany : List Felt → Felt}
  {accountAddress contractAddress : String} {account contract chainId : Felt} {amount nonce : U64}

theorem bounds_ne : resourceBounds ≠ playgroundBounds := by decide

theorem hashes_ne
    (hfree : CollisionFreeOn poseidonHashMany
      ((incrementInvoke snSepoliaChainId account contract amount nonce resourceBounds).hashedLists
          poseidonHashMany ++
        (incrementInvoke chainId account contract amount nonce playgroundBounds).hashedLists
          poseidonHashMany)) :
    (incrementInvoke snSepoliaChainId account contract amount nonce resourceBounds).txHash
        poseidonHashMany ≠
      (incrementInvoke chainId account contract amount nonce playgroundBounds).txHash
        poseidonHashMany := by
  intro h
  exact bounds_ne (congrArg InvokeV3.resourceBounds (InvokeV3.txHash_inj hfree h))

theorem hashAgrees_iff (hformat : HexRoundTrip fromHex)
    (haccount : fromHex accountAddress = .ok account)
    (hcontract : fromHex contractAddress = .ok contract) :
    HashAgrees fromHex poseidonHashMany chainId accountAddress contractAddress amount nonce ↔
      (incrementInvoke snSepoliaChainId account contract amount nonce resourceBounds).txHash
          poseidonHashMany =
        (incrementInvoke chainId account contract amount nonce playgroundBounds).txHash
          poseidonHashMany := by
  have hbrowser := calculatedInvoke_increment hformat haccount hcontract amount nonce
  rw [HashAgrees, computeInvokeV3TxHash, hbrowser]
  constructor
  · intro h
    obtain ⟨tx, htx, hhash⟩ := h ⟨0, 0⟩ _ rfl
    rw [submittedInvoke_increment hformat haccount hcontract ⟨0, 0⟩ rfl] at htx
    cases htx
    exact Except.ok.inj hhash
  · intro h sig payload hpayload
    exact ⟨_, submittedInvoke_increment hformat haccount hcontract sig hpayload,
      congrArg Except.ok h⟩

/-- The bounds differ in two prices, so no signature of the browser is one for
the transaction that is submitted. -/
theorem browser_hash_never_agrees (hformat : HexRoundTrip fromHex)
    (haccount : fromHex accountAddress = .ok account)
    (hcontract : fromHex contractAddress = .ok contract)
    (hfree : CollisionFreeOn poseidonHashMany
      ((incrementInvoke snSepoliaChainId account contract amount nonce resourceBounds).hashedLists
          poseidonHashMany ++
        (incrementInvoke chainId account contract amount nonce playgroundBounds).hashedLists
          poseidonHashMany)) :
    ¬ HashAgrees fromHex poseidonHashMany chainId accountAddress contractAddress amount nonce := by
  rw [hashAgrees_iff hformat haccount hcontract]
  exact hashes_ne hfree

end

theorem browser_hash_never_agrees_plain :
    ¬ HashAgrees hexFelt positionalHash snSepoliaChainId "0x123" "0x5" 1 4 :=
  browser_hash_never_agrees hexRoundTrip_hexFelt (rfl : hexFelt "0x123" = .ok 0x123)
    (rfl : hexFelt "0x5" = .ok 5) (by decide +kernel)

/-- A first increment by two, of an account on the chain of the browser. -/
theorem signed_hash_is_not_submitted :
    ¬ HashAgrees hexFelt positionalHash snSepoliaChainId "0x7" "0x9" 2 0 := by
  have haccount : hexFelt "0x7" = .ok 7 := rfl
  have hcontract : hexFelt "0x9" = .ok 9 := rfl
  rw [hashAgrees_iff hexRoundTrip_hexFelt haccount hcontract]
  exact hashes_ne (by decide +kernel)

end Snip36.BrowserInvoke
