import Snip36.Payload

/-!
What is signed is what is sent: a receiver that decodes the JSON of either flow
and hashes the decoded transaction gets the hash that was signed.
-/

namespace Snip36.SignedPayload

open Signing
open HashCommitment
open Payload
open Library.Fallible
open Library.Hex

/-- The names by which one interface calls an invoke and its resources. -/
structure Dialect where
  typeName : String
  l1GasKey : String
  l2GasKey : String
  l1DataGasKey : String

def gateway : Dialect := ⟨"INVOKE_FUNCTION", "L1_GAS", "L2_GAS", "L1_DATA_GAS"⟩
def jsonRpc : Dialect := ⟨"INVOKE", "l1_gas", "l2_gas", "l1_data_gas"⟩

section Decoder

variable (fromHex : String → Except String Felt)

def decodeFelt : Json → Option Felt
  | .str s => (fromHex s).toOption
  | _ => none

def decodeWord (width : Nat) : Json → Option (BitVec width)
  | .str s => do
      let n ← parseHex s
      if n < 2 ^ width then some (BitVec.ofNat width n) else none
  | _ => none

def decodeDaMode : Json → Option U32
  | .str s => if s = "L1" then some 0 else if s = "L2" then some 1 else none
  | _ => none

def decodeBound (json : Json) : Option ResourceBound := do
  let maxAmount ← json.field (decodeWord 64) "max_amount"
  let maxPricePerUnit ← json.field (decodeWord 128) "max_price_per_unit"
  some ⟨maxAmount, maxPricePerUnit⟩

def decodeBounds (dialect : Dialect) (json : Json) : Option ResourceBounds := do
  let l1Gas ← json.field decodeBound dialect.l1GasKey
  let l2Gas ← json.field decodeBound dialect.l2GasKey
  let l1DataGas ← json.field decodeBound dialect.l1DataGasKey
  some ⟨l1Gas, l2Gas, l1DataGas⟩

def decodeSignature (json : Json) : Option Signature := do
  match ← json.elements (decodeFelt fromHex) with
  | [r, s] => some ⟨r, s⟩
  | _ => none

/-- The transaction in a JSON object, for the chain `chainId`, and its signature. -/
def decodeInvoke (dialect : Dialect) (chainId : Felt) (json : Json) :
    Option (InvokeV3 × Signature) := do
  let typeName ← json.field Json.asStr "type"
  let version ← json.field (decodeFelt fromHex) "version"
  let senderAddress ← json.field (decodeFelt fromHex) "sender_address"
  let calldata ← json.field (Json.elements (decodeFelt fromHex)) "calldata"
  let nonce ← json.field (decodeFelt fromHex) "nonce"
  let resourceBounds ← json.field (decodeBounds dialect) "resource_bounds"
  let tip ← json.field (decodeFelt fromHex) "tip"
  let paymasterData ← json.field (Json.elements (decodeFelt fromHex)) "paymaster_data"
  let accountDeploymentData ←
    json.field (Json.elements (decodeFelt fromHex)) "account_deployment_data"
  let nonceDaMode ← json.field decodeDaMode "nonce_data_availability_mode"
  let feeDaMode ← json.field decodeDaMode "fee_data_availability_mode"
  let signature ← json.field (decodeSignature fromHex) "signature"
  let proofFacts ← json.fieldOr (Json.elements (decodeFelt fromHex)) [] "proof_facts"
  if typeName = dialect.typeName ∧ version = 3 then
    some (⟨senderAddress, calldata, chainId, nonce, tip, resourceBounds, paymasterData,
      accountDeploymentData, nonceDaMode, feeDaMode, proofFacts⟩, signature)
  else none

/-- Parsing undoes formatting. -/
def HexRoundTrip : Prop := ∀ felt : Felt, fromHex (feltHex felt) = .ok felt

end Decoder

theorem decodeWord_lowerHex {width : Nat} (word : BitVec width) :
    decodeWord width (.str (lowerHex word.toNat)) = some word := by
  simp [decodeWord, word.isLt]

theorem decodeBound_boundJson (bound : ResourceBound) :
    decodeBound (boundJson bound) = some bound := by
  simp [decodeBound, boundJson, Json.field, Json.get?_obj_cons, decodeWord_lowerHex]

/-- Bounds written under three different keys are read back from these keys. -/
theorem decodeBounds_boundsJson (dialect : Dialect) (bounds : ResourceBounds)
    (h12 : dialect.l2GasKey ≠ dialect.l1GasKey)
    (h13 : dialect.l1DataGasKey ≠ dialect.l1GasKey)
    (h23 : dialect.l1DataGasKey ≠ dialect.l2GasKey) :
    decodeBounds dialect (boundsJson dialect.l1GasKey dialect.l2GasKey dialect.l1DataGasKey
      bounds) = some bounds := by
  simp [decodeBounds, boundsJson, Json.field, Json.get?_obj_cons, h12, h13, h23,
    decodeBound_boundJson]

theorem decodeBounds_toGatewayJson (bounds : ResourceBounds) :
    decodeBounds gateway (toGatewayJson bounds) = some bounds :=
  decodeBounds_boundsJson gateway bounds (by decide) (by decide) (by decide)

theorem decodeBounds_toRpcJson (bounds : ResourceBounds) :
    decodeBounds jsonRpc (toRpcJson bounds) = some bounds :=
  decodeBounds_boundsJson jsonRpc bounds (by decide) (by decide) (by decide)

section RoundTrip

variable {fromHex : String → Except String Felt}

theorem decodeFelt_of_fromHex {s : String} {felt : Felt} (h : fromHex s = .ok felt) :
    decodeFelt fromHex (.str s) = some felt := by
  simp [decodeFelt, h, Except.toOption]

theorem decodeFelts_ofStrings {strings : List String} {felts : List Felt}
    (h : List.Forall₂ (fun s felt => fromHex s = .ok felt) strings felts) :
    Json.elements (decodeFelt fromHex) (.ofStrings strings) = some felts :=
  Json.elements_arr_map (h.imp fun _ _ hs => decodeFelt_of_fromHex hs)

theorem forall₂_feltHex (hformat : HexRoundTrip fromHex) (felts : List Felt) :
    List.Forall₂ (fun s felt => fromHex s = .ok felt) (felts.map feltHex) felts := by
  rw [List.forall₂_map_left_iff, List.forall₂_same]
  intro felt _
  exact hformat felt

theorem decodeSignature_ofStrings (hformat : HexRoundTrip fromHex) (sig : Signature) :
    decodeSignature fromHex (.ofStrings [feltHex sig.r, feltHex sig.s]) = some sig := by
  have h := decodeFelts_ofStrings (forall₂_feltHex hformat [sig.r, sig.s])
  simp only [List.map_cons, List.map_nil] at h
  simp [decodeSignature, h]

theorem feltFromHex_eq_ok_iff {s : String} {felt : Felt} :
    feltFromHex fromHex s = .ok felt ↔ fromHex s = .ok felt := by
  simp [feltFromHex]

/-- The members that both flows write, decoded. The members of a transaction are
given as what the parser makes of the strings in the JSON. -/
theorem decodeInvoke_members (hformat : HexRoundTrip fromHex) (dialect : Dialect)
    (tail : List (String × Json)) {sender nonce : String} {calldata : List String} {bounds : Json}
    {senderFelt nonceFelt : Felt} {calldataFelts proofFacts : List Felt}
    {resourceBounds : ResourceBounds} (sig : Signature) (chainId : Felt)
    (hsender : fromHex sender = .ok senderFelt)
    (hcalldata : List.Forall₂ (fun s felt => fromHex s = .ok felt) calldata calldataFelts)
    (hnonce : fromHex nonce = .ok nonceFelt)
    (hbounds : decodeBounds dialect bounds = some resourceBounds)
    (hfacts : (Json.obj tail).fieldOr (Json.elements (decodeFelt fromHex)) [] "proof_facts" =
      some proofFacts) :
    decodeInvoke fromHex dialect chainId (.obj ([
      ("type", .str dialect.typeName),
      ("version", .str "0x3"),
      ("sender_address", .str sender),
      ("calldata", .ofStrings calldata),
      ("nonce", .str nonce),
      ("resource_bounds", bounds),
      ("tip", .str "0x0"),
      ("paymaster_data", .arr []),
      ("account_deployment_data", .arr []),
      ("nonce_data_availability_mode", .str "L1"),
      ("fee_data_availability_mode", .str "L1"),
      ("signature", .ofStrings [feltHex sig.r, feltHex sig.s])] ++ tail)) =
    some (⟨senderFelt, calldataFelts, chainId, nonceFelt, 0, resourceBounds, [], [], 0, 0,
      proofFacts⟩, sig) := by
  have hversion : decodeFelt fromHex (.str "0x3") = some 3 :=
    decodeFelt_of_fromHex (hformat 3)
  have htip : decodeFelt fromHex (.str "0x0") = some 0 := decodeFelt_of_fromHex (hformat 0)
  have hempty : Json.elements (decodeFelt fromHex) (.arr []) = some [] := rfl
  simp only [Json.fieldOr] at hfacts
  simp [decodeInvoke, Json.field, Json.fieldOr, Json.get?_obj_cons, Json.asStr,
    hversion, htip, hempty, decodeFelt_of_fromHex hsender, decodeFelts_ofStrings hcalldata,
    decodeFelt_of_fromHex hnonce, hbounds, decodeDaMode, decodeSignature_ofStrings hformat,
    hfacts]

variable {crypto : StarknetCrypto}

theorem decodeInvoke_signAndBuildPayload (hformat : HexRoundTrip fromHex)
    {params : SubmitParams} {txHash : Felt} {payload : Json}
    (h : signAndBuildPayload crypto params = .ok (txHash, payload)) :
    ∃ tx sig, decodeInvoke fromHex gateway params.chainId payload = some (tx, sig) ∧
      tx.txHash crypto.poseidonHashMany = txHash ∧
      sign crypto params.privateKey txHash = .ok sig := by
  simp only [signAndBuildPayload, bind_eq_ok_iff, pure_eq_ok_iff, Prod.mk.injEq] at h
  obtain ⟨sig, hsig, rfl, rfl⟩ := h
  have hfacts : (Json.obj [("proof", .str params.proofBase64),
        ("proof_facts", .ofStrings (params.proofFacts.map feltHex))]).fieldOr
      (Json.elements (decodeFelt fromHex)) [] "proof_facts" = some params.proofFacts := by
    simp [Json.fieldOr, Json.get?_obj_cons,
      decodeFelts_ofStrings (forall₂_feltHex hformat params.proofFacts)]
  have hdecode := decodeInvoke_members hformat gateway _ sig params.chainId
    (hformat params.senderAddress) (forall₂_feltHex hformat params.calldata)
    (hformat params.nonce) (decodeBounds_toGatewayJson params.resourceBounds) hfacts
  exact ⟨_, sig, hdecode, rfl, hsig⟩

variable {RpcError Transaction : Type}

theorem decodeInvoke_signTransaction (api : ProverApi RpcError Transaction)
    (hformat : HexRoundTrip api.fromHex) {args : ProveBlockArgs} {signed : SignedTransaction}
    (h : signTransaction crypto api args = .ok signed) :
    ∃ tx privateKey,
      decodeInvoke api.fromHex jsonRpc (chainIdFelt args.chainId) signed.txJson =
        some (tx, signed.sig) ∧
      tx.txHash crypto.poseidonHashMany = signed.standardTxHash ∧
      feltFromHex api.fromHex args.privateKey = .ok privateKey ∧
      sign crypto privateKey signed.standardTxHash = .ok signed.sig := by
  simp only [signTransaction, bind_eq_ok_iff, pure_eq_ok_iff, mapError_eq_ok_iff,
    collect_eq_ok_iff, feltFromHex_eq_ok_iff] at h
  obtain ⟨calldata, hcalldata, sender, hsender, privateKey, hkey, nonce, -, sig, hsig, rfl⟩ := h
  have hnonce : api.fromHex (lowerHex nonce.toNat) = .ok (Felt.fromNat nonce.toNat) := by
    have hval : (Felt.fromNat nonce.toNat).val = nonce.toNat :=
      Felt.val_fromNat (lt_starkPrime (by omega))
    simpa [feltHex, hval] using hformat (Felt.fromNat nonce.toNat)
  have hfacts : (Json.obj []).fieldOr (Json.elements (decodeFelt api.fromHex)) []
      "proof_facts" = some [] := rfl
  have hdecode := decodeInvoke_members hformat jsonRpc [] sig (chainIdFelt args.chainId)
    hsender hcalldata hnonce (decodeBounds_toRpcJson zeroFee) hfacts
  rw [List.append_nil] at hdecode
  exact ⟨_, privateKey, hdecode, rfl, feltFromHex_eq_ok_iff.mpr hkey, hsig⟩

end RoundTrip

/-- Both flows, for all parameters, calldata, bounds, proof facts and spellings
that the parser of field elements accepts. -/
theorem signed_is_sent {RpcError Transaction : Type} (crypto : StarknetCrypto)
    (api : ProverApi RpcError Transaction) (hformat : HexRoundTrip api.fromHex) :
    (∀ params txHash payload, signAndBuildPayload crypto params = .ok (txHash, payload) →
      ∃ tx sig,
        decodeInvoke api.fromHex gateway params.chainId payload = some (tx, sig) ∧
        tx.txHash crypto.poseidonHashMany = txHash ∧
        sign crypto params.privateKey txHash = .ok sig) ∧
    (∀ args signed transaction,
      prepareTransaction crypto api args = .ok (signed, transaction) →
      ∃ tx privateKey,
        decodeInvoke api.fromHex jsonRpc (chainIdFelt args.chainId) signed.txJson =
          some (tx, signed.sig) ∧
        tx.txHash crypto.poseidonHashMany = signed.standardTxHash ∧
        feltFromHex api.fromHex args.privateKey = .ok privateKey ∧
        sign crypto privateKey signed.standardTxHash = .ok signed.sig) := by
  refine ⟨fun params txHash payload h => decodeInvoke_signAndBuildPayload hformat h, ?_⟩
  intro args signed transaction h
  simp only [prepareTransaction, bind_eq_ok_iff, pure_eq_ok_iff, Prod.mk.injEq] at h
  obtain ⟨signed', hsigned, _, -, rfl, -⟩ := h
  exact decodeInvoke_signTransaction api hformat hsigned

/-- A parser of hexadecimal field elements without reduction. -/
def hexFelt (s : String) : Except String Felt :=
  match parseHex s with
  | some n => if n < starkPrime then .ok (Felt.fromNat n) else .error "out of range"
  | none => .error "not hexadecimal"

theorem hexRoundTrip_hexFelt : HexRoundTrip hexFelt := by
  intro felt
  have hfelt : Felt.fromNat felt.val = felt := Fin.ofNat_val_eq_self felt
  simp [hexFelt, feltHex, felt.isLt, hfelt]

/-- A signature that repeats the message and the key. -/
def echoCrypto : StarknetCrypto where
  poseidonHashMany := positionalHash
  rfc6979GenerateK := fun messageHash _ => messageHash
  sign := fun privateKey messageHash _ => .ok ⟨messageHash, privateKey⟩

def echoApi : ProverApi String Json where
  getNonceAtBlock := fun _ _ => .ok 5
  fromHex := hexFelt
  fromValue := .ok

def plainParams : SubmitParams where
  senderAddress := 0x123
  privateKey := 7
  calldata := [1, 0xabc]
  proofBase64 := "AAAA"
  proofFacts := [0x50524f4f4630]
  nonce := 4
  chainId := chainIdFelt "SN_SEPOLIA"
  resourceBounds := standardTx.resourceBounds

def plainArgs : ProveBlockArgs where
  referenceBlock := 9
  accountAddress := "0x0000123"
  privateKey := "0x7"
  chainId := "SN_SEPOLIA"
  rpcUrl := "http://localhost:9545"
  calldataStrs := ["0x1", "0xAbC"]

theorem signed_is_sent_plain :
    (∃ txHash payload tx sig, signAndBuildPayload echoCrypto plainParams = .ok (txHash, payload) ∧
      decodeInvoke hexFelt gateway plainParams.chainId payload = some (tx, sig) ∧
      tx.txHash positionalHash = txHash) ∧
    ∃ signed transaction tx,
      prepareTransaction echoCrypto echoApi plainArgs = .ok (signed, transaction) ∧
      decodeInvoke hexFelt jsonRpc (chainIdFelt plainArgs.chainId) signed.txJson =
        some (tx, signed.sig) ∧
      tx.txHash positionalHash = signed.standardTxHash := by
  have hboth := signed_is_sent echoCrypto echoApi hexRoundTrip_hexFelt
  obtain ⟨txHash, payload, hpayload⟩ : ∃ txHash payload,
      signAndBuildPayload echoCrypto plainParams = .ok (txHash, payload) := ⟨_, _, rfl⟩
  obtain ⟨signed, transaction, hsigned⟩ : ∃ signed transaction,
      prepareTransaction echoCrypto echoApi plainArgs = .ok (signed, transaction) :=
    ⟨_, _, rfl⟩
  obtain ⟨tx, sig, hdecode, hhash, -⟩ := hboth.1 _ _ _ hpayload
  obtain ⟨tx', -, hdecode', hhash', -⟩ := hboth.2 _ _ _ hsigned
  exact ⟨⟨txHash, payload, tx, sig, hpayload, hdecode, hhash⟩,
    signed, transaction, tx', hsigned, hdecode', hhash'⟩

end Snip36.SignedPayload
