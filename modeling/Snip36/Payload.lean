import Snip36.HashCommitment
import Snip36.Json
import Snip36.Library.Fallible

/-!
The two places that sign an invoke transaction and write it down as JSON: the
payload for the gateway, with proof facts, and the transaction that the browser
prover hands to the virtual OS, without them.
-/

namespace Snip36.Payload

open Signing
open Library.Fallible
open Library.Hex

/-- `{:#x}` of a field element. -/
def feltHex (felt : Felt) : String := lowerHex felt.val

structure Signature where
  r : Felt
  s : Felt
  deriving DecidableEq

inductive SignError where
  | ecdsa (message : String)

def SignError.toString : SignError → String
  | .ecdsa message => "ECDSA signing failed: " ++ message

/-- The functions of the curve library that the signing code calls. -/
structure StarknetCrypto where
  poseidonHashMany : List Felt → Felt
  rfc6979GenerateK : Felt → Felt → Felt
  sign : Felt → Felt → Felt → Except String Signature

def sign (crypto : StarknetCrypto) (privateKey messageHash : Felt) :
    Except SignError Signature :=
  let k := crypto.rfc6979GenerateK messageHash privateKey
  (crypto.sign privateKey messageHash k).mapError .ecdsa

def boundJson (bound : ResourceBound) : Json :=
  .obj [("max_amount", .str (lowerHex bound.maxAmount.toNat)),
    ("max_price_per_unit", .str (lowerHex bound.maxPricePerUnit.toNat))]

def boundsJson (l1GasKey l2GasKey l1DataGasKey : String) (bounds : ResourceBounds) : Json :=
  .obj [(l1GasKey, boundJson bounds.l1Gas), (l2GasKey, boundJson bounds.l2Gas),
    (l1DataGasKey, boundJson bounds.l1DataGas)]

def toRpcJson : ResourceBounds → Json := boundsJson "l1_gas" "l2_gas" "l1_data_gas"

def toGatewayJson : ResourceBounds → Json := boundsJson "L1_GAS" "L2_GAS" "L1_DATA_GAS"

/-- Gas for the execution in the virtual OS at price zero. -/
def zeroFee : ResourceBounds where
  l1Gas := ⟨0, 0⟩
  l2Gas := ⟨0x7000000, 0⟩
  l1DataGas := ⟨0x1b0, 0⟩

structure SubmitParams where
  senderAddress : Felt
  privateKey : Felt
  calldata : List Felt
  proofBase64 : String
  proofFacts : List Felt
  nonce : Felt
  chainId : Felt
  resourceBounds : ResourceBounds

def signAndBuildPayload (crypto : StarknetCrypto) (params : SubmitParams) :
    Except SignError (Felt × Json) := do
  let txHash := computeInvokeV3TxHash crypto.poseidonHashMany params.senderAddress
    params.calldata params.chainId params.nonce 0 params.resourceBounds [] [] 0 0
    params.proofFacts
  let sig ← sign crypto params.privateKey txHash
  let calldataHex := params.calldata.map feltHex
  let proofFactsHex := params.proofFacts.map feltHex
  let payload : Json := .obj [
    ("type", .str "INVOKE_FUNCTION"),
    ("version", .str "0x3"),
    ("sender_address", .str (feltHex params.senderAddress)),
    ("calldata", .ofStrings calldataHex),
    ("nonce", .str (feltHex params.nonce)),
    ("resource_bounds", toGatewayJson params.resourceBounds),
    ("tip", .str "0x0"),
    ("paymaster_data", .arr []),
    ("account_deployment_data", .arr []),
    ("nonce_data_availability_mode", .str "L1"),
    ("fee_data_availability_mode", .str "L1"),
    ("signature", .ofStrings [feltHex sig.r, feltHex sig.s]),
    ("proof", .str params.proofBase64),
    ("proof_facts", .ofStrings proofFactsHex)]
  pure (txHash, payload)

structure ProveBlockArgs where
  referenceBlock : U64
  accountAddress : String
  privateKey : String
  chainId : String
  rpcUrl : String
  calldataStrs : List String

inductive WebProverError (RpcError : Type) where
  | parseCalldata (message : String)
  | invalidAccountAddress (message : String)
  | invalidPrivateKey (message : String)
  | nonceAtBlock (block : U64) (source : RpcError)
  | signing (message : String)
  | runVirtualOs (message : String)

/-- The code that `prove_block` calls before the virtual OS runs: the node, the
parser of field elements and the parser of transactions. -/
structure ProverApi (RpcError Transaction : Type) where
  getNonceAtBlock : String → Json → Except RpcError U64
  fromHex : String → Except String Felt
  fromValue : Json → Except String Transaction

def feltFromHex (fromHex : String → Except String Felt) (hexStr : String) :
    Except String Felt :=
  (fromHex hexStr).mapError fun e => "invalid felt hex '" ++ hexStr ++ "': " ++ e

/-- The values of `prove_block` when it hands the transaction over. -/
structure SignedTransaction where
  standardTxHash : Felt
  sig : Signature
  txJson : Json

section ProveBlock

variable {RpcError Transaction : Type} (crypto : StarknetCrypto)
  (api : ProverApi RpcError Transaction)

def signTransaction (args : ProveBlockArgs) :
    Except (WebProverError RpcError) SignedTransaction := do
  let calldataFelts ← collect
    (fun h => (feltFromHex api.fromHex h).mapError .parseCalldata) args.calldataStrs
  let senderFelt ← (feltFromHex api.fromHex args.accountAddress).mapError
    .invalidAccountAddress
  let privateKeyFelt ← (feltFromHex api.fromHex args.privateKey).mapError .invalidPrivateKey
  let chainIdFelt := chainIdFelt args.chainId
  let resourceBounds := zeroFee
  let nonce ← (api.getNonceAtBlock args.accountAddress
    (.obj [("block_number", .num args.referenceBlock.toNat)])).mapError
      (.nonceAtBlock args.referenceBlock)
  let nonceFelt := Felt.fromNat nonce.toNat
  let standardTxHash := computeInvokeV3TxHash crypto.poseidonHashMany senderFelt
    calldataFelts chainIdFelt nonceFelt 0 resourceBounds [] [] 0 0 []
  let sig ← (sign crypto privateKeyFelt standardTxHash).mapError fun e =>
    .signing e.toString
  let txJson : Json := .obj [
    ("type", .str "INVOKE"),
    ("version", .str "0x3"),
    ("sender_address", .str args.accountAddress),
    ("calldata", .ofStrings args.calldataStrs),
    ("nonce", .str (lowerHex nonce.toNat)),
    ("resource_bounds", toRpcJson resourceBounds),
    ("tip", .str "0x0"),
    ("paymaster_data", .arr []),
    ("account_deployment_data", .arr []),
    ("nonce_data_availability_mode", .str "L1"),
    ("fee_data_availability_mode", .str "L1"),
    ("signature", .ofStrings [feltHex sig.r, feltHex sig.s])]
  pure ⟨standardTxHash, sig, txJson⟩

/-- `prove_block` up to and including `parse_transaction_json`. -/
def prepareTransaction (args : ProveBlockArgs) :
    Except (WebProverError RpcError) (SignedTransaction × Transaction) := do
  let signed ← signTransaction crypto api args
  let transaction ← (api.fromValue signed.txJson).mapError .runVirtualOs
  pure (signed, transaction)

end ProveBlock

end Snip36.Payload
