import Snip36.CoinFlipPlay
import Snip36.VirtualOs

/-!
The prover of the browser: the arguments are turned into a signed transaction,
a prover is built for the node and the chain that they name, and the proof of
the transaction is handed back with everything needed to submit it.
-/

namespace Snip36.WebProver

open Library.Interaction
open CoinFlipPlay
open Payload
open Rpc
open ExecutionData
open FactsDb
open VirtualOs

/-! ### The prover for a configuration -/

inductive ChainId where
  | mainnet
  | sepolia
  | integrationSepolia
  | other (name : String)
  deriving DecidableEq

def ChainId.name : ChainId → String
  | .mainnet => "SN_MAIN"
  | .sepolia => "SN_SEPOLIA"
  | .integrationSepolia => "SN_INTEGRATION_SEPOLIA"
  | .other name => name

def strkFeeContractAddress : ContractAddress :=
  ⟨Felt.fromNat 0x04718f5a0fc34cc1af16a1cdee98ffb20c31f5cd61d6ab07201858f4287c938d, by decide⟩

def ethFeeContractAddress : ContractAddress :=
  ⟨Felt.fromNat 0x49d36570d4e46f48e99674bd3fcc84644ddd6b96f7c741b1562b82f9e004dc7, by decide⟩

def getChainInfo {ε : Type} (chainId : ChainId)
    (strkFeeTokenAddressOverride : Option ContractAddress) : Outcome ε ChainInfo :=
  let known : ChainInfo :=
    { chainId := chainId.name
      feeTokenAddresses :=
        { strkFeeTokenAddress := strkFeeTokenAddressOverride.getD strkFeeContractAddress
          ethFeeTokenAddress := ethFeeContractAddress }
      isL3 := false }
  match chainId with
  | .mainnet => .ok known
  | .sepolia => .ok known
  | .integrationSepolia => .ok known
  | .other unknownChain => .panicked s!"not implemented: Unknown chain ID {unknownChain}."

structure ProverConfig where
  rpcNodeUrl : String
  chainId : ChainId
  strkFeeTokenAddress : Option ContractAddress
  validateZeroFeeFields : Bool
  runnerConfig : RunnerConfig

/-- The default limits of a block belong to another package. -/
def ProverConfig.default (bouncerConfig : BouncerConfig) : ProverConfig where
  rpcNodeUrl := ""
  chainId := .sepolia
  strkFeeTokenAddress := none
  validateZeroFeeFields := true
  runnerConfig := .default bouncerConfig

/-- The code of other packages that the prover calls: of the node for the nonce,
of the parsers, of the serialisers and of the proof system. -/
structure WebProverApi (RpcError : Type) where
  crypto : StarknetCrypto
  payload : Payload.ProverApi RpcError RpcTransaction
  prover : VirtualOs.ProverApi
  parseUrl : String → Except String String
  chainIdFrom : String → ChainId
  parseContractAddress : String → Except String ContractAddress
  prepareRecursiveProverPrecomputes : Except String Unit
  utf8Error : List (BitVec 8) → String
  factsToValue : List Felt → Except String Json
  messagesToValue : List MessageToL1 → Except String Json
  debugTransactionHash : TransactionHash → String
  displayClassHash : ClassHash → String

section Prover

variable {RpcError : Type} (api : WebProverApi RpcError)

/-- `Result::expect`. -/
def expect {ε α : Type} (message : String) : Except String α → Outcome ε α
  | .ok value => .ok value
  | .error error => .panicked s!"{message}: {error}"

def VirtualSnosProver.new {ε : Type} (proverConfig : ProverConfig) :
    Outcome ε VirtualSnosProver := do
  let _nodeUrl ← expect "Invalid RPC node URL in config" (api.parseUrl proverConfig.rpcNodeUrl)
  let chainInfo ← getChainInfo proverConfig.chainId proverConfig.strkFeeTokenAddress
  expect "Failed to prepare recursive prover precomputes" api.prepareRecursiveProverPrecomputes
  pure
    { runner :=
        { chainInfo
          contractClassManager := []
          runnerConfig := proverConfig.runnerConfig }
      validateZeroFeeFields := proverConfig.validateZeroFeeFields }

/-! ### The texts of the errors -/

def virtualBlockExecutorErrorText : VirtualBlockExecutorError → String
  | .reexecutionError error => error.toString
  | .transactionExecutionError message => s!"Transaction execution failed: {message}"
  | .transactionReverted hash reason =>
      let hash := api.debugTransactionHash hash
      s!"Reverted transactions are not supported; hash: {hash}, revert reason: {reason}"
  | .stateUnavailable => "Block state unavailable after execution"
  | .bouncerLockError message => s!"Failed to acquire bouncer lock: {message}"

def proofProviderErrorText : ProofProviderError → String
  | .invalidStateDiff message => s!"Invalid state diff: {message}"
  | .rpc error => s!"RPC provider error: {error.message}"
  | .serializationError message => message
  | .invalidProofResponse message => s!"Invalid RPC proof response: {message}"
  | .blockCommitmentError message => s!"Block commitment error: {message}"

def classesProviderErrorText : ClassesProviderError → String
  | .getClassesError message => s!"Failed to get classes: {message}"
  | .deprecatedContractError classHash =>
      let classHash := api.displayClassHash classHash
      s!"Starknet os does not support deprecated contract classes, class hash: {classHash} is deprecated"
  | .invalidBytecodeElement =>
      "Unexpected error: bytecode of a class contained a non-integer value"
  | .stateError message => message
  | .hintsConversionError message => message

def runnerErrorText : RunnerError → String
  | .classesProvider error => classesProviderErrorText api error
  | .proofProvider error => proofProviderErrorText error
  | .virtualBlockExecutor error => virtualBlockExecutorErrorText api error
  | .osExecution message => message
  | .inputGenerationError message => s!"OS Input generation failed: {message}"
  | .transactionHashError message => s!"Failed to calculate transaction hash: {message}"

def virtualSnosProverErrorText : VirtualSnosProverError → String
  | .invalidTransactionType message => s!"Invalid transaction type: {message}"
  | .invalidTransactionInput message => s!"Invalid transaction input: {message}"
  | .validationError message => s!"Validation error: {message}"
  | .programOutputError message => message
  | .runnerError error => runnerErrorText api error
  | .provingError message => s!"Prover execution failed: {message}"
  | .outputParseError message => message

/-! ### Running the prover -/

def proveTransaction (proverConfig : ProverConfig) (blockNumber : U64)
    (transaction : RpcTransaction) : RpcProgram String ProveTransactionResult := do
  let prover ← .done (VirtualSnosProver.new api proverConfig)
  (VirtualOs.proveTransaction api.prover prover (.number blockNumber.toNat) transaction).mapErr
    (virtualSnosProverErrorText api)

structure VirtualOsConfig where
  rpcUrl : String
  blockNumber : U64
  strkFeeToken : Option String
  chainId : ChainId
  transaction : RpcTransaction

structure VirtualOsArtifacts where
  proof : String
  proofFacts : Json
  l2ToL1Messages : Json

/-- `String::from_utf8`. -/
def fromUtf8 (bytes : List (BitVec 8)) : Except String String :=
  match String.fromUTF8? ⟨(bytes.map UInt8.ofBitVec).toArray⟩ with
  | some text => .ok text
  | none => .error (api.utf8Error bytes)

def strkFeeTokenAddress : Option String → Except String (Option ContractAddress)
  | some address => do
      let address ← api.parseContractAddress address
      pure (some address)
  | none => .ok none

def proverConfigFor (config : VirtualOsConfig) (strkFeeTokenAddress : Option ContractAddress) :
    ProverConfig :=
  { ProverConfig.default api.prover.block.defaultBouncerConfig with
    rpcNodeUrl := config.rpcUrl
    chainId := config.chainId
    strkFeeTokenAddress }

/-- The artifacts in the form in which they leave the prover. -/
def artifactsFrom (result : ProveTransactionResult) : Except String VirtualOsArtifacts := do
  let proof ← fromUtf8 api result.proof
  let proofFacts ← api.factsToValue result.proofFacts
  let l2ToL1Messages ← api.messagesToValue result.l2ToL1Messages
  pure ⟨trim proof, proofFacts, l2ToL1Messages⟩

def runVirtualOs (config : VirtualOsConfig) : RpcProgram String VirtualOsArtifacts := do
  let strkFeeTokenAddress ← .done (.ofExcept (strkFeeTokenAddress api config.strkFeeToken))
  let result ← proveTransaction api (proverConfigFor api config strkFeeTokenAddress)
    config.blockNumber config.transaction
  .done (.ofExcept (artifactsFrom api result))

/-! ### The entry point -/

def strkToken : String := "0x04718f5a0fc34cc1af16a1cdee98ffb20c31f5cd61d6ab07201858f4287c938d"

structure ProveBlockResult where
  txJson : Json
  proof : String
  proofFacts : Json
  messages : Json
  txHash : String
  signature : String × String

def virtualOsConfigFor (args : ProveBlockArgs) (transaction : RpcTransaction) :
    VirtualOsConfig where
  rpcUrl := args.rpcUrl
  blockNumber := args.referenceBlock
  strkFeeToken := some strkToken
  chainId := api.chainIdFrom args.chainId
  transaction := transaction

def proveBlock (args : ProveBlockArgs) :
    RpcProgram (WebProverError RpcError) ProveBlockResult := do
  let (signed, transaction) ← .done (.ofExcept (prepareTransaction api.crypto api.payload args))
  let artifacts ← (runVirtualOs api (virtualOsConfigFor api args transaction)).mapErr
    .runVirtualOs
  pure
    { txJson := signed.txJson
      proof := trim artifacts.proof
      proofFacts := artifacts.proofFacts
      messages := artifacts.l2ToL1Messages
      txHash := feltHex signed.standardTxHash
      signature := (feltHex signed.sig.r, feltHex signed.sig.s) }

end Prover

end Snip36.WebProver
