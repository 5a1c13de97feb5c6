import Snip36.StorageProofProvider
import Snip36.VirtualBlockExecutor

/-!
From a transaction to the input of the virtual OS: the checks of the prover,
the run of the virtual block, and the classes and storage proofs that its hints
are made of. The OS itself and the proof of its run belong to other packages.
-/

namespace Snip36.VirtualOs

open Library
open Library.Interaction
open Library.Fallible
open Rpc
open ExecutionData
open FactsDb
open StateReader
open VirtualBlockExecutor
open StorageProofProvider

/-! ### Classes -/

inductive ClassesProviderError where
  | getClassesError (message : String)
  | deprecatedContractError (classHash : ClassHash)
  | invalidBytecodeElement
  | stateError (message : String)
  | hintsConversionError (message : String)
  deriving DecidableEq

structure CasmContractClass where
  prime : Nat
  compilerVersion : String
  bytecode : List Nat
  bytecodeSegmentLengths : Option (List Nat)
  hints : List (Nat × List String)
  entryPointsByType : List (String × List (Felt × Nat))
  deriving DecidableEq

structure CasmApi where
  programHintsToCasmHints : List (Nat × List String) → Except String (List (Nat × List String))
  compiledClassHash : CasmContractClass → Nat

def bytecodeElement : MaybeRelocatable → Except ClassesProviderError Nat
  | .int felt => .ok felt.val
  | .relocatableValue _ _ => .error .invalidBytecodeElement

def compiledClassV1ToCasm (api : CasmApi) (compiled : CompiledClassV1) :
    Except ClassesProviderError CasmContractClass := do
  let bytecode ← collect bytecodeElement compiled.programData
  let hints ← (api.programHintsToCasmHints compiled.hintsCollection).mapError
    .hintsConversionError
  pure
    { prime := starkPrime
      compilerVersion := ""
      bytecode
      bytecodeSegmentLengths := some compiled.bytecodeSegmentFeltSizes
      hints
      entryPointsByType := compiled.entryPointsByType }

/-- The last 32 bytes of the hash, read as a field element. -/
def casmCompiledClassHash (api : CasmApi) (casm : CasmContractClass) : CompiledClassHash :=
  Felt.fromNat (api.compiledClassHash casm % 2 ^ 256)

structure ClassesInput where
  compiledClasses : IndexMap CompiledClassHash CasmContractClass
  classHashToCompiledClassHash : IndexMap ClassHash CompiledClassHash

def addClass (classApi : ClassApi) (api : CasmApi) (reader : RpcStateReader)
    (input : ClassesInput) (classHash : ClassHash) :
    RpcProgram ClassesProviderError ClassesInput := do
  match ← (getRunnableCompiledClassAsync classApi reader classHash).mapErr
      fun e => .getClassesError e.toString with
  | .v0 _ => .done (.err (.deprecatedContractError classHash))
  | .v1 compiled =>
      let casm ← .done (.ofExcept (compiledClassV1ToCasm api compiled))
      let compiledClassHash := casmCompiledClassHash api casm
      pure
        { compiledClasses := input.compiledClasses.insert compiledClassHash casm
          classHashToCompiledClassHash :=
            input.classHashToCompiledClassHash.insert classHash compiledClassHash }

def getClasses (classApi : ClassApi) (api : CasmApi) (reader : RpcStateReader)
    (executedClassHashes : HashSet ClassHash) : RpcProgram ClassesProviderError ClassesInput :=
  executedClassHashes.elements.foldlM (addClass classApi api reader) ⟨.empty, .empty⟩

/-! ### The hints of the OS -/

structure CentralTransactionExecutionInfo where
  revertError : Option String
  deriving DecidableEq

structure OsChainInfo where
  chainId : String
  strkFeeTokenAddress : ContractAddress

structure OsBlockInput where
  blockHashCommitments : BlockHeaderCommitments
  contractStateCommitmentInfo : CommitmentInfo
  addressToStorageCommitmentInfo : IndexMap ContractAddress CommitmentInfo
  contractClassCommitmentInfo : CommitmentInfo
  transactions : List (InvokeTransaction × TransactionHash)
  txExecutionInfos : List CentralTransactionExecutionInfo
  prevBlockHash : BlockHash
  blockInfo : BlockInfo
  initialReads : StateMaps
  newBlockHash : BlockHash

structure StarknetOsInput where
  osBlockInputs : List OsBlockInput
  compiledClasses : IndexMap CompiledClassHash CasmContractClass

structure OsHintsConfig where
  debugMode : Bool
  fullOutput : Bool
  useKzgDa : Bool
  chainInfo : OsChainInfo

structure OsHints where
  osInput : StarknetOsInput
  osHintsConfig : OsHintsConfig

inductive RunnerError where
  | classesProvider (error : ClassesProviderError)
  | proofProvider (error : ProofProviderError)
  | virtualBlockExecutor (error : VirtualBlockExecutorError)
  | osExecution (message : String)
  | inputGenerationError (message : String)
  | transactionHashError (message : String)
  deriving DecidableEq

structure CairoPie where
  memory : List Felt
  deriving DecidableEq

structure RunnerOutput where
  cairoPie : CairoPie
  l2ToL1Messages : List MessageToL1

structure OsApi extends ExecutionApi where
  committer : CommitterApi
  getContractAddresses : StateMaps → HashSet ContractAddress
  casm : CasmApi
  calculateTransactionHash : InvokeTransaction → String → Except String TransactionHash
  toCentral : TransactionExecutionInfo → CentralTransactionExecutionInfo
  runVirtualOs : OsHints → Except String CairoPie

structure RunnerConfig where
  storageProofConfig : StorageProofConfig
  virtualBlockExecutorConfig : RpcVirtualBlockExecutorConfig

def RunnerConfig.default (bouncerConfig : BouncerConfig) : RunnerConfig where
  storageProofConfig := .default
  virtualBlockExecutorConfig := .default bouncerConfig

/-- The hints, from what the execution, the classes and the proofs gave. -/
def osHintsFrom (api : OsApi) (executionData : VirtualBlockExecutionData)
    (classes : ClassesInput) (storageProofs : StorageProofs)
    (txs : List (InvokeTransaction × TransactionHash)) : OsHints :=
  let baseBlockInfo := executionData.baseBlockInfo
  let extendedInitialReads := storageProofs.extendedInitialReads
  { osInput :=
      { osBlockInputs :=
          [{ blockHashCommitments := baseBlockInfo.baseBlockHeaderCommitments
             contractStateCommitmentInfo :=
               storageProofs.commitmentInfos.contractsTrieCommitmentInfo
             addressToStorageCommitmentInfo :=
               storageProofs.commitmentInfos.storageTriesCommitmentInfos
             contractClassCommitmentInfo :=
               storageProofs.commitmentInfos.classesTrieCommitmentInfo
             transactions := txs
             txExecutionInfos :=
               executionData.executionOutputs.map fun output => api.toCentral output.1
             prevBlockHash := baseBlockInfo.prevBaseBlockHash
             blockInfo := baseBlockInfo.blockContext.blockInfo
             initialReads :=
               { extendedInitialReads with
                 compiledClassHashes := extendedInitialReads.compiledClassHashes.extend
                   classes.classHashToCompiledClassHash.entries
                 declaredContracts := .empty }
             newBlockHash := baseBlockInfo.baseBlockHash }]
        compiledClasses := classes.compiledClasses }
    osHintsConfig :=
      { debugMode := false
        fullOutput := false
        useKzgDa := false
        chainInfo :=
          { chainId := baseBlockInfo.blockContext.chainInfo.chainId
            strkFeeTokenAddress :=
              baseBlockInfo.blockContext.chainInfo.feeTokenAddresses.strkFeeTokenAddress } } }

def createVirtualOsHints (api : OsApi) (reader : RpcStateReader)
    (executionData : VirtualBlockExecutionData) (storageProofConfig : StorageProofConfig)
    (txs : List (InvokeTransaction × TransactionHash)) : RpcProgram RunnerError OsHints := do
  let blockNumber := executionData.baseBlockInfo.blockContext.blockInfo.blockNumber
  let classes ← (getClasses api.classes api.casm reader executionData.executedClassHashes).mapErr
    .classesProvider
  let storageProofs ← (getStorageProofs api.committer api.getContractAddresses blockNumber
    executionData storageProofConfig).mapErr .proofProvider
  pure (osHintsFrom api executionData classes storageProofs txs)

/-! ### The runner -/

structure RpcRunnerFactory where
  chainInfo : ChainInfo
  contractClassManager : ContractClassManager
  runnerConfig : RunnerConfig

def RpcRunnerFactory.executorFor (factory : RpcRunnerFactory) (blockId : BlockId) :
    RpcVirtualBlockExecutor where
  rpcStateReader := ⟨blockId, factory.chainInfo⟩
  validateTxs := true
  config := factory.runnerConfig.virtualBlockExecutorConfig

def txsWithHashes (api : OsApi) (chainId : String) (txs : List InvokeTransaction) :
    Except RunnerError (List (InvokeTransaction × TransactionHash)) :=
  collect
    (fun tx => do
      let txHash ← (api.calculateTransactionHash tx chainId).mapError .transactionHashError
      pure (tx, txHash))
    txs

/-- Everything `runVirtualOs` does before it starts the OS. -/
def prepareVirtualOs (api : OsApi) (factory : RpcRunnerFactory) (blockId : BlockId)
    (txs : List InvokeTransaction) :
    RpcProgram RunnerError (OsHints × List MessageToL1) := do
  let txsWithHashes ← .done (.ofExcept (txsWithHashes api factory.chainInfo.chainId txs))
  let executionData ← (execute api.toExecutionApi (factory.executorFor blockId) blockId
    factory.contractClassManager txsWithHashes).mapErr .virtualBlockExecutor
  let osHints ← createVirtualOsHints api ⟨blockId, factory.chainInfo⟩ executionData
    factory.runnerConfig.storageProofConfig txsWithHashes
  pure (osHints, executionData.l2ToL1Messages)

def runVirtualOs (api : OsApi) (factory : RpcRunnerFactory) (blockId : BlockId)
    (txs : List InvokeTransaction) : RpcProgram RunnerError RunnerOutput := do
  let (osHints, l2ToL1Messages) ← prepareVirtualOs api factory blockId txs
  let cairoPie ← .done (.ofExcept ((api.runVirtualOs osHints).mapError .osExecution))
  pure ⟨cairoPie, l2ToL1Messages⟩

/-! ### The prover -/

inductive VirtualSnosProverError where
  | invalidTransactionType (message : String)
  | invalidTransactionInput (message : String)
  | validationError (message : String)
  | programOutputError (message : String)
  | runnerError (error : RunnerError)
  | provingError (message : String)
  | outputParseError (message : String)
  deriving DecidableEq

structure ProverOutput where
  proof : List (BitVec 8)
  programOutput : List Felt
  deriving DecidableEq

structure ProveTransactionResult where
  proof : List (BitVec 8)
  proofFacts : List Felt
  l2ToL1Messages : List MessageToL1
  deriving DecidableEq

structure ProverApi extends OsApi where
  invokeFromRpc : RpcInvokeTransactionV3 → InvokeTransactionV3
  prove : CairoPie → Except String ProverOutput
  tryIntoProofFacts : List Felt → Except String (List Felt)

structure VirtualSnosProver where
  runner : RpcRunnerFactory
  validateZeroFeeFields : Bool

def extractRpcInvokeTx : RpcTransaction → Except VirtualSnosProverError RpcInvokeTransactionV3
  | .invoke tx => .ok tx
  | .declare =>
      .error (.invalidTransactionType
        "Declare transactions are not supported; only Invoke transactions are allowed")
  | .deployAccount =>
      .error (.invalidTransactionType
        "DeployAccount transactions are not supported; only Invoke transactions are allowed")

def validateTransactionInput (maxPossibleFee : ValidResourceBounds → U64 → Nat)
    (tx : RpcInvokeTransactionV3) (validateZeroFeeFields : Bool) :
    Except VirtualSnosProverError Unit :=
  if tx.proof ≠ [] then
    .error (.invalidTransactionInput "The proof field must be empty on input.")
  else if tx.proofFacts ≠ [] then
    .error (.invalidTransactionInput "The proof_facts field must be empty on input.")
  else if validateZeroFeeFields then
    let maxFee := maxPossibleFee (.allResources tx.resourceBounds) tx.tip
    if maxFee ≠ 0 then
      .error (.invalidTransactionInput s!"Max possible fee must be zero, got: {maxFee}.")
    else .ok ()
  else .ok ()

/-- The checks of `proveTransaction`, up to the transaction it hands on. -/
def checkTransaction (maxPossibleFee : ValidResourceBounds → U64 → Nat)
    (validateZeroFeeFields : Bool) (blockId : BlockId) (transaction : RpcTransaction) :
    Except VirtualSnosProverError RpcInvokeTransactionV3 :=
  if blockId = .pending then
    .error (.validationError
      "Pending blocks are not supported; only finalized blocks can be proven.")
  else do
    let invokeV3 ← extractRpcInvokeTx transaction
    validateTransactionInput maxPossibleFee invokeV3 validateZeroFeeFields
    pure invokeV3

def proveVirtualSnosRun (api : ProverApi) (runnerOutput : RunnerOutput) :
    Except VirtualSnosProverError ProveTransactionResult := do
  let proverOutput ← (api.prove runnerOutput.cairoPie).mapError .provingError
  let proofFacts ← (api.tryIntoProofFacts proverOutput.programOutput).mapError
    .programOutputError
  pure ⟨proverOutput.proof, proofFacts, runnerOutput.l2ToL1Messages⟩

def proveTransaction (api : ProverApi) (prover : VirtualSnosProver) (blockId : BlockId)
    (transaction : RpcTransaction) :
    RpcProgram VirtualSnosProverError ProveTransactionResult := do
  let invokeV3 ← .done (.ofExcept (checkTransaction api.executor.maxPossibleFee
    prover.validateZeroFeeFields blockId transaction))
  let runnerOutput ← (runVirtualOs api.toOsApi prover.runner blockId
    [.v3 (api.invokeFromRpc invokeV3)]).mapErr .runnerError
  .done (.ofExcept (proveVirtualSnosRun api runnerOutput))

/-! ### What a run is made of -/

theorem onlyAsks_getClasses (classApi : ClassApi) (api : CasmApi) (reader : RpcStateReader)
    (executedClassHashes : HashSet ClassHash) :
    Program.OnlyAsks IsClassRequest (getClasses classApi api reader executedClassHashes) := by
  apply Program.onlyAsks_foldlM
  intro input classHash
  apply ((onlyAsks_getRunnableCompiledClassAsync classApi reader classHash).mapErr _).bind
  intro runnable
  cases runnable with
  | v0 compiled => exact Program.onlyAsks_done _
  | v1 compiled => exact (Program.onlyAsks_done _).bind fun _ => Program.onlyAsks_pure _

theorem returns_prepareVirtualOs_iff {node : Node} {before after : Conversation} {api : OsApi}
    {factory : RpcRunnerFactory} {blockId : BlockId} {txs : List InvokeTransaction}
    {hints : OsHints} {messages : List MessageToL1} :
    Program.Returns node (prepareVirtualOs api factory blockId txs) before (hints, messages)
        after ↔
      ∃ hashedTxs data afterExecution classes afterClasses storageProofs,
        txsWithHashes api factory.chainInfo.chainId txs = .ok hashedTxs ∧
        Program.Returns node (execute api.toExecutionApi (factory.executorFor blockId) blockId
          factory.contractClassManager hashedTxs) before data afterExecution ∧
        Program.Returns node (getClasses api.classes api.casm ⟨blockId, factory.chainInfo⟩
          data.executedClassHashes) afterExecution classes afterClasses ∧
        Program.Returns node (getStorageProofs api.committer api.getContractAddresses
          data.baseBlockInfo.blockContext.blockInfo.blockNumber data
          factory.runnerConfig.storageProofConfig) afterClasses storageProofs after ∧
        hints = osHintsFrom api data classes storageProofs hashedTxs ∧
        messages = data.l2ToL1Messages := by
  simp only [prepareVirtualOs, createVirtualOsHints, Program.returns_bind_iff,
    Program.returns_done_iff, Program.returns_mapErr_iff, Program.returns_pure_iff,
    Outcome.ofExcept_eq_ok_iff, Prod.mk.injEq]
  constructor
  · rintro ⟨hashed, _, ⟨hhashed, rfl⟩, data, m, hdata, _, _, ⟨classes, m', hclasses, proofs, _,
      hproofs, rfl, rfl⟩, ⟨rfl, rfl⟩, rfl⟩
    exact ⟨hashed, data, m, classes, m', proofs, hhashed, hdata, hclasses, hproofs, rfl, rfl⟩
  · rintro ⟨hashed, data, m, classes, m', proofs, hhashed, hdata, hclasses, hproofs, rfl, rfl⟩
    exact ⟨hashed, _, ⟨hhashed, rfl⟩, data, m, hdata, _, after, ⟨classes, m', hclasses, proofs,
      after, hproofs, rfl, rfl⟩, ⟨rfl, rfl⟩, rfl⟩

/-! ### Externals that accept everything -/

/-- Nothing is read or written, nothing reverts, and the block has room for
`capacity` transactions. -/
def permissiveExecutor (capacity : Nat) : TransactionExecutor where
  outcome _ _ := .ok (⟨none, []⟩, .default)
  capacity _ := capacity
  blockState _ := some ⟨.ok .default, .ok .default⟩
  executedClassHashes _ := .ok .empty

def permissiveRpcInvoke (tx : InvokeTransactionV3) : Except String RpcInvokeTransactionV3 :=
  match tx.resourceBounds with
  | .l1Gas _ => .error "resource_bounds"
  | .allResources resourceBounds =>
      .ok
        { senderAddress := tx.senderAddress
          calldata := tx.calldata
          signature := tx.signature
          nonce := tx.nonce
          resourceBounds
          tip := tx.tip
          paymasterData := tx.paymasterData
          accountDeploymentData := tx.accountDeploymentData
          nonceDataAvailabilityMode := tx.nonceDataAvailabilityMode
          feeDataAvailabilityMode := tx.feeDataAvailabilityMode
          proofFacts := tx.proofFacts
          proof := [] }

def permissiveInvoke (tx : RpcInvokeTransactionV3) : InvokeTransactionV3 where
  resourceBounds := .allResources tx.resourceBounds
  tip := tx.tip
  signature := tx.signature
  nonce := tx.nonce
  senderAddress := tx.senderAddress
  calldata := tx.calldata
  nonceDataAvailabilityMode := tx.nonceDataAvailabilityMode
  feeDataAvailabilityMode := tx.feeDataAvailabilityMode
  paymasterData := tx.paymasterData
  accountDeploymentData := tx.accountDeploymentData
  proofFacts := tx.proofFacts

def permissiveApi (maxPossibleFee : ValidResourceBounds → U64 → Nat) (capacity : Nat) :
    ProverApi where
  block :=
    { concatCounts := fun _ _ _ _ => 0
      parseStarknetVersion := .ok
      validatedGasPrices := id
      latestConstants := default
      constantsFor := fun _ => .ok default
      defaultBouncerConfig := default }
  classes :=
    { extractSierraVersion := fun _ => .ok (1, 7, 0)
      compiledClassV1FromJson := fun _ _ => .ok ⟨[], [], [], []⟩
      gzDecode := fun _ => .ok ""
      parseProgram := fun _ => .ok []
      compiledClassV0TryFrom := fun contractClass => .ok ⟨contractClass⟩
      setAndCompile := fun manager classHash compiled => manager ++ [(classHash, compiled)] }
  executor :=
    { resourceBounds := fun
        | .v3 tx => tx.resourceBounds
        | _ => .l1Gas ⟨0, 0⟩
      tip := fun
        | .v3 tx => tx.tip
        | _ => 0
      maxPossibleFee
      rpcInvokeTryFrom := permissiveRpcInvoke
      fromApi := fun tx txHash flags => .ok ⟨tx, txHash, flags⟩
      newExecutor := fun _ _ _ => permissiveExecutor capacity }
  committer := permissiveCommitter
  getContractAddresses maps := .ofList maps.touchedAddresses
  casm :=
    { programHintsToCasmHints := .ok
      compiledClassHash := fun _ => 0 }
  calculateTransactionHash _ _ := .ok 0
  toCentral info := ⟨info.revertError⟩
  runVirtualOs _ := .ok ⟨[]⟩
  invokeFromRpc := permissiveInvoke
  prove _ := .ok ⟨[], []⟩
  tryIntoProofFacts output := .ok output

variable {node : Node} {before : Conversation}

/-- A header with some price for every kind of gas. -/
def plainHeader (blockNumber : Nat) (blockHash : BlockHash) : BlockHeader where
  blockHash := blockHash
  parentHash := 0
  blockNumber := blockNumber
  sequencerAddress := default
  newRoot := 0
  timestamp := 0
  l1GasPrice := ⟨1, 1⟩
  l1DataGasPrice := ⟨1, 1⟩
  l2GasPrice := ⟨1, 1⟩
  l1DaMode := .calldata
  starknetVersion := "0.14.0"
  stateDiffCommitment := 0
  eventCommitment := 0
  receiptCommitment := 0
  transactionCommitment := 0
  transactionCount := 0
  eventCount := 0
  stateDiffLength := 0

theorem exists_returns_baseBlockInfo (maxPossibleFee : ValidResourceBounds → U64 → Nat)
    (capacity : Nat) (executor : RpcVirtualBlockExecutor)
    {blockNumber : Nat} {blockHash : BlockHash}
    (hheader : node before (.getBlockWithTxHashes executor.rpcStateReader.blockId) =
      .ok (plainHeader blockNumber blockHash)) :
    ∃ info, info.blockContext.blockInfo.blockNumber = blockNumber ∧
      Program.Returns node (baseBlockInfoAsync (permissiveApi maxPossibleFee capacity).block
        executor) before info (before ++ [⟨.getBlockWithTxHashes executor.rpcStateReader.blockId,
          .ok (plainHeader blockNumber blockHash)⟩]) := by
  obtain ⟨info, hinfo⟩ : ∃ info, BaseBlockInfo.new (permissiveApi maxPossibleFee capacity).block
      (plainHeader blockNumber blockHash) executor.rpcStateReader.chainInfo
      executor.config.useLatestVersionedConstants = .ok info := by
    cases executor.config.useLatestVersionedConstants with
    | true => exact ⟨_, rfl⟩
    | false => exact ⟨_, rfl⟩
  have hnumber := (BaseBlockInfo.new_eq_ok hinfo).2.2.1
  refine ⟨{ info with blockContext := { info.blockContext with
    bouncerConfig := executor.config.bouncerConfig } }, hnumber, ?_⟩
  simp only [baseBlockInfoAsync, getBlockHeaderAsync, Program.returns_bind_iff,
    Program.returns_mapErr_iff, returns_askOrFail_iff, Program.returns_done_iff,
    Outcome.ofExcept_eq_ok_iff, Program.returns_pure_iff]
  exact ⟨_, _, ⟨hheader, rfl⟩, info, _, ⟨hinfo, rfl⟩, rfl, by rw [hheader]⟩

theorem exists_executeBlock_permissive (maxPossibleFee : ValidResourceBounds → U64 → Nat)
    (capacity : Nat) (executor : RpcVirtualBlockExecutor)
    (baseBlockInfo : BaseBlockInfo) (txs : List (InvokeTransaction × TransactionHash)) :
    ∃ data, executeBlock (permissiveApi maxPossibleFee capacity).executor executor
        (permissiveExecutor capacity) baseBlockInfo txs = .ok data ∧
      data.initialReads = .default ∧ data.stateDiff = .default ∧
      data.executedClassHashes = .empty ∧ data.baseBlockInfo = baseBlockInfo := by
  have hconvert : convertInvokeTxs (permissiveApi maxPossibleFee capacity).executor executor txs =
      .ok (txs.map fun e => ⟨e.1, e.2, executionFlags
        (permissiveApi maxPossibleFee capacity).executor executor e.1⟩) :=
    collect_eq_ok_map fun _ _ => rfl
  have houtputs : ∀ blockifierTxs, collect
      (fun result : Except String TransactionExecutionOutput =>
        result.mapError VirtualBlockExecutorError.transactionExecutionError)
      (executeTxs (permissiveExecutor capacity) blockifierTxs) =
        .ok ((executeTxs (permissiveExecutor capacity) blockifierTxs).map
          fun _ => (⟨none, []⟩, .default)) := by
    intro blockifierTxs
    apply collect_eq_ok_map
    intro result hresult
    obtain ⟨e, -, rfl⟩ := List.mem_map.mp hresult
    rfl
  have hreverted : ∀ outputs : List TransactionExecutionOutput,
      (∀ output ∈ outputs, output.1.revertError = none) →
        rejectReverted (outputs.zip (txs.map Prod.snd)) = .ok () := by
    intro outputs hall
    rw [rejectReverted_eq_ok_iff]
    exact fun e he => hall _ (List.of_mem_zip he).1
  have hnone : ∀ results : List (Except String TransactionExecutionOutput),
      ∀ output ∈ results.map fun _ => ((⟨none, []⟩, .default) : TransactionExecutionOutput),
        output.1.revertError = none := by
    intro results output houtput
    obtain ⟨_, -, rfl⟩ := List.mem_map.mp houtput
    rfl
  simp only [executeBlock, hconvert, bind_eq_ok_iff]
  exact ⟨_, ⟨_, rfl, _, houtputs _, (), hreverted _ (hnone _), rfl⟩, rfl, rfl, rfl, rfl⟩

/-- A run on permissive externals needs a header and reads that name no
class. -/
theorem exists_returns_execute_permissive {maxPossibleFee : ValidResourceBounds → U64 → Nat}
    {capacity : Nat} {executor : RpcVirtualBlockExecutor}
    {blockId : BlockId} {manager : ContractClassManager}
    {txs : List (InvokeTransaction × TransactionHash)} {blockNumber : Nat} {blockHash : BlockHash}
    (hheader : node before (.getBlockWithTxHashes executor.rpcStateReader.blockId) =
      .ok (plainHeader blockNumber blockHash)) {stateMaps : StateMaps} {after : Conversation}
    (hreads : Program.Returns node
      (prefetchState (permissiveApi maxPossibleFee capacity).executor executor blockId txs)
      (before ++ [⟨.getBlockWithTxHashes executor.rpcStateReader.blockId,
        .ok (plainHeader blockNumber blockHash)⟩]) stateMaps after)
    (hclasses : (classHashesToFetch stateMaps).elements = []) :
    ∃ data, Program.Returns node (execute (permissiveApi maxPossibleFee capacity).toExecutionApi
        executor blockId manager txs) before data after ∧
      data.initialReads = .default ∧ data.stateDiff = .default ∧
      data.executedClassHashes = .empty ∧
      data.baseBlockInfo.blockContext.blockInfo.blockNumber = blockNumber := by
  obtain ⟨info, hnumber, hinfo⟩ := exists_returns_baseBlockInfo maxPossibleFee capacity
    executor hheader
  obtain ⟨data, hdata, hinitial, hdiff, hexecuted, rfl⟩ := exists_executeBlock_permissive
    maxPossibleFee capacity executor info txs
  have hprefetch : Program.Returns node (prefetchClassesIntoCache
      (permissiveApi maxPossibleFee capacity).classes executor stateMaps manager) after manager
      after := by
    rw [prefetchClassesIntoCache, hclasses]
    exact Program.returns_pure_iff.mpr ⟨rfl, rfl⟩
  exact ⟨data, returns_execute_iff.mpr ⟨_, _, _, _, manager, hinfo, hreads, hprefetch, hdata⟩,
    hinitial, hdiff, hexecuted, hnumber⟩

end Snip36.VirtualOs
