import Snip36.StateReader

/-!
Execution of a virtual block on a base block: fetch the header, prefetch the
reads by simulation and the classes they name, and run the transactions. The
transaction executor is another package; of it we use that it goes through the
transactions in order and may stop early because the block is full.
-/

namespace Snip36.VirtualBlockExecutor

open Library
open Library.Interaction
open Library.Fallible
open Rpc
open ExecutionData
open StateReader

/-! ### Transactions -/

inductive ValidResourceBounds where
  | l1Gas (bound : ResourceBound)
  | allResources (bounds : ResourceBounds)
  deriving DecidableEq

structure InvokeTransactionV3 where
  resourceBounds : ValidResourceBounds
  tip : U64
  signature : List Felt
  nonce : Nonce
  senderAddress : ContractAddress
  calldata : List Felt
  nonceDataAvailabilityMode : U32
  feeDataAvailabilityMode : U32
  paymasterData : List Felt
  accountDeploymentData : List Felt
  proofFacts : List Felt
  deriving DecidableEq

/-- Older invoke transactions carry data that no function here reads. -/
inductive InvokeTransaction where
  | v0
  | v1
  | v3 (tx : InvokeTransactionV3)
  deriving DecidableEq

structure ExecutionFlags where
  onlyQuery : Bool
  chargeFee : Bool
  validate : Bool
  strictNonceCheck : Bool
  deriving DecidableEq

structure BlockifierTransaction where
  tx : InvokeTransaction
  txHash : TransactionHash
  executionFlags : ExecutionFlags
  deriving DecidableEq

/-! ### The prefetched state -/

structure SimulatedStateReader where
  stateMaps : StateMaps
  rpcStateReader : RpcStateReader

namespace SimulatedStateReader

def getStorageAt (reader : SimulatedStateReader) (address : ContractAddress)
    (key : StorageKey) : StateResult Felt :=
  match reader.stateMaps.storage.get? (address, key) with
  | some value => .ok value
  | none => reader.rpcStateReader.getStorageAt address key

def getNonceAt (reader : SimulatedStateReader) (address : ContractAddress) : StateResult Nonce :=
  match reader.stateMaps.nonces.get? address with
  | some value => .ok value
  | none => reader.rpcStateReader.getNonceAt address

def getClassHashAt (reader : SimulatedStateReader) (address : ContractAddress) :
    StateResult ClassHash :=
  match reader.stateMaps.classHashes.get? address with
  | some value => .ok value
  | none => reader.rpcStateReader.getClassHashAt address

def getCompiledClass (reader : SimulatedStateReader) (classHash : ClassHash) :
    StateResult RunnableCompiledClass :=
  reader.rpcStateReader.getCompiledClass classHash

def getCompiledClassHash (reader : SimulatedStateReader) (classHash : ClassHash) :
    StateResult CompiledClassHash :=
  reader.rpcStateReader.getCompiledClassHash classHash

def getCompiledClasses (reader : SimulatedStateReader) (classHash : ClassHash) :
    StateResult CompiledClasses :=
  reader.rpcStateReader.getCompiledClasses classHash

def isDeclared (reader : SimulatedStateReader) (classHash : ClassHash) : StateResult Bool :=
  match reader.stateMaps.declaredContracts.get? classHash with
  | some value => .ok value
  | none => reader.rpcStateReader.isDeclared classHash

end SimulatedStateReader

/-! ### The transaction executor -/

/-- What is left when the executor has finished: the reads and writes of the
block state, if it is still there, and the classes that were executed. -/
structure BlockState where
  initialReads : Except String StateMaps
  stateDiff : Except String StateMaps

/-- An executor over one block context and one state. `capacity` is how many of
the transactions it gets to before the block is full, and `outcome` is the
result of a transaction after those before it. -/
structure TransactionExecutor where
  outcome : List BlockifierTransaction → BlockifierTransaction →
    Except String TransactionExecutionOutput
  capacity : List BlockifierTransaction → Nat
  blockState : List BlockifierTransaction → Option BlockState
  executedClassHashes : List BlockifierTransaction → Except String (HashSet ClassHash)

/-- The results for the transactions that fit, in order. -/
def executeTxs (executor : TransactionExecutor) (txs : List BlockifierTransaction) :
    List (Except String TransactionExecutionOutput) :=
  (txs.take (executor.capacity txs)).zipIdx.map fun e => executor.outcome (txs.take e.2) e.1

structure ExecutorApi where
  resourceBounds : InvokeTransaction → ValidResourceBounds
  tip : InvokeTransaction → U64
  maxPossibleFee : ValidResourceBounds → U64 → Nat
  rpcInvokeTryFrom : InvokeTransactionV3 → Except String RpcInvokeTransactionV3
  fromApi : InvokeTransaction → TransactionHash → ExecutionFlags →
    Except String BlockifierTransaction
  newExecutor : SimulatedStateReader → ContractClassManager → BlockContext → TransactionExecutor

/-! ### The virtual block -/

structure RpcVirtualBlockExecutorConfig where
  prefetchState : Bool
  bouncerConfig : BouncerConfig
  useLatestVersionedConstants : Bool

/-- `default` of the limits belongs to another package. -/
def RpcVirtualBlockExecutorConfig.default (bouncerConfig : BouncerConfig) :
    RpcVirtualBlockExecutorConfig where
  prefetchState := true
  bouncerConfig := bouncerConfig
  useLatestVersionedConstants := true

structure RpcVirtualBlockExecutor where
  rpcStateReader : RpcStateReader
  validateTxs : Bool
  config : RpcVirtualBlockExecutorConfig

def toRpcTransaction (api : ExecutorApi) (tx : InvokeTransaction) :
    Except VirtualBlockExecutorError RpcTransaction :=
  match tx with
  | .v3 v3 => do
      let rpcTx ← (api.rpcInvokeTryFrom v3).mapError .transactionExecutionError
      pure (.invoke rpcTx)
  | _ =>
      .error (.transactionExecutionError
        "Only Invoke V3 transactions are supported for simulate")

def simulationFlags (validateTxs : Bool) : List String :=
  ["RETURN_INITIAL_READS"] ++ (if validateTxs then [] else ["SKIP_VALIDATE"]) ++
    ["SKIP_FEE_CHARGE"]

def readInitialReads : InitialReadsField → Except VirtualBlockExecutorError StateMaps
  | .absent =>
      .error (.transactionExecutionError
        "simulateTransactions response missing initial_reads (ensure RETURN_INITIAL_READS and v0.10 endpoint)")
  | .malformed message =>
      .error (.transactionExecutionError s!"Failed to deserialize initial_reads: {message}")
  | .present reads => .ok reads.toStateMaps

def simulateAndGetInitialReads (api : ExecutorApi) (executor : RpcVirtualBlockExecutor)
    (blockId : BlockId) (txs : List (InvokeTransaction × TransactionHash)) :
    RpcProgram VirtualBlockExecutorError StateMaps := do
  let rpcTxs ← .done (.ofExcept (collect (fun e => toRpcTransaction api e.1) txs))
  let field ← askOrFail
    (.simulateTransactions blockId rpcTxs (simulationFlags executor.validateTxs)) id
    .reexecutionError
  .done (.ofExcept (readInitialReads field))

def baseBlockInfoAsync (api : BlockApi) (executor : RpcVirtualBlockExecutor) :
    RpcProgram VirtualBlockExecutorError BaseBlockInfo := do
  let header ← (getBlockHeaderAsync executor.rpcStateReader).mapErr .reexecutionError
  let info ← .done (.ofExcept (BaseBlockInfo.new api header executor.rpcStateReader.chainInfo
    executor.config.useLatestVersionedConstants))
  pure
    { info with
      blockContext := { info.blockContext with bouncerConfig := executor.config.bouncerConfig } }

/-- Every class named by a class hash entry or a declaration entry, once. -/
def classHashesToFetch (stateMaps : StateMaps) : HashSet ClassHash :=
  .ofList (stateMaps.classHashes.values ++ stateMaps.declaredContracts.keys)

def prefetchClass (api : ClassApi) (executor : RpcVirtualBlockExecutor)
    (manager : ContractClassManager) (classHash : ClassHash) :
    RpcProgram VirtualBlockExecutorError ContractClassManager :=
  if classHash = 0 then pure manager
  else do
    let compiled ←
      (getCompiledClassesAsync api executor.rpcStateReader classHash).mapErr .reexecutionError
    pure (api.setAndCompile manager classHash compiled)

def prefetchClassesIntoCache (api : ClassApi) (executor : RpcVirtualBlockExecutor)
    (stateMaps : StateMaps) (manager : ContractClassManager) :
    RpcProgram VirtualBlockExecutorError ContractClassManager :=
  (classHashesToFetch stateMaps).elements.foldlM (prefetchClass api executor) manager

def executionFlags (api : ExecutorApi) (executor : RpcVirtualBlockExecutor)
    (tx : InvokeTransaction) : ExecutionFlags where
  onlyQuery := false
  chargeFee := decide (api.maxPossibleFee (api.resourceBounds tx) (api.tip tx) > 0)
  validate := executor.validateTxs
  strictNonceCheck := false

def convertInvokeTxs (api : ExecutorApi) (executor : RpcVirtualBlockExecutor)
    (txs : List (InvokeTransaction × TransactionHash)) :
    Except VirtualBlockExecutorError (List BlockifierTransaction) :=
  collect
    (fun e => (api.fromApi e.1 e.2 (executionFlags api executor e.1)).mapError
      .transactionExecutionError)
    txs

/-- The first reverted output is reported with the hash at its position. -/
def rejectReverted : List (TransactionExecutionOutput × TransactionHash) →
    Except VirtualBlockExecutorError Unit
  | [] => .ok ()
  | (output, txHash) :: rest =>
      match output.1.revertError with
      | some reason => .error (.transactionReverted txHash reason)
      | none => rejectReverted rest

/-- The part of `execute` that comes after the last request. -/
def executeBlock (api : ExecutorApi) (executor : RpcVirtualBlockExecutor)
    (transactionExecutor : TransactionExecutor) (baseBlockInfo : BaseBlockInfo)
    (txs : List (InvokeTransaction × TransactionHash)) :
    Except VirtualBlockExecutorError VirtualBlockExecutionData := do
  let txHashes := txs.map Prod.snd
  let blockifierTxs ← convertInvokeTxs api executor txs
  let executionOutputs ← collect (fun result => result.mapError .transactionExecutionError)
    (executeTxs transactionExecutor blockifierTxs)
  rejectReverted (executionOutputs.zip txHashes)
  match transactionExecutor.blockState blockifierTxs with
  | none => .error .stateUnavailable
  | some blockState =>
      let initialReads ← blockState.initialReads.mapError fun e =>
        .transactionExecutionError s!"Failed to get initial reads: {e}"
      let stateDiff ← blockState.stateDiff.mapError fun e =>
        .transactionExecutionError s!"Failed to get state diff: {e}"
      let executedClassHashes ←
        (transactionExecutor.executedClassHashes blockifierTxs).mapError .bouncerLockError
      pure
        { executionOutputs
          initialReads
          stateDiff
          executedClassHashes
          l2ToL1Messages := executionOutputs.flatMap fun output => output.1.sortedMessages.flatten
          baseBlockInfo }

structure ExecutionApi where
  block : BlockApi
  classes : ClassApi
  executor : ExecutorApi

def prefetchState (api : ExecutorApi) (executor : RpcVirtualBlockExecutor) (blockId : BlockId)
    (txs : List (InvokeTransaction × TransactionHash)) :
    RpcProgram VirtualBlockExecutorError StateMaps :=
  if executor.config.prefetchState then simulateAndGetInitialReads api executor blockId txs
  else pure StateMaps.default

def execute (api : ExecutionApi) (executor : RpcVirtualBlockExecutor) (blockId : BlockId)
    (manager : ContractClassManager) (txs : List (InvokeTransaction × TransactionHash)) :
    RpcProgram VirtualBlockExecutorError VirtualBlockExecutionData := do
  let baseBlockInfo ← baseBlockInfoAsync api.block executor
  let stateMaps ← prefetchState api.executor executor blockId txs
  let manager ← prefetchClassesIntoCache api.classes executor stateMaps manager
  let reader : SimulatedStateReader := ⟨stateMaps, executor.rpcStateReader⟩
  .done (.ofExcept (executeBlock api.executor executor
    (api.executor.newExecutor reader manager baseBlockInfo.blockContext) baseBlockInfo txs))

/-! ### What a run is made of -/

variable {node : Node} {before after : Conversation}

theorem returns_execute_iff {api : ExecutionApi} {executor : RpcVirtualBlockExecutor}
    {blockId : BlockId} {manager : ContractClassManager}
    {txs : List (InvokeTransaction × TransactionHash)} {data : VirtualBlockExecutionData} :
    Program.Returns node (execute api executor blockId manager txs) before data after ↔
      ∃ baseBlockInfo afterHeader stateMaps afterReads manager',
        Program.Returns node (baseBlockInfoAsync api.block executor) before baseBlockInfo
          afterHeader ∧
        Program.Returns node (prefetchState api.executor executor blockId txs) afterHeader
          stateMaps afterReads ∧
        Program.Returns node (prefetchClassesIntoCache api.classes executor stateMaps manager)
          afterReads manager' after ∧
        executeBlock api.executor executor
          (api.executor.newExecutor ⟨stateMaps, executor.rpcStateReader⟩ manager'
            baseBlockInfo.blockContext) baseBlockInfo txs = .ok data := by
  simp only [execute, Program.returns_bind_iff, Program.returns_done_iff,
    Outcome.ofExcept_eq_ok_iff]
  constructor
  · rintro ⟨base, m₁, hbase, maps, m₂, hmaps, manager', m₃, hclasses, hdata, rfl⟩
    exact ⟨base, m₁, maps, m₂, manager', hbase, hmaps, hclasses, hdata⟩
  · rintro ⟨base, m₁, maps, m₂, manager', hbase, hmaps, hclasses, hdata⟩
    exact ⟨base, m₁, hbase, maps, m₂, hmaps, manager', after, hclasses, hdata, rfl⟩

theorem onlyAsks_prefetchClassesIntoCache (api : ClassApi) (executor : RpcVirtualBlockExecutor)
    (stateMaps : StateMaps) (manager : ContractClassManager) :
    Program.OnlyAsks IsClassRequest
      (prefetchClassesIntoCache api executor stateMaps manager) := by
  apply Program.onlyAsks_foldlM
  intro manager classHash
  unfold prefetchClass
  split
  · exact Program.onlyAsks_pure _
  · exact ((onlyAsks_getCompiledClassesAsync api _ classHash).mapErr _).bind fun _ =>
      Program.onlyAsks_pure _

/-- The block id is used for the simulation, and only if reads are prefetched. -/
theorem onlyAsks_prefetchState (api : ExecutorApi) (executor : RpcVirtualBlockExecutor)
    (blockId : BlockId) (txs : List (InvokeTransaction × TransactionHash)) :
    Program.OnlyAsks
      (fun request => executor.config.prefetchState = true ∧
        ∃ rpcTxs flags, request = .simulateTransactions blockId rpcTxs flags)
      (prefetchState api executor blockId txs) := by
  unfold prefetchState
  split
  · next hprefetch =>
    apply (Program.onlyAsks_done _).bind
    intro rpcTxs
    exact (onlyAsks_askOrFail ⟨hprefetch, _, _, rfl⟩ _ _).bind fun _ => Program.onlyAsks_done _
  · exact Program.onlyAsks_pure _

theorem rejectReverted_eq_ok_iff {outputs : List (TransactionExecutionOutput × TransactionHash)} :
    rejectReverted outputs = .ok () ↔ ∀ e ∈ outputs, e.1.1.revertError = none := by
  induction outputs with
  | nil => simp [rejectReverted]
  | cons e rest ih =>
      rw [rejectReverted, List.forall_mem_cons, ← ih]
      cases e.1.1.revertError with
      | none => simp
      | some reason => simp

theorem length_executeTxs (executor : TransactionExecutor) (txs : List BlockifierTransaction) :
    (executeTxs executor txs).length = min (executor.capacity txs) txs.length := by
  simp [executeTxs]

theorem getElem?_executeTxs (executor : TransactionExecutor) {txs : List BlockifierTransaction}
    {i : Nat} (hi : i < executor.capacity txs) {tx : BlockifierTransaction}
    (htx : txs[i]? = some tx) :
    (executeTxs executor txs)[i]? = some (executor.outcome (txs.take i) tx) := by
  simp [executeTxs, List.getElem?_take_of_lt hi, htx]

/-- What a successful execution says about its outputs: there is one for every
transaction that the executor got to, it is the outcome of that transaction,
and no output is reverted. -/
theorem executeBlock_eq_ok {api : ExecutorApi} {executor : RpcVirtualBlockExecutor}
    {transactionExecutor : TransactionExecutor} {baseBlockInfo : BaseBlockInfo}
    {txs : List (InvokeTransaction × TransactionHash)} {data : VirtualBlockExecutionData}
    (h : executeBlock api executor transactionExecutor baseBlockInfo txs = .ok data) :
    ∃ blockifierTxs, convertInvokeTxs api executor txs = .ok blockifierTxs ∧
      data.baseBlockInfo = baseBlockInfo ∧
      List.Forall₂ (fun result output => result = .ok output)
        (executeTxs transactionExecutor blockifierTxs) data.executionOutputs ∧
      ∀ output ∈ data.executionOutputs, output.1.revertError = none := by
  simp only [executeBlock, bind_eq_ok_iff] at h
  obtain ⟨blockifierTxs, hconvert, outputs, houtputs, _, hrejected, hrest⟩ := h
  have hdata : data.executionOutputs = outputs ∧ data.baseBlockInfo = baseBlockInfo := by
    split at hrest
    · simp at hrest
    · simp only [bind_eq_ok_iff, pure_eq_ok_iff] at hrest
      obtain ⟨_, -, _, -, _, -, rfl⟩ := hrest
      exact ⟨rfl, rfl⟩
  obtain ⟨rfl, hbase⟩ := hdata
  have hall := collect_eq_ok_iff.mp houtputs
  simp only [mapError_eq_ok_iff] at hall
  refine ⟨blockifierTxs, hconvert, hbase, hall, fun output houtput => ?_⟩
  have hlen : data.executionOutputs.length ≤ (txs.map Prod.snd).length := by
    have hconverted := (collect_eq_ok_iff.mp hconvert).length_eq
    have hresults := length_executeTxs transactionExecutor blockifierTxs
    rw [← hall.length_eq, hresults, List.length_map, hconverted]
    exact min_le_right _ _
  rw [← List.map_fst_zip hlen] at houtput
  obtain ⟨e, he, rfl⟩ := List.mem_map.mp houtput
  exact rejectReverted_eq_ok_iff.mp hrejected e he

end Snip36.VirtualBlockExecutor
