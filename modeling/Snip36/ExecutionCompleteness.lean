import Snip36.VirtualOs

/-!
Whether every transaction of a virtual block was executed. The outputs are
checked one by one against the transactions they are zipped with, so an
executor that stops early is noticed by nobody.
-/

namespace Snip36.ExecutionCompleteness

open Library
open Library.Interaction
open Library.Fallible
open Rpc
open ExecutionData
open StateReader
open VirtualBlockExecutor
open StorageProofProvider
open VirtualOs

/-- There is one output for every transaction, it is the outcome of that
transaction after those before it, and it is not reverted. -/
structure AllExecuted (executor : TransactionExecutor) (txs : List BlockifierTransaction)
    (outputs : List TransactionExecutionOutput) : Prop where
  length : outputs.length = txs.length
  own : ∀ i tx, txs[i]? = some tx → ∃ output, outputs[i]? = some output ∧
    executor.outcome (txs.take i) tx = .ok output ∧ output.1.revertError = none

/-- In every block of the hints, each transaction stands at the position of
its own execution info. -/
def PairedInHints (api : OsApi) (executor : TransactionExecutor)
    (blockifierTxs : List BlockifierTransaction) (hints : OsHints) : Prop :=
  ∀ block ∈ hints.osInput.osBlockInputs,
    block.txExecutionInfos.length = block.transactions.length ∧
      ∀ i tx, blockifierTxs[i]? = some tx → ∃ output,
        executor.outcome (blockifierTxs.take i) tx = .ok output ∧
        block.txExecutionInfos[i]? = some (api.toCentral output.1)

/-- The executor and the transactions in its format that a successful
execution used. -/
structure ExecutedWith (api : ExecutorApi) (executor : RpcVirtualBlockExecutor)
    (txs : List (InvokeTransaction × TransactionHash)) (data : VirtualBlockExecutionData)
    (transactionExecutor : TransactionExecutor)
    (blockifierTxs : List BlockifierTransaction) : Prop where
  started : ∃ reader manager, reader.rpcStateReader = executor.rpcStateReader ∧
    transactionExecutor = api.newExecutor reader manager data.baseBlockInfo.blockContext
  converted : convertInvokeTxs api executor txs = .ok blockifierTxs
  finished : executeBlock api executor transactionExecutor data.baseBlockInfo txs = .ok data

theorem exists_executedWith {node : Node} {before after : Conversation} {api : ExecutionApi}
    {executor : RpcVirtualBlockExecutor} {blockId : BlockId} {manager : ContractClassManager}
    {txs : List (InvokeTransaction × TransactionHash)} {data : VirtualBlockExecutionData}
    (h : Program.Returns node (execute api executor blockId manager txs) before data after) :
    ∃ transactionExecutor blockifierTxs,
      ExecutedWith api.executor executor txs data transactionExecutor blockifierTxs := by
  obtain ⟨base, _, maps, _, manager', -, -, -, hblock⟩ := returns_execute_iff.mp h
  obtain ⟨blockifierTxs, hconvert, hbase, -, -⟩ := executeBlock_eq_ok hblock
  subst hbase
  exact ⟨_, blockifierTxs, ⟨⟨⟨maps, executor.rpcStateReader⟩, manager', rfl, rfl⟩, hconvert, hblock⟩⟩

section Outputs

variable {api : ExecutorApi} {executor : RpcVirtualBlockExecutor}
  {txs : List (InvokeTransaction × TransactionHash)} {data : VirtualBlockExecutionData}
  {transactionExecutor : TransactionExecutor} {blockifierTxs : List BlockifierTransaction}
  (h : ExecutedWith api executor txs data transactionExecutor blockifierTxs)

include h

theorem length_blockifierTxs : blockifierTxs.length = txs.length :=
  (collect_eq_ok_iff.mp h.converted).length_eq.symm

/-- There are as many outputs as transactions the executor got to. -/
theorem length_executionOutputs : data.executionOutputs.length =
    min (transactionExecutor.capacity blockifierTxs) txs.length := by
  obtain ⟨blockifierTxs', hconvert, -, hall, -⟩ := executeBlock_eq_ok h.finished
  obtain rfl : blockifierTxs' = blockifierTxs := by
    rw [h.converted] at hconvert
    exact (Except.ok.inj hconvert).symm
  rw [← hall.length_eq, length_executeTxs, length_blockifierTxs h]

theorem exists_output_of_lt_capacity {i : Nat}
    (hi : i < transactionExecutor.capacity blockifierTxs) {tx : BlockifierTransaction}
    (htx : blockifierTxs[i]? = some tx) :
    ∃ output, data.executionOutputs[i]? = some output ∧
      transactionExecutor.outcome (blockifierTxs.take i) tx = .ok output ∧
      output.1.revertError = none := by
  obtain ⟨blockifierTxs', hconvert, -, hall, hreverted⟩ := executeBlock_eq_ok h.finished
  obtain rfl : blockifierTxs' = blockifierTxs := by
    rw [h.converted] at hconvert
    exact (Except.ok.inj hconvert).symm
  have hresult := getElem?_executeTxs transactionExecutor hi htx
  obtain ⟨hbound, hget⟩ := List.getElem?_eq_some_iff.mp hresult
  have hbound' : i < data.executionOutputs.length := by
    rw [← hall.length_eq]
    exact hbound
  have hpair := (List.forall₂_iff_get.mp hall).2 i hbound hbound'
  refine ⟨data.executionOutputs[i], List.getElem?_eq_getElem hbound', ?_, ?_⟩
  · rw [← hget]
    exact hpair
  · exact hreverted _ (List.getElem_mem hbound')

theorem allExecuted_of_capacity
    (hroom : txs.length ≤ transactionExecutor.capacity blockifierTxs) :
    AllExecuted transactionExecutor blockifierTxs data.executionOutputs := by
  have hlen := length_blockifierTxs h
  refine ⟨?_, fun i tx htx => ?_⟩
  · rw [length_executionOutputs h, hlen]
    omega
  · have hi := (List.getElem?_eq_some_iff.mp htx).1
    exact exists_output_of_lt_capacity h (by omega) htx

end Outputs

/-! ### A run without prefetched state -/

def headerNode : Node := fun _ request =>
  match request with
  | .getBlockWithTxHashes _ => .ok (plainHeader 5 9)
  | .getStorageProof .. => .error ⟨"no proofs here"⟩
  | .simulateTransactions .. => .error .blockNotFound
  | .getClass .. => .error .classHashNotFound
  | .getCompiledCasm _ => .error .classHashNotFound

def plainExecutor : RpcVirtualBlockExecutor where
  rpcStateReader :=
    { blockId := .number 5
      chainInfo := default }
  validateTxs := true
  config :=
    { prefetchState := false
      bouncerConfig := default
      useLatestVersionedConstants := true }

def plainInvoke (nonce : Nonce) : InvokeTransaction :=
  .v3
    { resourceBounds := .allResources ⟨⟨0, 0⟩, ⟨0, 0⟩, ⟨0, 0⟩⟩
      tip := 0
      signature := []
      nonce
      senderAddress := default
      calldata := [1]
      nonceDataAvailabilityMode := 0
      feeDataAvailabilityMode := 0
      paymasterData := []
      accountDeploymentData := []
      proofFacts := [] }

def plainTxs : List (InvokeTransaction × TransactionHash) :=
  [(plainInvoke 0, 3), (plainInvoke 1, 4)]

def noFee : ValidResourceBounds → U64 → Nat := fun _ _ => 0

theorem exists_returns_execute_plain (capacity : Nat)
    (txs : List (InvokeTransaction × TransactionHash)) :
    ∃ data after, Program.Returns headerNode
      (execute (permissiveApi noFee capacity).toExecutionApi plainExecutor (.number 5) [] txs)
      [] data after := by
  have hreads : Program.Returns headerNode
      (prefetchState (permissiveApi noFee capacity).executor plainExecutor (.number 5) txs)
      [⟨.getBlockWithTxHashes (.number 5), .ok (plainHeader 5 9)⟩] .default
      [⟨.getBlockWithTxHashes (.number 5), .ok (plainHeader 5 9)⟩] :=
    Program.returns_pure_iff.mpr ⟨rfl, rfl⟩
  have hheader : headerNode [] (.getBlockWithTxHashes plainExecutor.rpcStateReader.blockId) =
      .ok (plainHeader 5 9) := rfl
  obtain ⟨data, hdata, -⟩ := exists_returns_execute_permissive hheader hreads rfl
  exact ⟨data, _, hdata⟩

/-! ### When nothing is skipped -/

/-- Nothing is skipped exactly if the block has room for all transactions;
an execution that stopped early is reported as a success all the same. -/
theorem execute_complete_iff {node : Node} {before after : Conversation} {api : OsApi}
    {executor : RpcVirtualBlockExecutor} {blockId : BlockId} {manager : ContractClassManager}
    {txs : List (InvokeTransaction × TransactionHash)} {data : VirtualBlockExecutionData}
    (h : Program.Returns node (execute api.toExecutionApi executor blockId manager txs)
      before data after) :
    ∃ transactionExecutor blockifierTxs,
      ExecutedWith api.executor executor txs data transactionExecutor blockifierTxs ∧
      ((AllExecuted transactionExecutor blockifierTxs data.executionOutputs ∧
          ∀ classes storageProofs, PairedInHints api transactionExecutor blockifierTxs
            (osHintsFrom api data classes storageProofs txs)) ↔
        txs.length ≤ transactionExecutor.capacity blockifierTxs) := by
  obtain ⟨transactionExecutor, blockifierTxs, hwith⟩ := exists_executedWith h
  refine ⟨transactionExecutor, blockifierTxs, hwith, ?_, ?_⟩
  · rintro ⟨hall, -⟩
    have hlen := hall.length
    rw [length_executionOutputs hwith, length_blockifierTxs hwith] at hlen
    omega
  · intro hroom
    have hall := allExecuted_of_capacity hwith hroom
    refine ⟨hall, fun classes storageProofs block hblock => ?_⟩
    rw [osHintsFrom, List.mem_singleton] at hblock
    subst hblock
    refine ⟨?_, fun i tx htx => ?_⟩
    · rw [List.length_map, hall.length, length_blockifierTxs hwith]
    · obtain ⟨output, houtput, houtcome, -⟩ := hall.own i tx htx
      refine ⟨output, houtcome, ?_⟩
      rw [List.getElem?_map, houtput]
      rfl

theorem execute_complete_iff_plain : ∃ data after,
    Program.Returns headerNode
      (execute (permissiveApi noFee 2).toExecutionApi plainExecutor (.number 5) [] plainTxs)
      [] data after ∧
    ∃ transactionExecutor blockifierTxs,
      ExecutedWith (permissiveApi noFee 2).executor plainExecutor plainTxs data
        transactionExecutor blockifierTxs ∧
      ((AllExecuted transactionExecutor blockifierTxs data.executionOutputs ∧
          ∀ classes storageProofs, PairedInHints (permissiveApi noFee 2).toOsApi
            transactionExecutor blockifierTxs
            (osHintsFrom (permissiveApi noFee 2).toOsApi data classes storageProofs plainTxs)) ↔
        plainTxs.length ≤ transactionExecutor.capacity blockifierTxs) := by
  obtain ⟨data, after, hdata⟩ := exists_returns_execute_plain 2 plainTxs
  exact ⟨data, after, hdata, execute_complete_iff hdata⟩

/-- The block is full after the first of two transactions: the execution
succeeds, and the hints hold two transactions and one execution info. -/
theorem transaction_skipped : ∃ data after,
    Program.Returns headerNode
      (execute (permissiveApi noFee 1).toExecutionApi plainExecutor (.number 5) [] plainTxs)
      [] data after ∧
    data.executionOutputs.length = 1 ∧
    ∀ classes storageProofs, ∀ block ∈ (osHintsFrom (permissiveApi noFee 1).toOsApi data classes
        storageProofs plainTxs).osInput.osBlockInputs,
      block.transactions.length = 2 ∧ block.txExecutionInfos.length = 1 := by
  obtain ⟨data, after, hdata⟩ := exists_returns_execute_plain 1 plainTxs
  obtain ⟨transactionExecutor, blockifierTxs, hwith⟩ := exists_executedWith hdata
  have hlen : data.executionOutputs.length = 1 := by
    obtain ⟨_, _, -, rfl⟩ := hwith.started
    rw [length_executionOutputs hwith]
    rfl
  refine ⟨data, after, hdata, hlen, fun classes storageProofs block hblock => ?_⟩
  rw [osHintsFrom, List.mem_singleton] at hblock
  subst hblock
  exact ⟨rfl, by rw [List.length_map, hlen]⟩

end Snip36.ExecutionCompleteness
