import Snip36.StateMaps
import Snip36.StorageMerge

/-!
The requests that a proving run sends to the node and the types of their
answers. An answer is what the client library hands to the program: the decoded
value, or the error of the transport, the node or the decoder.
-/

namespace Snip36.Rpc

open Library
open Library.Interaction
open StorageQuery
open StorageMerge

inductive BlockId where
  | latest
  | pending
  | hash (hash : BlockHash)
  | number (number : Nat)
  deriving DecidableEq

inductive ReexecutionError where
  | rpcRequest (message : String)
  | rpcStatus (status : String)
  | rpcParse (message : String)
  | blockNotFound
  | contractAddressNotFound
  | classHashNotFound
  | invalidParams (message : String)
  | transactionExecution (message : String)
  | unexpectedRpc (code : Int) (message : String)
  | serde (message : String)
  | state (message : String)
  | compiledClass (message : String)
  deriving DecidableEq

def ReexecutionError.toString : ReexecutionError → String
  | .rpcRequest message => s!"rpc request failed: {message}"
  | .rpcStatus status => s!"rpc status error: {status}"
  | .rpcParse message => s!"rpc response parse error: {message}"
  | .blockNotFound => "block not found"
  | .contractAddressNotFound => "contract address not found"
  | .classHashNotFound => "class hash not found"
  | .invalidParams message => s!"invalid params: {message}"
  | .transactionExecution message => s!"transaction execution error: {message}"
  | .unexpectedRpc code message => s!"unexpected rpc error {code}: {message}"
  | .serde message => s!"serde error: {message}"
  | .state message => s!"state error: {message}"
  | .compiledClass message => s!"compiled class error: {message}"

structure ProviderError where
  message : String
  deriving DecidableEq

structure GasPricePerToken where
  priceInFri : Nat
  priceInWei : Nat
  deriving DecidableEq

inductive L1DataAvailabilityMode where
  | calldata
  | blob
  deriving DecidableEq

structure BlockHeader where
  blockHash : BlockHash
  parentHash : BlockHash
  blockNumber : Nat
  sequencerAddress : ContractAddress
  newRoot : Felt
  timestamp : Nat
  l1GasPrice : GasPricePerToken
  l1DataGasPrice : GasPricePerToken
  l2GasPrice : GasPricePerToken
  l1DaMode : L1DataAvailabilityMode
  starknetVersion : String
  stateDiffCommitment : Felt
  eventCommitment : Felt
  receiptCommitment : Felt
  transactionCommitment : Felt
  transactionCount : Nat
  eventCount : Nat
  stateDiffLength : Nat

/-- An invoke transaction of version 3 as the JSON-RPC interface carries it. -/
structure RpcInvokeTransactionV3 where
  senderAddress : ContractAddress
  calldata : List Felt
  signature : List Felt
  nonce : Nonce
  resourceBounds : ResourceBounds
  tip : U64
  paymasterData : List Felt
  accountDeploymentData : List Felt
  nonceDataAvailabilityMode : U32
  feeDataAvailabilityMode : U32
  proofFacts : List Felt
  proof : List (BitVec 8)
  deriving DecidableEq

/-- Transactions that are not invokes carry data that no function here reads. -/
inductive RpcTransaction where
  | declare
  | deployAccount
  | invoke (tx : RpcInvokeTransactionV3)
  deriving DecidableEq

structure StorageEntry where
  contractAddress : ContractAddress
  key : StorageKey
  value : Felt

structure NonceEntry where
  contractAddress : ContractAddress
  nonce : Nonce

structure ClassHashEntry where
  contractAddress : ContractAddress
  classHash : ClassHash

structure DeclaredEntry where
  classHash : ClassHash
  isDeclared : Bool

structure RpcInitialReads where
  storage : List StorageEntry
  nonces : List NonceEntry
  classHashes : List ClassHashEntry
  declaredContracts : List DeclaredEntry

/-- `From<RpcInitialReads> for StateMaps`: a later entry for a key wins. -/
def RpcInitialReads.toStateMaps (reads : RpcInitialReads) : StateMaps where
  storage := .ofList (reads.storage.map fun e => ((e.contractAddress, e.key), e.value))
  nonces := .ofList (reads.nonces.map fun e => (e.contractAddress, e.nonce))
  classHashes := .ofList (reads.classHashes.map fun e => (e.contractAddress, e.classHash))
  compiledClassHashes := .empty
  declaredContracts := .ofList (reads.declaredContracts.map fun e => (e.classHash, e.isDeclared))

/-- The `initial_reads` field of a simulation: absent, not decodable, or there. -/
inductive InitialReadsField where
  | absent
  | malformed (message : String)
  | present (reads : RpcInitialReads)

structure LegacyContractEntryPoint where
  offset : U64
  selector : Felt
  deriving DecidableEq

structure LegacyEntryPointsByType where
  constructor : List LegacyContractEntryPoint
  external : List LegacyContractEntryPoint
  l1Handler : List LegacyContractEntryPoint
  deriving DecidableEq

/-- A Sierra class with the program its version is read from, or a legacy
class with its compressed program. -/
inductive ContractClass where
  | sierra (program : List Felt)
  | legacy (program : List (BitVec 8)) (entryPointsByType : LegacyEntryPointsByType)
  deriving DecidableEq

inductive Request where
  | getStorageProof (blockNumber : Nat) (classHashes contractAddresses : List Felt)
      (contractStorageKeys : List ContractStorageKeys)
  | getBlockWithTxHashes (blockId : BlockId)
  | simulateTransactions (blockId : BlockId) (transactions : List RpcTransaction)
      (simulationFlags : List String)
  | getClass (blockId : BlockId) (classHash : ClassHash)
  | getCompiledCasm (classHash : ClassHash)

@[reducible] def Answer : Request → Type
  | .getStorageProof .. => Except ProviderError RpcStorageProof
  | .getBlockWithTxHashes .. => Except ReexecutionError BlockHeader
  | .simulateTransactions .. => Except ReexecutionError InitialReadsField
  | .getClass .. => Except ReexecutionError ContractClass
  | .getCompiledCasm .. => Except ReexecutionError String

abbrev Node := Environment Request Answer

abbrev Conversation := History Request Answer

abbrev RpcProgram (ε β : Type) := Program Request Answer ε β

/-- Send a request and fail with its error, as `.await?` does. -/
def askOrFail {ε δ β : Type} (request : Request) (decode : Answer request → Except δ β)
    (wrap : δ → ε) : RpcProgram ε β := do
  let answer ← Program.ask request
  match decode answer with
  | .ok value => pure value
  | .error error => .done (.err (wrap error))

theorem returns_askOrFail_iff {ε δ β : Type} {node : Node} {before after : Conversation}
    {request : Request} {decode : Answer request → Except δ β} {wrap : δ → ε} {value : β} :
    Program.Returns node (askOrFail request decode wrap) before value after ↔
      decode (node before request) = .ok value ∧
        after = before ++ [⟨request, node before request⟩] := by
  rw [askOrFail]
  simp only [Program.returns_bind_iff, Program.returns_ask_iff]
  constructor
  · rintro ⟨answer, middle, ⟨rfl, rfl⟩, h⟩
    split at h
    · next v hv =>
      obtain ⟨rfl, rfl⟩ := Program.returns_pure_iff.mp h
      exact ⟨hv, rfl⟩
    · simp at h
  · rintro ⟨hvalue, rfl⟩
    refine ⟨_, _, ⟨rfl, rfl⟩, ?_⟩
    simp [hvalue]

theorem onlyAsks_askOrFail {ε δ β : Type} {P : Request → Prop} {request : Request}
    (h : P request) (decode : Answer request → Except δ β) (wrap : δ → ε) :
    Program.OnlyAsks P (askOrFail request decode wrap) := by
  refine ⟨h, fun answer => ?_⟩
  change Program.OnlyAsks P (match decode answer with
    | .ok value => (pure value : RpcProgram ε β)
    | .error error => .done (.err (wrap error)))
  cases decode answer with
  | ok value => trivial
  | error error => trivial

end Snip36.Rpc
