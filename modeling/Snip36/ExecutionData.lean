import Snip36.Rpc
import Snip36.Library.Fallible

/-!
The base block a virtual block is executed on and what its execution yields.
Conversions and constants that live in other packages are fields of `BlockApi`.
-/

namespace Snip36.ExecutionData

open Rpc
open Library.Fallible

inductive VirtualBlockExecutorError where
  | reexecutionError (error : ReexecutionError)
  | transactionExecutionError (message : String)
  | transactionReverted (hash : TransactionHash) (reason : String)
  | stateUnavailable
  | bouncerLockError (message : String)
  deriving DecidableEq

structure GasPrices where
  l1GasPriceWei : Nat
  l1GasPriceFri : Nat
  l1DataGasPriceWei : Nat
  l1DataGasPriceFri : Nat
  l2GasPriceWei : Nat
  l2GasPriceFri : Nat
  deriving Inhabited

structure BlockInfo where
  blockNumber : Nat
  sequencerAddress : ContractAddress
  blockTimestamp : Nat
  gasPrices : GasPrices
  useKzgDa : Bool
  starknetVersion : String
  deriving Inhabited

structure VersionedConstants where
  version : String
  enableCasmHashMigration : Bool
  minSierraVersionForSierraGas : Nat × Nat × Nat
  deriving Inhabited

structure FeeTokenAddresses where
  strkFeeTokenAddress : ContractAddress
  ethFeeTokenAddress : ContractAddress
  deriving Inhabited

structure ChainInfo where
  chainId : String
  feeTokenAddresses : FeeTokenAddresses
  isL3 : Bool
  deriving Inhabited

/-- Capacity limits of a block; only other packages look inside. -/
structure BouncerConfig where
  blockMaxCapacity : Nat
  deriving Inhabited

structure BlockContext where
  blockInfo : BlockInfo
  chainInfo : ChainInfo
  versionedConstants : VersionedConstants
  bouncerConfig : BouncerConfig
  deriving Inhabited

structure BlockHeaderCommitments where
  transactionCommitment : Felt
  eventCommitment : Felt
  receiptCommitment : Felt
  stateDiffCommitment : Felt
  concatenatedCounts : Felt
  deriving Inhabited

structure BlockApi where
  concatCounts : Nat → Nat → Nat → L1DataAvailabilityMode → Felt
  parseStarknetVersion : String → Except String String
  validatedGasPrices : GasPrices → GasPrices
  latestConstants : VersionedConstants
  constantsFor : String → Except String VersionedConstants
  defaultBouncerConfig : BouncerConfig

def parseGasPrice (gasPrice : Nat) : Except String Nat :=
  if gasPrice = 0 then .error s!"invalid gas price: {gasPrice}" else .ok gasPrice

/-- `TryInto<BlockInfo> for BlockHeader`. -/
def tryIntoBlockInfo (api : BlockApi) (header : BlockHeader) :
    Except String BlockInfo := do
  let l1Wei ← parseGasPrice header.l1GasPrice.priceInWei
  let l1Fri ← parseGasPrice header.l1GasPrice.priceInFri
  let l1DataWei ← parseGasPrice header.l1DataGasPrice.priceInWei
  let l1DataFri ← parseGasPrice header.l1DataGasPrice.priceInFri
  let l2Wei ← parseGasPrice header.l2GasPrice.priceInWei
  let l2Fri ← parseGasPrice header.l2GasPrice.priceInFri
  let version ← api.parseStarknetVersion header.starknetVersion
  pure
    { blockNumber := header.blockNumber
      sequencerAddress := header.sequencerAddress
      blockTimestamp := header.timestamp
      gasPrices := api.validatedGasPrices ⟨l1Wei, l1Fri, l1DataWei, l1DataFri, l2Wei, l2Fri⟩
      useKzgDa := header.l1DaMode = .blob
      starknetVersion := version }

structure BaseBlockInfo where
  blockContext : BlockContext
  baseBlockHash : BlockHash
  baseBlockHeaderCommitments : BlockHeaderCommitments
  prevBaseBlockHash : BlockHash
  deriving Inhabited

def selectVersionedConstants (api : BlockApi) (useLatestVersionedConstants : Bool)
    (starknetVersion : String) : Except VirtualBlockExecutorError VersionedConstants :=
  if useLatestVersionedConstants then .ok api.latestConstants
  else (api.constantsFor starknetVersion).mapError fun e =>
    .transactionExecutionError s!"Failed to get versioned constants: {e}"

def headerCommitments (api : BlockApi) (header : BlockHeader) : BlockHeaderCommitments where
  transactionCommitment := header.transactionCommitment
  eventCommitment := header.eventCommitment
  receiptCommitment := header.receiptCommitment
  stateDiffCommitment := header.stateDiffCommitment
  concatenatedCounts := api.concatCounts header.transactionCount header.eventCount
    header.stateDiffLength header.l1DaMode

def BaseBlockInfo.new (api : BlockApi) (header : BlockHeader) (chainInfo : ChainInfo)
    (useLatestVersionedConstants : Bool) : Except VirtualBlockExecutorError BaseBlockInfo := do
  let blockInfo ← (tryIntoBlockInfo api header).mapError fun e =>
    .transactionExecutionError s!"Failed to convert block header to block info: {e}"
  let constants ←
    selectVersionedConstants api useLatestVersionedConstants blockInfo.starknetVersion
  pure
    { blockContext :=
        { blockInfo
          chainInfo
          versionedConstants :=
            { constants with
              enableCasmHashMigration := false
              minSierraVersionForSierraGas := (0, 0, 1) }
          bouncerConfig := api.defaultBouncerConfig }
      baseBlockHash := header.blockHash
      baseBlockHeaderCommitments := headerCommitments api header
      prevBaseBlockHash := header.parentHash }

structure MessageToL1 where
  fromAddress : ContractAddress
  toAddress : Felt
  payload : List Felt
  deriving DecidableEq

/-- The result of one transaction: whether it reverted, and for each of its
calls the messages that call sent to L1, sorted. -/
structure TransactionExecutionInfo where
  revertError : Option String
  sortedMessages : List (List MessageToL1)
  deriving DecidableEq

abbrev TransactionExecutionOutput := TransactionExecutionInfo × StateMaps

structure VirtualBlockExecutionData where
  executionOutputs : List TransactionExecutionOutput
  initialReads : StateMaps
  stateDiff : StateMaps
  executedClassHashes : HashSet ClassHash
  l2ToL1Messages : List MessageToL1
  baseBlockInfo : BaseBlockInfo

theorem blockNumber_of_tryIntoBlockInfo {api : BlockApi} {header : BlockHeader}
    {info : BlockInfo} (h : tryIntoBlockInfo api header = .ok info) :
    info.blockNumber = header.blockNumber := by
  simp only [tryIntoBlockInfo, bind_eq_ok_iff, pure_eq_ok_iff] at h
  obtain ⟨_, -, _, -, _, -, _, -, _, -, _, -, _, -, rfl⟩ := h
  rfl

/-- The base block is the one whose header was fetched. -/
theorem BaseBlockInfo.new_eq_ok {api : BlockApi} {header : BlockHeader} {chainInfo : ChainInfo}
    {useLatest : Bool} {info : BaseBlockInfo}
    (h : BaseBlockInfo.new api header chainInfo useLatest = .ok info) :
    info.baseBlockHash = header.blockHash ∧ info.prevBaseBlockHash = header.parentHash ∧
      info.blockContext.blockInfo.blockNumber = header.blockNumber ∧
        info.baseBlockHeaderCommitments = headerCommitments api header := by
  simp only [BaseBlockInfo.new, bind_eq_ok_iff, pure_eq_ok_iff, mapError_eq_ok_iff] at h
  obtain ⟨blockInfo, hinfo, constants, -, rfl⟩ := h
  exact ⟨rfl, rfl, blockNumber_of_tryIntoBlockInfo hinfo, rfl⟩

end Snip36.ExecutionData
