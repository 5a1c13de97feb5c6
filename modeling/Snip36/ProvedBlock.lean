import Snip36.PrefetchedExecution
import Snip36.ProverPanics

/-!
The browser's prover from end to end: what comes out is the proof of a run of the
OS on the reference block, whatever else the node goes through meanwhile.
-/

namespace Snip36.ProvedBlock

open Library
open Library.Interaction
open Library.Fallible
open CoinFlipPlay
open Payload
open Rpc
open ExecutionData
open StorageQuery
open StorageMerge
open FactsDb
open StateReader
open VirtualBlockExecutor hiding BlockState
open StorageProofProvider
open VirtualOs
open WebProver
open PrefetchedReads
open PrefetchedClasses
open BaseBlock
open PrefetchedExecution
open ProverPanics
open SignedPayload

section Prover

variable {RpcError : Type} (api : WebProverApi RpcError)

/-- The result is what the proof of a run of the OS on these hints comes to. -/
structure ProofOf (hints : OsHints) (messages : List MessageToL1) (result : ProveBlockResult) :
    Prop where
  proof : ∃ cairoPie output facts text,
    api.prover.runVirtualOs hints = .ok cairoPie ∧ api.prover.prove cairoPie = .ok output ∧
    fromUtf8 api output.proof = .ok text ∧ result.proof = trim (trim text) ∧
    api.prover.tryIntoProofFacts output.programOutput = .ok facts ∧
    api.factsToValue facts = .ok result.proofFacts
  messages : api.messagesToValue messages = .ok result.messages

/-- The signed transaction was executed on the block, and that is what is
proved. -/
structure ProvedOn (execution : ReadsState api.prover.executor) (args : ProveBlockArgs)
    (header : BlockHeader) (state : BaseBlock.BlockState) (result : ProveBlockResult) : Prop where
  executed : ∃ signed invokeV3 factory hints messages,
    prepareTransaction api.crypto api.payload args = .ok (signed, .invoke invokeV3) ∧
    result.txHash = feltHex signed.standardTxHash ∧
    ExecutedOn execution factory (.number args.referenceBlock.toNat)
      [.v3 (api.prover.invokeFromRpc invokeV3)] header state hints messages ∧
    ProofOf api hints messages result

variable {api}

/-- A prover is built with an empty cache of classes. -/
theorem contractClassManager_of_new {ε : Type} {proverConfig : ProverConfig}
    {prover : VirtualSnosProver} (h : VirtualSnosProver.new (ε := ε) api proverConfig = .ok prover) :
    prover.runner.contractClassManager = [] := by
  simp only [VirtualSnosProver.new, Outcome.bind_eq_ok_iff, Outcome.pure_eq_ok,
    Outcome.ok.injEq] at h
  obtain ⟨_, -, chainInfo, -, _, -, rfl⟩ := h
  rfl

theorem invoke_of_checkTransaction {maxPossibleFee : ValidResourceBounds → U64 → Nat}
    {validateZeroFeeFields : Bool} {blockId : BlockId} {transaction : RpcTransaction}
    {invokeV3 : RpcInvokeTransactionV3}
    (h : checkTransaction maxPossibleFee validateZeroFeeFields blockId transaction =
      .ok invokeV3) : transaction = .invoke invokeV3 := by
  unfold checkTransaction at h
  split at h
  · cases h
  · simp only [bind_eq_ok_iff, pure_eq_ok_iff] at h
    obtain ⟨_, hextract, _, -, rfl⟩ := h
    cases transaction with
    | invoke tx =>
        cases hextract
        rfl
    | declare => cases hextract
    | deployAccount => cases hextract

/-- What is proved leaves the prover as text. -/
theorem proofOf_of_artifacts {hints : OsHints} {messages : List MessageToL1} {cairoPie : CairoPie}
    {proved : ProveTransactionResult} {artifacts : VirtualOsArtifacts} {result : ProveBlockResult}
    (hos : api.prover.runVirtualOs hints = .ok cairoPie)
    (hprove : proveVirtualSnosRun api.prover ⟨cairoPie, messages⟩ = .ok proved)
    (hartifacts : artifactsFrom api proved = .ok artifacts)
    (hproof : result.proof = trim artifacts.proof)
    (hfacts : result.proofFacts = artifacts.proofFacts)
    (hmessages : result.messages = artifacts.l2ToL1Messages) : ProofOf api hints messages result := by
  simp only [proveVirtualSnosRun, bind_eq_ok_iff, mapError_eq_ok_iff, pure_eq_ok_iff] at hprove
  obtain ⟨output, houtput, facts, hfactsOf, rfl⟩ := hprove
  simp only [artifactsFrom, bind_eq_ok_iff, pure_eq_ok_iff] at hartifacts
  obtain ⟨text, htext, factsJson, hfactsJson, messagesJson, hmessagesJson, rfl⟩ := hartifacts
  constructor
  · exact ⟨cairoPie, output, facts, text, hos, houtput, htext, hproof, hfactsOf,
      hfacts ▸ hfactsJson⟩
  · rw [hmessages]
    exact hmessagesJson

/-- A result is the proof of hints that a prover with an empty cache was led to. -/
theorem exists_prepared_of_returns_proveBlock {node : Node} {args : ProveBlockArgs}
    {before after : Conversation} {result : ProveBlockResult}
    (h : Program.Returns node (proveBlock api args) before result after) :
    ∃ signed invokeV3 runner hints messages,
      prepareTransaction api.crypto api.payload args = .ok (signed, .invoke invokeV3) ∧
      runner.contractClassManager = [] ∧
      Program.Returns node (prepareVirtualOs api.prover.toOsApi runner
        (.number args.referenceBlock.toNat) [.v3 (api.prover.invokeFromRpc invokeV3)]) before
          (hints, messages) after ∧
      result.txHash = feltHex signed.standardTxHash ∧ ProofOf api hints messages result := by
  simp only [proveBlock, WebProver.runVirtualOs, WebProver.proveTransaction,
    VirtualOs.proveTransaction, VirtualOs.runVirtualOs, Program.returns_bind_iff,
    Program.returns_mapErr_iff, Program.returns_done_iff, Program.returns_pure_iff,
    Outcome.ofExcept_eq_ok_iff] at h
  obtain ⟨⟨signed, transaction⟩, _, ⟨hprepare, rfl⟩, artifacts, _, ⟨token, _, ⟨-, rfl⟩, proved, _,
    ⟨prover, _, ⟨hnew, rfl⟩, invokeV3, _, ⟨hcheck, rfl⟩, output, _, ⟨⟨hints, messages⟩, _, hrun,
      cairoPie, _, ⟨hos, rfl⟩, houtput, rfl⟩, hprove, rfl⟩, hartifacts, rfl⟩, hresult, rfl⟩ := h
  obtain rfl : transaction = .invoke invokeV3 := invoke_of_checkTransaction hcheck
  refine ⟨signed, invokeV3, prover.runner, hints, messages, hprepare,
    contractClassManager_of_new hnew, hrun, ?_, ?_⟩
  · rw [← hresult]
  · subst houtput
    rw [mapError_eq_ok_iff] at hos
    apply proofOf_of_artifacts hos hprove hartifacts <;> rw [← hresult]

/-- For all arguments, whatever the chain does while the prover runs. -/
theorem proved_on_reference_block {execution : ReadsState api.prover.executor} {chain : Chain}
    {follower : FollowingNode chain} (hserves : ServesDeclared follower) {size : Nat}
    (hcaches : CachesClasses api.prover.classes size) {args : ProveBlockArgs}
    {before after : Conversation} {result : ProveBlockResult}
    (h : Program.Returns follower.node (proveBlock api args) before result after) :
    args.referenceBlock.toNat ≤ follower.height before ∧
      ProvedOn api execution args (chain.header args.referenceBlock.toNat)
        (chain.state args.referenceBlock.toNat) result := by
  obtain ⟨signed, invokeV3, runner, hints, messages, hprepare, hempty, hrun, hhash, hproof⟩ :=
    exists_prepared_of_returns_proveBlock h
  have hcached : ∀ n, Resolves chain (follower.height before) (.number args.referenceBlock.toNat)
      n → ∀ classHash, Cached classHash runner.contractClassManager →
        (chain.state n).declared classHash = true := by
    rw [hempty]
    exact fun _ _ _ hcached => absurd hcached List.not_mem_nil
  have hid : BlockId.number args.referenceBlock.toNat ≠ .latest := by simp
  obtain ⟨n, ⟨hle, rfl⟩, hexecuted⟩ := executed_on_base_block hserves hcaches hid hcached hrun
  exact ⟨hle, ⟨signed, invokeV3, runner, hints, messages, hprepare, hhash, hexecuted, hproof⟩⟩

end Prover

/-! ### A transaction on block 9 -/

/-- Every contract has class 1 and the same nonce and storage. -/
def uniformState : BaseBlock.BlockState where
  storage _ _ := 7
  nonce _ := 5
  classHash _ := 1
  declared classHash := decide (classHash = 1)
  storageRoot _ := none
  roots := ⟨0, 0⟩

def uniformChain : Chain where
  header := countingChain.header
  state _ := uniformState
  numbered := countingChain.numbered

def sampleAccount : ContractAddress := ⟨0x123, by decide⟩

def uniformReads : RpcInitialReads where
  storage := [⟨sampleAccount, default, 7⟩]
  nonces := [⟨sampleAccount, 5⟩]
  classHashes := [⟨sampleAccount, 1⟩]
  declaredContracts := [⟨1, true⟩]

def uniformProof (addresses : List Felt) : RpcStorageProof where
  classesProof := .empty
  contractsProof :=
    { nodes := .empty
      contractLeavesData := addresses.map fun _ => ⟨5, 1, none⟩ }
  contractsStorageProofs := []
  globalRoots := ⟨0, 0⟩

/-- It knows all about block 9; meanwhile there may be a new block. -/
def uniformNode : Node := fun _ request =>
  match request with
  | .getStorageProof n _ addresses _ =>
      if n = 9 then .ok (uniformProof addresses) else .error ⟨"block not found"⟩
  | .getBlockWithTxHashes blockId =>
      if blockId = .number 9 then .ok (uniformChain.header 9) else .error .blockNotFound
  | .simulateTransactions blockId _ _ =>
      if blockId = .number 9 then .ok (.present uniformReads) else .error .blockNotFound
  | .getClass blockId classHash =>
      if blockId = .number 9 ∧ classHash = 1 then .ok (.sierra [1, 7, 0])
      else .error .classHashNotFound
  | .getCompiledCasm classHash =>
      if classHash = 1 then .ok emptyCasm else .error .classHashNotFound

theorem describes_uniformReads : Describes uniformState uniformReads.toStateMaps where
  storage entry value h := by
    have hentry : entry = (sampleAccount, default) ∧ value = 7 := by
      simpa [uniformReads, RpcInitialReads.toStateMaps, IndexMap.ofList, IndexMap.get?_insert,
        eq_comm] using h
    exact hentry.2
  nonces address nonce h := by
    have hentry : address = sampleAccount ∧ nonce = 5 := by
      simpa [uniformReads, RpcInitialReads.toStateMaps, IndexMap.ofList, IndexMap.get?_insert,
        eq_comm] using h
    exact hentry.2
  classHashes address classHash h := by
    have hentry : address = sampleAccount ∧ classHash = 1 := by
      simpa [uniformReads, RpcInitialReads.toStateMaps, IndexMap.ofList, IndexMap.get?_insert,
        eq_comm] using h
    exact hentry.2
  declared classHash declared h := by
    have hentry : classHash = 1 ∧ declared = true := by
      simpa [uniformReads, RpcInitialReads.toStateMaps, IndexMap.ofList, IndexMap.get?_insert,
        eq_comm] using h
    simp [uniformState, hentry]

def uniformFollower : FollowingNode uniformChain where
  node := uniformNode
  height history := 9 + countingHeight history
  grows history more := by
    have hgrows := countingFollower.grows history more
    change countingHeight history ≤ countingHeight (history ++ more) at hgrows
    omega
  distinct history m n hm hn hhash := by
    simp only [countingHeight] at hm hn
    exact eq_of_blockHash_eq (by omega) (by omega) hhash
  honest history request := by
    cases request with
    | getStorageProof n classHashes addresses contractStorageKeys =>
        simp only [uniformNode]
        split
        · next hn =>
          subst hn
          refine .inr ⟨9, ⟨Nat.le_add_right _ _, rfl⟩, rfl, rfl, ?_⟩
          rw [uniformProof, List.forall₂_map_right_iff, List.forall₂_same]
          exact fun _ _ _ _ => rfl
        · exact .inl fun _ => trivial
    | getBlockWithTxHashes blockId =>
        simp only [uniformNode]
        split
        · next hnumber =>
          subst hnumber
          exact .inr ⟨9, ⟨Nat.le_add_right _ _, rfl⟩, rfl⟩
        · exact .inl fun _ => trivial
    | simulateTransactions blockId transactions flags =>
        simp only [uniformNode]
        split
        · exact .inl fun _ => describes_uniformReads
        · exact .inl fun _ => trivial
    | getClass => exact .inl fun _ => trivial
    | getCompiledCasm => exact .inl fun _ => trivial

theorem servesDeclared_uniform : ServesDeclared uniformFollower := by
  intro history blockId classHash contractClass h
  change uniformNode history (.getClass blockId classHash) = _ at h
  simp only [uniformNode] at h
  split at h
  · next hserved =>
    obtain ⟨rfl, rfl⟩ := hserved
    exact ⟨9, ⟨Nat.le_add_right _ _, rfl⟩, rfl⟩
  · cases h

abbrev Steps (β : Type) := Program Read (fun read => StateResult read.Value) String β

def look (read : Read) : Steps read.Value := .call read fun answer => .done (.ofExcept answer)

/-- A cached class is looked up among the declared ones, any other is asked for. -/
def lookClass (manager : ContractClassManager) (classHash : ClassHash) : Steps Unit :=
  if classHash ∈ manager.map Prod.fst then do
    let declared ← look (.isDeclared classHash)
    if declared then pure () else .done (.err "class is not declared")
  else do
    let _ ← look (.compiledClasses classHash)
    pure ()

/-- The nonce and the class of the account, and one slot of its storage. -/
def sampleReads (manager : ContractClassManager) : Steps StateMaps := do
  let nonce ← look (.nonce sampleAccount)
  let classHash ← look (.classHash sampleAccount)
  lookClass manager classHash
  let value ← look (.storage sampleAccount default)
  pure
    { StateMaps.default with
      storage := .ofList [((sampleAccount, default), value)]
      nonces := .ofList [(sampleAccount, nonce)]
      classHashes := .ofList [(sampleAccount, classHash)] }

def executorAfter : Outcome String StateMaps → TransactionExecutor
  | .ok initialReads =>
      { outcome := fun _ _ => .ok (⟨none, []⟩, .default)
        capacity := List.length
        blockState := fun _ => some ⟨.ok initialReads, .ok .default⟩
        executedClassHashes := fun _ => .ok (.ofList [1]) }
  | _ =>
      { outcome := fun _ _ => .error "state read error"
        capacity := List.length
        blockState := fun _ => none
        executedClassHashes := fun _ => .ok .empty }

def sampleApi : WebProverApi String := { sampleWebApi with
  prover := { permissiveApi (fun _ _ => 0) 1 with
    executor := { (permissiveApi (fun _ _ => 0) 1).executor with
      newExecutor := fun reader manager _ =>
        executorAfter (Program.run (serving reader) (sampleReads manager) []).1 } } }

/-- The program ends well only if every read did. -/
def NeedsReads {β : Type} (program : Steps β) : Prop :=
  ∀ env before value after, Program.Returns env program before value after →
    ∃ said, after = before ++ said ∧ ∀ event ∈ said, ∃ value, event.answer = .ok value

theorem needsReads_pure {β : Type} (value : β) : NeedsReads (pure value) := by
  intro env before _ after h
  obtain ⟨-, rfl⟩ := Program.returns_pure_iff.mp h
  exact ⟨[], by simp, fun _ hevent => absurd hevent List.not_mem_nil⟩

theorem needsReads_look (read : Read) : NeedsReads (look read) := by
  intro env before value after h
  have h : Program.Returns env (.done (.ofExcept (env before read)))
    (before ++ [⟨read, env before read⟩]) value after := h
  rw [Program.returns_done_iff, Outcome.ofExcept_eq_ok_iff] at h
  refine ⟨[⟨read, env before read⟩], h.2.symm, ?_⟩
  rw [List.forall_mem_singleton]
  exact ⟨value, h.1⟩

theorem NeedsReads.bind {β γ : Type} {program : Steps β} {next : β → Steps γ}
    (h : NeedsReads program) (hnext : ∀ value, NeedsReads (next value)) :
    NeedsReads (program >>= next) := by
  intro env before value after hreturns
  obtain ⟨_, middle, hfirst, hrest⟩ := Program.returns_bind_iff.mp hreturns
  obtain ⟨first, rfl, hfirstOk⟩ := h _ _ _ _ hfirst
  obtain ⟨second, rfl, hsecondOk⟩ := hnext _ _ _ _ _ hrest
  refine ⟨first ++ second, by simp, ?_⟩
  rw [List.forall_mem_append]
  exact ⟨hfirstOk, hsecondOk⟩

theorem needsReads_lookClass (manager : ContractClassManager) (classHash : ClassHash) :
    NeedsReads (lookClass manager classHash) := by
  unfold lookClass
  split
  · apply (needsReads_look _).bind
    intro declared
    split
    · exact needsReads_pure ()
    · intro env before value after h
      cases h
  · exact (needsReads_look _).bind fun _ => needsReads_pure ()

theorem needsReads_sampleReads (manager : ContractClassManager) :
    NeedsReads (sampleReads manager) :=
  (needsReads_look _).bind fun _ => (needsReads_look _).bind fun classHash =>
    (needsReads_lookClass manager classHash).bind fun _ => (needsReads_look _).bind fun _ =>
      needsReads_pure _

def LooksUpCached (manager : ContractClassManager) (read : Read) : Prop :=
  ∀ classHash, read = .isDeclared classHash → Cached classHash manager

theorem onlyAsks_sampleReads (manager : ContractClassManager) :
    Program.OnlyAsks (LooksUpCached manager) (sampleReads manager) := by
  have hclass : ∀ classHash, Program.OnlyAsks (LooksUpCached manager)
      (lookClass manager classHash) := by
    intro classHash
    unfold lookClass
    split
    · next hcached =>
      refine ⟨?_, fun answer => ?_⟩
      · rintro _ ⟨⟩
        exact hcached
      · cases answer with
        | error message => trivial
        | ok declared => cases declared <;> trivial
    · refine ⟨fun _ hread => (by cases hread), fun answer => ?_⟩
      cases answer <;> trivial
  have hlook : ∀ read : Read, (∀ classHash, read ≠ .isDeclared classHash) →
      Program.OnlyAsks (LooksUpCached manager) (look read) :=
    fun read hread => ⟨fun classHash h => absurd h (hread classHash), fun _ => trivial⟩
  apply (hlook (.nonce sampleAccount) fun _ h => by cases h).bind
  intro nonce
  apply (hlook (.classHash sampleAccount) fun _ h => by cases h).bind
  intro classHash
  apply (hclass classHash).bind
  intro _
  exact (hlook (.storage sampleAccount default) fun _ h => by cases h).bind fun _ => trivial

theorem storage_mem_of_returns {env : Environment Read fun read => StateResult read.Value}
    {manager : ContractClassManager} {before after : Reads} {initialReads : StateMaps}
    (h : Program.Returns env (sampleReads manager) before initialReads after)
    {entry : ContractAddress × StorageKey} {value : Felt}
    (hentry : initialReads.storage.get? entry = some value) :
    (⟨.storage entry.1 entry.2, .ok value⟩ : Event Read _) ∈ after := by
  simp only [sampleReads, Program.returns_bind_iff, Program.returns_pure_iff] at h
  obtain ⟨nonce, _, -, classHash, _, -, _, moment, -, value', _, hvalue, rfl, rfl⟩ := h
  have hentry : entry = (sampleAccount, default) ∧ value = value' := by
    simpa [IndexMap.ofList, IndexMap.get?_insert, eq_comm] using hentry
  obtain ⟨rfl, rfl⟩ := hentry
  have hlook : Program.Returns env (.done (.ofExcept (env moment (.storage sampleAccount default))))
    (moment ++ [⟨.storage sampleAccount default, env moment (.storage sampleAccount default)⟩]) value _ := hvalue
  rw [Program.returns_done_iff, Outcome.ofExcept_eq_ok_iff] at hlook
  obtain ⟨hanswer, rfl⟩ := hlook
  rw [hanswer]
  exact List.mem_append_right _ (List.mem_singleton.mpr rfl)

theorem eq_ok_of_blockState {outcome : Outcome String StateMaps}
    {txs : List BlockifierTransaction} {left : VirtualBlockExecutor.BlockState}
    (h : (executorAfter outcome).blockState txs = some left) :
    ∃ initialReads, outcome = .ok initialReads ∧ left = ⟨.ok initialReads, .ok .default⟩ := by
  cases outcome with
  | ok initialReads => exact ⟨initialReads, rfl, (Option.some.inj h).symm⟩
  | err error => cases h
  | panicked message => cases h

theorem accounts_sample {env : Environment Read fun read => StateResult read.Value}
    {manager : ContractClassManager} {outcome : Outcome String StateMaps} {said : Reads}
    (h : Program.run env (sampleReads manager) [] = (outcome, said))
    (txs : List BlockifierTransaction) :
    Accounts manager (executed (executorAfter outcome) txs) said := by
  constructor
  · intro hclean
    obtain ⟨_, _, hstate⟩ := hclean.blockState
    obtain ⟨initialReads, rfl, -⟩ := eq_ok_of_blockState hstate
    obtain ⟨_, rfl, hall⟩ := needsReads_sampleReads manager env [] initialReads said h
    exact hall
  · intro classHash answer hmem
    have hrun := (onlyAsks_sampleReads manager).of_mem_run (by rwa [h])
    exact hrun.resolve_left List.not_mem_nil classHash rfl
  · intro initialReads stateDiff hstate entry value hentry
    obtain ⟨_, rfl, hleft⟩ := eq_ok_of_blockState hstate
    cases hleft
    exact storage_mem_of_returns h hentry

def sampleExecution : ReadsState sampleApi.prover.executor where
  program manager _ txs := do
    let outcome ← (sampleReads manager).attempt
    pure (executed (executorAfter outcome) txs)
  executes reader manager context txs := by
    refine ⟨(Program.run (serving reader) (sampleReads manager) []).2, ?_, accounts_sample rfl txs⟩
    rw [Program.returns_bind_iff]
    exact ⟨_, _, Program.run_attempt _ _, rfl⟩

def sampleInfo : ChainInfo where
  chainId := "SN_SEPOLIA"
  feeTokenAddresses := ⟨strkFeeContractAddress, ethFeeContractAddress⟩
  isL3 := false

def sampleFactory : RpcRunnerFactory where
  chainInfo := sampleInfo
  contractClassManager := []
  runnerConfig := .default sampleApi.prover.block.defaultBouncerConfig

theorem exists_returns_execute_sample (tx : InvokeTransactionV3)
    (hbounds : ∃ bounds, tx.resourceBounds = .allResources bounds) : ∃ data after,
    Program.Returns uniformNode (execute sampleApi.prover.toExecutionApi
      (sampleFactory.executorFor (.number 9)) (.number 9) [] [(.v3 tx, 0)]) [] data after ∧
    data.initialReads =
      { StateMaps.default with
        storage := .ofList [((sampleAccount, default), 7)]
        nonces := .ofList [(sampleAccount, 5)]
        classHashes := .ofList [(sampleAccount, 1)] } ∧
    data.stateDiff = .default ∧ data.executedClassHashes = .ofList [1] ∧
    data.baseBlockInfo.blockContext.blockInfo.blockNumber = 9 := by
  obtain ⟨bounds, tip, signature, nonce, sender, calldata, mode, feeMode, paymaster, deployment,
    facts⟩ := tx
  obtain ⟨bounds, rfl⟩ := hbounds
  exact ⟨_, _, rfl, rfl, rfl, rfl, rfl⟩

theorem exists_returns_prepareVirtualOs_sample (invokeV3 : RpcInvokeTransactionV3) :
    ∃ hints messages after, Program.Returns uniformNode (prepareVirtualOs
      sampleApi.prover.toOsApi sampleFactory (.number 9)
      [.v3 (sampleApi.prover.invokeFromRpc invokeV3)]) [] (hints, messages) after := by
  obtain ⟨data, afterExecution, hexecute, hreads, hdiff, hclasses, hnumber⟩ :=
    exists_returns_execute_sample (sampleApi.prover.invokeFromRpc invokeV3) ⟨_, rfl⟩
  obtain ⟨classes, afterClasses, hgetClasses⟩ : ∃ classes afterClasses,
      Program.Returns uniformNode (getClasses sampleApi.prover.classes sampleApi.prover.casm
        ⟨.number 9, sampleInfo⟩ data.executedClassHashes) afterExecution classes afterClasses := by
    rw [hclasses]
    exact ⟨_, _, rfl⟩
  have hquery : prepareQuery sampleApi.prover.getContractAddresses data =
      ⟨[1], [sampleAccount], [⟨0x123, [0]⟩]⟩ := by
    have haddresses : (sampleApi.prover.getContractAddresses data.initialReads).elements =
        [sampleAccount] := by
      rw [hreads]
      rfl
    rw [prepareQuery, haddresses, List.mergeSort_singleton, hreads, hclasses]
    rfl
  obtain ⟨afterProofs, hfetch⟩ : ∃ afterProofs, Program.Returns uniformNode
      (fetchProofs 9 (prepareQuery sampleApi.prover.getContractAddresses data)) afterClasses
      (uniformProof [0x123]) afterProofs := by
    rw [hquery, fetchProofs, if_pos (by decide)]
    exact ⟨_, returns_fetchSingleProof_iff.mpr ⟨rfl, rfl⟩⟩
  have hleaves : (uniformProof [0x123]).contractsProof.contractLeavesData.length =
      (prepareQuery sampleApi.prover.getContractAddresses data).contractAddresses.length := by
    rw [hquery]
    rfl
  have hupdates : (stateMapsToCommitterStateDiff data.stateDiff).OnlyUpdates := by
    rw [hdiff]
    exact ⟨rfl, rfl, rfl⟩
  obtain ⟨infos, hinfos⟩ := exists_createCommitmentInfosWithStateChanges hleaves
    (extendInitialReads (uniformProof [0x123])
      (prepareQuery sampleApi.prover.getContractAddresses data) data.initialReads) hupdates
  obtain ⟨proofs, hproofs⟩ : ∃ proofs, Program.Returns uniformNode (getStorageProofs
      sampleApi.prover.committer sampleApi.prover.getContractAddresses
      data.baseBlockInfo.blockContext.blockInfo.blockNumber data
      sampleFactory.runnerConfig.storageProofConfig) afterClasses proofs afterProofs := by
    rw [hnumber]
    exact ⟨⟨_, infos⟩,
      returns_getStorageProofs_iff.mpr ⟨_, hfetch, hleaves, rfl, hinfos⟩⟩
  exact ⟨_, _, _, returns_prepareVirtualOs_iff.mpr
    ⟨_, data, _, classes, _, proofs, rfl, hexecute, hgetClasses, hproofs, rfl, rfl⟩⟩

theorem exists_returns_proveTransaction_sample {invokeV3 : RpcInvokeTransactionV3}
    (hcheck : checkTransaction sampleApi.prover.executor.maxPossibleFee true (.number 9)
      (.invoke invokeV3) = .ok invokeV3) :
    ∃ messages after, Program.Returns uniformNode (VirtualOs.proveTransaction sampleApi.prover
      ⟨sampleFactory, true⟩ (.number 9) (.invoke invokeV3)) [] ⟨[], [], messages⟩ after := by
  obtain ⟨hints, messages, after, hrun⟩ := exists_returns_prepareVirtualOs_sample invokeV3
  refine ⟨messages, after, ?_⟩
  simp only [VirtualOs.proveTransaction, VirtualOs.runVirtualOs, Program.returns_bind_iff,
    Program.returns_mapErr_iff, Program.returns_done_iff, Program.returns_pure_iff,
    Outcome.ofExcept_eq_ok_iff]
  exact ⟨invokeV3, [], ⟨hcheck, rfl⟩, _, after, ⟨_, after, hrun, _, after, ⟨rfl, rfl⟩, rfl, rfl⟩,
    rfl, rfl⟩

theorem exists_returns_proveBlock_sample :
    ∃ result after, Program.Returns uniformNode (proveBlock sampleApi plainArgs) [] result after := by
  obtain ⟨signed, invokeV3, hprepare, hcheck⟩ : ∃ signed invokeV3,
      prepareTransaction sampleApi.crypto sampleApi.payload plainArgs =
        .ok (signed, .invoke invokeV3) ∧
      checkTransaction sampleApi.prover.executor.maxPossibleFee true (.number 9)
        (.invoke invokeV3) = .ok invokeV3 := ⟨_, _, rfl, rfl⟩
  obtain ⟨messages, after, hproved⟩ := exists_returns_proveTransaction_sample hcheck
  have htoken : strkFeeTokenAddress sampleApi (some strkToken) =
      .ok (some strkFeeContractAddress) := by
    rfl
  have hnew : VirtualSnosProver.new (ε := String) sampleApi (proverConfigFor sampleApi
      (virtualOsConfigFor sampleApi plainArgs (.invoke invokeV3)) (some strkFeeContractAddress)) =
        .ok ⟨sampleFactory, true⟩ := by
    rfl
  obtain ⟨artifacts, hartifacts⟩ : ∃ artifacts,
      artifactsFrom sampleApi ⟨[], [], messages⟩ = .ok artifacts := ⟨_, rfl⟩
  simp only [proveBlock, WebProver.runVirtualOs, WebProver.proveTransaction,
    Program.returns_bind_iff, Program.returns_mapErr_iff, Program.returns_done_iff,
    Program.returns_pure_iff, Outcome.ofExcept_eq_ok_iff]
  exact ⟨_, after, _, [], ⟨hprepare, rfl⟩, artifacts, after, ⟨_, [], ⟨htoken, rfl⟩, _, after,
    ⟨_, [], ⟨hnew, rfl⟩, hproved⟩, hartifacts, rfl⟩, rfl, rfl⟩

theorem cachesClasses_sample : CachesClasses sampleApi.prover.classes 1 where
  adds _ _ _ := by simp [Cached, sampleApi, permissiveApi]
  keeps _ _ _ _ _ hold := by
    rw [Cached, sampleApi, permissiveApi, List.map_append]
    exact List.mem_append_left _ hold
  only _ _ _ _ h := by simpa [Cached, sampleApi, permissiveApi] using h
  length_le _ _ _ := by simp [sampleApi, permissiveApi]

theorem proved_on_reference_block_sample :
    ∃ result after, Program.Returns uniformNode (proveBlock sampleApi plainArgs) [] result after ∧
      plainArgs.referenceBlock.toNat ≤ uniformFollower.height [] ∧
        ProvedOn sampleApi sampleExecution plainArgs
          (uniformChain.header plainArgs.referenceBlock.toNat)
          (uniformChain.state plainArgs.referenceBlock.toNat) result := by
  obtain ⟨result, after, hreturns⟩ := exists_returns_proveBlock_sample
  exact ⟨result, after, hreturns,
    proved_on_reference_block servesDeclared_uniform cachesClasses_sample hreturns⟩

end Snip36.ProvedBlock
