import Snip36.BaseBlock
import Snip36.PrefetchedClasses
import Snip36.PrefetchedReads

/-!
Prefetching changes nothing: whatever reaches the OS is what the transactions
give when they are run on the state of the base block itself. The transaction
executor is another package; here it is a program of reads, and of it we use
that a read which fails shows in what it leaves, as the prefetch relies on.
-/

namespace Snip36.PrefetchedExecution

open Library
open Library.Interaction
open Library.Fallible
open Rpc
open ExecutionData
open StorageQuery
open StorageMerge
open FactsDb
open StateReader
open VirtualBlockExecutor hiding BlockState
open StorageProofProvider
open VirtualOs
open PrefetchedReads
open PrefetchedClasses
open BaseBlock

/-! ### The executor as a program of reads -/

/-- All that the executor leaves. -/
structure Executed where
  results : List (Except String TransactionExecutionOutput)
  blockState : Option VirtualBlockExecutor.BlockState
  executedClassHashes : Except String (HashSet ClassHash)

def executed (executor : TransactionExecutor) (txs : List BlockifierTransaction) : Executed where
  results := executeTxs executor txs
  blockState := executor.blockState txs
  executedClassHashes := executor.executedClassHashes txs

/-- No transaction failed or was reverted, and the reads and writes are there. -/
structure Executed.Clean (left : Executed) : Prop where
  results : ∀ result ∈ left.results, ∃ output, result = .ok output ∧ output.1.revertError = none
  blockState : ∃ initialReads stateDiff,
    left.blockState = some ⟨.ok initialReads, .ok stateDiff⟩

abbrev Reads := History Read fun read => StateResult read.Value

/-- A failed read spoils the execution, only a class of the cache is looked up
among the declared ones, and the initial reads of storage were read. -/
structure Accounts (manager : ContractClassManager) (left : Executed) (said : Reads) : Prop where
  surfaces : left.Clean → ∀ event ∈ said, ∃ value, event.answer = .ok value
  asksCached : ∀ classHash answer,
    (⟨.isDeclared classHash, answer⟩ : Event Read _) ∈ said → Cached classHash manager
  records : ∀ initialReads stateDiff, left.blockState = some ⟨.ok initialReads, stateDiff⟩ →
    ∀ entry value, initialReads.storage.get? entry = some value →
      (⟨.storage entry.1 entry.2, .ok value⟩ : Event Read _) ∈ said

/-- The executor of the other package, as a program. -/
structure ReadsState (api : ExecutorApi) where
  program : ContractClassManager → BlockContext → List BlockifierTransaction →
    Transaction Empty Executed
  executes : ∀ reader manager context txs, ∃ said,
    Program.Returns (serving reader) (program manager context txs) []
      (executed (api.newExecutor reader manager context) txs) said ∧
    Accounts manager (executed (api.newExecutor reader manager context) txs) said

/-- A reader that has the whole state of a block. Of classes it may say
anything. -/
structure ReadsDirectly (state : BaseBlock.BlockState)
    (env : Environment Read fun read => StateResult read.Value) : Prop where
  storage : ∀ moment address key,
    env moment (.storage address key) = .ok (state.storage address key)
  nonce : ∀ moment address, env moment (.nonce address) = .ok (state.nonce address)
  classHash : ∀ moment address, env moment (.classHash address) = .ok (state.classHash address)
  isDeclared : ∀ moment classHash,
    env moment (.isDeclared classHash) = .ok (state.declared classHash)

/-! ### What a successful execution leaves -/

/-- The execution data are what the executor left. -/
theorem executed_of_executeBlock {api : ExecutorApi} {executor : RpcVirtualBlockExecutor}
    {transactionExecutor : TransactionExecutor} {baseBlockInfo : BaseBlockInfo}
    {txs : List (InvokeTransaction × TransactionHash)} {data : VirtualBlockExecutionData}
    (h : executeBlock api executor transactionExecutor baseBlockInfo txs = .ok data) :
    ∃ blockifierTxs, convertInvokeTxs api executor txs = .ok blockifierTxs ∧
      executed transactionExecutor blockifierTxs =
        ⟨data.executionOutputs.map .ok, some ⟨.ok data.initialReads, .ok data.stateDiff⟩,
          .ok data.executedClassHashes⟩ ∧
      (executed transactionExecutor blockifierTxs).Clean ∧
      data.l2ToL1Messages =
        data.executionOutputs.flatMap fun output => output.1.sortedMessages.flatten := by
  obtain ⟨blockifierTxs, hconvert, hbase, houtputs, hreverted⟩ := executeBlock_eq_ok h
  have hresults : executeTxs transactionExecutor blockifierTxs =
      data.executionOutputs.map .ok := by
    rwa [← List.forall₂_eq_eq_eq, List.forall₂_map_right_iff]
  simp only [executeBlock, hconvert, bind_eq_ok_iff, Except.ok.injEq, exists_eq_left'] at h
  obtain ⟨outputs, -, _, -, hrest⟩ := h
  cases hstate : transactionExecutor.blockState blockifierTxs with
  | none => simp [hstate] at hrest
  | some blockState =>
      simp only [hstate, bind_eq_ok_iff, mapError_eq_ok_iff, pure_eq_ok_iff] at hrest
      obtain ⟨initialReads, hreads, stateDiff, hdiff, classes, hclasses, rfl⟩ := hrest
      have hleft : executed transactionExecutor blockifierTxs =
          ⟨outputs.map .ok, some ⟨.ok initialReads, .ok stateDiff⟩, .ok classes⟩ := by
        rw [executed, hresults, hstate, hclasses, ← hreads, ← hdiff]
      refine ⟨blockifierTxs, hconvert, hleft, ⟨?_, ?_⟩, rfl⟩
      · rw [hleft]
        intro result hresult
        obtain ⟨output, houtput, rfl⟩ := List.mem_map.mp hresult
        exact ⟨output, rfl, hreverted output houtput⟩
      · rw [hleft]
        exact ⟨initialReads, stateDiff, rfl⟩

/-! ### What the cache holds -/

section Cache

variable {node : Node} {before after : Conversation} {api : ClassApi}
  {executor : RpcVirtualBlockExecutor} {manager cache : ContractClassManager}
  {maps : StateMaps} {classHash : ClassHash} {size : Nat}

/-- At some moment of the run the node served the class. -/
def Served (node : Node) (blockId : BlockId) (before : Conversation) (classHash : ClassHash) :
    Prop :=
  ∃ more contractClass, node (before ++ more) (.getClass blockId classHash) = .ok contractClass

theorem served_of_returns_getCompiledClassesAsync {reader : RpcStateReader}
    {compiled : CompiledClasses}
    (h : Program.Returns node (getCompiledClassesAsync api reader classHash) before compiled
      after) : ∃ contractClass, node before (.getClass reader.blockId classHash) =
        .ok contractClass := by
  simp only [getCompiledClassesAsync, getContractClassAsync, Program.returns_bind_iff,
    returns_askOrFail_iff] at h
  obtain ⟨contractClass, _, ⟨hanswer, -⟩, -⟩ := h
  exact ⟨contractClass, hanswer⟩

/-- What a pass adds to the cache was served to it. -/
theorem served_of_returns_prefetchClass (hcaches : CachesClasses api size)
    (h : Program.Returns node (prefetchClass api executor manager classHash) before cache after)
    {other : ClassHash} (hcached : Cached other cache) :
    Cached other manager ∨ Served node executor.rpcStateReader.blockId before other := by
  rw [prefetchClass] at h
  split at h
  · obtain ⟨rfl, -⟩ := Program.returns_pure_iff.mp h
    exact Or.inl hcached
  · simp only [Program.returns_bind_iff, Program.returns_mapErr_iff,
      Program.returns_pure_iff] at h
    obtain ⟨compiled, _, hcompiled, rfl, -⟩ := h
    rcases hcaches.only _ _ _ _ hcached with hold | rfl
    · exact Or.inl hold
    · obtain ⟨contractClass, hanswer⟩ := served_of_returns_getCompiledClassesAsync hcompiled
      exact Or.inr ⟨[], contractClass, by rwa [List.append_nil]⟩

/-- So whatever is in the cache was there before or was served in between. -/
theorem served_of_cached (hcaches : CachesClasses api size)
    (h : Program.Returns node (prefetchClassesIntoCache api executor maps manager) before cache
      after) :
    ∀ other, Cached other cache →
      Cached other manager ∨ Served node executor.rpcStateReader.blockId before other := by
  let Kept (cache : ContractClassManager) (history : Conversation) : Prop :=
    before <+: history ∧ ∀ other, Cached other cache →
      Cached other manager ∨ Served node executor.rpcStateReader.blockId before other
  have hstep : ∀ cache classHash history cache' history', Kept cache history →
      Program.Returns node (prefetchClass api executor cache classHash) history cache' history' →
      Kept cache' history' := by
    rintro cache classHash history cache' history' ⟨⟨said, rfl⟩, hcache⟩ hpass
    refine ⟨(List.prefix_append _ _).trans hpass.isPrefix, fun other hother => ?_⟩
    rcases served_of_returns_prefetchClass hcaches hpass hother with
      hold | ⟨more, contractClass, hanswer⟩
    · exact hcache other hold
    · exact Or.inr ⟨said ++ more, contractClass, by rwa [← List.append_assoc]⟩
  have hstart : Kept manager before := ⟨List.prefix_refl _, fun _ => Or.inl⟩
  exact (Program.returns_foldlM_invariant (I := fun _ => Kept)
    (fun _ classHash _ _ cache history cache' history' => hstep cache classHash history cache' history')
    hstart h).2

end Cache

/-! ### Reading the prefetched state is reading the block -/

section Block

variable {state : BaseBlock.BlockState} {maps : StateMaps} {manager : ContractClassManager}
  {env : Environment Read fun read => StateResult read.Value}

/-- The maps are right about the block, and so is every read that they answer;
classes that they do not mention are declared if they are in the cache. -/
theorem answer_eq_of_describes (hmaps : Describes state maps) (hdirect : ReadsDirectly state env)
    {reader : SimulatedStateReader} (hreader : reader.stateMaps = maps) {read : Read}
    {value : read.Value} (hanswer : answer reader read = .ok value)
    (hdeclared : ∀ classHash, read = .isDeclared classHash → state.declared classHash = true)
    (moment : Reads) : answer reader read = env moment read := by
  have hserved := servedAs_answer reader read
  rw [hreader] at hserved
  cases read with
  | storage address key =>
      rw [hdirect.storage, ← hmaps.storage _ _ (hserved.1 value hanswer), hanswer]
  | nonce address => rw [hdirect.nonce, ← hmaps.nonces _ _ (hserved.1 value hanswer), hanswer]
  | classHash address =>
      rw [hdirect.classHash, ← hmaps.classHashes _ _ (hserved.1 value hanswer), hanswer]
  | compiledClass classHash => cases hserved.1 value hanswer
  | compiledClassHash classHash => cases hserved.1 value hanswer
  | compiledClasses classHash => cases hserved.1 value hanswer
  | isDeclared classHash =>
      have hserved : answer reader (.isDeclared classHash) =
          .ok ((maps.declaredContracts.get? classHash).getD true) := hserved
      rw [hdirect.isDeclared, hserved]
      cases hreported : maps.declaredContracts.get? classHash with
      | none => rw [hdeclared classHash rfl, Option.getD_none]
      | some declared => rw [← hmaps.declared _ _ hreported, Option.getD_some]

theorem answer_of_mem_said {reader : SimulatedStateReader} {program : Transaction Empty Executed}
    {left : Executed} {said : Reads} (h : Program.Returns (serving reader) program [] left said)
    {event : Event Read fun read => StateResult read.Value} (hevent : event ∈ said) :
    event.answer = answer reader event.request := by
  have hmem : event ∈ (Program.run (serving reader) program []).2 := by
    rwa [show Program.run (serving reader) program [] = _ from h]
  obtain ⟨_, hserved⟩ := (Program.answered_of_mem_run hmem).resolve_left List.not_mem_nil
  exact hserved

/-- A clean execution on the prefetched state does the same on the block. -/
theorem returns_directly (hmaps : Describes state maps) (hdirect : ReadsDirectly state env)
    (hcache : ∀ classHash, Cached classHash manager → state.declared classHash = true)
    {reader : SimulatedStateReader} (hreader : reader.stateMaps = maps)
    {program : Transaction Empty Executed} {left : Executed} {said : Reads}
    (h : Program.Returns (serving reader) program [] left said)
    (haccounts : Accounts manager left said) (hclean : left.Clean) :
    Program.Returns env program [] left said := by
  have hanswered : Program.Answered env [] said := by
    apply Program.answered_of_forall
    intro event hevent moment
    obtain ⟨value, hvalue⟩ := haccounts.surfaces hclean event hevent
    rw [answer_of_mem_said h hevent] at hvalue ⊢
    apply answer_eq_of_describes hmaps hdirect hreader hvalue
    intro classHash hrequest
    apply hcache
    obtain ⟨request, reply⟩ := event
    obtain rfl : request = .isDeclared classHash := hrequest
    exact haccounts.asksCached classHash reply hevent
  exact Program.Returns.of_answered h hanswered

/-- The initial reads of storage that it leaves are the block's. -/
theorem storage_of_initialReads (hmaps : Describes state maps) {reader : SimulatedStateReader}
    (hreader : reader.stateMaps = maps) {program : Transaction Empty Executed} {left : Executed}
    {said : Reads} (h : Program.Returns (serving reader) program [] left said)
    (haccounts : Accounts manager left said) {initialReads : StateMaps}
    {stateDiff : Except String StateMaps}
    (hleft : left.blockState = some ⟨.ok initialReads, stateDiff⟩)
    {entry : ContractAddress × StorageKey} {value : Felt}
    (hentry : initialReads.storage.get? entry = some value) :
    value = state.storage entry.1 entry.2 := by
  have hmem := haccounts.records initialReads stateDiff hleft entry value hentry
  have hanswer : .ok value = answer reader (.storage entry.1 entry.2) := answer_of_mem_said h hmem
  have hserved := servedAs_answer reader (.storage entry.1 entry.2)
  rw [hreader] at hserved
  exact hmaps.storage _ _ (hserved.1 value hanswer.symm)

end Block

/-! ### What the proofs say of the block -/

section Proofs

variable {state : BaseBlock.BlockState} {query : RpcStorageProofsQuery} {proof : RpcStorageProof}

/-- The leaf of a contract in the state of the block. -/
def leafOf (state : BaseBlock.BlockState) (address : ContractAddress) : ContractLeafData :=
  ⟨state.nonce address, state.classHash address, state.storageRoot address⟩

theorem leaves_of_provedIn (h : ProvedIn state (query.contractAddresses.map PatriciaKey.key) proof) :
    proof.contractsProof.contractLeavesData = query.contractAddresses.map (leafOf state) := by
  have hleaves := List.forall₂_map_left_iff.mp h.leaves
  rw [← List.forall₂_eq_eq_eq, List.forall₂_map_right_iff]
  exact (hleaves.imp fun address leaf hleaf => hleaf address rfl).flip

theorem flatMap_zip_of_forall₂ {α β γ : Type} {f : α → List γ} {g : β → List γ} {as : List α}
    {bs : List β} (h : List.Forall₂ (fun a b => g b = f a) as bs) :
    (as.zip bs).flatMap (fun e => g e.2) = as.flatMap f := by
  induction h with
  | nil => rfl
  | cons hhead _ ih => rw [List.zip_cons_cons, List.flatMap_cons, List.flatMap_cons, ih, hhead]

/-- The leaves of the chunks are, one after the other, those of the query. -/
theorem leaves_of_assemble {answers : List RpcStorageProof}
    (hanswers : List.Forall₂ (fun request answer => answer.contractsProof.contractLeavesData =
      request.contractAddresses.map (leafOf state)) (requestsFor query) answers)
    (h : assemble query answers proof) :
    proof.contractsProof.contractLeavesData = query.contractAddresses.map (leafOf state) := by
  unfold assemble at h
  split at h
  · next hcount =>
    subst h
    rw [requestsFor, if_pos hcount, List.forall₂_cons] at hanswers
    exact hanswers.1
  · next hcount =>
    have hpieces : (Chunks.chunks maxKeysPerRequest (flattenQuery query)).flatten =
        flattenQuery query := Chunks.flatten_chunks (by decide) _
    have haddresses := flatMap_contractAddresses_of_pieces hpieces
    have hrequests : requestsFor query =
        (Chunks.chunks maxKeysPerRequest (flattenQuery query)).map collectQuery := by
      rw [requestsFor, if_neg hcount]
    rw [← hrequests] at haddresses
    obtain ⟨-, -, first, -, rfl⟩ := mergeStorageProofs_eq_ok_iff.mp h
    change [] ++ ((requestsFor query).zip answers).flatMap
      (fun chunk => chunk.2.contractsProof.contractLeavesData) = _
    rw [List.nil_append, ← haddresses, List.map_flatMap]
    exact flatMap_zip_of_forall₂ hanswers

theorem drawnFrom_leaves {ν : Type} (state : BaseBlock.BlockState)
    (addresses : List ContractAddress) (field : ContractLeafData → ν) :
    IndexMap.DrawnFrom (fun address => field (leafOf state address))
      (.ofList (((addresses.map (leafOf state)).zip addresses).map fun e => (e.2, field e.1))) := by
  have hzip : (addresses.map (leafOf state)).zip addresses =
      addresses.map fun address => (leafOf state address, address) := by
    simpa using List.zip_map' (f := leafOf state) (g := id) (l := addresses)
  have hdrawn :=
    (IndexMap.unionOf_ofList (fun address => field (leafOf state address)) [addresses]).1
  rw [List.flatten_singleton] at hdrawn
  rw [hzip, List.map_map]
  exact hdrawn

/-- So the reads that go to the OS are the block's. -/
theorem describes_extendInitialReads {getContractAddresses : StateMaps → HashSet ContractAddress}
    {executionData : VirtualBlockExecutionData}
    (hleaves : proof.contractsProof.contractLeavesData =
      (prepareQuery getContractAddresses executionData).contractAddresses.map (leafOf state))
    (hstorage : ∀ entry value, executionData.initialReads.storage.get? entry = some value →
      value = state.storage entry.1 entry.2) :
    Describes state (extendInitialReads proof (prepareQuery getContractAddresses executionData)
      executionData.initialReads) where
  storage entry value h := by
    rw [extendInitialReads, IndexMap.get?_ofList_entries] at h
    exact hstorage entry value h
  nonces := by
    rw [extendInitialReads, hleaves]
    exact drawnFrom_leaves state _ ContractLeafData.nonce
  classHashes := by
    rw [extendInitialReads, hleaves]
    exact drawnFrom_leaves state _ ContractLeafData.classHash
  declared classHash declared h := by
    cases h

end Proofs

/-! ### A run against a node that follows the chain -/

/-- The base block info that is made from a header. -/
def baseBlockInfoFrom (api : BlockApi) (executor : RpcVirtualBlockExecutor)
    (header : BlockHeader) : Except VirtualBlockExecutorError BaseBlockInfo := do
  let info ← BaseBlockInfo.new api header executor.rpcStateReader.chainInfo
    executor.config.useLatestVersionedConstants
  pure
    { info with
      blockContext := { info.blockContext with bouncerConfig := executor.config.bouncerConfig } }

section Follower

variable {chain : Chain} {follower : FollowingNode chain} {before after more : Conversation}
  {blockId : BlockId} {n : Nat}

/-- A class is served only if it is declared in the block that is asked for. -/
def ServesDeclared (follower : FollowingNode chain) : Prop :=
  ∀ history blockId classHash contractClass,
    follower.node history (.getClass blockId classHash) = .ok contractClass →
      ∃ n, Resolves chain (follower.height history) blockId n ∧
        (chain.state n).declared classHash = true

/-- The run starts in the context of the block that the id stands for. -/
theorem exists_base_block {api : BlockApi} {executor : RpcVirtualBlockExecutor}
    {info : BaseBlockInfo}
    (h : Program.Returns follower.node (baseBlockInfoAsync api executor) before info after) :
    ∃ n, Resolves chain (follower.height before) executor.rpcStateReader.blockId n ∧
      baseBlockInfoFrom api executor (chain.header n) = .ok info ∧
      info.blockContext.blockInfo.blockNumber = n ∧ before <+: after := by
  obtain ⟨n, hn, hafter, -, -, hnumber, -⟩ := exists_header_block follower h
  simp only [baseBlockInfoAsync, getBlockHeaderAsync, Program.returns_bind_iff,
    Program.returns_mapErr_iff, returns_askOrFail_iff, Program.returns_done_iff,
    Outcome.ofExcept_eq_ok_iff, Program.returns_pure_iff, id_eq] at h
  obtain ⟨header, _, ⟨hheader, rfl⟩, info', _, ⟨hinfo, rfl⟩, rfl, rfl⟩ := h
  rw [hheader] at hafter
  obtain rfl : header = chain.header n := by simpa using hafter
  exact ⟨n, hn, bind_eq_ok_iff.mpr ⟨info', hinfo, rfl⟩, hnumber, List.prefix_append _ _⟩

theorem describes_default (state : BaseBlock.BlockState) : Describes state .default where
  storage _ _ h := by cases h
  nonces _ _ h := by cases h
  classHashes _ _ h := by cases h
  declared _ _ h := by cases h

/-- Reads that were prefetched by an id that does not move are the block's. -/
theorem describes_of_returns_prefetchState (hid : blockId ≠ .latest)
    (hn : Resolves chain (follower.height before) blockId n) {api : ExecutorApi}
    {executor : RpcVirtualBlockExecutor} {txs : List (InvokeTransaction × TransactionHash)}
    {maps : StateMaps}
    (h : Program.Returns follower.node (prefetchState api executor blockId txs) (before ++ more)
      maps after) : Describes (chain.state n) maps := by
  unfold prefetchState at h
  split at h
  · simp only [simulateAndGetInitialReads, Program.returns_bind_iff, Program.returns_done_iff,
      Outcome.ofExcept_eq_ok_iff, returns_askOrFail_iff, id_eq] at h
    obtain ⟨rpcTxs, _, ⟨-, rfl⟩, field, _, ⟨hfield, -⟩, hreads, -⟩ := h
    cases field with
    | absent => cases hreads
    | malformed message => cases hreads
    | present reads =>
        cases hreads
        have hhonest := follower.honest (before ++ more)
          (.simulateTransactions blockId rpcTxs (simulationFlags executor.validateTxs))
        rw [hfield] at hhonest
        rcases hhonest with hall | ⟨m, hm, htrue⟩
        · exact hall n
        · obtain rfl := resolves_unique follower hid hn hm
          exact htrue
  · obtain ⟨rfl, -⟩ := Program.returns_pure_iff.mp h
    exact describes_default _

/-- Only classes of the block get into the cache. -/
theorem declared_of_cached (hserves : ServesDeclared follower) (hid : blockId ≠ .latest)
    (hn : Resolves chain (follower.height before) blockId n) {api : ClassApi} {size : Nat}
    (hcaches : CachesClasses api size)
    {executor : RpcVirtualBlockExecutor} (hexecutor : executor.rpcStateReader.blockId = blockId)
    {maps : StateMaps} {manager cache : ContractClassManager}
    (hmanager : ∀ classHash, Cached classHash manager →
      (chain.state n).declared classHash = true)
    (h : Program.Returns follower.node (prefetchClassesIntoCache api executor maps manager)
      (before ++ more) cache after) {classHash : ClassHash} (hcached : Cached classHash cache) :
    (chain.state n).declared classHash = true := by
  rcases served_of_cached hcaches h classHash hcached with hold | ⟨later, contractClass, hanswer⟩
  · exact hmanager classHash hold
  · rw [hexecutor] at hanswer
    obtain ⟨m, hm, hdeclared⟩ := hserves _ _ _ _ hanswer
    rw [List.append_assoc] at hm
    obtain rfl := resolves_unique follower hid hn hm
    exact hdeclared

/-- Whatever is proved at the number of a block has the leaves of that block. -/
theorem leaves_of_returns_fetchProofs {query : RpcStorageProofsQuery} {proof : RpcStorageProof}
    (h : Program.Returns follower.node (fetchProofs n query) before proof after) :
    proof.contractsProof.contractLeavesData =
      query.contractAddresses.map (leafOf (chain.state n)) := by
  obtain ⟨answers, hanswers, hassemble⟩ := returns_fetchProofs_iff.mp h
  refine leaves_of_assemble (Program.forall₂_of_returns_forEach ?_ hanswers) hassemble
  intro request history answer history' hfetch
  obtain ⟨hanswer, -⟩ := returns_fetchSingleProof_iff.mp hfetch
  have hhonest := follower.honest history (proofRequest n request)
  rw [hanswer] at hhonest
  have htrue : ∃ m, m = n ∧ TrueOf chain m (proofRequest n request) (.ok answer) := by
    rcases hhonest with hall | ⟨m, hm, htrue⟩
    · exact ⟨n, rfl, hall n⟩
    · exact ⟨m, hm.2, htrue⟩
  obtain ⟨m, rfl, -, hproved⟩ := htrue
  exact leaves_of_provedIn hproved

end Follower

/-! ### What reaches the OS -/

section Run

variable {api : OsApi} (execution : ReadsState api.executor)

/-- With any reader of the block's own state, the executor leaves the same. -/
def RunsOn (state : BaseBlock.BlockState) (cache : ContractClassManager) (context : BlockContext)
    (txs : List BlockifierTransaction) (left : Executed) : Prop :=
  ∀ env, ReadsDirectly state env →
    ∃ said, Program.Returns env (execution.program cache context txs) [] left said

/-- The hints and the messages are made of the outputs that are left. -/
structure MadeOf (api : OsApi) (left : Executed) (txs : List (InvokeTransaction × TransactionHash))
    (outputs : List TransactionExecutionOutput) (hints : OsHints) (messages : List MessageToL1) :
    Prop where
  results : left.results = outputs.map .ok
  transactions : ∀ block ∈ hints.osInput.osBlockInputs, block.transactions = txs
  txExecutionInfos : ∀ block ∈ hints.osInput.osBlockInputs,
    block.txExecutionInfos = outputs.map fun output => api.toCentral output.1
  messages : messages = outputs.flatMap fun output => output.1.sortedMessages.flatten

/-- The initial reads are the block's, and what was executed is what the
transactions leave when they are run in the context of its header, on its
state, with a cache of its classes. -/
structure ExecutedOn (factory : RpcRunnerFactory) (blockId : BlockId) (txs : List InvokeTransaction)
    (header : BlockHeader) (state : BaseBlock.BlockState) (hints : OsHints)
    (messages : List MessageToL1) : Prop where
  initialReads : ∀ block ∈ hints.osInput.osBlockInputs, Describes state block.initialReads
  executed : ∃ hashedTxs blockifierTxs info cache left outputs,
    txsWithHashes api factory.chainInfo.chainId txs = .ok hashedTxs ∧
    convertInvokeTxs api.executor (factory.executorFor blockId) hashedTxs = .ok blockifierTxs ∧
    baseBlockInfoFrom api.block (factory.executorFor blockId) header = .ok info ∧
    (∀ classHash, Cached classHash cache → state.declared classHash = true) ∧
    RunsOn execution state cache info.blockContext blockifierTxs left ∧
    MadeOf api left hashedTxs outputs hints messages

variable {execution}

/-- A run whose block id does not move hands to the OS what the transactions do
on the state of the base block itself. -/
theorem executed_on_base_block {chain : Chain} {follower : FollowingNode chain}
    (hserves : ServesDeclared follower) {size : Nat} (hcaches : CachesClasses api.classes size)
    {factory : RpcRunnerFactory} {blockId : BlockId} (hid : blockId ≠ .latest)
    {txs : List InvokeTransaction} {before after : Conversation} {hints : OsHints}
    {messages : List MessageToL1}
    (hmanager : ∀ n, Resolves chain (follower.height before) blockId n → ∀ classHash,
      Cached classHash factory.contractClassManager → (chain.state n).declared classHash = true)
    (h : Program.Returns follower.node (prepareVirtualOs api factory blockId txs) before
      (hints, messages) after) :
    ∃ n, Resolves chain (follower.height before) blockId n ∧
      ExecutedOn execution factory blockId txs (chain.header n) (chain.state n) hints messages := by
  obtain ⟨hashedTxs, data, afterExecution, classes, afterClasses, proofs, hhashed, hexecute, -,
    hproofs, rfl, rfl⟩ := returns_prepareVirtualOs_iff.mp h
  obtain ⟨info, afterHeader, maps, afterReads, cache, hinfo, hreads, hprefetch, hblock⟩ :=
    returns_execute_iff.mp hexecute
  obtain ⟨blockifierTxs, hconvert, hleft, hclean, hmessages⟩ := executed_of_executeBlock hblock
  obtain ⟨_, -, hbase, -, -⟩ := executeBlock_eq_ok hblock
  obtain ⟨n, hn, hfrom, hnumber, ⟨saidHeader, rfl⟩⟩ := exists_base_block hinfo
  obtain ⟨saidReads, rfl⟩ := hreads.isPrefix
  have hmaps : Describes (chain.state n) maps := describes_of_returns_prefetchState hid hn hreads
  rw [List.append_assoc] at hprefetch
  have hcache : ∀ classHash, Cached classHash cache → (chain.state n).declared classHash = true :=
    fun classHash => declared_of_cached hserves hid hn hcaches rfl (hmanager n hn) hprefetch
  obtain ⟨said, hreturns, haccounts⟩ := execution.executes
    ⟨maps, (factory.executorFor blockId).rpcStateReader⟩ cache info.blockContext blockifierTxs
  have hruns : RunsOn execution (chain.state n) cache info.blockContext blockifierTxs
      (executed _ blockifierTxs) := fun env hdirect =>
    ⟨said, returns_directly hmaps hdirect hcache rfl hreturns haccounts hclean⟩
  rw [hbase, hnumber] at hproofs
  obtain ⟨proof, hfetch, -, hextended, -⟩ := returns_getStorageProofs_iff.mp hproofs
  have hstorage : ∀ entry value, data.initialReads.storage.get? entry = some value →
      value = (chain.state n).storage entry.1 entry.2 := by
    intro entry value hentry
    exact storage_of_initialReads hmaps rfl hreturns haccounts (by rw [hleft]) hentry
  have hdescribes : Describes (chain.state n) proofs.extendedInitialReads := by
    rw [hextended]
    exact describes_extendInitialReads (leaves_of_returns_fetchProofs hfetch) hstorage
  refine ⟨n, hn, ?_, hashedTxs, blockifierTxs, info, cache, _, data.executionOutputs, hhashed,
    hconvert, hfrom, hcache, hruns, ?_, ?_, ?_, hmessages⟩
  · intro block hblock
    rw [osHintsFrom, List.mem_singleton] at hblock
    subst hblock
    exact ⟨hdescribes.storage, hdescribes.nonces, hdescribes.classHashes,
      (describes_default _).declared⟩
  · rw [hleft]
  · intro block hblock
    rw [osHintsFrom, List.mem_singleton] at hblock
    rw [hblock]
  · intro block hblock
    rw [osHintsFrom, List.mem_singleton] at hblock
    rw [hblock]

end Run

end Snip36.PrefetchedExecution
