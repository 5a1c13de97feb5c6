import Snip36.VirtualOs

/-!
A chain that only grows, a node that follows it, and whether everything that a
run learns from the node is about one block. The header and the simulation are
asked for by the block id of the caller, the storage proofs by the number in
the header; the tag of the latest block is the one id that moves in between.
-/

namespace Snip36.BaseBlock

open Library
open Library.Interaction
open Library.Fallible
open Rpc
open ExecutionData
open StorageQuery
open StorageMerge
open FactsDb
open StateReader
open VirtualBlockExecutor
open StorageProofProvider
open VirtualOs

/-! ### The chain -/

structure BlockState where
  storage : ContractAddress → StorageKey → Felt
  nonce : ContractAddress → Nonce
  classHash : ContractAddress → ClassHash
  declared : ClassHash → Bool
  storageRoot : ContractAddress → Option Felt
  roots : GlobalRoots

/-- Blocks by number; a block never changes. -/
structure Chain where
  header : Nat → BlockHeader
  state : Nat → BlockState
  numbered : ∀ n, (header n).blockNumber = n

structure Describes (state : BlockState) (maps : StateMaps) : Prop where
  storage : ∀ entry value, maps.storage.get? entry = some value →
    value = state.storage entry.1 entry.2
  nonces : ∀ address nonce, maps.nonces.get? address = some nonce → nonce = state.nonce address
  classHashes : ∀ address classHash, maps.classHashes.get? address = some classHash →
    classHash = state.classHash address
  declared : ∀ classHash declared, maps.declaredContracts.get? classHash = some declared →
    declared = state.declared classHash

structure ProvedIn (state : BlockState) (addresses : List Felt) (proof : RpcStorageProof) :
    Prop where
  roots : proof.globalRoots = state.roots
  leaves : List.Forall₂
    (fun felt leaf => ∀ address : ContractAddress, address.key = felt →
      leaf = ⟨state.nonce address, state.classHash address, state.storageRoot address⟩)
    addresses proof.contractsProof.contractLeavesData

/-- What the answer says about the base block, if it says anything, is true of
block `n`. -/
def TrueOf (chain : Chain) (n : Nat) : (request : Request) → Answer request → Prop
  | .getBlockWithTxHashes _, .ok header => header = chain.header n
  | .simulateTransactions .., .ok (.present reads) => Describes (chain.state n) reads.toStateMaps
  | .getStorageProof blockNumber _ addresses _, .ok proof =>
      blockNumber = n ∧ ProvedIn (chain.state n) addresses proof
  | _, _ => True

/-- The block that an id stands for while the chain has this height. A pending
block is not a block of the chain. -/
def Resolves (chain : Chain) (height : Nat) : BlockId → Nat → Prop
  | .latest, n => n = height
  | .pending, _ => False
  | .hash hash, n => n ≤ height ∧ (chain.header n).blockHash = hash
  | .number number, n => n ≤ height ∧ n = number

def blockIdOf : Request → BlockId
  | .getStorageProof blockNumber .. => .number blockNumber
  | .getBlockWithTxHashes blockId => blockId
  | .simulateTransactions blockId .. => blockId
  | .getClass blockId _ => blockId
  | .getCompiledCasm _ => .latest

def HonestAnswer (chain : Chain) (height : Nat) (request : Request) (answer : Answer request) :
    Prop :=
  (∀ n, TrueOf chain n request answer) ∨
    ∃ n, Resolves chain height (blockIdOf request) n ∧ TrueOf chain n request answer

/-- A node that follows the chain: new blocks may arrive before any request,
and every answer is true of the block that the request names at that moment. -/
structure FollowingNode (chain : Chain) where
  node : Node
  height : Conversation → Nat
  grows : ∀ history more, height history ≤ height (history ++ more)
  distinct : ∀ history m n, m ≤ height history → n ≤ height history →
    (chain.header m).blockHash = (chain.header n).blockHash → m = n
  honest : ∀ history request,
    HonestAnswer chain (height history) request (node history request)

/-- Everything that was said is true of block `n`, and the hints are built on
the header of block `n`. -/
structure OneBlock (api : BlockApi) (chain : Chain) (n : Nat) (said : Conversation)
    (hints : OsHints) : Prop where
  exchanges : ∀ exchange ∈ said, TrueOf chain n exchange.request exchange.answer
  header : ∀ block ∈ hints.osInput.osBlockInputs,
    block.newBlockHash = (chain.header n).blockHash ∧
      block.prevBlockHash = (chain.header n).parentHash ∧
      block.blockInfo.blockNumber = (chain.header n).blockNumber ∧
      block.blockHashCommitments = headerCommitments api (chain.header n)

/-- Whatever the chain does during the run, and whatever the other packages
do, a run that gets as far as the OS is about one block. -/
def OneBlockPerRun (maxPossibleFee : ValidResourceBounds → U64 → Nat)
    (validateZeroFeeFields : Bool) (config : RunnerConfig) (blockId : BlockId)
    (transaction : RpcTransaction) : Prop :=
  ∀ (api : ProverApi) (chainInfo : ChainInfo) (manager : ContractClassManager) (chain : Chain)
    (follower : FollowingNode chain) (before after : Conversation)
    (invokeV3 : RpcInvokeTransactionV3) (hints : OsHints) (messages : List MessageToL1),
    api.executor.maxPossibleFee = maxPossibleFee →
    checkTransaction maxPossibleFee validateZeroFeeFields blockId transaction = .ok invokeV3 →
    Program.Returns follower.node (prepareVirtualOs api.toOsApi ⟨chainInfo, manager, config⟩
      blockId [.v3 (api.invokeFromRpc invokeV3)]) before (hints, messages) after →
    ∃ n said, after = before ++ said ∧ OneBlock api.block chain n said hints

/-! ### Ids that do not move -/

section Follower

variable {chain : Chain} (follower : FollowingNode chain)

/-- Any id but the latest tag stands for one block during the whole run. -/
theorem resolves_unique {blockId : BlockId} (hid : blockId ≠ .latest)
    {history more : Conversation} {m n : Nat}
    (hm : Resolves chain (follower.height history) blockId m)
    (hn : Resolves chain (follower.height (history ++ more)) blockId n) : m = n := by
  cases blockId with
  | latest => exact absurd rfl hid
  | pending => exact hm.elim
  | hash hash =>
      have hle := follower.grows history more
      exact follower.distinct (history ++ more) m n (by have := hm.1; omega) hn.1
        (hm.2.trans hn.2.symm)
  | number number => exact hm.2.trans hn.2.symm

/-- A stretch of conversation is true of a block if every request in it names
that block at every later moment. -/
theorem trueOf_of_answered {history said : Conversation} {n : Nat}
    (hanswered : Program.Answered follower.node history said)
    (hnames : ∀ exchange ∈ said, ∀ more m,
      Resolves chain (follower.height (history ++ more)) (blockIdOf exchange.request) m → m = n) :
    ∀ exchange ∈ said, TrueOf chain n exchange.request exchange.answer := by
  intro exchange hexchange
  obtain ⟨first, rest, rfl⟩ := List.append_of_mem hexchange
  have hanswer := hanswered.of_split
  have hhonest := follower.honest (history ++ first) exchange.request
  rw [← hanswer] at hhonest
  rcases hhonest with hall | ⟨m, hm, htrue⟩
  · exact hall n
  · obtain rfl := hnames exchange hexchange first m hm
    exact htrue

theorem trueOf_of_isClassRequest {n : Nat} {request : Request} {answer : Answer request}
    (h : IsClassRequest request) : TrueOf chain n request answer := by
  cases request with
  | getStorageProof => exact h.elim
  | getBlockWithTxHashes => exact h.elim
  | simulateTransactions => exact h.elim
  | getClass => trivial
  | getCompiledCasm => trivial

/-- The header that was fetched is the header of the block that the id stood
for. -/
theorem exists_header_block {api : BlockApi} {executor : RpcVirtualBlockExecutor}
    {before after : Conversation} {info : BaseBlockInfo}
    (h : Program.Returns follower.node (baseBlockInfoAsync api executor) before info after) :
    ∃ n, Resolves chain (follower.height before) executor.rpcStateReader.blockId n ∧
      after = before ++ [⟨.getBlockWithTxHashes executor.rpcStateReader.blockId,
        .ok (chain.header n)⟩] ∧
      info.baseBlockHash = (chain.header n).blockHash ∧
      info.prevBaseBlockHash = (chain.header n).parentHash ∧
      info.blockContext.blockInfo.blockNumber = n ∧
      info.baseBlockHeaderCommitments = headerCommitments api (chain.header n) := by
  simp only [baseBlockInfoAsync, getBlockHeaderAsync, Program.returns_bind_iff,
    Program.returns_mapErr_iff, returns_askOrFail_iff, Program.returns_done_iff,
    Outcome.ofExcept_eq_ok_iff, Program.returns_pure_iff, id_eq] at h
  obtain ⟨header, _, ⟨hheader, rfl⟩, info', _, ⟨hinfo, rfl⟩, rfl, rfl⟩ := h
  obtain ⟨hhash, hparent, hnumber, hcommitments⟩ := BaseBlockInfo.new_eq_ok hinfo
  have hhonest := follower.honest before
    (.getBlockWithTxHashes executor.rpcStateReader.blockId)
  rw [hheader] at hhonest
  obtain ⟨n, hn, rfl⟩ : ∃ n, Resolves chain (follower.height before)
      executor.rpcStateReader.blockId n ∧ header = chain.header n := by
    rcases hhonest with hall | hone
    · have hzero : header = chain.header 0 := hall 0
      have hone : header = chain.header 1 := hall 1
      have hnumbers := congrArg BlockHeader.blockNumber (hzero.symm.trans hone)
      rw [chain.numbered, chain.numbered] at hnumbers
      omega
    · exact hone
  rw [chain.numbered] at hnumber
  exact ⟨n, hn, by rw [hheader], hhash, hparent, hnumber, hcommitments⟩

/-- Every stretch of a run is about the block of the header, if the id of the
caller does not move or is used for the header only. -/
theorem exists_oneBlock {api : OsApi} {factory : RpcRunnerFactory} {blockId : BlockId}
    {txs : List InvokeTransaction} {before after : Conversation} {hints : OsHints}
    {messages : List MessageToL1}
    (hid : blockId ≠ .latest ∨
      factory.runnerConfig.virtualBlockExecutorConfig.prefetchState = false)
    (h : Program.Returns follower.node (prepareVirtualOs api factory blockId txs) before
      (hints, messages) after) :
    ∃ n said, after = before ++ said ∧ OneBlock api.block chain n said hints := by
  obtain ⟨hashedTxs, data, afterExecution, classes, afterClasses, proofs, -, hexecute, hclasses,
    hproofs, rfl, -⟩ := returns_prepareVirtualOs_iff.mp h
  obtain ⟨info, afterHeader, maps, afterReads, manager, hinfo, hreads, hprefetch, hblock⟩ :=
    returns_execute_iff.mp hexecute
  obtain ⟨_, -, hbase, -, -⟩ := executeBlock_eq_ok hblock
  obtain ⟨n, hn, rfl, hhash, hparent, hnumber, hcommitments⟩ := exists_header_block follower hinfo
  obtain ⟨saidReads, rfl, hansweredReads, hasksReads⟩ :=
    (onlyAsks_prefetchState _ _ _ _).exists_said hreads
  obtain ⟨saidPrefetch, rfl, -, hasksPrefetch⟩ :=
    (onlyAsks_prefetchClassesIntoCache _ _ _ _).exists_said hprefetch
  obtain ⟨saidClasses, rfl, -, hasksClasses⟩ := (onlyAsks_getClasses _ _ _ _).exists_said hclasses
  obtain ⟨saidProofs, rfl, hansweredProofs, hasksProofs⟩ :=
    (onlyAsks_getStorageProofs _ _ _ _ _).exists_said hproofs
  have htrueReads : ∀ exchange ∈ saidReads,
      TrueOf chain n exchange.request exchange.answer := by
    refine trueOf_of_answered follower hansweredReads fun exchange hexchange more m hm => ?_
    obtain ⟨hprefetchState, _, _, hrequest⟩ := hasksReads exchange hexchange
    rw [hrequest, List.append_assoc] at hm
    have hmoving : blockId ≠ .latest := by
      rcases hid with hid | hoff
      · exact hid
      · exact absurd (hprefetchState.symm.trans hoff) (by decide)
    exact (resolves_unique follower hmoving hn hm).symm
  have htrueProofs : ∀ exchange ∈ saidProofs,
      TrueOf chain n exchange.request exchange.answer := by
    refine trueOf_of_answered follower hansweredProofs fun exchange hexchange more m hm => ?_
    obtain ⟨query, hrequest⟩ := hasksProofs exchange hexchange
    rw [hrequest, hbase, hnumber] at hm
    exact hm.2
  refine ⟨n, [⟨.getBlockWithTxHashes blockId, .ok (chain.header n)⟩] ++
    (saidReads ++ (saidPrefetch ++ (saidClasses ++ saidProofs))), ?_, ?_, ?_⟩
  · simp only [List.append_assoc]
    rfl
  · simp only [List.forall_mem_append, List.forall_mem_singleton]
    refine ⟨rfl, htrueReads, ?_, ?_, htrueProofs⟩
    · exact fun e he => trueOf_of_isClassRequest (hasksPrefetch e he)
    · exact fun e he => trueOf_of_isClassRequest (hasksClasses e he)
  · intro block hblock
    rw [osHintsFrom, List.mem_singleton] at hblock
    subst hblock
    rw [hbase, chain.numbered]
    exact ⟨hhash, hparent, hnumber, hcommitments⟩

end Follower

/-! ### A chain that grows after the header was fetched -/

/-- In block `n` every contract has nonce `n`. -/
def countingState (n : Nat) : BlockState where
  storage _ _ := 0
  nonce _ := Felt.fromNat n
  classHash _ := 0
  declared _ := false
  storageRoot _ := none
  roots := ⟨0, 0⟩

def countingChain : Chain where
  header n := plainHeader n (Felt.fromNat n)
  state := countingState
  numbered _ := rfl

/-- There is one block at the start and another one after the first request. -/
def countingHeight (history : Conversation) : Nat := min history.length 1

def countingProof (n : Nat) (addresses : List Felt) : RpcStorageProof where
  classesProof := .empty
  contractsProof :=
    { nodes := .empty
      contractLeavesData := addresses.map fun _ => ⟨Felt.fromNat n, 0, none⟩ }
  contractsStorageProofs := []
  globalRoots := ⟨0, 0⟩

def countingReads (n : Nat) : RpcInitialReads where
  storage := []
  nonces := [⟨default, Felt.fromNat n⟩]
  classHashes := []
  declaredContracts := []

def countingNode : Node := fun history request =>
  match request with
  | .getStorageProof n _ addresses _ =>
      if n ≤ countingHeight history then .ok (countingProof n addresses)
      else .error ⟨"block not found"⟩
  | .getBlockWithTxHashes blockId =>
      if blockId = .latest then .ok (countingChain.header (countingHeight history))
      else .error .blockNotFound
  | .simulateTransactions blockId _ _ =>
      if blockId = .latest then .ok (.present (countingReads (countingHeight history)))
      else .error .blockNotFound
  | .getClass .. => .error .classHashNotFound
  | .getCompiledCasm _ => .error .classHashNotFound

theorem describes_countingReads (n : Nat) :
    Describes (countingState n) (countingReads n).toStateMaps where
  storage entry value h := by
    simp [countingReads, RpcInitialReads.toStateMaps, IndexMap.ofList] at h
  nonces address nonce h := by
    have hentry : address = default ∧ nonce = Felt.fromNat n := by
      simpa [countingReads, RpcInitialReads.toStateMaps, IndexMap.ofList, IndexMap.get?_insert,
        eq_comm] using h
    exact hentry.2
  classHashes address classHash h := by
    simp [countingReads, RpcInitialReads.toStateMaps, IndexMap.ofList] at h
  declared classHash declared h := by
    simp [countingReads, RpcInitialReads.toStateMaps, IndexMap.ofList] at h

theorem provedIn_countingProof (n : Nat) (addresses : List Felt) :
    ProvedIn (countingState n) addresses (countingProof n addresses) where
  roots := rfl
  leaves := by
    rw [countingProof, List.forall₂_map_right_iff, List.forall₂_same]
    exact fun _ _ _ _ => rfl

/-- The hash of a block is its number. -/
theorem eq_of_blockHash_eq {m n : Nat} (hm : m < 2 ^ 251) (hn : n < 2 ^ 251)
    (h : (countingChain.header m).blockHash = (countingChain.header n).blockHash) : m = n := by
  have hvals := congrArg Fin.val h
  simp only [countingChain, plainHeader] at hvals
  rwa [Felt.val_fromNat (lt_starkPrime hm), Felt.val_fromNat (lt_starkPrime hn)] at hvals

def countingFollower : FollowingNode countingChain where
  node := countingNode
  height := countingHeight
  grows history more := by
    simp only [countingHeight, List.length_append]
    omega
  distinct history m n hm hn hhash := by
    simp only [countingHeight] at hm hn
    exact eq_of_blockHash_eq (by omega) (by omega) hhash
  honest history request := by
    cases request with
    | getStorageProof n classHashes addresses contractStorageKeys =>
        simp only [countingNode]
        split
        · next hn => exact .inr ⟨n, ⟨hn, rfl⟩, rfl, provedIn_countingProof n addresses⟩
        · exact .inl fun _ => trivial
    | getBlockWithTxHashes blockId =>
        simp only [countingNode]
        split
        · next hlatest =>
          subst hlatest
          exact .inr ⟨_, rfl, rfl⟩
        · exact .inl fun _ => trivial
    | simulateTransactions blockId transactions flags =>
        simp only [countingNode]
        split
        · next hlatest =>
          subst hlatest
          exact .inr ⟨_, rfl, describes_countingReads _⟩
        · exact .inl fun _ => trivial
    | getClass => exact .inl fun _ => trivial
    | getCompiledCasm => exact .inl fun _ => trivial

/-- An execution that read nothing needs one proof, of nothing. -/
theorem exists_returns_getStorageProofs_counting {data : VirtualBlockExecutionData}
    (hinitial : data.initialReads = .default) (hdiff : data.stateDiff = .default)
    (hexecuted : data.executedClassHashes = .empty) (config : StorageProofConfig)
    (before : Conversation) :
    ∃ proofs after, Program.Returns countingNode
        (getStorageProofs permissiveCommitter (fun maps => .ofList maps.touchedAddresses) 0 data
          config) before proofs after ∧ before <+: after := by
  have hquery : prepareQuery (fun maps => .ofList maps.touchedAddresses) data = ⟨[], [], []⟩ := by
    simp [prepareQuery, hinitial, hexecuted, StateMaps.default, StateMaps.touchedAddresses,
      HashSet.ofList, HashSet.empty]
  have hfetch : Program.Returns countingNode (fetchProofs 0 ⟨[], [], []⟩) before
      (countingProof 0 []) (before ++ [⟨proofRequest 0 ⟨[], [], []⟩, .ok (countingProof 0 [])⟩]) := by
    rw [fetchProofs, if_pos (by decide)]
    exact returns_fetchSingleProof_iff.mpr ⟨rfl, rfl⟩
  obtain ⟨infos, hinfos⟩ : ∃ infos, createCommitmentInfos permissiveCommitter config
      (countingProof 0 []) (prepareQuery (fun maps => .ofList maps.touchedAddresses) data)
      (extendInitialReads (countingProof 0 [])
        (prepareQuery (fun maps => .ofList maps.touchedAddresses) data) data.initialReads)
      data.stateDiff = .ok infos :=
    exists_createCommitmentInfos_permissive (by rw [hquery]; rfl) (fun _ => by rw [hquery]; rfl)
      (fun _ => by rw [hdiff]; exact ⟨rfl, rfl, rfl⟩) _
  rw [← hquery] at hfetch
  exact ⟨⟨_, infos⟩, _, returns_getStorageProofs_iff.mpr
    ⟨countingProof 0 [], hfetch, by rw [hquery]; rfl, rfl, hinfos⟩, List.prefix_append _ _⟩

/-- The header is of block 0, the reads are of block 1. -/
theorem exists_returns_counting (maxPossibleFee : ValidResourceBounds → U64 → Nat)
    {config : RunnerConfig} (hprefetch : config.virtualBlockExecutorConfig.prefetchState = true)
    (invokeV3 : RpcInvokeTransactionV3) :
    ∃ hints messages rpcTxs flags rest,
      Program.Returns countingNode (prepareVirtualOs (permissiveApi maxPossibleFee 1).toOsApi
        ⟨default, [], config⟩ .latest
        [.v3 ((permissiveApi maxPossibleFee 1).invokeFromRpc invokeV3)]) [] (hints, messages)
        (⟨.getBlockWithTxHashes .latest, .ok (countingChain.header 0)⟩ ::
          ⟨.simulateTransactions .latest rpcTxs flags, .ok (.present (countingReads 1))⟩ ::
          rest) := by
  have hreads : ∃ rpcTxs flags, Program.Returns countingNode
      (prefetchState (permissiveApi maxPossibleFee 1).executor
        (RpcRunnerFactory.executorFor ⟨default, [], config⟩ .latest) .latest
        [(.v3 ((permissiveApi maxPossibleFee 1).invokeFromRpc invokeV3), 0)])
      [⟨.getBlockWithTxHashes .latest, .ok (countingChain.header 0)⟩]
      (countingReads 1).toStateMaps
      [⟨.getBlockWithTxHashes .latest, .ok (countingChain.header 0)⟩,
        ⟨.simulateTransactions .latest rpcTxs flags, .ok (.present (countingReads 1))⟩] := by
    refine ⟨[.invoke { invokeV3 with proof := [] }], simulationFlags true, ?_⟩
    have hon : (RpcRunnerFactory.executorFor ⟨default, [], config⟩ .latest).config.prefetchState =
        true := hprefetch
    rw [prefetchState, if_pos hon]
    simp only [simulateAndGetInitialReads, Program.returns_bind_iff, Program.returns_done_iff,
      Outcome.ofExcept_eq_ok_iff, returns_askOrFail_iff]
    exact ⟨_, _, ⟨rfl, rfl⟩, _, _, ⟨rfl, rfl⟩, rfl, rfl⟩
  obtain ⟨rpcTxs, flags, hreads⟩ := hreads
  have hheader : countingNode [] (.getBlockWithTxHashes
      (RpcRunnerFactory.executorFor ⟨default, [], config⟩ .latest).rpcStateReader.blockId) =
        .ok (plainHeader 0 0) := rfl
  have hclasses : (classHashesToFetch (countingReads 1).toStateMaps).elements = [] := rfl
  obtain ⟨data, hdata, hinitial, hdiff, hexecuted, hnumber⟩ :=
    exists_returns_execute_permissive hheader hreads hclasses
  obtain ⟨proofs, after, hproofs, rest, rfl⟩ := exists_returns_getStorageProofs_counting hinitial
    hdiff hexecuted config.storageProofConfig _
  have hgetClasses : ∀ history, Program.Returns countingNode (getClasses
      (permissiveApi maxPossibleFee 1).classes (permissiveApi maxPossibleFee 1).casm
      ⟨.latest, default⟩ data.executedClassHashes) history ⟨.empty, .empty⟩ history := by
    intro history
    rw [getClasses, hexecuted]
    exact Program.returns_pure_iff.mpr ⟨rfl, rfl⟩
  refine ⟨_, _, rpcTxs, flags, rest, returns_prepareVirtualOs_iff.mpr
    ⟨_, data, _, _, _, proofs, rfl, hdata, hgetClasses _, ?_, rfl, rfl⟩⟩
  rw [hnumber]
  exact hproofs

/-- With the latest tag and prefetched reads the blocks can differ. -/
theorem not_oneBlockPerRun {maxPossibleFee : ValidResourceBounds → U64 → Nat}
    {validateZeroFeeFields : Bool} {config : RunnerConfig} {transaction : RpcTransaction}
    {invokeV3 : RpcInvokeTransactionV3}
    (hcheck : checkTransaction maxPossibleFee validateZeroFeeFields .latest transaction =
      .ok invokeV3)
    (hprefetch : config.virtualBlockExecutorConfig.prefetchState = true) :
    ¬ OneBlockPerRun maxPossibleFee validateZeroFeeFields config .latest transaction := by
  intro hone
  obtain ⟨hints, messages, rpcTxs, flags, rest, hreturns⟩ :=
    exists_returns_counting maxPossibleFee hprefetch invokeV3
  obtain ⟨n, said, hsaid, hblock⟩ := hone (permissiveApi maxPossibleFee 1) default []
    countingChain countingFollower [] _ invokeV3 hints messages rfl hcheck hreturns
  rw [List.nil_append] at hsaid
  have hheader : TrueOf countingChain n (.getBlockWithTxHashes .latest)
      (.ok (countingChain.header 0)) :=
    hblock.exchanges ⟨.getBlockWithTxHashes .latest, .ok (countingChain.header 0)⟩
      (by rw [← hsaid]; exact List.mem_cons_self)
  have hreads : TrueOf countingChain n (.simulateTransactions .latest rpcTxs flags)
      (.ok (.present (countingReads 1))) :=
    hblock.exchanges
      ⟨.simulateTransactions .latest rpcTxs flags, .ok (.present (countingReads 1))⟩
      (by rw [← hsaid]; exact List.mem_cons_of_mem _ List.mem_cons_self)
  obtain rfl : 0 = n := congrArg BlockHeader.blockNumber hheader
  have hnonce := hreads.nonces default (Felt.fromNat 1) rfl
  exact absurd hnonce (by decide)

/-! ### Which runs are about one block -/

theorem oneBlockPerRun_iff (maxPossibleFee : ValidResourceBounds → U64 → Nat)
    (validateZeroFeeFields : Bool) (config : RunnerConfig) (blockId : BlockId)
    (transaction : RpcTransaction) :
    OneBlockPerRun maxPossibleFee validateZeroFeeFields config blockId transaction ↔
      blockId ≠ .latest ∨ config.virtualBlockExecutorConfig.prefetchState = false ∨
        ∃ error, checkTransaction maxPossibleFee validateZeroFeeFields blockId transaction =
          .error error := by
  constructor
  · intro hone
    by_contra hcondition
    simp only [not_or, not_not, Bool.not_eq_false, not_exists] at hcondition
    obtain ⟨rfl, hprefetch, hcheck⟩ := hcondition
    cases hresult : checkTransaction maxPossibleFee validateZeroFeeFields .latest transaction with
    | error error => exact hcheck error hresult
    | ok invokeV3 => exact not_oneBlockPerRun hresult hprefetch hone
  · intro hcondition api chainInfo manager chain follower before after invokeV3 hints messages
      _ hcheck hreturns
    apply exists_oneBlock follower _ hreturns
    rcases hcondition with hid | hprefetch | ⟨error, herror⟩
    · exact .inl hid
    · exact .inr hprefetch
    · rw [herror] at hcheck
      cases hcheck

def plainRpcInvoke : RpcInvokeTransactionV3 where
  senderAddress := default
  calldata := [1]
  signature := []
  nonce := 0
  resourceBounds := ⟨⟨0, 0⟩, ⟨0, 0⟩, ⟨0, 0⟩⟩
  tip := 0
  paymasterData := []
  accountDeploymentData := []
  nonceDataAvailabilityMode := 0
  feeDataAvailabilityMode := 0
  proofFacts := []
  proof := []

/-- The default configuration, the latest tag, and a transaction without
fees. -/
theorem latest_mixes_blocks :
    ¬ OneBlockPerRun (fun _ _ => 0) true (.default default) .latest (.invoke plainRpcInvoke) :=
  not_oneBlockPerRun rfl rfl

end Snip36.BaseBlock
