import Mathlib.Data.List.Sort
import Mathlib.Data.List.Zip
import Snip36.FactsDb

/-!
The provider of storage proofs: from the reads of an execution to a query, from
the query to one request or many, and from the answer to the initial reads and
commitment infos that the virtual OS is run on.
-/

namespace Snip36.StorageProofProvider

open Library
open Library.Interaction
open Library.Fallible
open Rpc
open StorageQuery
open StorageMerge
open ExecutionData
open FactsDb

structure StorageProofConfig where
  includeStateChanges : Bool
  deriving DecidableEq

def StorageProofConfig.default : StorageProofConfig := ⟨true⟩

structure StorageProofs where
  extendedInitialReads : StateMaps
  commitmentInfos : StateCommitmentInfos

/-- Height of every Patricia tree. -/
def actualHeight : Nat := 251

/-! ### The query -/

/-- The storage keys of every contract, each list in the order of iteration. -/
def storageByAddress (keys : List (ContractAddress × StorageKey)) :
    IndexMap ContractAddress (List Felt) :=
  keys.foldl (fun groups e => groups.insert e.1 ((groups.get? e.1).getD [] ++ [e.2.key])) .empty

/-- `getContractAddresses` is the method of the executor's `StateMaps`. -/
def prepareQuery (getContractAddresses : StateMaps → HashSet ContractAddress)
    (executionData : VirtualBlockExecutionData) : RpcStorageProofsQuery :=
  let contractAddresses :=
    (getContractAddresses executionData.initialReads).elements.mergeSort (· ≤ ·)
  let groups := storageByAddress executionData.initialReads.storage.keys
  { classHashes := executionData.executedClassHashes.elements
    contractAddresses
    contractStorageKeys := contractAddresses.map fun address =>
      ⟨address.key, (groups.get? address).getD []⟩ }

/-! ### The requests -/

/-- The request that a query is sent as. -/
abbrev proofRequest (blockNumber : Nat) (query : RpcStorageProofsQuery) : Request :=
  .getStorageProof blockNumber query.classHashes (query.contractAddresses.map PatriciaKey.key)
    query.contractStorageKeys

def fetchSingleProof (blockNumber : Nat) (query : RpcStorageProofsQuery) :
    RpcProgram ProofProviderError RpcStorageProof :=
  askOrFail (proofRequest blockNumber query) id .rpc

def fetchProofs (blockNumber : Nat) (query : RpcStorageProofsQuery) :
    RpcProgram ProofProviderError RpcStorageProof :=
  if countTotalKeys query ≤ maxKeysPerRequest then fetchSingleProof blockNumber query
  else do
    let chunks ← .done (splitQuery query maxKeysPerRequest)
    let proofs ← Program.forEach (fetchSingleProof blockNumber) chunks
    .done (mergeStorageProofs proofs chunks query)

/-! ### The commitment infos -/

def rpcNodesToPreimageMap (api : CommitterApi) (nodes : NodeMap) : IndexMap Felt Preimage :=
  nodes.mapValues api.preimageFrom

def flattenPreimages (api : CommitterApi) (preimages : IndexMap Felt Preimage) :
    IndexMap Felt (List Felt) :=
  preimages.mapValues api.flatten

def unchangedTrie (api : CommitterApi) (root : Felt) (nodes : NodeMap) : CommitmentInfo where
  previousRoot := root
  updatedRoot := root
  treeHeight := actualHeight
  commitmentFacts := flattenPreimages api (rpcNodesToPreimageMap api nodes)

def storageProofsLengthMismatch (expected got : Nat) : ProofProviderError :=
  .invalidProofResponse
    s!"Storage proofs length mismatch: expected {expected} proofs for contracts with storage keys, got {got}"

/-- One entry of `buildStorageCommitmentInfos`. -/
def storageCommitmentInfo (api : CommitterApi)
    (addrToLeaf : IndexMap ContractAddress ContractLeafData)
    (entry : ContractStorageKeys × NodeMap) :
    Except ProofProviderError (ContractAddress × CommitmentInfo) := do
  let addr ← (PatriciaKey.tryFrom entry.1.contractAddress).mapError fun e =>
    .invalidProofResponse s!"Invalid contract address in storage keys: {e}"
  match addrToLeaf.get? addr with
  | some leaf => pure (addr, unchangedTrie api (leaf.storageRoot.getD 0) entry.2)
  | none =>
      let addr := api.debugAddress addr
      .error (.invalidProofResponse
        s!"Contract address {addr} in storage_keys not found in contract_addresses")

def buildStorageCommitmentInfos (api : CommitterApi) (rpcProof : RpcStorageProof)
    (query : RpcStorageProofsQuery) :
    Except ProofProviderError (IndexMap ContractAddress CommitmentInfo) :=
  if rpcProof.contractsStorageProofs.length = query.contractStorageKeys.length then do
    let addrToLeaf := IndexMap.ofList
      (query.contractAddresses.zip rpcProof.contractsProof.contractLeavesData)
    let infos ← collect (storageCommitmentInfo api addrToLeaf)
      (query.contractStorageKeys.zip rpcProof.contractsStorageProofs)
    pure (.ofList infos)
  else
    .error (storageProofsLengthMismatch query.contractStorageKeys.length
      rpcProof.contractsStorageProofs.length)

def createCommitmentInfosWithoutStateChanges (api : CommitterApi) (rpcProof : RpcStorageProof)
    (query : RpcStorageProofsQuery) : Except ProofProviderError StateCommitmentInfos := do
  let storageTries ← buildStorageCommitmentInfos api rpcProof query
  pure
    { contractsTrieCommitmentInfo :=
        unchangedTrie api rpcProof.globalRoots.contractsTreeRoot rpcProof.contractsProof.nodes
      classesTrieCommitmentInfo :=
        unchangedTrie api rpcProof.globalRoots.classesTreeRoot rpcProof.classesProof
      storageTriesCommitmentInfos := storageTries }

def createCommitmentInfosWithStateChanges (api : CommitterApi) (rpcProof : RpcStorageProof)
    (query : RpcStorageProofsQuery) (extendedInitialReads stateDiff : StateMaps) :
    Except ProofProviderError StateCommitmentInfos := do
  let factsDb ← createFactsDbFromStorageProof api rpcProof query extendedInitialReads
  let previousRoots : StateRoots :=
    ⟨rpcProof.globalRoots.contractsTreeRoot, rpcProof.globalRoots.classesTreeRoot⟩
  let committerStateDiff := stateMapsToCommitterStateDiff stateDiff
  validateVirtualOsStateDiff api committerStateDiff
  let (newRoots, db) ← commitStateDiff api factsDb previousRoots committerStateDiff
  let infos ← (api.createCommitmentInfos previousRoots newRoots db extendedInitialReads).mapError
    .blockCommitmentError
  pure
    { infos with
      classesTrieCommitmentInfo :=
        { infos.classesTrieCommitmentInfo with
          commitmentFacts := infos.classesTrieCommitmentInfo.commitmentFacts.extend
            (flattenPreimages api (rpcNodesToPreimageMap api rpcProof.classesProof)).entries } }

/-! ### The provider -/

/-- The nonces and class hashes of the leaves, and the storage reads as they
were. -/
def extendInitialReads (rpcProof : RpcStorageProof) (query : RpcStorageProofsQuery)
    (initialReads : StateMaps) : StateMaps :=
  let leaves := rpcProof.contractsProof.contractLeavesData.zip query.contractAddresses
  { StateMaps.default with
    classHashes := .ofList (leaves.map fun e => (e.2, e.1.classHash))
    nonces := .ofList (leaves.map fun e => (e.2, e.1.nonce))
    storage := .ofList initialReads.storage.entries }

def createCommitmentInfos (api : CommitterApi) (config : StorageProofConfig)
    (rpcProof : RpcStorageProof) (query : RpcStorageProofsQuery)
    (extendedInitialReads stateDiff : StateMaps) :
    Except ProofProviderError StateCommitmentInfos :=
  match config.includeStateChanges with
  | true =>
      createCommitmentInfosWithStateChanges api rpcProof query extendedInitialReads stateDiff
  | false => createCommitmentInfosWithoutStateChanges api rpcProof query

def getStorageProofs (api : CommitterApi)
    (getContractAddresses : StateMaps → HashSet ContractAddress) (blockNumber : Nat)
    (executionData : VirtualBlockExecutionData) (config : StorageProofConfig) :
    RpcProgram ProofProviderError StorageProofs := do
  let query := prepareQuery getContractAddresses executionData
  let rpcProof ← fetchProofs blockNumber query
  if rpcProof.contractsProof.contractLeavesData.length = query.contractAddresses.length then
    let reads := extendInitialReads rpcProof query executionData.initialReads
    let infos ← .done (.ofExcept
      (createCommitmentInfos api config rpcProof query reads executionData.stateDiff))
    pure ⟨reads, infos⟩
  else
    .done (.err (leavesLengthMismatch query.contractAddresses.length
      rpcProof.contractsProof.contractLeavesData.length))

/-! ### The shape of a prepared query -/

theorem nodup_contractAddresses_prepareQuery
    (getContractAddresses : StateMaps → HashSet ContractAddress)
    (executionData : VirtualBlockExecutionData) :
    (prepareQuery getContractAddresses executionData).contractAddresses.Nodup :=
  (List.mergeSort_perm _ _).nodup_iff.mpr
    (getContractAddresses executionData.initialReads).nodup

/-- There is one entry of storage keys for every address, in the same order. -/
theorem contractAddress_contractStorageKeys_prepareQuery
    (getContractAddresses : StateMaps → HashSet ContractAddress)
    (executionData : VirtualBlockExecutionData) :
    (prepareQuery getContractAddresses executionData).contractStorageKeys.map
        ContractStorageKeys.contractAddress =
      (prepareQuery getContractAddresses executionData).contractAddresses.map
        PatriciaKey.key := by
  simp [prepareQuery, Function.comp_def]

/-! ### What the loops over leaves and maps compute -/

section Positional

variable {api : CommitterApi} {query : RpcStorageProofsQuery} {rpcProof : RpcStorageProof}

theorem nodup_keys_zip {β : Type} {values : List β} (hnodup : query.contractAddresses.Nodup)
    (hlen : values.length = query.contractAddresses.length) :
    ((query.contractAddresses.zip values).map Prod.fst).Nodup := by
  rw [List.map_fst_zip (by omega)]
  exact hnodup

/-- Every address gets the nonce and the class hash of the leaf at its own
position. -/
theorem get?_extendInitialReads (hnodup : query.contractAddresses.Nodup)
    (hleaves : rpcProof.contractsProof.contractLeavesData.length =
      query.contractAddresses.length)
    (initialReads : StateMaps) {address : ContractAddress} {leaf : ContractLeafData}
    (h : (address, leaf) ∈
      query.contractAddresses.zip rpcProof.contractsProof.contractLeavesData) :
    (extendInitialReads rpcProof query initialReads).nonces.get? address = some leaf.nonce ∧
      (extendInitialReads rpcProof query initialReads).classHashes.get? address =
        some leaf.classHash := by
  have hswap : (leaf, address) ∈
      rpcProof.contractsProof.contractLeavesData.zip query.contractAddresses := by
    rw [← List.zip_swap]
    exact List.mem_map.mpr ⟨(address, leaf), h, rfl⟩
  have hkeys : ((rpcProof.contractsProof.contractLeavesData.zip
      query.contractAddresses).map Prod.snd).Nodup := by
    rw [List.map_snd_zip (by omega)]
    exact hnodup
  constructor
  · apply IndexMap.get?_ofList_of_mem
    · simpa [List.map_map, Function.comp_def] using hkeys
    · exact List.mem_map.mpr ⟨(leaf, address), hswap, rfl⟩
  · apply IndexMap.get?_ofList_of_mem
    · simpa [List.map_map, Function.comp_def] using hkeys
    · exact List.mem_map.mpr ⟨(leaf, address), hswap, rfl⟩

/-- The commitment infos position by position. -/
def storageInfoPairs (api : CommitterApi) (query : RpcStorageProofsQuery)
    (rpcProof : RpcStorageProof) : List (ContractAddress × CommitmentInfo) :=
  (query.contractAddresses.zip
    (rpcProof.contractsProof.contractLeavesData.zip rpcProof.contractsStorageProofs)).map
      fun e => (e.1, unchangedTrie api (e.2.1.storageRoot.getD 0) e.2.2)

/-- With one entry of storage keys per address, one leaf per address and one
map per entry, the three zips and the lookup by address meet at the same
position. -/
theorem buildStorageCommitmentInfos_eq_ok (hnodup : query.contractAddresses.Nodup)
    (hentries : query.contractStorageKeys.map ContractStorageKeys.contractAddress =
      query.contractAddresses.map PatriciaKey.key)
    (hleaves : rpcProof.contractsProof.contractLeavesData.length =
      query.contractAddresses.length)
    (hmaps : rpcProof.contractsStorageProofs.length = query.contractStorageKeys.length) :
    buildStorageCommitmentInfos api rpcProof query =
      .ok (.ofList (storageInfoPairs api query rpcProof)) := by
  have hlen : query.contractStorageKeys.length = query.contractAddresses.length := by
    simpa using congrArg List.length hentries
  rw [buildStorageCommitmentInfos, if_pos hmaps]
  simp only [bind_eq_ok_iff, pure_eq_ok_iff]
  refine ⟨storageInfoPairs api query rpcProof, ?_, rfl⟩
  rw [collect_eq_ok_iff, List.forall₂_iff_get]
  refine ⟨by simp [storageInfoPairs, List.length_zip]; omega, ?_⟩
  intro i h₁ h₂
  have hi : i < query.contractAddresses.length := by
    simp [List.length_zip] at h₁
    omega
  have hkey : query.contractStorageKeys[i].contractAddress = query.contractAddresses[i].key := by
    have := congrArg (fun l => l[i]?) hentries
    simpa [List.getElem?_eq_getElem (show i < query.contractStorageKeys.length by omega),
      List.getElem?_eq_getElem hi] using this
  have hleaf : (IndexMap.ofList (query.contractAddresses.zip
        rpcProof.contractsProof.contractLeavesData)).get? query.contractAddresses[i] =
      some (rpcProof.contractsProof.contractLeavesData[i]) := by
    apply IndexMap.get?_ofList_of_mem (nodup_keys_zip hnodup hleaves)
    rw [List.mem_iff_getElem]
    exact ⟨i, by simp [List.length_zip]; omega, by simp⟩
  simp [storageCommitmentInfo, storageInfoPairs, hkey, hleaf, Except.mapError, bind_eq_ok_iff]

theorem exists_mem_zip_zip {α β γ : Type} {as : List α} {bs : List β} {cs : List γ} {a : α} {b : β}
    (h : (a, b) ∈ as.zip bs) (hlen : cs.length = bs.length) :
    ∃ c, (a, c) ∈ as.zip cs ∧ (a, b, c) ∈ as.zip (bs.zip cs) := by
  obtain ⟨i, hi, hget⟩ := List.getElem_of_mem h
  have hbound : i < as.length ∧ i < bs.length := by
    simpa [List.length_zip] using hi
  have hcs : i < cs.length := by omega
  rw [List.getElem_zip, Prod.mk.injEq] at hget
  refine ⟨cs[i], List.mem_iff_getElem.mpr ⟨i, ?_, ?_⟩, List.mem_iff_getElem.mpr ⟨i, ?_, ?_⟩⟩
  · simp only [List.length_zip]
    omega
  · simp [hget]
  · simp only [List.length_zip]
    omega
  · simp [hget]

/-- Every address gets the root of its own leaf and the facts of its own map. -/
theorem get?_ofList_storageInfoPairs (hnodup : query.contractAddresses.Nodup)
    (hleaves : rpcProof.contractsProof.contractLeavesData.length =
      query.contractAddresses.length)
    (hmaps : rpcProof.contractsStorageProofs.length = query.contractAddresses.length)
    {address : ContractAddress} {leaf : ContractLeafData} {nodes : NodeMap}
    (h : (address, leaf, nodes) ∈ query.contractAddresses.zip
      (rpcProof.contractsProof.contractLeavesData.zip rpcProof.contractsStorageProofs)) :
    (IndexMap.ofList (storageInfoPairs api query rpcProof)).get? address =
      some (unchangedTrie api (leaf.storageRoot.getD 0) nodes) := by
  apply IndexMap.get?_ofList_of_mem
  · have hlen : (rpcProof.contractsProof.contractLeavesData.zip
        rpcProof.contractsStorageProofs).length = query.contractAddresses.length := by
      rw [List.length_zip]
      omega
    simpa [storageInfoPairs, Function.comp_def] using nodup_keys_zip hnodup hlen
  · exact List.mem_map.mpr ⟨_, h, rfl⟩

end Positional

/-! ### Commitment infos with a permissive committer -/

/-- With a permissive committer only the validation of the state diff can stop
the branch that changes the state. -/
theorem exists_createCommitmentInfosWithStateChanges {rpcProof : RpcStorageProof}
    {query : RpcStorageProofsQuery}
    (hleaves : rpcProof.contractsProof.contractLeavesData.length = query.contractAddresses.length)
    (reads : StateMaps) {stateDiff : StateMaps}
    (hdiff : (stateMapsToCommitterStateDiff stateDiff).OnlyUpdates) :
    ∃ infos, createCommitmentInfosWithStateChanges permissiveCommitter rpcProof query reads
      stateDiff = .ok infos := by
  have hserialize : ∀ node, ∃ value, permissiveCommitter.serialize node = .ok value :=
    fun _ => ⟨[], rfl⟩
  obtain ⟨db, hdb⟩ := exists_createFactsDb_eq_ok hserialize hleaves reads
  have hvalid : validateVirtualOsStateDiff permissiveCommitter
      (stateMapsToCommitterStateDiff stateDiff) = .ok () :=
    validateVirtualOsStateDiff_eq_ok_iff.mpr hdiff
  simp only [createCommitmentInfosWithStateChanges, bind_eq_ok_iff]
  exact ⟨_, db, hdb, (), hvalid, _, rfl, _, rfl, rfl⟩

/-- Which leaves only the counts, and the diff if the state is changed. -/
theorem exists_createCommitmentInfos_permissive
    {getContractAddresses : StateMaps → HashSet ContractAddress}
    {executionData : VirtualBlockExecutionData} {config : StorageProofConfig}
    {proof : RpcStorageProof}
    (hleaves : proof.contractsProof.contractLeavesData.length =
      (prepareQuery getContractAddresses executionData).contractAddresses.length)
    (hmaps : config.includeStateChanges = false → proof.contractsStorageProofs.length =
      (prepareQuery getContractAddresses executionData).contractStorageKeys.length)
    (hdiff : config.includeStateChanges = true →
      (stateMapsToCommitterStateDiff executionData.stateDiff).OnlyUpdates) (reads : StateMaps) :
    ∃ infos, createCommitmentInfos permissiveCommitter config proof
      (prepareQuery getContractAddresses executionData) reads executionData.stateDiff =
        .ok infos := by
  cases hconfig : config.includeStateChanges with
  | true =>
      simp only [createCommitmentInfos, hconfig]
      exact exists_createCommitmentInfosWithStateChanges hleaves _ (hdiff hconfig)
  | false =>
      have hbuild : buildStorageCommitmentInfos permissiveCommitter proof
          (prepareQuery getContractAddresses executionData) = _ :=
        buildStorageCommitmentInfos_eq_ok
          (nodup_contractAddresses_prepareQuery getContractAddresses executionData)
          (contractAddress_contractStorageKeys_prepareQuery getContractAddresses executionData)
          hleaves (hmaps hconfig)
      simp only [createCommitmentInfos, hconfig, createCommitmentInfosWithoutStateChanges, hbuild]
      exact ⟨_, rfl⟩

/-! ### What the provider's success means -/

variable {node : Node} {before after : Conversation}

theorem returns_fetchSingleProof_iff {blockNumber : Nat} {query : RpcStorageProofsQuery}
    {proof : RpcStorageProof} :
    Program.Returns node (fetchSingleProof blockNumber query) before proof after ↔
      node before (proofRequest blockNumber query) = .ok proof ∧
        after = before ++ [⟨proofRequest blockNumber query, .ok proof⟩] := by
  rw [fetchSingleProof, returns_askOrFail_iff]
  constructor
  · rintro ⟨hanswer, rfl⟩
    have hanswer' : node before (proofRequest blockNumber query) = .ok proof := hanswer
    exact ⟨hanswer, by rw [hanswer']⟩
  · rintro ⟨hanswer, rfl⟩
    exact ⟨hanswer, by rw [hanswer]⟩

/-- The queries that are really sent for a query. -/
def requestsFor (query : RpcStorageProofsQuery) : List RpcStorageProofsQuery :=
  if countTotalKeys query ≤ maxKeysPerRequest then [query]
  else (Chunks.chunks maxKeysPerRequest (flattenQuery query)).map collectQuery

/-- How the answers to the requests become one proof. -/
def assemble (query : RpcStorageProofsQuery) (answers : List RpcStorageProof)
    (proof : RpcStorageProof) : Prop :=
  if countTotalKeys query ≤ maxKeysPerRequest then answers = [proof]
  else mergeStorageProofs (ε := ProofProviderError) answers (requestsFor query) query = .ok proof

theorem splitQuery_eq_requestsFor {query : RpcStorageProofsQuery}
    (h : ¬ countTotalKeys query ≤ maxKeysPerRequest) :
    splitQuery (ε := ProofProviderError) query maxKeysPerRequest = .ok (requestsFor query) := by
  rw [splitQuery, if_pos (by decide), requestsFor, if_neg h]

/-- A fetch returns exactly when every request was answered with a proof and
the answers fit together. -/
theorem returns_fetchProofs_iff {blockNumber : Nat} {query : RpcStorageProofsQuery}
    {proof : RpcStorageProof} :
    Program.Returns node (fetchProofs blockNumber query) before proof after ↔
      ∃ answers, Program.Returns node
          (Program.forEach (fetchSingleProof blockNumber) (requestsFor query)) before answers after ∧
        assemble query answers proof := by
  unfold fetchProofs
  split
  · next h =>
    simp only [requestsFor, assemble, h, if_true, Program.returns_forEach_cons_iff,
      Program.returns_forEach_nil_iff]
    constructor
    · intro hreturns
      exact ⟨[proof], ⟨proof, [], after, rfl, hreturns, rfl, rfl⟩, rfl⟩
    · rintro ⟨_, ⟨b, _, middle, rfl, hb, rfl, rfl⟩, hproof⟩
      obtain ⟨rfl, -⟩ := List.cons.inj hproof
      exact hb
  · next h =>
    simp only [Program.returns_bind_iff, Program.returns_done_iff, splitQuery_eq_requestsFor h,
      Outcome.ok.injEq, assemble, h, if_false]
    constructor
    · rintro ⟨_, _, ⟨rfl, rfl⟩, answers, _, hanswers, hmerge, rfl⟩
      exact ⟨answers, hanswers, hmerge⟩
    · rintro ⟨answers, hanswers, hmerge⟩
      exact ⟨_, _, ⟨rfl, rfl⟩, answers, after, hanswers, hmerge, rfl⟩

theorem returns_getStorageProofs_iff {api : CommitterApi}
    {getContractAddresses : StateMaps → HashSet ContractAddress} {blockNumber : Nat}
    {executionData : VirtualBlockExecutionData} {config : StorageProofConfig}
    {result : StorageProofs} :
    Program.Returns node (getStorageProofs api getContractAddresses blockNumber executionData config)
        before result after ↔
      let query := prepareQuery getContractAddresses executionData
      ∃ rpcProof,
        Program.Returns node (fetchProofs blockNumber query) before rpcProof after ∧
        rpcProof.contractsProof.contractLeavesData.length = query.contractAddresses.length ∧
        result.extendedInitialReads =
          extendInitialReads rpcProof query executionData.initialReads ∧
        createCommitmentInfos api config rpcProof query
          result.extendedInitialReads executionData.stateDiff = .ok result.commitmentInfos := by
  unfold getStorageProofs
  rw [Program.returns_bind_iff]
  constructor
  · rintro ⟨rpcProof, middle, hfetch, hrest⟩
    split at hrest
    · next hlen =>
      simp only [Program.returns_bind_iff, Program.returns_done_iff, Program.returns_pure_iff,
        Outcome.ofExcept_eq_ok_iff] at hrest
      obtain ⟨infos, _, ⟨hinfos, rfl⟩, rfl, rfl⟩ := hrest
      exact ⟨rpcProof, hfetch, hlen, rfl, hinfos⟩
    · simp at hrest
  · rintro ⟨rpcProof, hfetch, hlen, hreads, hinfos⟩
    refine ⟨rpcProof, after, hfetch, ?_⟩
    rw [if_pos hlen]
    simp only [Program.returns_bind_iff, Program.returns_done_iff, Program.returns_pure_iff,
      Outcome.ofExcept_eq_ok_iff]
    rw [hreads] at hinfos
    exact ⟨_, _, ⟨hinfos, rfl⟩, by rw [← hreads], rfl⟩

/-- Every storage proof is asked for at the number of the base block. -/
theorem onlyAsks_getStorageProofs (api : CommitterApi)
    (getContractAddresses : StateMaps → HashSet ContractAddress) (blockNumber : Nat)
    (executionData : VirtualBlockExecutionData) (config : StorageProofConfig) :
    Program.OnlyAsks (fun request => ∃ query, request = proofRequest blockNumber query)
      (getStorageProofs api getContractAddresses blockNumber executionData config) := by
  have hsingle : ∀ query, Program.OnlyAsks
      (fun request => ∃ query, request = proofRequest blockNumber query)
      (fetchSingleProof blockNumber query) :=
    fun query => onlyAsks_askOrFail ⟨query, rfl⟩ _ _
  have hfetch : ∀ query, Program.OnlyAsks
      (fun request => ∃ query, request = proofRequest blockNumber query)
      (fetchProofs blockNumber query) := by
    intro query
    unfold fetchProofs
    split
    · exact hsingle query
    · apply (Program.onlyAsks_done _).bind
      intro chunks
      exact (Program.onlyAsks_forEach hsingle chunks).bind fun _ => Program.onlyAsks_done _
  apply (hfetch _).bind
  intro rpcProof
  split
  · exact (Program.onlyAsks_done _).bind fun _ => Program.onlyAsks_pure _
  · exact Program.onlyAsks_done _

end Snip36.StorageProofProvider
