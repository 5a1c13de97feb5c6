import Snip36.HonestAnswers
import Snip36.StorageProofProvider

/-!
With an honest node the provider always succeeds, and everything it returns
about a contract is what the node's state says about that contract.
-/

namespace Snip36.ProofAssociation

open Library
open Library.Interaction
open Library.Fallible
open Rpc
open StorageQuery
open StorageMerge
open ExecutionData
open FactsDb
open HonestAnswers
open StorageProofProvider

/-- The node answers every storage proof request for the block from one fixed
state, whatever was said before. -/
def AnswersFrom (honest : HonestNode) (blockNumber : Nat) (node : Node) : Prop :=
  ∀ history query, node history (proofRequest blockNumber query) = .ok (honest.answer query)

/-- The keys that the execution read at an address. -/
def ReadAt (initialReads : StateMaps) (address : ContractAddress) (key : StorageKey) : Prop :=
  (address, key) ∈ initialReads.storage.keys

/-- The reads and commitment infos are, address by address, those of the
state: its nonce, its class hash, its storage root, and the facts on the paths
of the keys read at that address. -/
structure Associated (api : CommitterApi) (state : FixedState) (initialReads : StateMaps)
    (result : StorageProofs) : Prop where
  nonces : ∀ address, result.extendedInitialReads.nonces.get? address =
    if address ∈ initialReads.touchedAddresses then some (state.leaf address).nonce else none
  classHashes : ∀ address, result.extendedInitialReads.classHashes.get? address =
    if address ∈ initialReads.touchedAddresses then some (state.leaf address).classHash else none
  storage : ∀ entry, result.extendedInitialReads.storage.get? entry =
    initialReads.storage.get? entry
  addresses : ∀ address, address ∈ result.commitmentInfos.storageTriesCommitmentInfos.keys ↔
    address ∈ initialReads.touchedAddresses
  tries : ∀ address info,
    result.commitmentInfos.storageTriesCommitmentInfos.get? address = some info →
      info.previousRoot = (state.leaf address).storageRoot.getD 0 ∧
      info.updatedRoot = (state.leaf address).storageRoot.getD 0 ∧
      ∀ hash facts, info.commitmentFacts.get? hash = some facts ↔
        facts = api.flatten (api.preimageFrom (state.node hash)) ∧
          ∃ key, ReadAt initialReads address key ∧
            hash ∈ state.storagePath address.key key.key

/-! ### The keys of the query -/

theorem getD_get?_foldl_storageByAddress (keys : List (ContractAddress × StorageKey))
    (groups : IndexMap ContractAddress (List Felt)) (address : ContractAddress) :
    ((keys.foldl (fun groups e =>
        groups.insert e.1 ((groups.get? e.1).getD [] ++ [e.2.key])) groups).get? address).getD [] =
      (groups.get? address).getD [] ++
        (keys.filter fun e => e.1 = address).map fun e => e.2.key := by
  induction keys generalizing groups with
  | nil => simp
  | cons e rest ih =>
      rw [List.foldl_cons, ih, IndexMap.get?_insert]
      by_cases h : address = e.1
      · subst h
        simp
      · have h' : ¬ e.1 = address := fun heq => h heq.symm
        simp [h, h']

/-- Grouping gives every address its own keys and no others. -/
theorem mem_storageByAddress {keys : List (ContractAddress × StorageKey)}
    {address : ContractAddress} {key : Felt} :
    key ∈ ((storageByAddress keys).get? address).getD [] ↔
      ∃ k, (address, k) ∈ keys ∧ k.key = key := by
  rw [storageByAddress, getD_get?_foldl_storageByAddress]
  simp only [IndexMap.get?_empty, Option.getD_none, List.nil_append, List.mem_map,
    List.mem_filter, decide_eq_true_eq]
  constructor
  · rintro ⟨e, ⟨he, rfl⟩, rfl⟩
    exact ⟨e.2, he, rfl⟩
  · rintro ⟨k, hk, rfl⟩
    exact ⟨(address, k), ⟨hk, rfl⟩, rfl⟩

/-! ### Fetching from an honest node -/

section Honest

variable {honest : HonestNode} {blockNumber : Nat} {node : Node}
  (hnode : AnswersFrom honest blockNumber node)

include hnode

/-- One request or many, the proof is an answer to the whole query. -/
theorem exists_returns_fetchProofs {query : RpcStorageProofsQuery}
    (hnodup : (query.contractStorageKeys.map ContractStorageKeys.contractAddress).Nodup)
    (before : Conversation) :
    ∃ proof after, Program.Returns node (fetchProofs blockNumber query) before proof after ∧
      honest.Answers query proof := by
  have hsingle : ∀ request before, ∃ after, Program.Returns node
      (fetchSingleProof blockNumber request) before (honest.answer request) after :=
    fun request before => ⟨_, returns_fetchSingleProof_iff.mpr ⟨hnode before request, rfl⟩⟩
  obtain ⟨after, hafter⟩ := Program.exists_returns_forEach hsingle (requestsFor query) before
  by_cases hcount : countTotalKeys query ≤ maxKeysPerRequest
  · refine ⟨honest.answer query, after, ?_, honest.honest query⟩
    refine returns_fetchProofs_iff.mpr ⟨_, hafter, ?_⟩
    simp [assemble, requestsFor, hcount]
  · have hpieces : (Chunks.chunks maxKeysPerRequest (flattenQuery query)).flatten =
        flattenQuery query := Chunks.flatten_chunks (by decide) _
    have hne : Chunks.chunks maxKeysPerRequest (flattenQuery query) ≠ [] := by
      rw [Ne, Chunks.chunks_eq_nil_iff (by decide), ← List.length_eq_zero_iff,
        length_flattenQuery]
      omega
    obtain ⟨merged, hmerged, hanswers⟩ : ∃ merged,
        mergeStorageProofs (ε := ProofProviderError)
            (((Chunks.chunks maxKeysPerRequest (flattenQuery query)).map collectQuery).map
              honest.answer)
            ((Chunks.chunks maxKeysPerRequest (flattenQuery query)).map collectQuery) query =
          .ok merged ∧ honest.Answers query merged :=
      exists_merge_answers hpieces hne hnodup
    refine ⟨merged, after, returns_fetchProofs_iff.mpr ⟨_, hafter, ?_⟩, hanswers⟩
    rw [assemble, if_neg hcount, requestsFor, if_neg hcount]
    exact hmerged

end Honest

/-! ### Joining leaves, maps and addresses -/

section Join

variable {api : CommitterApi} {state : FixedState}
  {getContractAddresses : StateMaps → HashSet ContractAddress}
  (haddresses : ∀ maps address,
    address ∈ (getContractAddresses maps).elements ↔ address ∈ maps.touchedAddresses)
  {executionData : VirtualBlockExecutionData} {proof : RpcStorageProof}
  (hproof : state.Answers (prepareQuery getContractAddresses executionData) proof)

omit haddresses in
theorem nodup_contractStorageKeys_prepareQuery :
    ((prepareQuery getContractAddresses executionData).contractStorageKeys.map
      ContractStorageKeys.contractAddress).Nodup := by
  rw [contractAddress_contractStorageKeys_prepareQuery]
  exact (nodup_contractAddresses_prepareQuery _ _).map PatriciaKey.key_injective

include haddresses in
theorem mem_contractAddresses_prepareQuery {address : ContractAddress} :
    address ∈ (prepareQuery getContractAddresses executionData).contractAddresses ↔
      address ∈ executionData.initialReads.touchedAddresses := by
  rw [← haddresses]
  exact (List.mergeSort_perm _ _).mem_iff

include hproof

theorem length_leaves_of_answers : proof.contractsProof.contractLeavesData.length =
    (prepareQuery getContractAddresses executionData).contractAddresses.length := by
  rw [hproof.leaves, List.length_map]

theorem length_maps_of_answers : proof.contractsStorageProofs.length =
    (prepareQuery getContractAddresses executionData).contractAddresses.length := by
  rw [← hproof.storage.length_eq]
  simpa using congrArg List.length (contractAddress_contractStorageKeys_prepareQuery
    getContractAddresses executionData)

/-- The leaf at the position of an address is the leaf of that address. -/
theorem mem_zip_leaf_of_answers {address : ContractAddress}
    (h : address ∈ (prepareQuery getContractAddresses executionData).contractAddresses) :
    (address, state.leaf address) ∈
      (prepareQuery getContractAddresses executionData).contractAddresses.zip
        proof.contractsProof.contractLeavesData := by
  rw [hproof.leaves]
  have hzip := List.zip_map' (f := id) (g := state.leaf)
    (l := (prepareQuery getContractAddresses executionData).contractAddresses)
  rw [List.map_id] at hzip
  rw [hzip]
  exact List.mem_map.mpr ⟨address, h, rfl⟩

/-- So is the map at its position: it has the paths of the keys read there. -/
theorem unionOf_readPaths_of_answers {address : ContractAddress} {nodes : NodeMap}
    (h : (address, nodes) ∈
      (prepareQuery getContractAddresses executionData).contractAddresses.zip
        proof.contractsStorageProofs) (hash : Felt) (node : MerkleNode) :
    nodes.get? hash = some node ↔ node = state.node hash ∧
      ∃ key, ReadAt executionData.initialReads address key ∧
        hash ∈ state.storagePath address.key key.key := by
  have hstorage := hproof.storage
  simp only [prepareQuery, List.forall₂_map_left_iff] at hstorage
  have hunion := (List.forall₂_iff_zip.mp hstorage).2 h
  have hpath : hash ∈ (state.storagePaths ⟨address.key,
      ((storageByAddress executionData.initialReads.storage.keys).get? address).getD []⟩).flatten ↔
        ∃ key, ReadAt executionData.initialReads address key ∧
          hash ∈ state.storagePath address.key key.key := by
    simp only [FixedState.storagePaths, List.mem_flatten, List.mem_map, mem_storageByAddress]
    constructor
    · rintro ⟨_, ⟨_, ⟨key, hkey, rfl⟩, rfl⟩, hhash⟩
      exact ⟨key, hkey, hhash⟩
    · rintro ⟨key, hkey, hhash⟩
      exact ⟨_, ⟨_, ⟨key, hkey, rfl⟩, rfl⟩, hhash⟩
  rw [hunion.get?_eq, Option.ite_none_right_eq_some, hpath, Option.some.injEq, eq_comm]
  exact and_comm

include haddresses

theorem associated_reads_of_answers (address : ContractAddress) :
    (extendInitialReads proof (prepareQuery getContractAddresses executionData)
        executionData.initialReads).nonces.get? address =
      (if address ∈ executionData.initialReads.touchedAddresses
        then some (state.leaf address).nonce else none) ∧
    (extendInitialReads proof (prepareQuery getContractAddresses executionData)
        executionData.initialReads).classHashes.get? address =
      (if address ∈ executionData.initialReads.touchedAddresses
        then some (state.leaf address).classHash else none) := by
  have hleaves := length_leaves_of_answers hproof
  split
  · next htouched =>
    have hmem := (mem_contractAddresses_prepareQuery haddresses).mpr htouched
    exact get?_extendInitialReads (nodup_contractAddresses_prepareQuery _ _) hleaves _
      (mem_zip_leaf_of_answers hproof hmem)
  · next huntouched =>
    have hsnd : (proof.contractsProof.contractLeavesData.zip
        (prepareQuery getContractAddresses executionData).contractAddresses).map Prod.snd =
          (prepareQuery getContractAddresses executionData).contractAddresses :=
      List.map_snd_zip hleaves.ge
    have hnot : address ∉ (prepareQuery getContractAddresses executionData).contractAddresses :=
      fun hmem => huntouched ((mem_contractAddresses_prepareQuery haddresses).mp hmem)
    rw [← hsnd] at hnot
    constructor
    all_goals
      rw [IndexMap.get?_eq_none_iff, extendInitialReads, IndexMap.mem_keys_ofList, List.map_map]
      exact hnot

theorem associated_of_answers {result : StorageProofs}
    (hreads : result.extendedInitialReads = extendInitialReads proof
      (prepareQuery getContractAddresses executionData) executionData.initialReads)
    (htries : result.commitmentInfos.storageTriesCommitmentInfos =
      .ofList (storageInfoPairs api (prepareQuery getContractAddresses executionData) proof)) :
    Associated api state executionData.initialReads result := by
  have hleaves := length_leaves_of_answers hproof
  have hmaps := length_maps_of_answers hproof
  have hnodup := nodup_contractAddresses_prepareQuery getContractAddresses executionData
  have hkeys : ∀ address,
      address ∈ result.commitmentInfos.storageTriesCommitmentInfos.keys ↔
        address ∈ (prepareQuery getContractAddresses executionData).contractAddresses := by
    intro address
    have hfst : (storageInfoPairs api (prepareQuery getContractAddresses executionData)
        proof).map Prod.fst =
          (prepareQuery getContractAddresses executionData).contractAddresses := by
      rw [storageInfoPairs, List.map_map]
      exact List.map_fst_zip (by rw [List.length_zip]; omega)
    rw [htries, IndexMap.mem_keys_ofList, hfst]
  refine
    { nonces := fun address => ?_
      classHashes := fun address => ?_
      storage := fun entry => ?_
      addresses := fun address => ?_
      tries := fun address info hinfo => ?_ }
  · rw [hreads]
    exact (associated_reads_of_answers haddresses hproof address).1
  · rw [hreads]
    exact (associated_reads_of_answers haddresses hproof address).2
  · rw [hreads]
    exact IndexMap.get?_ofList_entries _ _
  · rw [hkeys, mem_contractAddresses_prepareQuery haddresses]
  · have hmem := (hkeys address).mp (IndexMap.mem_keys_of_get? hinfo)
    obtain ⟨nodes, hmap, hnodes⟩ := exists_mem_zip_zip (mem_zip_leaf_of_answers hproof hmem)
      (hmaps.trans hleaves.symm)
    rw [htries, get?_ofList_storageInfoPairs hnodup hleaves hmaps hnodes] at hinfo
    obtain rfl := Option.some.inj hinfo
    refine ⟨rfl, rfl, fun hash facts => ?_⟩
    have hread := unionOf_readPaths_of_answers hproof hmap hash
    simp only [unchangedTrie, flattenPreimages, rpcNodesToPreimageMap, IndexMap.get?_mapValues,
      Option.map_map, Option.map_eq_some_iff, Function.comp_apply, hread]
    constructor
    · rintro ⟨_, ⟨rfl, hpath⟩, rfl⟩
      exact ⟨rfl, hpath⟩
    · rintro ⟨rfl, hpath⟩
      exact ⟨_, ⟨rfl, hpath⟩, rfl⟩

end Join

/-- The provider always returns, and what it returns is associated with the
right contracts, whatever the number of keys. -/
theorem getStorageProofs_associated (api : CommitterApi)
    (getContractAddresses : StateMaps → HashSet ContractAddress)
    (haddresses : ∀ maps address,
      address ∈ (getContractAddresses maps).elements ↔ address ∈ maps.touchedAddresses)
    (honest : HonestNode) (blockNumber : Nat) (node : Node)
    (hnode : AnswersFrom honest blockNumber node) (executionData : VirtualBlockExecutionData)
    (before : Conversation) :
    ∃ result after, Program.Returns node
        (getStorageProofs api getContractAddresses blockNumber executionData ⟨false⟩)
        before result after ∧
      Associated api honest.toFixedState executionData.initialReads result := by
  obtain ⟨proof, after, hfetch, hproof⟩ :=
    exists_returns_fetchProofs hnode nodup_contractStorageKeys_prepareQuery before
  have hleaves := length_leaves_of_answers hproof
  have hbuild : buildStorageCommitmentInfos api proof
      (prepareQuery getContractAddresses executionData) = _ :=
    buildStorageCommitmentInfos_eq_ok
      (nodup_contractAddresses_prepareQuery getContractAddresses executionData)
      (contractAddress_contractStorageKeys_prepareQuery getContractAddresses executionData)
      hleaves hproof.storage.length_eq.symm
  obtain ⟨infos, hinfos, htries⟩ : ∃ infos, createCommitmentInfosWithoutStateChanges api proof
        (prepareQuery getContractAddresses executionData) = .ok infos ∧
      infos.storageTriesCommitmentInfos =
        .ofList (storageInfoPairs api (prepareQuery getContractAddresses executionData) proof) := by
    rw [createCommitmentInfosWithoutStateChanges, hbuild]
    exact ⟨_, rfl, rfl⟩
  refine ⟨⟨_, infos⟩, after,
    returns_getStorageProofs_iff.mpr ⟨proof, hfetch, hleaves, rfl, hinfos⟩, ?_⟩
  exact associated_of_answers haddresses hproof rfl htries

/-- A node that serves the answers of an honest one. -/
def serve (honest : HonestNode) : Node := fun _ request =>
  match request with
  | .getStorageProof _ classHashes contractAddresses contractStorageKeys =>
      .ok (honest.answer
        { classHashes
          contractAddresses := contractAddresses.filterMap fun felt =>
            (PatriciaKey.tryFrom felt).toOption
          contractStorageKeys })
  | .getBlockWithTxHashes _ => .error .blockNotFound
  | .simulateTransactions .. => .error .blockNotFound
  | .getClass .. => .error .classHashNotFound
  | .getCompiledCasm _ => .error .classHashNotFound

theorem answersFrom_serve (honest : HonestNode) (blockNumber : Nat) :
    AnswersFrom honest blockNumber (serve honest) := by
  intro history query
  have hdecode : (query.contractAddresses.map PatriciaKey.key).filterMap
      (fun felt => (PatriciaKey.tryFrom felt).toOption) = query.contractAddresses := by
    simp [List.filterMap_map, Except.toOption]
  simp only [proofRequest, serve, hdecode]

def keyTwo : PatriciaKey := ⟨Felt.fromNat 2, by decide⟩

def keyThree : PatriciaKey := ⟨Felt.fromNat 3, by decide⟩

/-- The keys of two contracts are read in turns; of a third one only the class is
read. -/
def severalReadsExecution : VirtualBlockExecutionData where
  executionOutputs := []
  initialReads := { StateMaps.default with
    classHashes := .ofList [(0, 5)]
    storage := .ofList [((keyTwo, keyThree), 9), ((keyThree, 0), 8), ((keyTwo, 0), 7),
      ((keyThree, keyThree), 6), ((keyTwo, keyTwo), 5)] }
  stateDiff := .default
  executedClassHashes := .empty
  l2ToL1Messages := []
  baseBlockInfo := default

theorem getStorageProofs_associated_severalReads :
    ∃ result after, Program.Returns (serve (.ofState smallState))
        (getStorageProofs permissiveCommitter (fun maps => .ofList maps.touchedAddresses) 3
          severalReadsExecution ⟨false⟩) [] result after ∧
      Associated permissiveCommitter smallState severalReadsExecution.initialReads result :=
  getStorageProofs_associated permissiveCommitter _ (fun _ _ => List.mem_dedup)
    (.ofState smallState) 3 _ (answersFrom_serve _ 3) severalReadsExecution []

end Snip36.ProofAssociation
