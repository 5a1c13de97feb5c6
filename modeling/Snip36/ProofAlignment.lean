import Snip36.StorageProofProvider

/-!
Which malformed answers the provider lets through. An answer is aligned if it
has one leaf for every address and one storage map for every entry of its own
request. The provider counts on the assembled proof only, and it counts the
storage maps only when the state is not changed.
-/

namespace Snip36.ProofAlignment

open Library
open Library.Interaction
open Library.Fallible
open Rpc
open StorageQuery
open StorageMerge
open ExecutionData
open FactsDb
open StorageProofProvider

structure Aligned (request : RpcStorageProofsQuery) (answer : RpcStorageProof) : Prop where
  leaves : answer.contractsProof.contractLeavesData.length = request.contractAddresses.length
  maps : answer.contractsStorageProofs.length = request.contractStorageKeys.length

/-- The result uses, for every address of a request, the leaf at the position
of the address in the answer to that request. -/
def UsesOwnLeaves (config : StorageProofConfig) (result : StorageProofs)
    (request : RpcStorageProofsQuery) (answer : RpcStorageProof) : Prop :=
  ∀ address leaf,
    (address, leaf) ∈ request.contractAddresses.zip answer.contractsProof.contractLeavesData →
      result.extendedInitialReads.nonces.get? address = some leaf.nonce ∧
      result.extendedInitialReads.classHashes.get? address = some leaf.classHash ∧
      (config.includeStateChanges = false →
        ∃ info, result.commitmentInfos.storageTriesCommitmentInfos.get? address = some info ∧
          info.previousRoot = leaf.storageRoot.getD 0)

/-- Whatever the node answers and whatever the committer does, a result is
built from aligned answers only, each leaf used for its own address. -/
def AcceptsOnlyAligned (getContractAddresses : StateMaps → HashSet ContractAddress)
    (executionData : VirtualBlockExecutionData) (config : StorageProofConfig) : Prop :=
  ∀ (api : CommitterApi) (node : Node) (blockNumber : Nat) (before after : Conversation)
    (result : StorageProofs),
    Program.Returns node
        (getStorageProofs api getContractAddresses blockNumber executionData config)
        before result after →
      ∃ answers,
        Program.Returns node
          (Program.forEach (fetchSingleProof blockNumber)
            (requestsFor (prepareQuery getContractAddresses executionData)))
          before answers after ∧
        List.Forall₂ Aligned
          (requestsFor (prepareQuery getContractAddresses executionData)) answers ∧
        ∀ exchange ∈
            (requestsFor (prepareQuery getContractAddresses executionData)).zip answers,
          UsesOwnLeaves config result exchange.1 exchange.2

/-! ### A node that answers one map too many -/

/-- The right number of empty leaves, and a storage map that nobody asked for. -/
def paddedProof (leaves maps : Nat) : RpcStorageProof where
  classesProof := .empty
  contractsProof :=
    { nodes := .empty
      contractLeavesData := List.replicate leaves ⟨0, 0, none⟩ }
  contractsStorageProofs := List.replicate (maps + 1) .empty
  globalRoots := ⟨0, 0⟩

def paddedAnswer (query : RpcStorageProofsQuery) : RpcStorageProof :=
  paddedProof query.contractAddresses.length query.contractStorageKeys.length

def paddedNode : Node := fun _ request =>
  match request with
  | .getStorageProof _ _ contractAddresses contractStorageKeys =>
      .ok (paddedProof contractAddresses.length contractStorageKeys.length)
  | .getBlockWithTxHashes _ => .error .blockNotFound
  | .simulateTransactions .. => .error .blockNotFound
  | .getClass .. => .error .classHashNotFound
  | .getCompiledCasm _ => .error .classHashNotFound

theorem not_aligned_paddedAnswer (query : RpcStorageProofsQuery) :
    ¬ Aligned query (paddedAnswer query) := by
  intro h
  have hmaps := h.maps
  simp [paddedAnswer, paddedProof] at hmaps

theorem returns_fetchSingleProof_padded (blockNumber : Nat) (query : RpcStorageProofsQuery)
    (before : Conversation) :
    ∃ after, Program.Returns paddedNode (fetchSingleProof blockNumber query) before
      (paddedAnswer query) after := by
  refine ⟨_, returns_fetchSingleProof_iff.mpr ⟨?_, rfl⟩⟩
  simp [paddedNode, paddedAnswer]

theorem requestsFor_ne_nil (query : RpcStorageProofsQuery) : requestsFor query ≠ [] := by
  unfold requestsFor
  split
  · exact List.cons_ne_nil _ _
  · next h =>
    intro hnil
    have hflat : flattenQuery query = [] :=
      (Chunks.chunks_eq_nil_iff (by decide)).mp (List.map_eq_nil_iff.mp hnil)
    have hcount := length_flattenQuery query
    rw [hflat] at hcount
    exact h (by rw [← hcount]; exact Nat.zero_le _)

/-- The padded answers to the requests of a query always fit together, and the
proof has a leaf for every address; it has one map too many only if it is the
answer to a single request. -/
theorem exists_assemble_padded (query : RpcStorageProofsQuery) :
    ∃ proof, assemble query ((requestsFor query).map paddedAnswer) proof ∧
      proof.contractsProof.contractLeavesData.length = query.contractAddresses.length ∧
      (¬ countTotalKeys query ≤ maxKeysPerRequest →
        proof.contractsStorageProofs.length = query.contractStorageKeys.length) := by
  by_cases hcount : countTotalKeys query ≤ maxKeysPerRequest
  · refine ⟨paddedAnswer query, ?_, ?_, fun h => absurd hcount h⟩
    · simp [assemble, requestsFor, hcount]
    · simp [paddedAnswer, paddedProof]
  · have hpieces : (Chunks.chunks maxKeysPerRequest (flattenQuery query)).flatten =
        flattenQuery query := Chunks.flatten_chunks (by decide) _
    have hrequests : requestsFor query =
        (Chunks.chunks maxKeysPerRequest (flattenQuery query)).map collectQuery := by
      rw [requestsFor, if_neg hcount]
    obtain ⟨request, rest, hcons⟩ := List.exists_cons_of_ne_nil (requestsFor_ne_nil query)
    have hlen : ((requestsFor query).map paddedAnswer).length =
        (Chunks.chunks maxKeysPerRequest (flattenQuery query)).length := by
      simp [hrequests]
    have hfirst : ((requestsFor query).map paddedAnswer).head? = some (paddedAnswer request) := by
      simp [hcons]
    have hmerge := mergeStorageProofs_of_pieces (ε := ProofProviderError) hpieces hlen hfirst
    rw [← hrequests] at hmerge
    refine ⟨_, by rw [assemble, if_neg hcount]; exact hmerge, ?_, fun _ => ?_⟩
    · have haddresses := flatMap_contractAddresses_of_pieces hpieces
      rw [← hrequests] at haddresses
      have hlength := congrArg List.length haddresses
      simp only [List.length_flatMap] at hlength
      rw [← hlength]
      have hzip : (requestsFor query).zip ((requestsFor query).map paddedAnswer) =
          (requestsFor query).map fun request => (request, paddedAnswer request) := by
        simpa using List.zip_map' (f := id) (g := paddedAnswer) (l := requestsFor query)
      simp [mergedProof, absorb, emptyProof, hzip, List.length_flatMap, List.map_map,
        Function.comp_def, paddedAnswer, paddedProof]
    · simp [mergedProof, absorb, emptyProof]

/-- The padded answers go through whenever nothing counts the maps of a
single request. -/
theorem exists_returns_padded (getContractAddresses : StateMaps → HashSet ContractAddress)
    (executionData : VirtualBlockExecutionData) (config : StorageProofConfig)
    (hmaps : config.includeStateChanges = false →
      ¬ countTotalKeys (prepareQuery getContractAddresses executionData) ≤ maxKeysPerRequest)
    (hdiff : config.includeStateChanges = true →
      (stateMapsToCommitterStateDiff executionData.stateDiff).OnlyUpdates) :
    ∃ result after, Program.Returns paddedNode
      (getStorageProofs permissiveCommitter getContractAddresses 0 executionData config)
      [] result after := by
  obtain ⟨proof, hassemble, hleaves, hmapsLength⟩ :=
    exists_assemble_padded (prepareQuery getContractAddresses executionData)
  obtain ⟨after, hafter⟩ := Program.exists_returns_forEach (returns_fetchSingleProof_padded 0)
    (requestsFor (prepareQuery getContractAddresses executionData)) []
  have hfetch := returns_fetchProofs_iff.mpr ⟨_, hafter, hassemble⟩
  obtain ⟨infos, hinfos⟩ := exists_createCommitmentInfos_permissive hleaves
    (fun hconfig => hmapsLength (hmaps hconfig)) hdiff
    (extendInitialReads proof (prepareQuery getContractAddresses executionData)
      executionData.initialReads)
  exact ⟨⟨_, infos⟩, after, returns_getStorageProofs_iff.mpr ⟨proof, hfetch, hleaves, rfl, hinfos⟩⟩

theorem not_acceptsOnlyAligned (getContractAddresses : StateMaps → HashSet ContractAddress)
    (executionData : VirtualBlockExecutionData) (config : StorageProofConfig)
    (hmaps : config.includeStateChanges = false →
      ¬ countTotalKeys (prepareQuery getContractAddresses executionData) ≤ maxKeysPerRequest)
    (hdiff : config.includeStateChanges = true →
      (stateMapsToCommitterStateDiff executionData.stateDiff).OnlyUpdates) :
    ¬ AcceptsOnlyAligned getContractAddresses executionData config := by
  intro haligned
  obtain ⟨result, after, hreturns⟩ :=
    exists_returns_padded getContractAddresses executionData config hmaps hdiff
  obtain ⟨answers, hanswers, hforall, -⟩ := haligned _ _ _ _ _ _ hreturns
  obtain ⟨after', hpadded⟩ := Program.exists_returns_forEach (returns_fetchSingleProof_padded 0)
    (requestsFor (prepareQuery getContractAddresses executionData)) []
  obtain ⟨rfl, -⟩ := hanswers.unique hpadded
  obtain ⟨request, rest, hcons⟩ := List.exists_cons_of_ne_nil
    (requestsFor_ne_nil (prepareQuery getContractAddresses executionData))
  rw [hcons, List.map_cons, List.forall₂_cons] at hforall
  exact not_aligned_paddedAnswer request hforall.1

/-! ### What is accepted -/

/-- One request and no state changes: both counts are made on the answer that
is used. -/
theorem acceptsOnlyAligned_of_single
    {getContractAddresses : StateMaps → HashSet ContractAddress}
    {executionData : VirtualBlockExecutionData} {config : StorageProofConfig}
    (hcount : countTotalKeys (prepareQuery getContractAddresses executionData) ≤
      maxKeysPerRequest)
    (hconfig : config.includeStateChanges = false) :
    AcceptsOnlyAligned getContractAddresses executionData config := by
  intro api node blockNumber before after result hreturns
  obtain ⟨proof, hfetch, hleaves, hreads, hinfos⟩ := returns_getStorageProofs_iff.mp hreturns
  obtain ⟨answers, hanswers, hassemble⟩ := returns_fetchProofs_iff.mp hfetch
  rw [assemble, if_pos hcount] at hassemble
  subst hassemble
  have hrequests : requestsFor (prepareQuery getContractAddresses executionData) =
      [prepareQuery getContractAddresses executionData] := by
    rw [requestsFor, if_pos hcount]
  simp only [createCommitmentInfos, hconfig, createCommitmentInfosWithoutStateChanges,
    bind_eq_ok_iff, pure_eq_ok_iff] at hinfos
  obtain ⟨storageTries, hbuild, htries⟩ := hinfos
  have hmaps : proof.contractsStorageProofs.length =
      (prepareQuery getContractAddresses executionData).contractStorageKeys.length := by
    unfold buildStorageCommitmentInfos at hbuild
    split at hbuild
    · next hmaps => exact hmaps
    · simp at hbuild
  refine ⟨[proof], hanswers, ?_, ?_⟩
  · rw [hrequests]
    exact .cons ⟨hleaves, hmaps⟩ .nil
  · rw [hrequests]
    intro exchange hexchange address leaf hleaf
    obtain rfl : exchange = (_, proof) := by simpa using hexchange
    have hnodup := nodup_contractAddresses_prepareQuery getContractAddresses executionData
    obtain ⟨hnonce, hclass⟩ :=
      get?_extendInitialReads hnodup hleaves executionData.initialReads hleaf
    rw [hreads]
    refine ⟨hnonce, hclass, fun _ => ?_⟩
    have hentries :=
      contractAddress_contractStorageKeys_prepareQuery getContractAddresses executionData
    have hlen : proof.contractsStorageProofs.length =
        (prepareQuery getContractAddresses executionData).contractAddresses.length := by
      rw [hmaps]
      simpa using congrArg List.length hentries
    rw [buildStorageCommitmentInfos_eq_ok hnodup hentries hleaves hmaps] at hbuild
    obtain rfl := Except.ok.inj hbuild
    obtain ⟨nodes, -, hnodes⟩ := exists_mem_zip_zip hleaf (hlen.trans hleaves.symm)
    rw [← htries]
    exact ⟨_, get?_ofList_storageInfoPairs hnodup hleaves hlen hnodes, rfl⟩

/-- A diff that is not a plain update is reported before any result exists. -/
theorem acceptsOnlyAligned_of_rejected_diff
    {getContractAddresses : StateMaps → HashSet ContractAddress}
    {executionData : VirtualBlockExecutionData} {config : StorageProofConfig}
    (hconfig : config.includeStateChanges = true)
    (hdiff : ¬ (stateMapsToCommitterStateDiff executionData.stateDiff).OnlyUpdates) :
    AcceptsOnlyAligned getContractAddresses executionData config := by
  intro api node blockNumber before after result hreturns
  obtain ⟨proof, -, -, -, hinfos⟩ := returns_getStorageProofs_iff.mp hreturns
  simp only [createCommitmentInfos, hconfig, createCommitmentInfosWithStateChanges,
    bind_eq_ok_iff] at hinfos
  obtain ⟨db, -, _, hvalid, -⟩ := hinfos
  exact absurd (validateVirtualOsStateDiff_eq_ok_iff.mp hvalid) hdiff

/-- Who is let through: with one request the maps are counted only when the
state is not changed; with many requests nothing is counted chunk by chunk;
and a run that changes the state never gets that far if its diff is not a
plain update. -/
theorem acceptsOnlyAligned_iff (getContractAddresses : StateMaps → HashSet ContractAddress)
    (executionData : VirtualBlockExecutionData) (config : StorageProofConfig) :
    AcceptsOnlyAligned getContractAddresses executionData config ↔
      (config.includeStateChanges = false ∧
          countTotalKeys (prepareQuery getContractAddresses executionData) ≤ maxKeysPerRequest) ∨
        (config.includeStateChanges = true ∧
          ¬ (stateMapsToCommitterStateDiff executionData.stateDiff).OnlyUpdates) := by
  constructor
  · intro haligned
    by_contra hcondition
    rw [not_or, not_and, not_and, not_not] at hcondition
    exact not_acceptsOnlyAligned getContractAddresses executionData config
      hcondition.1 hcondition.2 haligned
  · rintro (⟨hconfig, hcount⟩ | ⟨hconfig, hdiff⟩)
    · exact acceptsOnlyAligned_of_single hcount hconfig
    · exact acceptsOnlyAligned_of_rejected_diff hconfig hdiff

/-! ### Two inputs on which a misaligned answer gets through -/

/-- One contract whose nonce was read; nothing was written. -/
def oneContractExecution : VirtualBlockExecutionData where
  executionOutputs := []
  initialReads := { StateMaps.default with nonces := .ofList [(default, 0)] }
  stateDiff := .default
  executedClassHashes := .empty
  l2ToL1Messages := []
  baseBlockInfo := default

/-- One class more than fits into a request. -/
def manyClassesExecution : VirtualBlockExecutionData where
  executionOutputs := []
  initialReads := .default
  stateDiff := .default
  executedClassHashes :=
    ⟨(List.finRange 101).map (Fin.castLE (by decide)),
      (List.nodup_finRange 101).map (Fin.castLE_injective _)⟩
  l2ToL1Messages := []
  baseBlockInfo := default

theorem misaligned_answers_accepted :
    ¬ AcceptsOnlyAligned (fun maps => .ofList maps.touchedAddresses) oneContractExecution ⟨true⟩ ∧
      ¬ AcceptsOnlyAligned (fun maps => .ofList maps.touchedAddresses) manyClassesExecution
        ⟨false⟩ := by
  constructor
  · apply not_acceptsOnlyAligned
    · intro h
      cases h
    · intro _
      refine ⟨?_, ?_, ?_⟩ <;> rfl
  · apply not_acceptsOnlyAligned
    · intro _
      simp [prepareQuery, countTotalKeys, manyClassesExecution, maxKeysPerRequest,
        StateMaps.touchedAddresses, StateMaps.default, HashSet.ofList]
    · intro h
      cases h

end Snip36.ProofAlignment
