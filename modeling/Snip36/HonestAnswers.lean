import Snip36.StorageMerge

/-!
A node that answers from one fixed state. Every key has a path of node hashes
in its tree, one table gives the node of a hash, and an answer has the nodes on
the paths of the keys that were asked for. Asking in chunks and merging the
answers then gives what asking once gives.
-/

namespace Snip36.HonestAnswers

open Library
open Library.Interaction
open Library.Chunks
open StorageQuery
open StorageMerge

/-- What a node knows: the leaves, the paths and the nodes of one state. -/
structure FixedState where
  roots : GlobalRoots
  leaf : ContractAddress → ContractLeafData
  node : Felt → MerkleNode
  classPath : Felt → List Felt
  contractPath : ContractAddress → List Felt
  storagePath : Felt → Felt → List Felt

namespace FixedState

def classPaths (state : FixedState) (hashes : List Felt) : List (List Felt) :=
  hashes.map state.classPath

def contractPaths (state : FixedState) (addresses : List ContractAddress) : List (List Felt) :=
  addresses.map state.contractPath

def storagePaths (state : FixedState) (csk : ContractStorageKeys) : List (List Felt) :=
  csk.storageKeys.map (state.storagePath csk.contractAddress)

/-- The answer is what the state says about the query, up to the order of the
nodes in a map. -/
structure Answers (state : FixedState) (query : RpcStorageProofsQuery)
    (answer : RpcStorageProof) : Prop where
  roots : answer.globalRoots = state.roots
  leaves : answer.contractsProof.contractLeavesData = query.contractAddresses.map state.leaf
  classes : IndexMap.UnionOf state.node (state.classPaths query.classHashes) answer.classesProof
  contracts : IndexMap.UnionOf state.node (state.contractPaths query.contractAddresses)
    answer.contractsProof.nodes
  storage : List.Forall₂
    (fun csk nodes => IndexMap.UnionOf state.node (state.storagePaths csk) nodes)
    query.contractStorageKeys answer.contractsStorageProofs

end FixedState

/-- A node whose every answer is what its state says. -/
structure HonestNode extends FixedState where
  answer : RpcStorageProofsQuery → RpcStorageProof
  honest : ∀ query, toFixedState.Answers query (answer query)

/-- The node that lists the nodes of every path in the order of the keys. -/
def HonestNode.ofState (state : FixedState) : HonestNode where
  toFixedState := state
  answer query :=
    { classesProof :=
        .ofList ((state.classPaths query.classHashes).flatten.map fun k => (k, state.node k))
      contractsProof :=
        { nodes := .ofList
            ((state.contractPaths query.contractAddresses).flatten.map fun k => (k, state.node k))
          contractLeavesData := query.contractAddresses.map state.leaf }
      contractsStorageProofs := query.contractStorageKeys.map fun csk =>
        .ofList ((state.storagePaths csk).flatten.map fun k => (k, state.node k))
      globalRoots := state.roots }
  honest query :=
    { roots := rfl
      leaves := rfl
      classes := IndexMap.unionOf_ofList _ _
      contracts := IndexMap.unionOf_ofList _ _
      storage := by
        rw [List.forall₂_map_right_iff, List.forall₂_same]
        exact fun csk _ => IndexMap.unionOf_ofList _ _ }

/-- Equal but for the order of the nodes in a map. -/
structure SameProof (first second : RpcStorageProof) : Prop where
  roots : first.globalRoots = second.globalRoots
  leaves : first.contractsProof.contractLeavesData = second.contractsProof.contractLeavesData
  classes : ∀ k, first.classesProof.get? k = second.classesProof.get? k
  contracts : ∀ k, first.contractsProof.nodes.get? k = second.contractsProof.nodes.get? k
  storage : List.Forall₂ (fun m n => ∀ k, m.get? k = n.get? k)
    first.contractsStorageProofs second.contractsStorageProofs

variable {ε : Type}

/-! ### Answers to one query are the same proof -/

section Answers

variable {state : FixedState} {query : RpcStorageProofsQuery} {first second : RpcStorageProof}

theorem sameProof_of_answers (hfirst : state.Answers query first)
    (hsecond : state.Answers query second) : SameProof first second where
  roots := hfirst.roots.trans hsecond.roots.symm
  leaves := hfirst.leaves.trans hsecond.leaves.symm
  classes := hfirst.classes.get?_congr hsecond.classes
  contracts := hfirst.contracts.get?_congr hsecond.contracts
  storage := by
    have hboth := List.forall₂_iff_get.mp hfirst.storage
    have hboth' := List.forall₂_iff_get.mp hsecond.storage
    rw [List.forall₂_iff_get]
    refine ⟨hboth.1.symm.trans hboth'.1, fun i h₁ h₂ => ?_⟩
    have hi : i < query.contractStorageKeys.length := by
      rw [hboth.1]
      exact h₁
    exact (hboth.2 i hi h₁).get?_congr (hboth'.2 i hi h₂)

end Answers

/-! ### Merging the answers to the pieces of a query -/

section Pieces

variable {node : HonestNode} {query : RpcStorageProofsQuery} {pieces : List (List QueryItem)}

theorem zip_map_answer (answer : RpcStorageProofsQuery → RpcStorageProof)
    (queries : List RpcStorageProofsQuery) :
    queries.zip (queries.map answer) = queries.map fun q => (q, answer q) := by
  simpa using List.zip_map' (f := id) (g := answer) (l := queries)

/-- The paths that one storage map contributes to a position. -/
def pathsAt (state : FixedState) (query : RpcStorageProofsQuery) (idx : Nat)
    (csk : ContractStorageKeys) : List (List Felt) :=
  if (addrToIdx query).get? csk.contractAddress = some idx then state.storagePaths csk else []

theorem unionOf_storageWrites (node : HonestNode) (query : RpcStorageProofsQuery) (idx : Nat)
    (queries : List RpcStorageProofsQuery) :
    IndexMap.UnionOf node.node
      ((queries.flatMap RpcStorageProofsQuery.contractStorageKeys).flatMap
        (pathsAt node.toFixedState query idx))
      (IndexMap.empty.extend (storageWrites (addrToIdx query) idx
        (chunkStorageMaps (queries.map fun q => (q, node.answer q))))) := by
  have hentries : ∀ entry ∈ chunkStorageMaps (queries.map fun q => (q, node.answer q)),
      IndexMap.UnionOf node.node (pathsAt node.toFixedState query idx entry.1)
        (if (addrToIdx query).get? entry.1.contractAddress = some idx then entry.2
          else .empty) := by
    intro entry hentry
    obtain ⟨chunk, hchunk, hzip⟩ := List.mem_flatMap.mp hentry
    obtain ⟨q, -, rfl⟩ := List.mem_map.mp hchunk
    have hunion := (List.forall₂_iff_zip.mp (node.honest q).storage).2 hzip
    unfold pathsAt
    split
    · exact hunion
    · exact IndexMap.unionOf_empty _
  have hall := IndexMap.UnionOf.extend_flatMap hentries (IndexMap.unionOf_empty node.node)
  have hfst : (chunkStorageMaps (queries.map fun q => (q, node.answer q))).map Prod.fst =
      queries.flatMap RpcStorageProofsQuery.contractStorageKeys := by
    rw [chunkStorageMaps, List.flatMap_map, List.map_flatMap]
    congr 1
    funext q
    exact List.map_fst_zip (node.honest q).storage.length_eq.le
  have hpaths : (chunkStorageMaps (queries.map fun q => (q, node.answer q))).flatMap
        (fun entry => pathsAt node.toFixedState query idx entry.1) =
      (queries.flatMap RpcStorageProofsQuery.contractStorageKeys).flatMap
        (pathsAt node.toFixedState query idx) := by
    rw [← hfst, List.flatMap_map]
  rw [List.nil_append, hpaths] at hall
  convert hall using 3
  rw [storageWrites]
  congr 1
  funext entry
  split <;> rfl

/-- The paths that all pieces together contribute to the position of an entry
are the paths of the keys of that entry. -/
theorem mem_flatMap_pathsAt_iff (state : FixedState)
    (hpieces : pieces.flatten = flattenQuery query)
    (hnodup : (query.contractStorageKeys.map ContractStorageKeys.contractAddress).Nodup)
    {idx : Nat} {csk : ContractStorageKeys} (hcsk : query.contractStorageKeys[idx]? = some csk)
    (path : List Felt) :
    path ∈ ((pieces.map collectQuery).flatMap
        RpcStorageProofsQuery.contractStorageKeys).flatMap (pathsAt state query idx) ↔
      path ∈ state.storagePaths csk := by
  have hlocate : ∀ address, (addrToIdx query).get? address = some idx ↔
      address = csk.contractAddress := by
    intro address
    rw [get?_addrToIdx_eq_some_iff hnodup, List.getElem?_map, hcsk]
    simp [eq_comm]
  have hkeys : ∀ key, (∃ entry ∈ (pieces.map collectQuery).flatMap
        RpcStorageProofsQuery.contractStorageKeys,
      entry.contractAddress = csk.contractAddress ∧ key ∈ entry.storageKeys) ↔
        key ∈ csk.storageKeys := by
    intro key
    rw [← mem_requestedKeys, requestedKeys, List.flatMap_assoc]
    have hrequested := flatMap_requestedKeys_of_pieces hpieces
    simp only [requestedKeys] at hrequested
    rw [hrequested]
    constructor
    · intro hmem
      obtain ⟨csk', hcsk', haddress, hkey⟩ := mem_requestedKeys.mp hmem
      obtain rfl := List.inj_on_of_nodup_map hnodup hcsk' (List.mem_of_getElem? hcsk) haddress
      exact hkey
    · intro hkey
      exact mem_requestedKeys.mpr ⟨csk, List.mem_of_getElem? hcsk, rfl, hkey⟩
  rw [List.mem_flatMap]
  constructor
  · rintro ⟨entry, hentry, hpath⟩
    rw [pathsAt] at hpath
    split at hpath
    · next hidx =>
      have haddress := (hlocate _).mp hidx
      obtain ⟨key, hkey, rfl⟩ := List.mem_map.mp hpath
      rw [haddress]
      exact List.mem_map_of_mem ((hkeys key).mp ⟨entry, hentry, haddress, hkey⟩)
    · simp at hpath
  · intro hpath
    obtain ⟨key, hkey, rfl⟩ := List.mem_map.mp hpath
    obtain ⟨entry, hentry, haddress, hkey'⟩ := (hkeys key).mpr hkey
    refine ⟨entry, hentry, ?_⟩
    rw [pathsAt, if_pos ((hlocate _).mpr haddress), ← haddress]
    exact List.mem_map_of_mem hkey'

/-- The closed form of the merge is what the state says about the query. -/
theorem answers_mergedProof (hpieces : pieces.flatten = flattenQuery query)
    (hnodup : (query.contractStorageKeys.map ContractStorageKeys.contractAddress).Nodup) :
    node.Answers query (mergedProof node.roots query
      ((pieces.map collectQuery).map fun q => (q, node.answer q))) where
  roots := rfl
  leaves := by
    have hleaves : ∀ q, (node.answer q).contractsProof.contractLeavesData =
        q.contractAddresses.map node.leaf := fun q => (node.honest q).leaves
    rw [← flatMap_contractAddresses_of_pieces hpieces, List.map_flatMap]
    simp only [mergedProof, absorb, emptyProof, List.nil_append, List.flatMap_map, hleaves]
  classes := by
    have hunion := IndexMap.UnionOf.extend_flatMap
      (fun q (_ : q ∈ pieces.map collectQuery) => (node.honest q).classes)
      (IndexMap.unionOf_empty node.node)
    have hpaths : (pieces.map collectQuery).flatMap
        (fun q => node.classPaths q.classHashes) = node.classPaths query.classHashes := by
      rw [← flatMap_classHashes_of_pieces hpieces, FixedState.classPaths, List.map_flatMap]
      rfl
    rw [List.nil_append, hpaths] at hunion
    simpa [mergedProof, absorb, emptyProof, List.flatMap_map] using hunion
  contracts := by
    have hunion := IndexMap.UnionOf.extend_flatMap
      (fun q (_ : q ∈ pieces.map collectQuery) => (node.honest q).contracts)
      (IndexMap.unionOf_empty node.node)
    have hpaths : (pieces.map collectQuery).flatMap
        (fun q => node.contractPaths q.contractAddresses) =
          node.contractPaths query.contractAddresses := by
      rw [← flatMap_contractAddresses_of_pieces hpieces, FixedState.contractPaths,
        List.map_flatMap]
      rfl
    rw [List.nil_append, hpaths] at hunion
    simpa [mergedProof, absorb, emptyProof, List.flatMap_map] using hunion
  storage := by
    rw [List.forall₂_iff_get]
    refine ⟨by simp [mergedProof, absorb, emptyProof], fun i h₁ h₂ => ?_⟩
    have hcsk : query.contractStorageKeys[i]? = some query.contractStorageKeys[i] :=
      List.getElem?_eq_getElem h₁
    have hunion := (unionOf_storageWrites node query i (pieces.map collectQuery)).of_mem_iff
      (mem_flatMap_pathsAt_iff node.toFixedState hpieces hnodup hcsk)
    simpa [mergedProof, absorb, emptyProof] using hunion

/-- Merging the answers to the pieces of a query succeeds and gives an answer
to the query. -/
theorem exists_merge_answers (hpieces : pieces.flatten = flattenQuery query)
    (hne : pieces ≠ [])
    (hnodup : (query.contractStorageKeys.map ContractStorageKeys.contractAddress).Nodup) :
    ∃ merged, mergeStorageProofs (ε := ε) ((pieces.map collectQuery).map node.answer)
        (pieces.map collectQuery) query = .ok merged ∧ node.Answers query merged := by
  obtain ⟨piece, rest, hcons⟩ := List.exists_cons_of_ne_nil hne
  have hlen : ((pieces.map collectQuery).map node.answer).length = pieces.length := by simp
  have hfirst : ((pieces.map collectQuery).map node.answer).head? =
      some (node.answer (collectQuery piece)) := by simp [hcons]
  refine ⟨_, mergeStorageProofs_of_pieces hpieces hlen hfirst, ?_⟩
  rw [(node.honest (collectQuery piece)).roots, zip_map_answer]
  exact answers_mergedProof hpieces hnodup

end Pieces

/-- Fetching in chunks of any size and merging gives the proof that fetching
at once gives. -/
theorem sameProof_merge_split (node : HonestNode) (query : RpcStorageProofsQuery) (maxKeys : Nat)
    (hmax : 0 < maxKeys) (hkeys : 0 < countTotalKeys query)
    (hnodup : (query.contractStorageKeys.map ContractStorageKeys.contractAddress).Nodup) :
    ∃ chunks merged, splitQuery (ε := ε) query maxKeys = .ok chunks ∧
      mergeStorageProofs (ε := ε) (chunks.map node.answer) chunks query = .ok merged ∧
      SameProof merged (node.answer query) := by
  have hne : chunks maxKeys (flattenQuery query) ≠ [] := by
    rw [Ne, chunks_eq_nil_iff hmax, ← List.length_eq_zero_iff, length_flattenQuery]
    omega
  obtain ⟨merged, hmerged, hanswers⟩ :=
    exists_merge_answers (flatten_chunks hmax (flattenQuery query)) hne hnodup
  refine ⟨_, merged, by rw [splitQuery, if_pos hmax], hmerged, ?_⟩
  exact sameProof_of_answers hanswers (node.honest query)

/-- Every path ends in the node of its key. -/
def smallState : FixedState where
  roots := ⟨1, 2⟩
  leaf address := ⟨0, address.key, some 4⟩
  node hash := .binaryNode hash hash
  classPath hash := [1, hash]
  contractPath address := [2, address.key]
  storagePath _ key := [3, key]

/-- Two contracts, one of them without keys. -/
def twoContractsQuery : RpcStorageProofsQuery :=
  ⟨[7], [default], [⟨1, []⟩, ⟨2, [5, 6]⟩]⟩

theorem sameProof_merge_split_twoContracts :
    ∃ chunks merged, splitQuery (ε := Unit) twoContractsQuery 3 = .ok chunks ∧
      mergeStorageProofs (ε := Unit) (chunks.map (HonestNode.ofState smallState).answer) chunks
        twoContractsQuery = .ok merged ∧
      SameProof merged ((HonestNode.ofState smallState).answer twoContractsQuery) :=
  sameProof_merge_split _ twoContractsQuery 3 (by decide) (by decide) (by decide)

end Snip36.HonestAnswers
