import Snip36.StorageQuery
import Snip36.Library.IndexMap

/-!
The answer to a storage proof request and the merge of the answers to the
chunks of one query. The merge re-indexes the storage maps by contract address;
`mergedProof` says in one expression what its loops compute.
-/

namespace Snip36.StorageMerge

open Library
open Library.Interaction
open StorageQuery

inductive MerkleNode where
  | binaryNode (left right : Felt)
  | edgeNode (path : Felt) (length : Nat) (child : Felt)
  deriving DecidableEq

structure ContractLeafData where
  nonce : Felt
  classHash : Felt
  storageRoot : Option Felt
  deriving DecidableEq

structure GlobalRoots where
  contractsTreeRoot : Felt
  classesTreeRoot : Felt
  deriving DecidableEq

abbrev NodeMap := IndexMap Felt MerkleNode

structure ContractsProof where
  nodes : NodeMap
  contractLeavesData : List ContractLeafData

structure RpcStorageProof where
  classesProof : NodeMap
  contractsProof : ContractsProof
  contractsStorageProofs : List NodeMap
  globalRoots : GlobalRoots

variable {ε : Type}

/-- The position of every contract of the original query; the last position
wins if a contract occurs twice. -/
def addrToIdx (query : RpcStorageProofsQuery) : IndexMap Felt Nat :=
  .ofList (query.contractStorageKeys.map ContractStorageKeys.contractAddress).zipIdx

/-- One pass of the inner loop: add the nodes of one storage map to the map at
the position of its contract. -/
def mergeStorageMap (positions : IndexMap Felt Nat) (maps : List NodeMap)
    (entry : ContractStorageKeys × NodeMap) : Outcome ε (List NodeMap) :=
  match positions.get? entry.1.contractAddress with
  | some idx => .ok (maps.modify idx fun m => m.extend entry.2.entries)
  | none => .panicked "chunk address not in original query"

/-- One pass of the outer loop. -/
def mergeChunk (positions : IndexMap Felt Nat) (acc : RpcStorageProof)
    (chunk : RpcStorageProofsQuery × RpcStorageProof) : Outcome ε RpcStorageProof := do
  let maps ← (chunk.1.contractStorageKeys.zip chunk.2.contractsStorageProofs).foldlM
    (mergeStorageMap positions) acc.contractsStorageProofs
  pure
    { classesProof := acc.classesProof.extend chunk.2.classesProof.entries
      contractsProof :=
        { nodes := acc.contractsProof.nodes.extend chunk.2.contractsProof.nodes.entries
          contractLeavesData :=
            acc.contractsProof.contractLeavesData ++ chunk.2.contractsProof.contractLeavesData }
      contractsStorageProofs := maps
      globalRoots := acc.globalRoots }

/-- The proof that the merge starts from: nothing yet, one empty storage map
for every contract of the original query. -/
def emptyProof (roots : GlobalRoots) (originalQuery : RpcStorageProofsQuery) :
    RpcStorageProof where
  classesProof := .empty
  contractsProof := { nodes := .empty, contractLeavesData := [] }
  contractsStorageProofs := List.replicate originalQuery.contractStorageKeys.length .empty
  globalRoots := roots

def mergeStorageProofs (proofs : List RpcStorageProof)
    (splitQueries : List RpcStorageProofsQuery) (originalQuery : RpcStorageProofsQuery) :
    Outcome ε RpcStorageProof :=
  if proofs.length = splitQueries.length then
    match proofs with
    | [] => .panicked "cannot merge zero proofs"
    | first :: _ =>
        (splitQueries.zip proofs).foldlM (mergeChunk (addrToIdx originalQuery))
          (emptyProof first.globalRoots originalQuery)
  else .panicked "proofs/queries length mismatch"

/-! ### What the loops compute -/

/-- The nodes that a list of storage maps contributes to one position. -/
def storageWrites (positions : IndexMap Felt Nat) (idx : Nat)
    (entries : List (ContractStorageKeys × NodeMap)) : List (Felt × MerkleNode) :=
  entries.flatMap fun entry =>
    if positions.get? entry.1.contractAddress = some idx then entry.2.entries else []

def chunkStorageMaps (chunks : List (RpcStorageProofsQuery × RpcStorageProof)) :
    List (ContractStorageKeys × NodeMap) :=
  chunks.flatMap fun chunk => chunk.1.contractStorageKeys.zip chunk.2.contractsStorageProofs

/-- Every storage map is for a contract with a position. -/
def Located (positions : IndexMap Felt Nat)
    (entries : List (ContractStorageKeys × NodeMap)) : Prop :=
  ∀ entry ∈ entries, entry.1.contractAddress ∈ positions.keys

theorem modify_eq_mapIdx {α : Type} (f : α → α) (n : Nat) (l : List α) :
    l.modify n f = l.mapIdx fun i a => if n = i then f a else a := by
  apply List.ext_getElem?
  intro i
  rw [List.getElem?_modify, List.getElem?_mapIdx]
  rfl

theorem mapIdx_keep {α : Type} (l : List α) : (l.mapIdx fun _ a => a) = l := by
  apply List.ext_getElem?
  intro i
  simp [List.getElem?_mapIdx]

theorem foldlM_mergeStorageMap_eq_ok_iff {positions : IndexMap Felt Nat}
    {entries : List (ContractStorageKeys × NodeMap)} {maps result : List NodeMap} :
    entries.foldlM (mergeStorageMap (ε := ε) positions) maps = .ok result ↔
      Located positions entries ∧
        result = maps.mapIdx fun i m => m.extend (storageWrites positions i entries) := by
  induction entries generalizing maps with
  | nil => simp [Located, storageWrites, mapIdx_keep, eq_comm]
  | cons entry rest ih =>
      rw [List.foldlM_cons, Outcome.bind_eq_ok_iff]
      rcases hidx : positions.get? entry.1.contractAddress with _ | idx
      · have hnot := IndexMap.get?_eq_none_iff.mp hidx
        simp [mergeStorageMap, hidx, Located, hnot]
      · have hmem := IndexMap.mem_keys_of_get? hidx
        have hpass : mergeStorageMap (ε := ε) positions maps entry =
            .ok (maps.modify idx fun m => m.extend entry.2.entries) := by
          simp [mergeStorageMap, hidx]
        have hmaps : ((maps.modify idx fun m => m.extend entry.2.entries).mapIdx fun i m =>
              m.extend (storageWrites positions i rest)) =
            maps.mapIdx fun i m => m.extend (storageWrites positions i (entry :: rest)) := by
          rw [modify_eq_mapIdx, List.mapIdx_mapIdx]
          congr 1
          funext i m
          by_cases hi : idx = i
          · simp [storageWrites, hidx, hi, IndexMap.extend_append]
          · simp [storageWrites, hidx, hi]
        simp only [hpass, Outcome.ok.injEq, exists_eq_left', ih, hmaps, Located,
          List.forall_mem_cons, hmem, true_and]

/-- What a run of the outer loop over these chunks adds to a proof. -/
def absorb (positions : IndexMap Felt Nat) (acc : RpcStorageProof)
    (chunks : List (RpcStorageProofsQuery × RpcStorageProof)) : RpcStorageProof where
  classesProof := acc.classesProof.extend
    (chunks.flatMap fun chunk => chunk.2.classesProof.entries)
  contractsProof :=
    { nodes := acc.contractsProof.nodes.extend
        (chunks.flatMap fun chunk => chunk.2.contractsProof.nodes.entries)
      contractLeavesData := acc.contractsProof.contractLeavesData ++
        chunks.flatMap fun chunk => chunk.2.contractsProof.contractLeavesData }
  contractsStorageProofs := acc.contractsStorageProofs.mapIdx fun i m =>
    m.extend (storageWrites positions i (chunkStorageMaps chunks))
  globalRoots := acc.globalRoots

theorem absorb_nil (positions : IndexMap Felt Nat) (acc : RpcStorageProof) :
    absorb positions acc [] = acc := by
  simp [absorb, chunkStorageMaps, storageWrites, mapIdx_keep]

theorem absorb_cons (positions : IndexMap Felt Nat) (acc : RpcStorageProof)
    (chunk : RpcStorageProofsQuery × RpcStorageProof)
    (rest : List (RpcStorageProofsQuery × RpcStorageProof)) :
    absorb positions acc (chunk :: rest) =
      absorb positions (absorb positions acc [chunk]) rest := by
  simp [absorb, chunkStorageMaps, storageWrites, IndexMap.extend_append, List.mapIdx_mapIdx,
    Function.comp_def]

theorem mergeChunk_eq_ok_iff {positions : IndexMap Felt Nat} {acc next : RpcStorageProof}
    {chunk : RpcStorageProofsQuery × RpcStorageProof} :
    mergeChunk (ε := ε) positions acc chunk = .ok next ↔
      Located positions (chunkStorageMaps [chunk]) ∧ next = absorb positions acc [chunk] := by
  rw [mergeChunk, Outcome.bind_eq_ok_iff]
  simp only [foldlM_mergeStorageMap_eq_ok_iff, Outcome.pure_eq_ok, Outcome.ok.injEq]
  constructor
  · rintro ⟨maps, ⟨hloc, rfl⟩, rfl⟩
    exact ⟨by simpa [chunkStorageMaps] using hloc, by simp [absorb, chunkStorageMaps]⟩
  · rintro ⟨hloc, rfl⟩
    exact ⟨_, ⟨by simpa [chunkStorageMaps] using hloc, rfl⟩, by simp [absorb, chunkStorageMaps]⟩

theorem foldlM_mergeChunk_eq_ok_iff {positions : IndexMap Felt Nat}
    {chunks : List (RpcStorageProofsQuery × RpcStorageProof)} {acc result : RpcStorageProof} :
    chunks.foldlM (mergeChunk (ε := ε) positions) acc = .ok result ↔
      Located positions (chunkStorageMaps chunks) ∧ result = absorb positions acc chunks := by
  induction chunks generalizing acc with
  | nil => simp [Located, chunkStorageMaps, absorb_nil, eq_comm]
  | cons chunk rest ih =>
      have hloc : Located positions (chunkStorageMaps (chunk :: rest)) ↔
          Located positions (chunkStorageMaps [chunk]) ∧
            Located positions (chunkStorageMaps rest) := by
        simp only [Located, chunkStorageMaps, List.flatMap_cons, List.flatMap_nil,
          List.append_nil, List.forall_mem_append]
      rw [List.foldlM_cons, Outcome.bind_eq_ok_iff, hloc, absorb_cons]
      simp only [mergeChunk_eq_ok_iff, ih]
      constructor
      · rintro ⟨next, ⟨hfirst, rfl⟩, hrest, rfl⟩
        exact ⟨⟨hfirst, hrest⟩, rfl⟩
      · rintro ⟨⟨hfirst, hrest⟩, rfl⟩
        exact ⟨_, ⟨hfirst, rfl⟩, hrest, rfl⟩

/-- The merged proof in closed form. -/
def mergedProof (roots : GlobalRoots) (originalQuery : RpcStorageProofsQuery)
    (chunks : List (RpcStorageProofsQuery × RpcStorageProof)) : RpcStorageProof :=
  absorb (addrToIdx originalQuery) (emptyProof roots originalQuery) chunks

/-- The merge succeeds exactly when there is one answer for every chunk, at
least one of them, and every storage map has a position; it then computes the
closed form with the roots of the first answer. -/
theorem mergeStorageProofs_eq_ok_iff {proofs : List RpcStorageProof}
    {splitQueries : List RpcStorageProofsQuery} {originalQuery : RpcStorageProofsQuery}
    {result : RpcStorageProof} :
    mergeStorageProofs (ε := ε) proofs splitQueries originalQuery = .ok result ↔
      proofs.length = splitQueries.length ∧
        Located (addrToIdx originalQuery) (chunkStorageMaps (splitQueries.zip proofs)) ∧
          ∃ first ∈ proofs.head?, result =
            mergedProof first.globalRoots originalQuery (splitQueries.zip proofs) := by
  unfold mergeStorageProofs
  split
  · next hlen =>
    cases proofs with
    | nil => simp
    | cons first rest =>
        simp only [foldlM_mergeChunk_eq_ok_iff, hlen, true_and, List.head?_cons,
          Option.mem_def, Option.some.injEq, exists_eq_left']
        rfl
  · next hlen => simp [hlen]

/-! ### Merging the answers to the pieces of a query -/

theorem mem_keys_addrToIdx {query : RpcStorageProofsQuery} {address : Felt} :
    address ∈ (addrToIdx query).keys ↔
      address ∈ query.contractStorageKeys.map ContractStorageKeys.contractAddress := by
  rw [addrToIdx, IndexMap.mem_keys_ofList, List.zipIdx_map_fst]

/-- With pairwise distinct contracts the position of one is where it stands. -/
theorem get?_addrToIdx_eq_some_iff {query : RpcStorageProofsQuery}
    (hnodup : (query.contractStorageKeys.map ContractStorageKeys.contractAddress).Nodup)
    {address : Felt} {idx : Nat} :
    (addrToIdx query).get? address = some idx ↔
      (query.contractStorageKeys.map ContractStorageKeys.contractAddress)[idx]? =
        some address := by
  have hkeys : ((query.contractStorageKeys.map
      ContractStorageKeys.contractAddress).zipIdx.map Prod.fst).Nodup := by
    rw [List.zipIdx_map_fst]
    exact hnodup
  have hforward : ∀ {i : Nat}, (query.contractStorageKeys.map
      ContractStorageKeys.contractAddress)[i]? = some address →
        (addrToIdx query).get? address = some i := fun hi =>
    IndexMap.get?_ofList_of_mem hkeys (List.mem_zipIdx_iff_getElem?.mpr hi)
  constructor
  · intro hidx
    obtain ⟨i, hi⟩ := List.mem_iff_getElem?.mp
      (mem_keys_addrToIdx.mp (IndexMap.mem_keys_of_get? hidx))
    obtain rfl := Option.some.inj ((hforward hi).symm.trans hidx)
    exact hi
  · exact hforward

/-- The merge never meets a contract that the original query does not have. -/
theorem located_of_pieces {query : RpcStorageProofsQuery} {pieces : List (List QueryItem)}
    (hpieces : pieces.flatten = flattenQuery query) (proofs : List RpcStorageProof) :
    Located (addrToIdx query) (chunkStorageMaps ((pieces.map collectQuery).zip proofs)) := by
  intro entry hentry
  obtain ⟨chunk, hchunk, hzip⟩ := List.mem_flatMap.mp hentry
  rw [mem_keys_addrToIdx]
  exact contractAddress_mem_of_piece hpieces (List.of_mem_zip hchunk).1 (List.of_mem_zip hzip).1

/-- So the answers to the pieces of a query always merge, if there is one for
each piece and at least one. -/
theorem mergeStorageProofs_of_pieces {query : RpcStorageProofsQuery}
    {pieces : List (List QueryItem)} (hpieces : pieces.flatten = flattenQuery query)
    {proofs : List RpcStorageProof} (hlen : proofs.length = pieces.length)
    {first : RpcStorageProof} (hfirst : proofs.head? = some first) :
    mergeStorageProofs (ε := ε) proofs (pieces.map collectQuery) query =
      .ok (mergedProof first.globalRoots query ((pieces.map collectQuery).zip proofs)) := by
  rw [mergeStorageProofs_eq_ok_iff]
  exact ⟨by simpa using hlen, located_of_pieces hpieces proofs, first, hfirst, rfl⟩

end Snip36.StorageMerge
