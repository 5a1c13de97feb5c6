import Snip36.FactsContents
import Snip36.Library.PatriciaTree
import Snip36.ProofAssociation

/-!
A node whose state is three kinds of Patricia trees. What the provider makes of
its answers is enough to follow every key that was read from the root of the
state down to its leaf.
-/

namespace Snip36.StateTries

open ExecutionData
open FactsDb
open HonestAnswers
open Library
open Library.Fallible
open Library.Interaction
open Library.PatriciaTree
open ProofAssociation
open Rpc
open StorageMerge
open StorageProofProvider
open StorageQuery

/-! ### Keys and paths as numbers -/

/-- The lowest bits of a number, the highest of them first. -/
def bits (length n : Nat) : List Bool :=
  (List.range length).map fun i => n.testBit (length - 1 - i)

def keyBits (key : Felt) : List Bool := bits actualHeight key.val

/-- The number that a path is sent as. -/
def pathNumber (path : List Bool) : Nat := (BitVec.ofBoolListBE path).toNat

theorem length_bits (length n : Nat) : (bits length n).length = length := by
  simp [bits]

theorem bits_pathNumber (path : List Bool) : bits path.length (pathNumber path) = path := by
  apply List.ext_getElem (length_bits _ _)
  intro i _ hi
  have hbit : (pathNumber path).testBit (path.length - 1 - i) =
      (BitVec.ofBoolListBE path).getLsbD (path.length - 1 - i) := rfl
  have hindex : path.length - 1 - (path.length - 1 - i) = i := by omega
  have hlt : path.length - 1 - i < path.length := by omega
  simp [bits, hbit, hindex, hlt]

theorem pathNumber_lt (path : List Bool) : pathNumber path < 2 ^ path.length :=
  (BitVec.ofBoolListBE path).isLt

/-! ### The facts of a tree -/

/-- A node as the methods for storage proofs send it. -/
def merkleNode : Node Felt → MerkleNode
  | .binary left right => .binaryNode left right
  | .edge path child => .edgeNode (Felt.fromNat (pathNumber path)) path.length child

/-- How the commitment facts of a node are laid out. -/
structure FlattensNodes (api : CommitterApi) : Prop where
  binary : ∀ left right, api.flatten (api.preimageFrom (.binaryNode left right)) = [left, right]
  edge : ∀ path length child, api.flatten (api.preimageFrom (.edgeNode path length child)) =
    [Felt.fromNat length, path, child]

/-- How a reader tells the two kinds of nodes apart. -/
def readFact : List Felt → Option (Node Felt)
  | [left, right] => some (.binary left right)
  | [length, path, bottom] => some (.edge (bits length.val path.val) bottom)
  | _ => none

/-- What commitment facts show of a key under their root. -/
def shown (info : CommitmentInfo) (key : Felt) : Option (Option Felt) :=
  find (fun hash => (info.commitmentFacts.get? hash).bind readFact) 0 info.previousRoot
    (bits info.treeHeight key.val)

/-- The edges of a tree are not longer than its keys. -/
def Short : Node Felt → Prop
  | .binary _ _ => True
  | .edge path _ => path.length ≤ actualHeight

theorem readFact_flatten {api : CommitterApi} (hflattens : FlattensNodes api) {node : Node Felt}
    (hshort : Short node) : readFact (api.flatten (api.preimageFrom (merkleNode node))) =
      some node := by
  cases node with
  | binary left right =>
      rw [merkleNode, hflattens.binary]
      rfl
  | edge path child =>
      have hlength : (Felt.fromNat path.length).val = path.length :=
        Felt.val_fromNat (lt_starkPrime (Nat.lt_of_le_of_lt hshort (by decide)))
      have hnumber : (Felt.fromNat (pathNumber path)).val = pathNumber path := by
        apply Felt.val_fromNat
        apply lt_starkPrime
        exact Nat.lt_of_lt_of_le (pathNumber_lt path) (Nat.pow_le_pow_right (by decide) hshort)
      rw [merkleNode, hflattens.edge, readFact, hlength, hnumber, bits_pathNumber]

abbrev StateTree {V : Type} (hashing : Hashing V Felt) := Tree hashing (0 : Felt) actualHeight

section Tree

variable {V : Type} {hashing : Hashing V Felt} {tree : StateTree hashing} {key : Felt}
  {s : Trie V} {node : Node Felt}

theorem short_of_mem_visited (hs : s ∈ tree.visited (keyBits key))
    (hnode : s.node? hashing = some node) : Short node := by
  obtain ⟨below, hbelow, hfits⟩ := tree.fits_of_mem_visited hs
  cases s with
  | leaf value => cases hnode
  | binary left right =>
      cases hnode
      trivial
  | edge path child =>
      cases hnode
      obtain ⟨-, rest, rfl, -⟩ := hfits
      exact Nat.le_trans (Nat.le_add_right _ _) hbelow

/-- The table of a node has the inner nodes on the way to a key. -/
def Tabled (table : Felt → MerkleNode) (tree : StateTree hashing) (key : Felt) : Prop :=
  ∀ s ∈ tree.visited (keyBits key), ∃ node, s.node? hashing = some node ∧
    table (s.hash hashing) = merkleNode node

/-- Facts for the path of a key show what the tree has there. -/
theorem shown_of_path {api : CommitterApi} (hflattens : FlattensNodes api)
    {table : Felt → MerkleNode} (htable : Tabled table tree key) {info : CommitmentInfo}
    (hroot : info.previousRoot = tree.rootHash) (hheight : info.treeHeight = actualHeight)
    (hfacts : ∀ hash ∈ tree.path (keyBits key), info.commitmentFacts.get? hash =
      some (api.flatten (api.preimageFrom (table hash)))) :
    shown info key = some ((tree.lookup (keyBits key)).map hashing.leaf) := by
  rw [shown, hroot, hheight]
  apply tree.find_rootHash (length_bits _ _)
  intro s hs
  obtain ⟨node, hnode, hentry⟩ := htable s hs
  rw [hfacts _ (List.mem_map_of_mem hs), hentry, Option.bind_some,
    readFact_flatten hflattens (short_of_mem_visited hs hnode), hnode]

end Tree

/-! ### A state of trees -/

/-- What the leaves and nodes of the three kinds of trees are hashed with. -/
structure Commitments where
  contract : Hashing ContractLeafData Felt
  storage : Hashing Felt Felt
  compiledClass : Hashing Felt Felt

structure Tries (commitments : Commitments) where
  contracts : StateTree commitments.contract
  storage : ContractAddress → StateTree commitments.storage
  classes : StateTree commitments.compiledClass

variable {commitments : Commitments}

/-- The state is that of the trees: its roots, its leaves, the paths of its keys
and its table of nodes. -/
structure Represents (tries : Tries commitments) (state : FixedState) : Prop where
  contractsRoot : state.roots.contractsTreeRoot = tries.contracts.rootHash
  classesRoot : state.roots.classesTreeRoot = tries.classes.rootHash
  storageRoot : ∀ address, (state.leaf address).storageRoot.getD 0 = (tries.storage address).rootHash
  leaf : ∀ address leaf, tries.contracts.lookup (keyBits address.key) = some leaf →
    state.leaf address = leaf
  contractPath : ∀ address, state.contractPath address = tries.contracts.path (keyBits address.key)
  storagePath : ∀ (address : ContractAddress) (key : Felt),
    state.storagePath address.key key = (tries.storage address).path (keyBits key)
  classPath : ∀ hash, state.classPath hash = tries.classes.path (keyBits hash)
  contractNodes : ∀ key, Tabled state.node tries.contracts key
  storageNodes : ∀ address key, Tabled state.node (tries.storage address) key
  classNodes : ∀ key, Tabled state.node tries.classes key

/-- What is handed to the virtual OS shows every read, from the roots of the state:
the leaf of each contract that was touched, with the nonce, the class hash and the
storage root that stand beside it, each storage key under that root, and each class
that was executed. -/
structure ShowsReads (tries : Tries commitments) (executionData : VirtualBlockExecutionData)
    (result : StorageProofs) : Prop where
  contractsRoot : result.commitmentInfos.contractsTrieCommitmentInfo.previousRoot =
    tries.contracts.rootHash
  classesRoot : result.commitmentInfos.classesTrieCommitmentInfo.previousRoot =
    tries.classes.rootHash
  contracts : ∀ address ∈ executionData.initialReads.touchedAddresses,
    shown result.commitmentInfos.contractsTrieCommitmentInfo address.key =
      some ((tries.contracts.lookup (keyBits address.key)).map commitments.contract.leaf)
  leaves : ∀ address ∈ executionData.initialReads.touchedAddresses, ∀ leaf,
    tries.contracts.lookup (keyBits address.key) = some leaf →
      result.extendedInitialReads.nonces.get? address = some leaf.nonce ∧
      result.extendedInitialReads.classHashes.get? address = some leaf.classHash ∧
      leaf.storageRoot.getD 0 = (tries.storage address).rootHash
  storage : ∀ address key, ReadAt executionData.initialReads address key → ∃ info,
    result.commitmentInfos.storageTriesCommitmentInfos.get? address = some info ∧
      info.previousRoot = (tries.storage address).rootHash ∧
      shown info key.key =
        some (((tries.storage address).lookup (keyBits key.key)).map commitments.storage.leaf)
  classes : ∀ hash ∈ executionData.executedClassHashes.elements,
    shown result.commitmentInfos.classesTrieCommitmentInfo hash =
      some ((tries.classes.lookup (keyBits hash)).map commitments.compiledClass.leaf)

theorem touched_of_readAt {reads : StateMaps} {address : ContractAddress} {key : StorageKey}
    (h : ReadAt reads address key) : address ∈ reads.touchedAddresses := by
  have hkey : address ∈ reads.storage.keys.map Prod.fst :=
    List.mem_map.mpr ⟨(address, key), h, rfl⟩
  simp [StateMaps.touchedAddresses, hkey]

section Shows

variable {api : CommitterApi} {tries : Tries commitments} {state : FixedState}
  {getContractAddresses : StateMaps → HashSet ContractAddress}
  {executionData : VirtualBlockExecutionData} {proof : RpcStorageProof}

theorem get?_unchangedTrie {root : Felt} {nodes : NodeMap} {paths : List (List Felt)}
    (hunion : IndexMap.UnionOf state.node paths nodes) {path : List Felt} (hpath : path ∈ paths)
    {hash : Felt} (hhash : hash ∈ path) :
    (unchangedTrie api root nodes).commitmentFacts.get? hash =
      some (api.flatten (api.preimageFrom (state.node hash))) := by
  have hmem : hash ∈ paths.flatten := List.mem_flatten.mpr ⟨path, hpath, hhash⟩
  simp [unchangedTrie, flattenPreimages, rpcNodesToPreimageMap, IndexMap.get?_mapValues,
    hunion.get?_eq, hmem]

section Answers

variable (hflattens : FlattensNodes api) (htries : Represents tries state)
  (haddresses : ∀ maps address,
    address ∈ (getContractAddresses maps).elements ↔ address ∈ maps.touchedAddresses)
  (hproof : state.Answers (prepareQuery getContractAddresses executionData) proof)

include hproof

theorem buildStorageCommitmentInfos_of_answers :
    buildStorageCommitmentInfos api proof (prepareQuery getContractAddresses executionData) =
      .ok (.ofList (storageInfoPairs api (prepareQuery getContractAddresses executionData) proof)) :=
  buildStorageCommitmentInfos_eq_ok
    (nodup_contractAddresses_prepareQuery getContractAddresses executionData)
    (contractAddress_contractStorageKeys_prepareQuery getContractAddresses executionData)
    (length_leaves_of_answers hproof) hproof.storage.length_eq.symm

include hflattens htries haddresses

/-- The facts of a contract show the keys that were read there. -/
theorem exists_storageInfo_shown {address : ContractAddress} {key : StorageKey}
    (hread : ReadAt executionData.initialReads address key) :
    ∃ info, (IndexMap.ofList (storageInfoPairs api
        (prepareQuery getContractAddresses executionData) proof)).get? address = some info ∧
      info.previousRoot = (tries.storage address).rootHash ∧
      shown info key.key =
        some (((tries.storage address).lookup (keyBits key.key)).map commitments.storage.leaf) := by
  have hmem := (mem_contractAddresses_prepareQuery haddresses).mpr (touched_of_readAt hread)
  have hleaves := length_leaves_of_answers hproof
  have hmaps := length_maps_of_answers hproof
  obtain ⟨nodes, hmap, hnodes⟩ := exists_mem_zip_zip (mem_zip_leaf_of_answers hproof hmem)
    (hmaps.trans hleaves.symm)
  have hnodup := nodup_contractAddresses_prepareQuery getContractAddresses executionData
  refine ⟨_, get?_ofList_storageInfoPairs hnodup hleaves hmaps hnodes,
    htries.storageRoot address, ?_⟩
  apply shown_of_path hflattens (htries.storageNodes address key.key)
    (htries.storageRoot address) rfl
  intro hash hhash
  rw [← htries.storagePath] at hhash
  have hnode : nodes.get? hash = some (state.node hash) :=
    (unionOf_readPaths_of_answers hproof hmap hash _).mpr ⟨rfl, key, hread, hhash⟩
  simp [unchangedTrie, flattenPreimages, rpcNodesToPreimageMap, IndexMap.get?_mapValues, hnode]

theorem showsReads_of_answers {result : StorageProofs}
    (hreads : result.extendedInitialReads = extendInitialReads proof
      (prepareQuery getContractAddresses executionData) executionData.initialReads)
    (hinfos : createCommitmentInfosWithoutStateChanges api proof
      (prepareQuery getContractAddresses executionData) = .ok result.commitmentInfos) :
    ShowsReads tries executionData result := by
  rw [createCommitmentInfosWithoutStateChanges, buildStorageCommitmentInfos_of_answers hproof]
    at hinfos
  rcases result with ⟨reads, infos⟩
  obtain rfl := hreads
  obtain rfl := Except.ok.inj hinfos
  have hcontractsRoot : proof.globalRoots.contractsTreeRoot = tries.contracts.rootHash := by
    rw [hproof.roots, htries.contractsRoot]
  have hclassesRoot : proof.globalRoots.classesTreeRoot = tries.classes.rootHash := by
    rw [hproof.roots, htries.classesRoot]
  refine
    { contractsRoot := hcontractsRoot
      classesRoot := hclassesRoot
      contracts := fun address htouched => ?_
      leaves := fun address htouched leaf hleaf => ?_
      storage := fun address key hread => ?_
      classes := fun hash hexecuted => ?_ }
  · apply shown_of_path hflattens (htries.contractNodes address.key) hcontractsRoot rfl
    intro h hh
    rw [← htries.contractPath] at hh
    have hmem := (mem_contractAddresses_prepareQuery haddresses).mpr htouched
    exact get?_unchangedTrie hproof.contracts (List.mem_map_of_mem hmem) hh
  · obtain ⟨hnonce, hclass⟩ := associated_reads_of_answers haddresses hproof address
    have hstate := htries.leaf address leaf hleaf
    rw [if_pos htouched, hstate] at hnonce hclass
    rw [← hstate, ← htries.storageRoot, hstate]
    exact ⟨hnonce, hclass, rfl⟩
  · exact exists_storageInfo_shown hflattens htries haddresses hproof hread
  · apply shown_of_path hflattens (htries.classNodes hash) hclassesRoot rfl
    intro h hh
    rw [← htries.classPath] at hh
    exact get?_unchangedTrie hproof.classes (List.mem_map_of_mem hexecuted) hh

end Answers

end Shows

/-- Against an honest node the provider always returns, and what it returns shows
every read. -/
theorem reads_shown {api : CommitterApi} (hflattens : FlattensNodes api)
    {getContractAddresses : StateMaps → HashSet ContractAddress}
    (haddresses : ∀ maps address,
      address ∈ (getContractAddresses maps).elements ↔ address ∈ maps.touchedAddresses)
    (honest : HonestNode) {tries : Tries commitments}
    (htries : Represents tries honest.toFixedState) (blockNumber : Nat) {node : Rpc.Node}
    (hnode : AnswersFrom honest blockNumber node) (executionData : VirtualBlockExecutionData)
    (before : Conversation) :
    ∃ result after, Program.Returns node
        (getStorageProofs api getContractAddresses blockNumber executionData ⟨false⟩)
        before result after ∧ ShowsReads tries executionData result := by
  obtain ⟨proof, after, hfetch, hproof⟩ :=
    exists_returns_fetchProofs hnode nodup_contractStorageKeys_prepareQuery before
  obtain ⟨infos, hinfos⟩ : ∃ infos, createCommitmentInfosWithoutStateChanges api proof
      (prepareQuery getContractAddresses executionData) = .ok infos := by
    rw [createCommitmentInfosWithoutStateChanges, buildStorageCommitmentInfos_of_answers hproof]
    exact ⟨_, rfl⟩
  exact ⟨⟨_, infos⟩, after, returns_getStorageProofs_iff.mpr
    ⟨proof, hfetch, length_leaves_of_answers hproof, rfl, hinfos⟩,
    showsReads_of_answers hflattens htries haddresses hproof rfl hinfos⟩

/-! ### A small state -/

section Sample

def sampleFlattening : CommitterApi := { permissiveCommitter with
  preimageFrom := fun node => match node with
    | .binaryNode left right => .binary left right
    | .edgeNode path length child => .edge length path child
  flatten := fun preimage => match preimage with
    | .binary left right => [left, right]
    | .edge length path bottom => [Felt.fromNat length, path, bottom] }

theorem flattensNodes_sample : FlattensNodes sampleFlattening := ⟨fun _ _ => rfl, fun _ _ _ => rfl⟩

def sampleHashing {V : Type} (leaf : V → Felt) : Hashing V Felt where
  leaf := leaf
  node
    | .binary left right => left + right + 5
    | .edge path child => child + Felt.fromNat (1000 * (path.length - 249))

def sampleCommitments : Commitments where
  contract := sampleHashing fun leaf => leaf.nonce + leaf.classHash + leaf.storageRoot.getD 0
  storage := sampleHashing id
  compiledClass := sampleHashing id

def sampleLeaf : ContractLeafData := ⟨1, 2, some 2021⟩

def zeros (n : Nat) : List Bool := List.replicate n false

theorem fits_zeros {V : Type} {n : Nat} (hn : 0 < n) (value : V) :
    (Trie.edge (zeros n) (.leaf value)).Fits n := by
  have hlength : (zeros n).length = n := List.length_replicate
  refine ⟨?_, 0, hlength.symm, rfl⟩
  rw [← List.length_pos_iff, hlength]
  exact hn

/-- One contract. -/
def sampleContracts : StateTree sampleCommitments.contract where
  root := some (.edge (zeros 251) (.leaf sampleLeaf))
  fits := by
    rintro _ ⟨⟩
    exact fits_zeros (Nat.succ_pos 250) sampleLeaf
  hash_ne := by
    rintro _ ⟨⟩
    decide +kernel

def sampleSide (value : Felt) : Trie Felt := .edge (zeros 250) (.leaf value)

/-- The values 9 and 7 under the first and the middle key. -/
def sampleStorage : StateTree sampleCommitments.storage where
  root := some (.binary (sampleSide 9) (sampleSide 7))
  fits := by
    rintro _ ⟨⟩
    have hside (value : Felt) : (sampleSide value).Fits 250 := fits_zeros (Nat.succ_pos 249) value
    exact ⟨250, rfl, hside 9, hside 7⟩
  hash_ne := by
    rintro _ ⟨⟩
    decide +kernel

def sampleClasses : StateTree sampleCommitments.compiledClass := ⟨none, nofun, nofun⟩

def sampleTries : Tries sampleCommitments := ⟨sampleContracts, fun _ => sampleStorage, sampleClasses⟩

def sampleTable (hash : Felt) : MerkleNode :=
  if hash = 2021 then .binaryNode 1009 1007
  else if hash = 1009 then .edgeNode 0 250 9
  else if hash = 1007 then .edgeNode 0 250 7
  else .edgeNode 0 251 2024

def sampleState : FixedState where
  roots := ⟨4024, 0⟩
  leaf _ := sampleLeaf
  node := sampleTable
  classPath hash := sampleClasses.path (keyBits hash)
  contractPath address := sampleContracts.path (keyBits address.key)
  storagePath _ key := sampleStorage.path (keyBits key)

theorem tabled_sampleContracts (key : Felt) : Tabled sampleTable sampleContracts key := by
  intro s hs
  have hedge : s = .edge (zeros 251) (.leaf sampleLeaf) := by
    simpa [Tree.visited, sampleContracts, Trie.visited] using hs
  subst hedge
  exact ⟨_, rfl, by decide +kernel⟩

theorem tabled_sampleStorage (key : Felt) : Tabled sampleTable sampleStorage key := by
  intro s hs
  have hthree : s = .binary (sampleSide 9) (sampleSide 7) ∨ s = sampleSide 9 ∨ s = sampleSide 7 := by
    change s ∈ Trie.visited (.binary (sampleSide 9) (sampleSide 7)) (keyBits key) at hs
    rcases hkey : keyBits key with _ | ⟨bit, rest⟩
    · rw [hkey] at hs
      exact Or.inl (List.mem_singleton.mp hs)
    · rw [hkey, Trie.visited, List.mem_cons] at hs
      rcases hs with rfl | hs
      · exact Or.inl rfl
      · cases bit with
        | true => exact Or.inr (Or.inr (by simpa [Trie.visited, sampleSide] using hs))
        | false => exact Or.inr (Or.inl (by simpa [Trie.visited, sampleSide] using hs))
  rcases hthree with rfl | rfl | rfl
  · exact ⟨_, rfl, by decide +kernel⟩
  · exact ⟨_, rfl, by decide +kernel⟩
  · exact ⟨_, rfl, by decide +kernel⟩

theorem rootHash_sampleStorage : sampleStorage.rootHash = 2021 := by decide +kernel

theorem represents_sample : Represents sampleTries sampleState where
  contractsRoot := by decide +kernel
  classesRoot := rfl
  storageRoot _ := rootHash_sampleStorage.symm
  leaf address leaf hleaf := by
    simp only [Tree.lookup, sampleTries, sampleContracts, Option.bind_some, Trie.lookup,
      Option.ite_none_right_eq_some, Option.some.injEq] at hleaf
    exact hleaf.2
  contractPath _ := rfl
  storagePath _ _ := rfl
  classPath _ := rfl
  contractNodes := tabled_sampleContracts
  storageNodes _ := tabled_sampleStorage
  classNodes _ := nofun

/-- One contract with one storage key read. -/
def oneReadExecution : VirtualBlockExecutionData where
  executionOutputs := []
  initialReads := { StateMaps.default with storage := .ofList [((default, default), 9)] }
  stateDiff := .default
  executedClassHashes := .empty
  l2ToL1Messages := []
  baseBlockInfo := default

theorem reads_shown_sample :
    ∃ result after, Program.Returns (serve (.ofState sampleState))
        (getStorageProofs sampleFlattening (fun maps => .ofList maps.touchedAddresses) 3
          oneReadExecution ⟨false⟩) [] result after ∧
      ShowsReads sampleTries oneReadExecution result :=
  reads_shown flattensNodes_sample (fun _ _ => List.mem_dedup) (.ofState sampleState)
    represents_sample 3 (answersFrom_serve _ 3) oneReadExecution []

end Sample

end Snip36.StateTries
