import Snip36.StateTries

/-!
The database of facts that a state diff is committed on. Read back node by node,
it shows every key that was read, down to a leaf that is there too; the dummies do
not get in the way.
-/

namespace Snip36.ShownFacts

open ExecutionData
open FactsContents
open FactsDb
open Felt (toBytesBe)
open HonestAnswers
open Library
open Library.Fallible
open Library.Interaction
open Library.PatriciaTree
open ProofAssociation
open Rpc
open StateTries
open StorageMerge
open StorageProofProvider
open StorageQuery

/-! ### Reading the database -/

def readNode : MerkleNode → Node Felt
  | .binaryNode left right => .binary left right
  | .edgeNode path length child => .edge (bits length path.val) child

theorem readNode_merkleNode {node : Node Felt} (hshort : Short node) :
    readNode (merkleNode node) = node := by
  cases node with
  | binary left right => rfl
  | edge path child =>
      have hnumber : (Felt.fromNat (pathNumber path)).val = pathNumber path := by
        apply Felt.val_fromNat
        apply lt_starkPrime
        exact Nat.lt_of_lt_of_le (pathNumber_lt path) (Nat.pow_le_pow_right (by decide) hshort)
      rw [merkleNode, readNode, hnumber, bits_pathNumber]

/-- What the inner nodes of a database show of a key. -/
def shownBy (api : CommitterApi) (deserialize : DbValue → Option MerkleNode) (db : DbHashMap)
    (root key : Felt) : Option (Option Felt) :=
  find (fun hash => ((db.get? (api.createDbKey .innerNode hash)).bind deserialize).map readNode) 0
    root (keyBits key)

/-- A leaf stands in the database under its own key. -/
def Stored (api : CommitterApi) (db : DbHashMap) (keyPrefix : KeyPrefix) (leaf : Leaf) : Prop :=
  ∃ value, api.serialize ⟨api.computeLeafHash leaf, .leaf leaf⟩ = .ok value ∧
    db.get? (api.createDbKey keyPrefix (api.computeLeafHash leaf)) = some value

variable {api : CommitterApi} {commitments : Commitments}

/-- An inner node of a tree can be read back, whatever hash it was written under. -/
def Deserializes (api : CommitterApi) (deserialize : DbValue → Option MerkleNode) : Prop :=
  ∀ hash node value, Short node →
    api.serialize ⟨hash, .inner (merkleNode node)⟩ = .ok value →
      deserialize value = some (merkleNode node)

/-- The leaves of the trees are hashed by the committer. Their hashes do not
collide in this state, and their keys are not those of other kinds. -/
structure HashesLeaves (layout : KeyLayout api) (commitments : Commitments) (state : FixedState) :
    Prop where
  contract : ∀ leaf, commitments.contract.leaf leaf = api.computeLeafHash (contractState leaf)
  storage : ∀ value, commitments.storage.leaf value = api.computeLeafHash (.storageValue value)
  contract_injective : ∀ address address',
    api.computeLeafHash (contractState (state.leaf address)) =
      api.computeLeafHash (contractState (state.leaf address')) →
    contractState (state.leaf address) = contractState (state.leaf address')
  storage_injective : ∀ value value', api.computeLeafHash (.storageValue value) =
    api.computeLeafHash (.storageValue value') → value = value'
  prefix_ne : ∀ address, layout.prefixBytes .contractLeaf ≠ layout.prefixBytes (.storageLeaf address)

/-- Every key that was read is shown under its root, and the leaf that is found is
there. -/
structure ShowsKeys (api : CommitterApi) (deserialize : DbValue → Option MerkleNode)
    (tries : Tries commitments) (executionData : VirtualBlockExecutionData) (db : DbHashMap) :
    Prop where
  contracts : ∀ address ∈ executionData.initialReads.touchedAddresses,
    shownBy api deserialize db tries.contracts.rootHash address.key =
      some ((tries.contracts.lookup (keyBits address.key)).map commitments.contract.leaf)
  contractLeaves : ∀ address ∈ executionData.initialReads.touchedAddresses, ∀ leaf,
    tries.contracts.lookup (keyBits address.key) = some leaf →
      Stored api db .contractLeaf (contractState leaf)
  storage : ∀ address key, ReadAt executionData.initialReads address key →
    shownBy api deserialize db (tries.storage address).rootHash key.key =
      some (((tries.storage address).lookup (keyBits key.key)).map commitments.storage.leaf)
  storageLeaves : ∀ address key value,
    executionData.initialReads.storage.get? (address, key) = some value →
      Stored api db (.storageLeaf address) (.storageValue value)
  classes : ∀ hash ∈ executionData.executedClassHashes.elements,
    shownBy api deserialize db tries.classes.rootHash hash =
      some ((tries.classes.lookup (keyBits hash)).map commitments.compiledClass.leaf)

/-! ### What the database shows -/

section Shown

variable {deserialize : DbValue → Option MerkleNode} {db : DbHashMap} {V : Type}
  {hashing : Hashing V Felt} {tree : StateTree hashing} {key : Felt}

/-- A database with the nodes on the way to a key shows what the tree has there. -/
theorem shownBy_of_path (hdeserialize : Deserializes api deserialize)
    {table : Felt → MerkleNode} (htable : Tabled table tree key)
    (hpath : ∀ hash ∈ tree.path (keyBits key), ∃ value,
      api.serialize ⟨hash, .inner (table hash)⟩ = .ok value ∧
        db.get? (api.createDbKey .innerNode hash) = some value) :
    shownBy api deserialize db tree.rootHash key =
      some ((tree.lookup (keyBits key)).map hashing.leaf) := by
  apply tree.find_rootHash (length_bits _ _)
  intro s hs
  obtain ⟨node, hnode, hentry⟩ := htable s hs
  obtain ⟨value, hvalue, hdb⟩ := hpath _ (List.mem_map_of_mem hs)
  have hshort : Short node := short_of_mem_visited hs hnode
  rw [hentry] at hvalue
  rw [hdb, Option.bind_some, hdeserialize _ _ _ hshort hvalue, Option.map_some,
    readNode_merkleNode hshort, hnode]

end Shown

section Answers

variable {state : FixedState} {tries : Tries commitments}
  {getContractAddresses : StateMaps → HashSet ContractAddress}
  {executionData : VirtualBlockExecutionData} {proof : RpcStorageProof}
  (hproof : state.Answers (prepareQuery getContractAddresses executionData) proof)

theorem occurs_of_unionOf {nodes : NodeMap} {paths : List (List Felt)} (hmem : nodes ∈ nodeMaps proof)
    (hunion : IndexMap.UnionOf state.node paths nodes) {path : List Felt} (hpath : path ∈ paths)
    {hash : Felt} (hhash : hash ∈ path) : Occurs proof hash (state.node hash) := by
  have hflatten : hash ∈ paths.flatten := List.mem_flatten.mpr ⟨path, hpath, hhash⟩
  exact ⟨nodes, hmem, by rw [hunion.get?_eq, if_pos hflatten]⟩

include hproof

/-- The nodes of the answers are those of the table. -/
theorem oneNodePerHash_of_answers : OneNodePerHash proof := by
  have htable (hash : Felt) (node : MerkleNode) (h : Occurs proof hash node) :
      node = state.node hash := by
    obtain ⟨nodes, hmem, hnode⟩ := h
    have hunion : ∃ paths, IndexMap.UnionOf state.node paths nodes := by
      simp only [nodeMaps, List.mem_cons] at hmem
      rcases hmem with rfl | rfl | hmem
      · exact ⟨_, hproof.contracts⟩
      · exact ⟨_, hproof.classes⟩
      · obtain ⟨i, hi, rfl⟩ := List.getElem_of_mem hmem
        obtain ⟨hlength, hall⟩ := List.forall₂_iff_get.mp hproof.storage
        exact ⟨_, hall i (by omega) hi⟩
    obtain ⟨paths, hunion⟩ := hunion
    rw [hunion.get?_eq, Option.ite_none_right_eq_some] at hnode
    exact (Option.some.inj hnode.2).symm
  intro hash node node' h h'
  rw [htable hash node h, htable hash node' h']

/-- What a leaf of the database is a leaf of. -/
theorem leaf_cases_of_answers {leaf : KeyPrefix × Leaf}
    (h : leaf ∈ insertedLeaves proof (prepareQuery getContractAddresses executionData)
      (extendInitialReads proof (prepareQuery getContractAddresses executionData)
        executionData.initialReads)) :
    (∃ address, leaf = (.contractLeaf, contractState (state.leaf address))) ∨
      ∃ address value, leaf = (.storageLeaf address, .storageValue value) := by
  simp only [insertedLeaves, List.mem_append, List.mem_map] at h
  rcases h with (⟨⟨data, address⟩, hmem, rfl⟩ | ⟨⟨⟨address, key⟩, value⟩, -, rfl⟩) | ⟨hash, hmem, -⟩
  · left
    rw [hproof.leaves] at hmem
    have hdata := (List.of_mem_zip hmem).1
    obtain ⟨address', -, rfl⟩ := List.mem_map.mp hdata
    exact ⟨address', rfl⟩
  · exact Or.inr ⟨address, value, rfl⟩
  · exact absurd hmem List.not_mem_nil

theorem oneLeafPerHash_of_answers {layout : KeyLayout api}
    (hleaves : HashesLeaves layout commitments state) :
    OneLeafPerHash layout (insertedLeaves proof (prepareQuery getContractAddresses executionData)
      (extendInitialReads proof (prepareQuery getContractAddresses executionData)
        executionData.initialReads)) := by
  intro l hl l' hl' hprefix hhash
  rcases leaf_cases_of_answers hproof hl with ⟨address, rfl⟩ | ⟨address, value, rfl⟩
  · rcases leaf_cases_of_answers hproof hl' with ⟨address', rfl⟩ | ⟨address', value', rfl⟩
    · exact hleaves.contract_injective address address' hhash
    · exact absurd hprefix (hleaves.prefix_ne address')
  · rcases leaf_cases_of_answers hproof hl' with ⟨address', rfl⟩ | ⟨address', value', rfl⟩
    · exact absurd hprefix.symm (hleaves.prefix_ne address)
    · exact congrArg Leaf.storageValue (hleaves.storage_injective value value' hhash)

variable (haddresses : ∀ maps address,
    address ∈ (getContractAddresses maps).elements ↔ address ∈ maps.touchedAddresses)
  (htries : Represents tries state)

include haddresses htries

theorem showsKeys_of_createFactsDb {layout : KeyLayout api}
    (hleaves : HashesLeaves layout commitments state) {deserialize : DbValue → Option MerkleNode}
    (hdeserialize : Deserializes api deserialize) {db : DbHashMap}
    (hdb : createFactsDbFromStorageProof api proof (prepareQuery getContractAddresses executionData)
      (extendInitialReads proof (prepareQuery getContractAddresses executionData)
        executionData.initialReads) = .ok db) :
    ShowsKeys api deserialize tries executionData db := by
  have hone := oneLeafPerHash_of_answers hproof hleaves
  have hnodes := oneNodePerHash_of_answers hproof
  have hentry {hash : Felt} {node : MerkleNode} (hoccurs : Occurs proof hash node) :=
    exists_node_entry hnodes hone hdb hoccurs
  refine
    { contracts := fun address htouched => ?_
      contractLeaves := fun address htouched leaf hleaf => ?_
      storage := fun address key hread => ?_
      storageLeaves := fun address key value hvalue => ?_
      classes := fun hash hexecuted => ?_ }
  · apply shownBy_of_path hdeserialize (htries.contractNodes address.key)
    intro hash hhash
    rw [← htries.contractPath] at hhash
    have hmem := (mem_contractAddresses_prepareQuery haddresses).mpr htouched
    exact hentry (occurs_of_unionOf List.mem_cons_self hproof.contracts (List.mem_map_of_mem hmem)
      hhash)
  · have hmem := (mem_contractAddresses_prepareQuery haddresses).mpr htouched
    have hzip := mem_zip_leaf_of_answers hproof hmem
    rw [htries.leaf address leaf hleaf, ← List.zip_swap] at hzip
    obtain ⟨⟨data, a⟩, hswap, heq⟩ := List.mem_map.mp hzip
    cases heq
    apply exists_leaf_entry hnodes hone hdb
    simp only [insertedLeaves, List.mem_append, List.mem_map]
    exact Or.inl (Or.inl ⟨_, hswap, rfl⟩)
  · apply shownBy_of_path hdeserialize (htries.storageNodes address key.key)
    intro hash hhash
    rw [← htries.storagePath] at hhash
    have hmem := (mem_contractAddresses_prepareQuery haddresses).mpr (touched_of_readAt hread)
    obtain ⟨nodes, hmap, -⟩ := exists_mem_zip_zip (mem_zip_leaf_of_answers hproof hmem)
      ((length_maps_of_answers hproof).trans (length_leaves_of_answers hproof).symm)
    have hnode : nodes.get? hash = some (state.node hash) :=
      (unionOf_readPaths_of_answers hproof hmap hash _).mpr ⟨rfl, key, hread, hhash⟩
    apply hentry
    exact ⟨nodes, List.mem_cons_of_mem _ (List.mem_cons_of_mem _ (List.of_mem_zip hmap).2), hnode⟩
  · apply exists_leaf_entry hnodes hone hdb
    simp only [insertedLeaves, List.mem_append, List.mem_map]
    refine Or.inl (Or.inr ⟨((address, key), value), ?_, rfl⟩)
    rw [← IndexMap.get?_eq_some_iff]
    exact (IndexMap.get?_ofList_entries _ _).trans hvalue
  · apply shownBy_of_path hdeserialize (htries.classNodes hash)
    intro h hh
    rw [← htries.classPath] at hh
    exact hentry (occurs_of_unionOf (List.mem_cons_of_mem _ List.mem_cons_self) hproof.classes
      (List.mem_map_of_mem hexecuted) hh)

end Answers

/-- A run with state changes that returns has committed the state diff, from the
roots of the state, on the database made of the proof it fetched, and this database
shows every key that was read. -/
theorem committed_on_shown_facts {layout : KeyLayout api}
    {deserialize : DbValue → Option MerkleNode} (hdeserialize : Deserializes api deserialize)
    {getContractAddresses : StateMaps → HashSet ContractAddress}
    (haddresses : ∀ maps address,
      address ∈ (getContractAddresses maps).elements ↔ address ∈ maps.touchedAddresses)
    (honest : HonestNode) {tries : Tries commitments}
    (htries : Represents tries honest.toFixedState)
    (hleaves : HashesLeaves layout commitments honest.toFixedState) {blockNumber : Nat}
    {node : Rpc.Node} (hnode : AnswersFrom honest blockNumber node)
    {executionData : VirtualBlockExecutionData} {before after : Conversation}
    {result : StorageProofs}
    (hreturns : Program.Returns node (getStorageProofs api getContractAddresses blockNumber
      executionData .default) before result after) :
    ∃ rpcProof db newRoots db',
      Program.Returns node (fetchProofs blockNumber (prepareQuery getContractAddresses
        executionData)) before rpcProof after ∧
      createFactsDbFromStorageProof api rpcProof (prepareQuery getContractAddresses executionData)
        result.extendedInitialReads = .ok db ∧
      commitStateDiff api db ⟨tries.contracts.rootHash, tries.classes.rootHash⟩
        (stateMapsToCommitterStateDiff executionData.stateDiff) = .ok (newRoots, db') ∧
      ShowsKeys api deserialize tries executionData db := by
  obtain ⟨rpcProof, hfetch, -, hreads, hinfos⟩ := returns_getStorageProofs_iff.mp hreturns
  obtain ⟨proof, after', hfetch', hproof⟩ :=
    exists_returns_fetchProofs hnode nodup_contractStorageKeys_prepareQuery before
  obtain ⟨rfl, -⟩ := hfetch.unique hfetch'
  change createCommitmentInfosWithStateChanges _ _ _ _ _ = _ at hinfos
  simp only [createCommitmentInfosWithStateChanges, bind_eq_ok_iff] at hinfos
  obtain ⟨db, hdb, -, -, ⟨newRoots, db'⟩, hcommit, -⟩ := hinfos
  rw [hproof.roots, htries.contractsRoot, htries.classesRoot] at hcommit
  refine ⟨rpcProof, db, newRoots, db', hfetch, hdb, hcommit, ?_⟩
  rw [hreads] at hdb
  exact showsKeys_of_createFactsDb hproof haddresses htries hleaves hdeserialize hdb

/-! ### A small run -/

section Sample

def readFelt (bytes : List (BitVec 8)) : Felt := Felt.fromNat (Words.ofBeBytes (bytes.take 32))

/-- The length of an edge is the last byte of its entry. -/
def sampleDeserialize (value : DbValue) : Option MerkleNode :=
  if value.length = 64 then some (.binaryNode (readFelt value) (readFelt (value.drop 32)))
  else (value.drop 64).head?.map fun length =>
    .edgeNode (readFelt (value.drop 32)) length.toNat (readFelt value)

theorem length_toBytesBe (felt : Felt) : (toBytesBe felt).length = 32 := by
  simp [toBytesBe]

theorem readFelt_append (felt : Felt) (rest : List (BitVec 8)) :
    readFelt (toBytesBe felt ++ rest) = felt := by
  rw [readFelt, List.take_left' (length_toBytesBe felt), ofBeBytes_toBytesBe]
  exact Fin.ext (Felt.val_fromNat felt.isLt)

theorem deserializes_sample : Deserializes sampleCommitter sampleDeserialize := by
  intro hash node value hshort h
  cases node with
  | binary left right =>
      obtain rfl := Except.ok.inj h
      have hlength : (toBytesBe left ++ toBytesBe right).length = 64 := by
        rw [List.length_append, length_toBytesBe, length_toBytesBe]
      have hright : readFelt (toBytesBe right) = right := by
        simpa using readFelt_append right []
      rw [sampleDeserialize, if_pos hlength, readFelt_append,
        List.drop_left' (length_toBytesBe left), hright, merkleNode]
  | edge path child =>
      obtain rfl := Except.ok.inj h
      have hfelts :
          (toBytesBe child ++ toBytesBe (Felt.fromNat (pathNumber path))).length = 64 := by
        rw [List.length_append, length_toBytesBe, length_toBytesBe]
      -- a key has 251 bits, so that the length of an edge fits a byte
      have hbyte : (BitVec.ofNat 8 path.length).toNat = path.length := by
        rw [BitVec.toNat_ofNat]
        exact Nat.mod_eq_of_lt (Nat.lt_of_le_of_lt hshort (by decide))
      have hlength : ¬(toBytesBe child ++ toBytesBe (Felt.fromNat (pathNumber path)) ++
          [BitVec.ofNat 8 path.length]).length = 64 := by
        rw [List.length_append, hfelts, List.length_singleton]
        decide
      rw [sampleDeserialize, if_neg hlength, List.drop_left' hfelts, List.append_assoc, readFelt_append,
        List.drop_left' (length_toBytesBe child), readFelt_append, List.head?_cons,
        Option.map_some, hbyte, merkleNode]

theorem hashesLeaves_sample : HashesLeaves sampleLayout sampleCommitments sampleState where
  contract _ := rfl
  storage _ := rfl
  contract_injective _ _ _ := rfl
  storage_injective _ _ h := h
  prefix_ne _ := by simp [sampleLayout, samplePrefix]

theorem exists_returns_sample : ∃ result after,
    Program.Returns (serve (.ofState sampleState)) (getStorageProofs sampleCommitter
      (fun maps => .ofList maps.touchedAddresses) 3 oneReadExecution .default) [] result after := by
  obtain ⟨proof, after, hfetch, hproof⟩ := exists_returns_fetchProofs
    (answersFrom_serve (.ofState sampleState) 3) nodup_contractStorageKeys_prepareQuery []
  have hserialize (filled : FilledNode) :
      ∃ value, sampleCommitter.serialize filled = .ok value := by
    rcases filled with ⟨hash, (left | path) | leaf⟩
    · exact ⟨_, rfl⟩
    · exact ⟨_, rfl⟩
    · exact ⟨_, rfl⟩
  have hlength := length_leaves_of_answers hproof
  obtain ⟨db, hdb⟩ := exists_createFactsDb_eq_ok hserialize hlength
    (extendInitialReads proof (prepareQuery (fun maps => .ofList maps.touchedAddresses)
      oneReadExecution) oneReadExecution.initialReads)
  obtain ⟨infos, hinfos⟩ : ∃ infos, createCommitmentInfosWithStateChanges sampleCommitter proof
      (prepareQuery (fun maps => .ofList maps.touchedAddresses) oneReadExecution)
      (extendInitialReads proof (prepareQuery (fun maps => .ofList maps.touchedAddresses)
        oneReadExecution) oneReadExecution.initialReads) oneReadExecution.stateDiff =
          .ok infos := by
    rw [createCommitmentInfosWithStateChanges, hdb]
    exact ⟨_, rfl⟩
  exact ⟨⟨_, infos⟩, after, returns_getStorageProofs_iff.mpr ⟨proof, hfetch, hlength, rfl, hinfos⟩⟩

theorem committed_on_shown_facts_sample :
    ∃ (result : StorageProofs) (rpcProof : RpcStorageProof) (after : Conversation)
        (db : DbHashMap) (newRoots : StateRoots) (db' : DbHashMap),
      Program.Returns (serve (.ofState sampleState)) (getStorageProofs sampleCommitter
        (fun maps => .ofList maps.touchedAddresses) 3 oneReadExecution .default) [] result after ∧
      Program.Returns (serve (.ofState sampleState)) (fetchProofs 3 (prepareQuery
        (fun maps => .ofList maps.touchedAddresses) oneReadExecution)) [] rpcProof after ∧
      createFactsDbFromStorageProof sampleCommitter rpcProof (prepareQuery
        (fun maps => .ofList maps.touchedAddresses) oneReadExecution)
        result.extendedInitialReads = .ok db ∧
      commitStateDiff sampleCommitter db
        ⟨sampleTries.contracts.rootHash, sampleTries.classes.rootHash⟩
        (stateMapsToCommitterStateDiff oneReadExecution.stateDiff) = .ok (newRoots, db') ∧
      ShowsKeys sampleCommitter sampleDeserialize sampleTries oneReadExecution db := by
  obtain ⟨result, after, hreturns⟩ := exists_returns_sample
  obtain ⟨rpcProof, db, newRoots, db', hshown⟩ := committed_on_shown_facts deserializes_sample
    (fun _ _ => List.mem_dedup) (.ofState sampleState) represents_sample hashesLeaves_sample
    (answersFrom_serve (.ofState sampleState) 3) hreturns
  exact ⟨result, rpcProof, after, db, newRoots, db', hreturns, hshown⟩

end Sample

end Snip36.ShownFacts
