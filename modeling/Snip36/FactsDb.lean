import Snip36.ExecutionData
import Snip36.StorageMerge

/-!
The database of Patricia tree facts that is built from a storage proof, and the
state diff in the form the committer takes it. Hashing, key making,
serialization, debug texts and the commitment itself belong to the committer's
packages and are fields of `CommitterApi`.
-/

namespace Snip36.FactsDb

open Library
open Library.Fallible
open StorageQuery
open StorageMerge

inductive ProofProviderError where
  | invalidStateDiff (message : String)
  | rpc (error : Rpc.ProviderError)
  | serializationError (message : String)
  | invalidProofResponse (message : String)
  | blockCommitmentError (message : String)
  deriving DecidableEq

inductive Leaf where
  | contractState (nonce classHash storageRootHash : Felt)
  | storageValue (value : Felt)
  | compiledClassHash (hash : Felt)
  deriving DecidableEq

inductive NodeData where
  | inner (node : MerkleNode)
  | leaf (leaf : Leaf)
  deriving DecidableEq

structure FilledNode where
  hash : Felt
  data : NodeData
  deriving DecidableEq

/-- What a key in the database is prefixed with; the leaves of a storage tree
carry their contract. -/
inductive KeyPrefix where
  | innerNode
  | contractLeaf
  | storageLeaf (address : ContractAddress)
  | compiledClassLeaf
  deriving DecidableEq

abbrev DbKey := List (BitVec 8)
abbrev DbValue := List (BitVec 8)
abbrev DbHashMap := IndexMap DbKey DbValue

structure StateRoots where
  contractsTrieRootHash : Felt
  classesTrieRootHash : Felt
  deriving DecidableEq

structure StateDiff where
  addressToClassHash : IndexMap ContractAddress ClassHash
  addressToNonce : IndexMap ContractAddress Nonce
  classHashToCompiledClassHash : IndexMap ClassHash CompiledClassHash
  storageUpdates : IndexMap ContractAddress (IndexMap StorageKey Felt)

structure FilledForest where
  contractRootHash : Felt
  compiledClassRootHash : Felt
  writes : List (DbKey × DbValue)

structure CommitmentInfo where
  previousRoot : Felt
  updatedRoot : Felt
  treeHeight : Nat
  commitmentFacts : IndexMap Felt (List Felt)

structure StateCommitmentInfos where
  contractsTrieCommitmentInfo : CommitmentInfo
  classesTrieCommitmentInfo : CommitmentInfo
  storageTriesCommitmentInfos : IndexMap ContractAddress CommitmentInfo

inductive Preimage where
  | binary (left right : Felt)
  | edge (length : Nat) (path bottom : Felt)
  deriving DecidableEq

structure CommitterApi where
  createDbKey : KeyPrefix → Felt → DbKey
  serialize : FilledNode → Except String DbValue
  computeLeafHash : Leaf → Felt
  commitBlock : StateDiff → StateRoots → DbHashMap → Except String FilledForest
  writeForest : FilledForest → DbHashMap → Except String DbHashMap
  createCommitmentInfos : StateRoots → StateRoots → DbHashMap → StateMaps →
    Except String StateCommitmentInfos
  preimageFrom : MerkleNode → Preimage
  flatten : Preimage → List Felt
  debugAddress : ContractAddress → String
  debugStorageKey : StorageKey → String
  debugClassHashes : IndexMap ContractAddress ClassHash → String
  debugCompiledClassHashes : IndexMap ClassHash CompiledClassHash → String

/-- A committer that accepts everything. -/
def permissiveCommitter : CommitterApi where
  createDbKey _ _ := []
  serialize _ := .ok []
  computeLeafHash _ := 0
  commitBlock _ _ _ := .ok ⟨0, 0, []⟩
  writeForest _ db := .ok db
  createCommitmentInfos _ _ _ _ := .ok ⟨⟨0, 0, 0, .empty⟩, ⟨0, 0, 0, .empty⟩, .empty⟩
  preimageFrom _ := .binary 0 0
  flatten _ := []
  debugAddress _ := ""
  debugStorageKey _ := ""
  debugClassHashes _ := ""
  debugCompiledClassHashes _ := ""

/-! ### The state diff -/

/-- Group a map with pairs of keys by the first key. -/
def groupStorage (storage : IndexMap (ContractAddress × StorageKey) Felt) :
    IndexMap ContractAddress (IndexMap StorageKey Felt) :=
  storage.entries.foldl
    (fun groups e =>
      groups.insert e.1.1 (((groups.get? e.1.1).getD .empty).insert e.1.2 e.2))
    .empty

def stateMapsToCommitterStateDiff (stateMaps : StateMaps) : StateDiff where
  addressToClassHash := stateMaps.classHashes
  addressToNonce := stateMaps.nonces
  classHashToCompiledClassHash := stateMaps.compiledClassHashes
  storageUpdates := groupStorage stateMaps.storage

/-- The first write of zero, in the order of iteration. -/
def findStorageDeletion (updates : IndexMap ContractAddress (IndexMap StorageKey Felt)) :
    Option (ContractAddress × StorageKey) :=
  updates.entries.findSome? fun contract =>
    contract.2.entries.findSome? fun write =>
      if write.2 = 0 then some (contract.1, write.1) else none

def validateVirtualOsStateDiff (api : CommitterApi) (stateDiff : StateDiff) :
    Except ProofProviderError Unit :=
  match findStorageDeletion stateDiff.storageUpdates with
  | some (address, key) =>
      let address := api.debugAddress address
      let key := api.debugStorageKey key
      .error (.invalidStateDiff
        s!"Storage deletion not allowed: try to delete storage at address {address}, key {key}")
  | none =>
      if stateDiff.addressToClassHash.isEmpty = false then
        let deployed := api.debugClassHashes stateDiff.addressToClassHash
        .error (.invalidStateDiff
          s!"Contract deployments not allowed: try to deploy contracts(address to class hash): {deployed}")
      else if stateDiff.classHashToCompiledClassHash.isEmpty = false then
        let declared := api.debugCompiledClassHashes stateDiff.classHashToCompiledClassHash
        .error (.invalidStateDiff
          s!"Contract declarations not allowed: try to declare classes(class hash to compiled class hash): {declared}")
      else .ok ()

/-- No storage deletion, no deployment and no declaration. -/
def StateDiff.OnlyUpdates (stateDiff : StateDiff) : Prop :=
  findStorageDeletion stateDiff.storageUpdates = none ∧
    stateDiff.addressToClassHash.isEmpty = true ∧
      stateDiff.classHashToCompiledClassHash.isEmpty = true

theorem validateVirtualOsStateDiff_eq_ok_iff {api : CommitterApi} {stateDiff : StateDiff} :
    validateVirtualOsStateDiff api stateDiff = .ok () ↔ stateDiff.OnlyUpdates := by
  unfold validateVirtualOsStateDiff StateDiff.OnlyUpdates
  cases findStorageDeletion stateDiff.storageUpdates with
  | some write => simp
  | none =>
      cases stateDiff.addressToClassHash.isEmpty <;>
        cases stateDiff.classHashToCompiledClassHash.isEmpty <;> simp

/-! ### The facts -/

def insertInnerNodes (api : CommitterApi) (dbMap : DbHashMap) (nodes : NodeMap) :
    Except ProofProviderError DbHashMap :=
  nodes.entries.foldlM
    (fun db e => do
      let value ← (api.serialize ⟨e.1, .inner e.2⟩).mapError .serializationError
      pure (db.insert (api.createDbKey .innerNode e.1) value))
    dbMap

def insertLeafNode (api : CommitterApi) (dbMap : DbHashMap) (leafHash : Felt) (leaf : Leaf)
    (keyPrefix : KeyPrefix) : Except ProofProviderError DbHashMap := do
  let key := api.createDbKey keyPrefix leafHash
  let serialized ← (api.serialize ⟨leafHash, .leaf leaf⟩).mapError .serializationError
  pure (dbMap.insert key serialized)

def contractState (leaf : ContractLeafData) : Leaf :=
  .contractState leaf.nonce leaf.classHash (leaf.storageRoot.getD 0)

def leavesLengthMismatch (addressesLen leavesLen : Nat) : ProofProviderError :=
  .invalidProofResponse
    s!"Contract leaves length mismatch: expected {addressesLen} leaves for requested contracts, got {leavesLen}"

def insertContractLeaves (api : CommitterApi) (dbMap : DbHashMap) (rpcProof : RpcStorageProof)
    (query : RpcStorageProofsQuery) : Except ProofProviderError DbHashMap :=
  if rpcProof.contractsProof.contractLeavesData.length = query.contractAddresses.length then
    (rpcProof.contractsProof.contractLeavesData.zip query.contractAddresses).foldlM
      (fun db e =>
        insertLeafNode api db (api.computeLeafHash (contractState e.1)) (contractState e.1)
          .contractLeaf)
      dbMap
  else
    .error (leavesLengthMismatch query.contractAddresses.length
      rpcProof.contractsProof.contractLeavesData.length)

def insertStorageLeaves (api : CommitterApi) (dbMap : DbHashMap) (initialReads : StateMaps) :
    Except ProofProviderError DbHashMap :=
  initialReads.storage.entries.foldlM
    (fun db e =>
      insertLeafNode api db (api.computeLeafHash (.storageValue e.2)) (.storageValue e.2)
        (.storageLeaf e.1.1))
    dbMap

def insertCompiledClassLeaves (api : CommitterApi) (dbMap : DbHashMap)
    (initialReads : StateMaps) : Except ProofProviderError DbHashMap :=
  initialReads.compiledClassHashes.values.foldlM
    (fun db hash =>
      insertLeafNode api db (api.computeLeafHash (.compiledClassHash hash))
        (.compiledClassHash hash) .compiledClassLeaf)
    dbMap

def addDummyNodeForOrphanChild (api : CommitterApi) (dummyValue : DbValue) (nodes : NodeMap)
    (dbMap : DbHashMap) (childHash : Felt) : DbHashMap :=
  if childHash ∈ nodes.keys then dbMap
  else if (dbMap.get? (api.createDbKey .innerNode childHash)).isSome then dbMap
  else dbMap.insert (api.createDbKey .innerNode childHash) dummyValue

def MerkleNode.children : MerkleNode → List Felt
  | .binaryNode left right => [left, right]
  | .edgeNode _ _ child => [child]

def addDummyNodesForOrphanHashes (api : CommitterApi) (dbMap : DbHashMap) (nodes : NodeMap) :
    Except ProofProviderError DbHashMap := do
  let dummyValue ←
    (api.serialize ⟨0, .inner (.binaryNode 0 0)⟩).mapError .serializationError
  pure (nodes.entries.foldl
    (fun db e =>
      (MerkleNode.children e.2).foldl (addDummyNodeForOrphanChild api dummyValue nodes) db)
    dbMap)

def createFactsDbFromStorageProof (api : CommitterApi) (rpcProof : RpcStorageProof)
    (query : RpcStorageProofsQuery) (initialReads : StateMaps) :
    Except ProofProviderError DbHashMap := do
  let db ← insertInnerNodes api .empty rpcProof.contractsProof.nodes
  let db ← insertInnerNodes api db rpcProof.classesProof
  let db ← rpcProof.contractsStorageProofs.foldlM (insertInnerNodes api) db
  let db ← insertContractLeaves api db rpcProof query
  let db ← insertStorageLeaves api db initialReads
  let db ← insertCompiledClassLeaves api db initialReads
  let db ← addDummyNodesForOrphanHashes api db rpcProof.contractsProof.nodes
  let db ← addDummyNodesForOrphanHashes api db rpcProof.classesProof
  rpcProof.contractsStorageProofs.foldlM (addDummyNodesForOrphanHashes api) db

def commitStateDiff (api : CommitterApi) (factsDb : DbHashMap) (roots : StateRoots)
    (stateDiff : StateDiff) : Except ProofProviderError (StateRoots × DbHashMap) := do
  let forest ← (api.commitBlock stateDiff roots factsDb).mapError .blockCommitmentError
  let db ← (api.writeForest forest factsDb).mapError .serializationError
  pure (⟨forest.contractRootHash, forest.compiledClassRootHash⟩, db)

/-! ### When the database can be built -/

/-- A loop whose passes all succeed succeeds. -/
theorem exists_foldlM_eq_ok {ε α σ : Type} {step : σ → α → Except ε σ} (items : List α)
    (hstep : ∀ s, ∀ a ∈ items, ∃ s', step s a = .ok s') (s : σ) :
    ∃ s', items.foldlM step s = .ok s' := by
  induction items generalizing s with
  | nil => exact ⟨s, rfl⟩
  | cons a rest ih =>
      obtain ⟨middle, hmiddle⟩ := hstep s a (by simp)
      obtain ⟨final, hfinal⟩ := ih (fun s a ha => hstep s a (by simp [ha])) middle
      exact ⟨final, by rw [List.foldlM_cons, bind_eq_ok_iff]; exact ⟨middle, hmiddle, hfinal⟩⟩

/-- If every node can be serialized, only the number of leaves can be wrong. -/
theorem exists_createFactsDb_eq_ok {api : CommitterApi}
    (hserialize : ∀ node, ∃ value, api.serialize node = .ok value) {rpcProof : RpcStorageProof}
    {query : RpcStorageProofsQuery}
    (hleaves : rpcProof.contractsProof.contractLeavesData.length =
      query.contractAddresses.length) (initialReads : StateMaps) :
    ∃ db, createFactsDbFromStorageProof api rpcProof query initialReads = .ok db := by
  have hinner : ∀ db nodes, ∃ db', insertInnerNodes api db nodes = .ok db' := by
    intro db nodes
    refine exists_foldlM_eq_ok _ (fun db e _ => ?_) db
    obtain ⟨value, hvalue⟩ := hserialize ⟨e.1, .inner e.2⟩
    exact ⟨_, by rw [hvalue]; rfl⟩
  have hleaf : ∀ db hash leaf keyPrefix,
      ∃ db', insertLeafNode api db hash leaf keyPrefix = .ok db' := by
    intro db hash leaf keyPrefix
    obtain ⟨value, hvalue⟩ := hserialize ⟨hash, .leaf leaf⟩
    exact ⟨_, by rw [insertLeafNode, hvalue]; rfl⟩
  have hdummy : ∀ db nodes, ∃ db', addDummyNodesForOrphanHashes api db nodes = .ok db' := by
    intro db nodes
    obtain ⟨value, hvalue⟩ := hserialize ⟨0, .inner (.binaryNode 0 0)⟩
    exact ⟨_, by rw [addDummyNodesForOrphanHashes, hvalue]; rfl⟩
  simp only [createFactsDbFromStorageProof, bind_eq_ok_iff]
  obtain ⟨db₁, h₁⟩ := hinner .empty rpcProof.contractsProof.nodes
  obtain ⟨db₂, h₂⟩ := hinner db₁ rpcProof.classesProof
  obtain ⟨db₃, h₃⟩ := exists_foldlM_eq_ok rpcProof.contractsStorageProofs
    (fun db nodes _ => hinner db nodes) db₂
  obtain ⟨db₄, h₄⟩ : ∃ db₄, insertContractLeaves api db₃ rpcProof query = .ok db₄ := by
    rw [insertContractLeaves, if_pos hleaves]
    exact exists_foldlM_eq_ok _ (fun db e _ => hleaf _ _ _ _) db₃
  obtain ⟨db₅, h₅⟩ : ∃ db₅, insertStorageLeaves api db₄ initialReads = .ok db₅ :=
    exists_foldlM_eq_ok _ (fun db e _ => hleaf _ _ _ _) db₄
  obtain ⟨db₆, h₆⟩ : ∃ db₆, insertCompiledClassLeaves api db₅ initialReads = .ok db₆ :=
    exists_foldlM_eq_ok _ (fun db e _ => hleaf _ _ _ _) db₅
  obtain ⟨db₇, h₇⟩ := hdummy db₆ rpcProof.contractsProof.nodes
  obtain ⟨db₈, h₈⟩ := hdummy db₇ rpcProof.classesProof
  obtain ⟨db₉, h₉⟩ := exists_foldlM_eq_ok rpcProof.contractsStorageProofs
    (fun db nodes _ => hdummy db nodes) db₈
  exact ⟨db₉, db₁, h₁, db₂, h₂, db₃, h₃, db₄, h₄, db₅, h₅, db₆, h₆, db₇, h₇, db₈, h₈, h₉⟩

end Snip36.FactsDb
