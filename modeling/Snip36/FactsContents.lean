import Snip36.FactsDb
import Snip36.Library.Words

/-!
What the database of facts holds: every node of the proof and every leaf under
its own key, and dummies for the children that no tree of the proof has.
-/

namespace Snip36.FactsContents

open FactsDb
open Felt (toBytesBe)
open Library
open Library.Fallible
open Library.IndexMap
open StorageMerge
open StorageQuery

/-! ### The proof -/

/-- The trees of a proof. -/
def nodeMaps (rpcProof : RpcStorageProof) : List NodeMap :=
  rpcProof.contractsProof.nodes :: rpcProof.classesProof :: rpcProof.contractsStorageProofs

def Occurs (rpcProof : RpcStorageProof) (hash : Felt) (node : MerkleNode) : Prop :=
  ∃ nodes ∈ nodeMaps rpcProof, nodes.get? hash = some node

/-- Some tree has a node with this child, but not the child. -/
def Orphan (rpcProof : RpcStorageProof) (child : Felt) : Prop :=
  ∃ nodes ∈ nodeMaps rpcProof, ∃ hash node, nodes.get? hash = some node ∧
    child ∈ MerkleNode.children node ∧ child ∉ nodes.keys

/-- Equal hashes stand for equal nodes, in whichever trees. -/
def OneNodePerHash (rpcProof : RpcStorageProof) : Prop :=
  ∀ hash node node', Occurs rpcProof hash node → Occurs rpcProof hash node' → node = node'

/-- The leaves that are inserted, with what their keys are prefixed with. -/
def insertedLeaves (rpcProof : RpcStorageProof) (query : RpcStorageProofsQuery)
    (initialReads : StateMaps) : List (KeyPrefix × Leaf) :=
  (rpcProof.contractsProof.contractLeavesData.zip query.contractAddresses).map
      (fun e => (.contractLeaf, contractState e.1)) ++
    initialReads.storage.entries.map (fun e => (.storageLeaf e.1.1, .storageValue e.2)) ++
    initialReads.compiledClassHashes.values.map
      (fun hash => (.compiledClassLeaf, .compiledClassHash hash))

/-- How `create_db_key` makes a key of the bytes of a prefix and a hash. -/
structure KeyLayout (api : CommitterApi) where
  prefixBytes : KeyPrefix → List (BitVec 8)
  join : List (BitVec 8) → Felt → DbKey
  createDbKey_eq : ∀ keyPrefix hash,
    api.createDbKey keyPrefix hash = join (prefixBytes keyPrefix) hash
  join_injective : Function.Injective2 join
  ne_innerNode : ∀ keyPrefix, keyPrefix ≠ .innerNode →
    prefixBytes keyPrefix ≠ prefixBytes .innerNode

/-- Among the leaves with one prefix, the hash determines the leaf. -/
def OneLeafPerHash {api : CommitterApi} (layout : KeyLayout api)
    (leaves : List (KeyPrefix × Leaf)) : Prop :=
  ∀ l ∈ leaves, ∀ l' ∈ leaves, layout.prefixBytes l.1 = layout.prefixBytes l'.1 →
    api.computeLeafHash l.2 = api.computeLeafHash l'.2 → l.2 = l'.2

def dummyNode : FilledNode := ⟨0, .inner (.binaryNode 0 0)⟩

/-! ### The database -/

section Contents

variable (api : CommitterApi) (rpcProof : RpcStorageProof) (query : RpcStorageProofsQuery)
  (initialReads : StateMaps)

/-- What may stand in the database. -/
inductive Entry : DbKey → DbValue → Prop where
  | node {hash : Felt} {node : MerkleNode} {value : DbValue} (hnode : Occurs rpcProof hash node)
      (hvalue : api.serialize ⟨hash, .inner node⟩ = .ok value) :
      Entry (api.createDbKey .innerNode hash) value
  | leaf {keyPrefix : KeyPrefix} {leaf : Leaf} {value : DbValue}
      (hleaf : (keyPrefix, leaf) ∈ insertedLeaves rpcProof query initialReads)
      (hvalue : api.serialize ⟨api.computeLeafHash leaf, .leaf leaf⟩ = .ok value) :
      Entry (api.createDbKey keyPrefix (api.computeLeafHash leaf)) value
  | dummy {child : Felt} {value : DbValue} (horphan : Orphan rpcProof child)
      (hunknown : ∀ node, ¬Occurs rpcProof child node)
      (hvalue : api.serialize dummyNode = .ok value) :
      Entry (api.createDbKey .innerNode child) value

structure Contents (db : DbHashMap) : Prop where
  nodes : ∀ hash node, Occurs rpcProof hash node → ∃ value,
    api.serialize ⟨hash, .inner node⟩ = .ok value ∧
      db.get? (api.createDbKey .innerNode hash) = some value
  children : ∀ hash node, Occurs rpcProof hash node → ∀ child ∈ MerkleNode.children node,
    (db.get? (api.createDbKey .innerNode child)).isSome
  leaves : ∀ keyPrefix leaf, (keyPrefix, leaf) ∈ insertedLeaves rpcProof query initialReads →
    ∃ value, api.serialize ⟨api.computeLeafHash leaf, .leaf leaf⟩ = .ok value ∧
      db.get? (api.createDbKey keyPrefix (api.computeLeafHash leaf)) = some value
  only : ∀ key value, db.get? key = some value →
    Entry api rpcProof query initialReads key value

end Contents

variable {api : CommitterApi} {rpcProof : RpcStorageProof} {query : RpcStorageProofsQuery}
  {initialReads : StateMaps}

theorem ne_innerNode_of_mem {keyPrefix : KeyPrefix} {leaf : Leaf}
    (h : (keyPrefix, leaf) ∈ insertedLeaves rpcProof query initialReads) :
    keyPrefix ≠ .innerNode := by
  rintro rfl
  simp [insertedLeaves] at h

section Functional

variable (layout : KeyLayout api)

include layout

theorem KeyLayout.parts {keyPrefix keyPrefix' : KeyPrefix} {hash hash' : Felt}
    (h : api.createDbKey keyPrefix hash = api.createDbKey keyPrefix' hash') :
    layout.prefixBytes keyPrefix = layout.prefixBytes keyPrefix' ∧ hash = hash' := by
  rw [layout.createDbKey_eq, layout.createDbKey_eq] at h
  exact layout.join_injective h

theorem Entry.of_innerNode {key : DbKey} {value : DbValue} {hash : Felt}
    (h : Entry api rpcProof query initialReads key value)
    (hkey : key = api.createDbKey .innerNode hash) :
    (∃ node, Occurs rpcProof hash node ∧ api.serialize ⟨hash, .inner node⟩ = .ok value) ∨
      (∀ node, ¬Occurs rpcProof hash node) ∧ api.serialize dummyNode = .ok value := by
  cases h with
  | node hnode hvalue =>
      obtain ⟨-, rfl⟩ := layout.parts hkey
      exact Or.inl ⟨_, hnode, hvalue⟩
  | leaf hleaf hvalue =>
      exact absurd (layout.parts hkey).1 (layout.ne_innerNode _ (ne_innerNode_of_mem hleaf))
  | dummy horphan hunknown hvalue =>
      obtain ⟨-, rfl⟩ := layout.parts hkey
      exact Or.inr ⟨hunknown, hvalue⟩

theorem Entry.of_leaf {key : DbKey} {value : DbValue} {keyPrefix : KeyPrefix} {hash : Felt}
    (h : Entry api rpcProof query initialReads key value)
    (hkey : key = api.createDbKey keyPrefix hash) (hkind : keyPrefix ≠ .innerNode) :
    ∃ l ∈ insertedLeaves rpcProof query initialReads,
      layout.prefixBytes l.1 = layout.prefixBytes keyPrefix ∧ api.computeLeafHash l.2 = hash ∧
        api.serialize ⟨api.computeLeafHash l.2, .leaf l.2⟩ = .ok value := by
  cases h with
  | node hnode hvalue =>
      exact absurd (layout.parts hkey).1.symm (layout.ne_innerNode _ hkind)
  | leaf hleaf hvalue => exact ⟨_, hleaf, (layout.parts hkey).1, (layout.parts hkey).2, hvalue⟩
  | dummy horphan hunknown hvalue =>
      exact absurd (layout.parts hkey).1.symm (layout.ne_innerNode _ hkind)

/-- No key is claimed by two values. -/
theorem Entry.functional (hnodes : OneNodePerHash rpcProof)
    (hleaves : OneLeafPerHash layout (insertedLeaves rpcProof query initialReads))
    (key : DbKey) (value value' : DbValue)
    (h : Entry api rpcProof query initialReads key value)
    (h' : Entry api rpcProof query initialReads key value') : value = value' := by
  cases h with
  | node hnode hvalue =>
      rcases h'.of_innerNode layout rfl with ⟨node', hnode', hvalue'⟩ | ⟨hunknown, -⟩
      · obtain rfl := hnodes _ _ _ hnode hnode'
        exact Except.ok.inj (hvalue.symm.trans hvalue')
      · exact absurd hnode (hunknown _)
  | leaf hleaf hvalue =>
      obtain ⟨l', hmem', hkind, hhash, hvalue'⟩ :=
        h'.of_leaf layout rfl (ne_innerNode_of_mem hleaf)
      have hsame := hleaves l' hmem' _ hleaf hkind hhash
      rw [hsame] at hvalue'
      exact Except.ok.inj (hvalue.symm.trans hvalue')
  | dummy horphan hunknown hvalue =>
      rcases h'.of_innerNode layout rfl with ⟨node', hnode', -⟩ | ⟨-, hvalue'⟩
      · exact absurd hnode' (hunknown _)
      · exact Except.ok.inj (hvalue.symm.trans hvalue')

end Functional

/-! ### The passes -/

/-- Keys of the nodes of a tree. -/
def NodeKeys (api : CommitterApi) (nodes : NodeMap) (key : DbKey) : Prop :=
  ∃ hash node, nodes.get? hash = some node ∧ key = api.createDbKey .innerNode hash

/-- Keys of the children of the nodes of a tree. -/
def ChildKeys (api : CommitterApi) (nodes : NodeMap) (key : DbKey) : Prop :=
  ∃ hash node, nodes.get? hash = some node ∧
    ∃ child ∈ MerkleNode.children node, key = api.createDbKey .innerNode child

def insertLeaf (api : CommitterApi) (dbMap : DbHashMap) (leaf : KeyPrefix × Leaf) :
    Except ProofProviderError DbHashMap :=
  insertLeafNode api dbMap (api.computeLeafHash leaf.2) leaf.2 leaf.1

section Passes

variable {db db' : DbHashMap} {nodes : NodeMap}
  (hfunctional : ∀ key value value', Entry api rpcProof query initialReads key value →
    Entry api rpcProof query initialReads key value' → value = value')
  (hwithin : ∀ key value, db.get? key = some value →
    Entry api rpcProof query initialReads key value)

include hfunctional hwithin

theorem fills_insertInnerNodes (hmem : nodes ∈ nodeMaps rpcProof)
    (h : insertInnerNodes api db nodes = .ok db') :
    Fills (Entry api rpcProof query initialReads) (NodeKeys api nodes) db db' := by
  have hloop := fills_foldlM (K := fun _ => False)
    (P := fun e key => key = api.createDbKey .innerNode e.1) (fun e he m m' hm _ hstep => ?_)
    hwithin (fun _ => False.elim) h
  · refine ⟨hloop.within, hloop.keeps, ?_⟩
    rintro key ⟨hash, node, hnode, rfl⟩
    exact hloop.writes _ ⟨(hash, node), get?_eq_some_iff.mp hnode, rfl⟩
  · simp only [bind_eq_ok_iff, mapError_eq_ok_iff, pure_eq_ok_iff] at hstep
    obtain ⟨value, hvalue, rfl⟩ := hstep
    exact fills_insert hfunctional hm (.node ⟨nodes, hmem, get?_eq_some_iff.mpr he⟩ hvalue)

theorem fills_insertLeafNode {leaf : Leaf} {keyPrefix : KeyPrefix}
    (hleaf : (keyPrefix, leaf) ∈ insertedLeaves rpcProof query initialReads)
    (h : insertLeafNode api db (api.computeLeafHash leaf) leaf keyPrefix = .ok db') :
    Fills (Entry api rpcProof query initialReads)
      (· = api.createDbKey keyPrefix (api.computeLeafHash leaf)) db db' := by
  simp only [insertLeafNode, bind_eq_ok_iff, mapError_eq_ok_iff, pure_eq_ok_iff] at h
  obtain ⟨value, hvalue, rfl⟩ := h
  exact fills_insert hfunctional hwithin (.leaf hleaf hvalue)

theorem fills_insertLeaves
    (h : (insertedLeaves rpcProof query initialReads).foldlM (insertLeaf api) db = .ok db') :
    Fills (Entry api rpcProof query initialReads) (fun key =>
      ∃ leaf ∈ insertedLeaves rpcProof query initialReads,
        key = api.createDbKey leaf.1 (api.computeLeafHash leaf.2)) db db' :=
  fills_foldlM (K := fun _ => False)
    (fun _ hleaf _ _ hm _ hstep => fills_insertLeafNode hfunctional hm hleaf hstep)
    hwithin (fun _ => False.elim) h

/-- A child that is known is there already, so that a dummy is for an unknown one. -/
theorem fills_addDummyNodeForOrphanChild {dummyValue : DbValue} {child : Felt}
    (hdummy : api.serialize dummyNode = .ok dummyValue) (hmem : nodes ∈ nodeMaps rpcProof)
    (hchild : ∃ hash node, nodes.get? hash = some node ∧ child ∈ MerkleNode.children node)
    (hknown : ∀ hash node, Occurs rpcProof hash node →
      (db.get? (api.createDbKey .innerNode hash)).isSome) :
    Fills (Entry api rpcProof query initialReads) (· = api.createDbKey .innerNode child) db
      (addDummyNodeForOrphanChild api dummyValue nodes db child) := by
  have hthere (hisSome : (db.get? (api.createDbKey .innerNode child)).isSome) :
      Fills (Entry api rpcProof query initialReads) (· = api.createDbKey .innerNode child) db db :=
    fills_refl hwithin (by rintro key rfl; exact hisSome)
  unfold addDummyNodeForOrphanChild
  split
  · next hkey =>
    obtain ⟨node, hnode⟩ := Option.isSome_iff_exists.mp (isSome_get?_iff.mpr hkey)
    exact hthere (hknown child node ⟨nodes, hmem, hnode⟩)
  · next hkey =>
    split
    · next hisSome => exact hthere hisSome
    · next habsent =>
      obtain ⟨hash, node, hnode, hmember⟩ := hchild
      exact fills_insert hfunctional hwithin
        (.dummy ⟨nodes, hmem, hash, node, hnode, hmember, hkey⟩
          (fun node hoccurs => habsent (hknown child node hoccurs)) hdummy)

theorem fills_addDummyNodesForOrphanHashes (hmem : nodes ∈ nodeMaps rpcProof)
    (hknown : ∀ hash node, Occurs rpcProof hash node →
      (db.get? (api.createDbKey .innerNode hash)).isSome)
    (h : addDummyNodesForOrphanHashes api db nodes = .ok db') :
    Fills (Entry api rpcProof query initialReads) (ChildKeys api nodes) db db' := by
  simp only [addDummyNodesForOrphanHashes, bind_eq_ok_iff, mapError_eq_ok_iff,
    pure_eq_ok_iff] at h
  obtain ⟨dummyValue, hdummy, rfl⟩ := h
  have hloop : Fills (Entry api rpcProof query initialReads)
      (fun key => ∃ e ∈ nodes.entries, ∃ child ∈ MerkleNode.children e.2,
        key = api.createDbKey .innerNode child) db
      (nodes.entries.foldl (fun db e => (MerkleNode.children e.2).foldl
        (addDummyNodeForOrphanChild api dummyValue nodes) db) db) := by
    apply fills_foldl (K := fun key => ∃ hash node, Occurs rpcProof hash node ∧
      key = api.createDbKey .innerNode hash) (fun e he m hm hK => ?_) hwithin
    · rintro key ⟨hash, node, hoccurs, rfl⟩
      exact hknown hash node hoccurs
    · apply fills_foldl (fun child hchild m' hm' hK' => ?_) hm hK
      exact fills_addDummyNodeForOrphanChild hfunctional hm' hdummy hmem
        ⟨e.1, e.2, get?_eq_some_iff.mpr he, hchild⟩
        fun hash node hoccurs => hK' _ ⟨hash, node, hoccurs, rfl⟩
  refine ⟨hloop.within, hloop.keeps, ?_⟩
  rintro key ⟨hash, node, hnode, hchild⟩
  exact hloop.writes key ⟨(hash, node), get?_eq_some_iff.mp hnode, hchild⟩

end Passes

/-- The eight passes are three loops: over the trees, over the leaves, and over the
trees again. -/
theorem loops_of_createFactsDb {db : DbHashMap}
    (h : createFactsDbFromStorageProof api rpcProof query initialReads = .ok db) :
    ∃ db₁ db₂, (nodeMaps rpcProof).foldlM (insertInnerNodes api) .empty = .ok db₁ ∧
      (insertedLeaves rpcProof query initialReads).foldlM (insertLeaf api) db₁ = .ok db₂ ∧
      (nodeMaps rpcProof).foldlM (addDummyNodesForOrphanHashes api) db₂ = .ok db := by
  simp only [createFactsDbFromStorageProof, bind_eq_ok_iff] at h
  obtain ⟨db₁, h₁, db₂, h₂, db₃, h₃, db₄, h₄, db₅, h₅, db₆, h₆, db₇, h₇, db₈, h₈, h₉⟩ := h
  unfold insertContractLeaves at h₄
  split at h₄
  · refine ⟨db₃, db₆, ?_, ?_, ?_⟩
    · simp only [nodeMaps, List.foldlM_cons, bind_eq_ok_iff]
      exact ⟨db₁, h₁, db₂, h₂, h₃⟩
    · simp only [insertedLeaves, List.foldlM_append, List.foldlM_map, bind_eq_ok_iff]
      exact ⟨db₅, ⟨db₄, h₄, h₅⟩, h₆⟩
    · simp only [nodeMaps, List.foldlM_cons, bind_eq_ok_iff]
      exact ⟨db₇, h₇, db₈, h₈, h₉⟩
  · cases h₄

/-- Each pass leaves its entries, and later passes keep them. -/
theorem filled_of_createFactsDb
    (hfunctional : ∀ key value value', Entry api rpcProof query initialReads key value →
      Entry api rpcProof query initialReads key value' → value = value') {db : DbHashMap}
    (h : createFactsDbFromStorageProof api rpcProof query initialReads = .ok db) :
    (∀ key value, db.get? key = some value →
        Entry api rpcProof query initialReads key value) ∧
      (∀ hash node, Occurs rpcProof hash node →
        (db.get? (api.createDbKey .innerNode hash)).isSome) ∧
      (∀ leaf ∈ insertedLeaves rpcProof query initialReads,
        (db.get? (api.createDbKey leaf.1 (api.computeLeafHash leaf.2))).isSome) ∧
      ∀ nodes ∈ nodeMaps rpcProof, ∀ key, ChildKeys api nodes key → (db.get? key).isSome := by
  obtain ⟨db₁, db₂, hinner, hleaf, hdummy⟩ := loops_of_createFactsDb h
  have hempty : ∀ key value, (IndexMap.empty : DbHashMap).get? key = some value →
      Entry api rpcProof query initialReads key value := by simp
  have hnodesIn := fills_foldlM (K := fun _ => False) (P := NodeKeys api)
    (fun nodes hmem m m' hm _ hstep => fills_insertInnerNodes hfunctional hm hmem hstep) hempty
    (fun _ => False.elim) hinner
  have hleavesIn := fills_insertLeaves hfunctional hnodesIn.within hleaf
  have hknown (hash : Felt) (node : MerkleNode) (hoccurs : Occurs rpcProof hash node) :
      (db₂.get? (api.createDbKey .innerNode hash)).isSome := by
    obtain ⟨nodes, hmem, hnode⟩ := hoccurs
    exact hleavesIn.isSome (hnodesIn.writes _ ⟨nodes, hmem, hash, node, hnode, rfl⟩)
  have hdummiesIn := fills_foldlM (P := ChildKeys api)
    (K := fun key => ∃ hash node, Occurs rpcProof hash node ∧
      key = api.createDbKey .innerNode hash)
    (fun nodes hmem m m' hm hK hstep => fills_addDummyNodesForOrphanHashes hfunctional hm hmem
      (fun hash node hoccurs => hK _ ⟨hash, node, hoccurs, rfl⟩) hstep) hleavesIn.within
    (by rintro key ⟨hash, node, hoccurs, rfl⟩; exact hknown hash node hoccurs) hdummy
  refine ⟨hdummiesIn.within, ?_, ?_, ?_⟩
  · exact fun hash node hoccurs => hdummiesIn.isSome (hknown hash node hoccurs)
  · exact fun leaf hmem => hdummiesIn.isSome (hleavesIn.writes _ ⟨leaf, hmem, rfl⟩)
  · exact fun nodes hmem key hchild => hdummiesIn.writes _ ⟨nodes, hmem, hchild⟩

section Filled

variable {layout : KeyLayout api} {db : DbHashMap} (hnodes : OneNodePerHash rpcProof)
  (hleaves : OneLeafPerHash layout (insertedLeaves rpcProof query initialReads))
  (h : createFactsDbFromStorageProof api rpcProof query initialReads = .ok db)

include hnodes hleaves h

theorem exists_node_entry {hash : Felt} {node : MerkleNode} (hoccurs : Occurs rpcProof hash node) :
    ∃ value, api.serialize ⟨hash, .inner node⟩ = .ok value ∧
      db.get? (api.createDbKey .innerNode hash) = some value := by
  obtain ⟨hwithin, hnodesIn, -⟩ :=
    filled_of_createFactsDb (Entry.functional layout hnodes hleaves) h
  obtain ⟨value, hvalue⟩ := Option.isSome_iff_exists.mp (hnodesIn hash node hoccurs)
  refine ⟨value, ?_, hvalue⟩
  rcases (hwithin _ _ hvalue).of_innerNode layout rfl with
    ⟨node', hoccurs', hserialize⟩ | ⟨hunknown, -⟩
  · rwa [hnodes hash node node' hoccurs hoccurs']
  · exact absurd hoccurs (hunknown node)

theorem exists_leaf_entry {keyPrefix : KeyPrefix} {leaf : Leaf}
    (hmem : (keyPrefix, leaf) ∈ insertedLeaves rpcProof query initialReads) :
    ∃ value, api.serialize ⟨api.computeLeafHash leaf, .leaf leaf⟩ = .ok value ∧
      db.get? (api.createDbKey keyPrefix (api.computeLeafHash leaf)) = some value := by
  obtain ⟨hwithin, -, hleavesIn, -⟩ :=
    filled_of_createFactsDb (Entry.functional layout hnodes hleaves) h
  obtain ⟨value, hvalue⟩ := Option.isSome_iff_exists.mp (hleavesIn _ hmem)
  refine ⟨value, ?_, hvalue⟩
  obtain ⟨l, hl, hkind, hhash, hserialize⟩ :=
    (hwithin _ _ hvalue).of_leaf layout rfl (ne_innerNode_of_mem hmem)
  have hsame := hleaves l hl _ hmem hkind hhash
  rwa [hsame] at hserialize

end Filled

/-- Dummy facts never displace real ones, and nothing else is there. -/
theorem contents_createFactsDb (layout : KeyLayout api) (hnodes : OneNodePerHash rpcProof)
    (hleaves : OneLeafPerHash layout (insertedLeaves rpcProof query initialReads)) {db : DbHashMap}
    (h : createFactsDbFromStorageProof api rpcProof query initialReads = .ok db) :
    Contents api rpcProof query initialReads db := by
  obtain ⟨hwithin, -, -, hchildrenIn⟩ :=
    filled_of_createFactsDb (Entry.functional layout hnodes hleaves) h
  refine ⟨fun hash node => exists_node_entry hnodes hleaves h, ?_,
    fun keyPrefix leaf => exists_leaf_entry hnodes hleaves h, hwithin⟩
  rintro hash node ⟨nodes, hmem, hnode⟩ child hchild
  exact hchildrenIn nodes hmem _ ⟨hash, node, hnode, child, hchild, rfl⟩

/-! ### A small proof -/

section Sample

theorem ofBeBytes_toBytesBe (felt : Felt) : Words.ofBeBytes (toBytesBe felt) = felt.val := by
  have hread : Words.ofBeBytes (toBytesBe felt) = felt.val % 256 ^ 32 :=
    Words.ofBeBytes_toBeBytes 32 felt.val
  rw [hread, Nat.mod_eq_of_lt (felt.isLt.trans (by decide))]

theorem toBytesBe_injective : Function.Injective toBytesBe := by
  intro a b h
  apply Fin.val_injective
  rw [← ofBeBytes_toBytesBe a, h, ofBeBytes_toBytesBe b]

def samplePrefix : KeyPrefix → List (BitVec 8)
  | .innerNode => [0x6e]
  | .contractLeaf => [0x63]
  | .storageLeaf _ => [0x73]
  | .compiledClassLeaf => [0x6c]

/-- The prefix, a colon and the bytes of the hash. -/
def sampleJoin (keyPrefix : List (BitVec 8)) (hash : Felt) : DbKey :=
  keyPrefix ++ 0x3a :: toBytesBe hash

theorem sampleJoin_injective : Function.Injective2 sampleJoin := by
  intro p p' hash hash' h
  have hlength : (0x3a :: toBytesBe hash).length = (0x3a :: toBytesBe hash').length := by
    simp [toBytesBe]
  obtain ⟨hkind, hrest⟩ := List.append_inj' h hlength
  exact ⟨hkind, toBytesBe_injective (List.cons.inj hrest).2⟩

def sampleCommitter : CommitterApi := { permissiveCommitter with
  createDbKey := fun keyPrefix hash => sampleJoin (samplePrefix keyPrefix) hash
  serialize := fun filled => match filled.data with
    | .inner (.binaryNode left right) => .ok (toBytesBe left ++ toBytesBe right)
    | .inner (.edgeNode path length child) =>
        .ok (toBytesBe child ++ toBytesBe path ++ [BitVec.ofNat 8 length])
    | .leaf _ => .ok (toBytesBe filled.hash)
  computeLeafHash := fun leaf => match leaf with
    | .contractState nonce classHash root => nonce + classHash + root
    | .storageValue value => value
    | .compiledClassHash hash => hash }

def sampleLayout : KeyLayout sampleCommitter where
  prefixBytes := samplePrefix
  join := sampleJoin
  createDbKey_eq _ _ := rfl
  join_injective := sampleJoin_injective
  ne_innerNode keyPrefix h := by
    cases keyPrefix with
    | innerNode => exact absurd rfl h
    | _ => simp [samplePrefix]

/-- The hash 11 is an orphan in the tree of contracts and a node in that of classes. -/
def sampleProof : RpcStorageProof where
  classesProof := .ofList [(11, .edgeNode 0 1 14)]
  contractsProof := {
    nodes := .ofList [(10, .binaryNode 11 12), (12, .edgeNode 0 1 13)]
    contractLeavesData := [⟨1, 2, some 3⟩] }
  contractsStorageProofs := [.ofList [(12, .edgeNode 0 1 13)]]
  globalRoots := ⟨10, 11⟩

def sampleQuery : RpcStorageProofsQuery := { RpcStorageProofsQuery.default with
  contractAddresses := [0] }

theorem one_inRange : (1 : Felt).val < patriciaKeyUpperBound := by decide

def sampleReads : StateMaps := { StateMaps.default with
  storage := .ofList [((0, 0), 5), ((0, ⟨1, one_inRange⟩), 5)] }

theorem oneNodePerHash_sampleProof : OneNodePerHash sampleProof := by
  rintro hash node node' ⟨nodes, hmem, h⟩ ⟨nodes', hmem', h'⟩
  have hpairs : ∀ nodes ∈ nodeMaps sampleProof, ∀ nodes' ∈ nodeMaps sampleProof,
      ∀ e ∈ nodes.entries, ∀ e' ∈ nodes'.entries, e.1 = e'.1 → e.2 = e'.2 := by decide
  exact hpairs nodes hmem nodes' hmem' (hash, node) (get?_eq_some_iff.mp h) (hash, node')
    (get?_eq_some_iff.mp h') rfl

theorem contents_sampleProof :
    ∃ db, createFactsDbFromStorageProof sampleCommitter sampleProof sampleQuery sampleReads =
        .ok db ∧ Contents sampleCommitter sampleProof sampleQuery sampleReads db := by
  have hserialize (filled : FilledNode) : ∃ value, sampleCommitter.serialize filled = .ok value := by
    rcases filled with ⟨hash, (left | path) | leaf⟩
    · exact ⟨_, rfl⟩
    · exact ⟨_, rfl⟩
    · exact ⟨_, rfl⟩
  have hleaves : OneLeafPerHash sampleLayout (insertedLeaves sampleProof sampleQuery sampleReads) :=
    (by decide : ∀ l ∈ insertedLeaves sampleProof sampleQuery sampleReads,
      ∀ l' ∈ insertedLeaves sampleProof sampleQuery sampleReads,
        samplePrefix l.1 = samplePrefix l'.1 →
          sampleCommitter.computeLeafHash l.2 = sampleCommitter.computeLeafHash l'.2 → l.2 = l'.2)
  obtain ⟨db, hdb⟩ : ∃ db, createFactsDbFromStorageProof sampleCommitter sampleProof sampleQuery
      sampleReads = .ok db := exists_createFactsDb_eq_ok hserialize rfl sampleReads
  exact ⟨db, hdb, contents_createFactsDb sampleLayout oneNodePerHash_sampleProof hleaves hdb⟩

end Sample

end Snip36.FactsContents
