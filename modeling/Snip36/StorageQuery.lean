import Snip36.FieldTypes
import Snip36.Library.Chunks
import Snip36.Library.Interaction

/-!
The query for storage proofs and how it is cut into requests. A query is
flattened into single keys, the keys are cut into chunks, and every chunk is
collected into a query again.
-/

namespace Snip36.StorageQuery

open Library.Interaction
open Library.Chunks

def maxKeysPerRequest : Nat := 100

structure ContractStorageKeys where
  contractAddress : Felt
  storageKeys : List Felt
  deriving DecidableEq

structure RpcStorageProofsQuery where
  classHashes : List Felt
  contractAddresses : List ContractAddress
  contractStorageKeys : List ContractStorageKeys
  deriving DecidableEq

def RpcStorageProofsQuery.default : RpcStorageProofsQuery := ⟨[], [], []⟩

def countTotalKeys (query : RpcStorageProofsQuery) : Nat :=
  query.classHashes.length + query.contractAddresses.length +
    (query.contractStorageKeys.map fun csk => csk.storageKeys.length).sum

inductive QueryItem where
  | classHash (hash : Felt)
  | contractAddress (address : ContractAddress)
  | storageKey (contractAddress key : Felt)
  deriving DecidableEq

def flattenQuery (query : RpcStorageProofsQuery) : List QueryItem :=
  query.classHashes.map .classHash ++
    query.contractAddresses.map .contractAddress ++
      query.contractStorageKeys.flatMap fun contract =>
        contract.storageKeys.map (.storageKey contract.contractAddress)

/-- Add a key to the last entry if that one is for the same contract, else
open a new entry. -/
def pushStorageKey (entries : List ContractStorageKeys) (address key : Felt) :
    List ContractStorageKeys :=
  match entries.getLast? with
  | some last =>
      if last.contractAddress = address then
        entries.dropLast ++ [{ last with storageKeys := last.storageKeys ++ [key] }]
      else entries ++ [⟨address, [key]⟩]
  | none => entries ++ [⟨address, [key]⟩]

def collectStep (query : RpcStorageProofsQuery) : QueryItem → RpcStorageProofsQuery
  | .classHash hash => { query with classHashes := query.classHashes ++ [hash] }
  | .contractAddress address =>
      { query with contractAddresses := query.contractAddresses ++ [address] }
  | .storageKey address key =>
      { query with
        contractStorageKeys := pushStorageKey query.contractStorageKeys address key }

def collectQuery (items : List QueryItem) : RpcStorageProofsQuery :=
  items.foldl collectStep .default

def splitQuery {ε : Type} (query : RpcStorageProofsQuery) (maxKeys : Nat) :
    Outcome ε (List RpcStorageProofsQuery) :=
  if 0 < maxKeys then .ok ((chunks maxKeys (flattenQuery query)).map collectQuery)
  else .panicked "max_keys must be positive"

/-! ### What flattening keeps -/

theorem length_flattenQuery (query : RpcStorageProofsQuery) :
    (flattenQuery query).length = countTotalKeys query := by
  simp [flattenQuery, countTotalKeys, List.length_flatMap, Nat.add_assoc]

/-- The class hashes, addresses and storage keys of a list of items, each kind
in its own order. -/
def classHashesOf (items : List QueryItem) : List Felt :=
  items.filterMap fun
    | .classHash hash => some hash
    | _ => none

def contractAddressesOf (items : List QueryItem) : List ContractAddress :=
  items.filterMap fun
    | .contractAddress address => some address
    | _ => none

def storageKeysOf (items : List QueryItem) : List (Felt × Felt) :=
  items.filterMap fun
    | .storageKey address key => some (address, key)
    | _ => none

/-- The pairs of contract and key that the entries of a query ask for. -/
def requestedKeys (entries : List ContractStorageKeys) : List (Felt × Felt) :=
  entries.flatMap fun csk => csk.storageKeys.map fun key => (csk.contractAddress, key)

theorem classHashesOf_flattenQuery (query : RpcStorageProofsQuery) :
    classHashesOf (flattenQuery query) = query.classHashes := by
  simp [classHashesOf, flattenQuery, List.filterMap_append, List.filterMap_map,
    List.filterMap_flatMap]

theorem contractAddressesOf_flattenQuery (query : RpcStorageProofsQuery) :
    contractAddressesOf (flattenQuery query) = query.contractAddresses := by
  simp [contractAddressesOf, flattenQuery, List.filterMap_append, List.filterMap_map,
    List.filterMap_flatMap]

theorem storageKeysOf_flattenQuery (query : RpcStorageProofsQuery) :
    storageKeysOf (flattenQuery query) = requestedKeys query.contractStorageKeys := by
  simp [storageKeysOf, requestedKeys, flattenQuery, List.filterMap_append,
    List.filterMap_map, List.filterMap_flatMap]

/-! ### What collecting keeps -/

theorem requestedKeys_pushStorageKey (entries : List ContractStorageKeys) (address key : Felt) :
    requestedKeys (pushStorageKey entries address key) =
      requestedKeys entries ++ [(address, key)] := by
  rcases List.eq_nil_or_concat entries with rfl | ⟨front, last, rfl⟩
  · rfl
  · simp only [pushStorageKey, List.concat_eq_append, List.getLast?_append, List.getLast?_singleton,
      Option.some_or, List.dropLast_concat]
    split
    · next h =>
      subst h
      simp [requestedKeys]
    · simp [requestedKeys]

/-- The loop invariant of `collectQuery`: every item already seen is in the
query, each kind in the order of the items. -/
theorem foldl_collectStep (items : List QueryItem) (query : RpcStorageProofsQuery) :
    (items.foldl collectStep query).classHashes = query.classHashes ++ classHashesOf items ∧
      (items.foldl collectStep query).contractAddresses =
        query.contractAddresses ++ contractAddressesOf items ∧
      requestedKeys (items.foldl collectStep query).contractStorageKeys =
        requestedKeys query.contractStorageKeys ++ storageKeysOf items := by
  induction items generalizing query with
  | nil => simp [classHashesOf, contractAddressesOf, storageKeysOf]
  | cons item rest ih =>
      obtain ⟨hclass, haddress, hkeys⟩ := ih (collectStep query item)
      rw [List.foldl_cons, hclass, haddress, hkeys]
      cases item with
      | classHash hash => simp [collectStep, classHashesOf, contractAddressesOf, storageKeysOf]
      | contractAddress address =>
          simp [collectStep, classHashesOf, contractAddressesOf, storageKeysOf]
      | storageKey address key =>
          simp [collectStep, classHashesOf, contractAddressesOf, storageKeysOf,
            requestedKeys_pushStorageKey]

theorem classHashes_collectQuery (items : List QueryItem) :
    (collectQuery items).classHashes = classHashesOf items :=
  (foldl_collectStep items .default).1

theorem contractAddresses_collectQuery (items : List QueryItem) :
    (collectQuery items).contractAddresses = contractAddressesOf items :=
  (foldl_collectStep items .default).2.1

theorem requestedKeys_collectQuery (items : List QueryItem) :
    requestedKeys (collectQuery items).contractStorageKeys = storageKeysOf items :=
  (foldl_collectStep items .default).2.2

theorem mem_requestedKeys {entries : List ContractStorageKeys} {address key : Felt} :
    (address, key) ∈ requestedKeys entries ↔
      ∃ csk ∈ entries, csk.contractAddress = address ∧ key ∈ csk.storageKeys := by
  simp only [requestedKeys, List.mem_flatMap, List.mem_map, Prod.mk.injEq]
  constructor
  · rintro ⟨csk, hcsk, key', hkey, haddress, rfl⟩
    exact ⟨csk, hcsk, haddress, hkey⟩
  · rintro ⟨csk, hcsk, haddress, hkey⟩
    exact ⟨csk, hcsk, key, hkey, haddress, rfl⟩

/-- Pushing a key leaves every other entry alone and the touched entry with
the key in it. -/
theorem mem_or_mem_storageKeys_of_mem_push {entries : List ContractStorageKeys}
    {address key : Felt} {csk : ContractStorageKeys}
    (h : csk ∈ pushStorageKey entries address key) :
    csk ∈ entries ∨ key ∈ csk.storageKeys := by
  rcases List.eq_nil_or_concat entries with rfl | ⟨front, last, rfl⟩
  · right
    have hcsk : csk = ⟨address, [key]⟩ := by simpa [pushStorageKey] using h
    simp [hcsk]
  · simp only [pushStorageKey, List.concat_eq_append, List.getLast?_append,
      List.getLast?_singleton, Option.some_or, List.dropLast_concat] at h
    split at h
    all_goals
      rcases List.mem_append.mp h with hold | hnew
      · left
        simp at hold ⊢
        tauto
      · right
        rw [List.mem_singleton] at hnew
        simp [hnew]

theorem storageKeys_ne_nil_of_mem_foldl (items : List QueryItem) (query : RpcStorageProofsQuery)
    (hquery : ∀ csk ∈ query.contractStorageKeys, csk.storageKeys ≠ []) :
    ∀ csk ∈ (items.foldl collectStep query).contractStorageKeys, csk.storageKeys ≠ [] := by
  induction items generalizing query with
  | nil => exact hquery
  | cons item rest ih =>
      apply ih
      cases item with
      | classHash hash => exact hquery
      | contractAddress address => exact hquery
      | storageKey address key =>
          intro csk hcsk
          rcases mem_or_mem_storageKeys_of_mem_push hcsk with hold | hkey
          · exact hquery csk hold
          · exact List.ne_nil_of_mem hkey

/-- No entry of a collected query is empty. -/
theorem storageKeys_ne_nil_of_mem_collectQuery {items : List QueryItem}
    {csk : ContractStorageKeys} (h : csk ∈ (collectQuery items).contractStorageKeys) :
    csk.storageKeys ≠ [] :=
  storageKeys_ne_nil_of_mem_foldl items .default (by simp [RpcStorageProofsQuery.default]) csk h

/-! ### Queries cut into pieces

Nothing below depends on where the pieces begin and end, only on their
concatenation. -/

section Pieces

variable {query : RpcStorageProofsQuery} {pieces : List (List QueryItem)}
  (hpieces : pieces.flatten = flattenQuery query)

include hpieces

theorem flatMap_classHashes_of_pieces :
    (pieces.map collectQuery).flatMap RpcStorageProofsQuery.classHashes =
      query.classHashes := by
  simp only [List.flatMap_map, classHashes_collectQuery]
  rw [← classHashesOf_flattenQuery query, ← hpieces]
  simp [classHashesOf, List.filterMap_flatten, List.flatMap_def]

theorem flatMap_contractAddresses_of_pieces :
    (pieces.map collectQuery).flatMap RpcStorageProofsQuery.contractAddresses =
      query.contractAddresses := by
  simp only [List.flatMap_map, contractAddresses_collectQuery]
  rw [← contractAddressesOf_flattenQuery query, ← hpieces]
  simp [contractAddressesOf, List.filterMap_flatten, List.flatMap_def]

theorem flatMap_requestedKeys_of_pieces :
    (pieces.map collectQuery).flatMap (fun piece => requestedKeys piece.contractStorageKeys) =
      requestedKeys query.contractStorageKeys := by
  simp only [List.flatMap_map, requestedKeys_collectQuery]
  rw [← storageKeysOf_flattenQuery query, ← hpieces]
  simp [storageKeysOf, List.filterMap_flatten, List.flatMap_def]

/-- Every contract that a piece asks about is one the query asks about. -/
theorem contractAddress_mem_of_piece {piece : RpcStorageProofsQuery}
    (hpiece : piece ∈ pieces.map collectQuery) {csk : ContractStorageKeys}
    (hcsk : csk ∈ piece.contractStorageKeys) :
    csk.contractAddress ∈ query.contractStorageKeys.map ContractStorageKeys.contractAddress := by
  obtain ⟨items, -, rfl⟩ := List.mem_map.mp hpiece
  obtain ⟨key, hkey⟩ := List.exists_mem_of_ne_nil _ (storageKeys_ne_nil_of_mem_collectQuery hcsk)
  have hmem : (csk.contractAddress, key) ∈ requestedKeys query.contractStorageKeys := by
    rw [← flatMap_requestedKeys_of_pieces hpieces]
    exact List.mem_flatMap.mpr ⟨_, hpiece, mem_requestedKeys.mpr ⟨csk, hcsk, rfl, hkey⟩⟩
  obtain ⟨csk', hcsk', haddress, -⟩ := mem_requestedKeys.mp hmem
  exact List.mem_map.mpr ⟨csk', hcsk', haddress⟩

end Pieces

end Snip36.StorageQuery
