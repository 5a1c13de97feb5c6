import Snip36.FieldTypes
import Snip36.Library.IndexMap

/-!
The maps of state reads and writes that the executor exchanges with the rest of
the program. They are hash maps in the source; here each has some fixed order
of iteration, and nothing is assumed about which.
-/

namespace Snip36

open Library

structure StateMaps where
  nonces : IndexMap ContractAddress Nonce
  classHashes : IndexMap ContractAddress ClassHash
  storage : IndexMap (ContractAddress × StorageKey) Felt
  compiledClassHashes : IndexMap ClassHash CompiledClassHash
  declaredContracts : IndexMap ClassHash Bool

def StateMaps.default : StateMaps := ⟨.empty, .empty, .empty, .empty, .empty⟩

/-- A hash set with some fixed order of iteration. -/
structure HashSet (α : Type) where
  elements : List α
  nodup : elements.Nodup

def HashSet.empty {α : Type} : HashSet α := ⟨[], List.nodup_nil⟩

/-- Insert the elements of a list, in order, into an empty set. -/
def HashSet.ofList {α : Type} [DecidableEq α] (items : List α) : HashSet α :=
  ⟨items.dedup, items.nodup_dedup⟩

/-- The addresses that have a storage entry, a nonce or a class hash. -/
def StateMaps.touchedAddresses (maps : StateMaps) : List ContractAddress :=
  maps.storage.keys.map Prod.fst ++ maps.nonces.keys ++ maps.classHashes.keys

end Snip36
