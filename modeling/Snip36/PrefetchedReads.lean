import Snip36.VirtualBlockExecutor

/-!
What a transaction reads through the prefetched state. A transaction is any
program of reads, which may choose each read by the answers to those before.
-/

namespace Snip36.PrefetchedReads

open Library.Interaction
open StateReader
open VirtualBlockExecutor

inductive Read where
  | storage (address : ContractAddress) (key : StorageKey)
  | nonce (address : ContractAddress)
  | classHash (address : ContractAddress)
  | compiledClass (classHash : ClassHash)
  | compiledClassHash (classHash : ClassHash)
  | compiledClasses (classHash : ClassHash)
  | isDeclared (classHash : ClassHash)

abbrev Read.Value : Read → Type
  | .storage _ _ => Felt
  | .nonce _ => Nonce
  | .classHash _ => ClassHash
  | .compiledClass _ => RunnableCompiledClass
  | .compiledClassHash _ => CompiledClassHash
  | .compiledClasses _ => CompiledClasses
  | .isDeclared _ => Bool

abbrev Transaction (ε β : Type) := Program Read (fun read => StateResult read.Value) ε β

def answer (reader : SimulatedStateReader) : (read : Read) → StateResult read.Value
  | .storage address key => reader.getStorageAt address key
  | .nonce address => reader.getNonceAt address
  | .classHash address => reader.getClassHashAt address
  | .compiledClass classHash => reader.getCompiledClass classHash
  | .compiledClassHash classHash => reader.getCompiledClassHash classHash
  | .compiledClasses classHash => reader.getCompiledClasses classHash
  | .isDeclared classHash => reader.isDeclared classHash

/-- The reader is not changed by what is read. -/
def serving (reader : SimulatedStateReader) :
    Environment Read (fun read => StateResult read.Value) := fun _ read => answer reader read

/-- What the maps hold for a read. Compiled classes are not among it. -/
def stored (maps : StateMaps) : (read : Read) → Option read.Value
  | .storage address key => maps.storage.get? (address, key)
  | .nonce address => maps.nonces.get? address
  | .classHash address => maps.classHashes.get? address
  | .compiledClass _ => none
  | .compiledClassHash _ => none
  | .compiledClasses _ => none
  | .isDeclared classHash => maps.declaredContracts.get? classHash

/-- What is answered is stored, and for what is not stored there is an error. -/
def FromMaps (maps : StateMaps) (read : Read) (result : StateResult read.Value) : Prop :=
  (∀ value, result = .ok value → stored maps read = some value) ∧
    (stored maps read = none → ∃ message, result = .error message)

/-- A class of which nothing is stored counts as declared. -/
def ServedAs (maps : StateMaps) (read : Read) (result : StateResult read.Value) : Prop :=
  match read, result with
  | .isDeclared classHash, result =>
      result = .ok ((maps.declaredContracts.get? classHash).getD true)
  | read, result => FromMaps maps read result

theorem fromMaps_error (maps : StateMaps) (read : Read) (message : String) :
    FromMaps maps read (.error message) :=
  ⟨nofun, fun _ => ⟨message, rfl⟩⟩

theorem fromMaps_ok {maps : StateMaps} {read : Read} {value : read.Value}
    (h : stored maps read = some value) : FromMaps maps read (.ok value) := by
  constructor
  · rintro value' ⟨⟩
    exact h
  · intro hnone
    rw [h] at hnone
    cases hnone

theorem servedAs_answer (reader : SimulatedStateReader) (read : Read) :
    ServedAs reader.stateMaps read (answer reader read) := by
  cases read with
  | storage address key =>
      change FromMaps _ (.storage address key) (reader.getStorageAt address key)
      unfold SimulatedStateReader.getStorageAt
      split
      · next h => exact fromMaps_ok h
      · exact fromMaps_error _ _ _
  | nonce address =>
      change FromMaps _ (.nonce address) (reader.getNonceAt address)
      unfold SimulatedStateReader.getNonceAt
      split
      · next h => exact fromMaps_ok h
      · exact fromMaps_error _ _ _
  | classHash address =>
      change FromMaps _ (.classHash address) (reader.getClassHashAt address)
      unfold SimulatedStateReader.getClassHashAt
      split
      · next h => exact fromMaps_ok h
      · exact fromMaps_error _ _ _
  | compiledClass classHash => exact fromMaps_error _ _ _
  | compiledClassHash classHash => exact fromMaps_error _ _ _
  | compiledClasses classHash => exact fromMaps_error _ _ _
  | isDeclared classHash =>
      change reader.isDeclared classHash = _
      unfold SimulatedStateReader.isDeclared
      split
      · next h => rw [h]; rfl
      · next h => rw [h]; rfl

/-- Everything that a transaction reads comes from the maps, except that classes
which they do not mention are taken to be declared. -/
theorem served_of_mem_run {ε β : Type} (reader : SimulatedStateReader)
    (transaction : Transaction ε β) :
    ∀ event ∈ (Program.run (serving reader) transaction []).2,
      ServedAs reader.stateMaps event.request event.answer := by
  intro event hevent
  rcases Program.answered_of_mem_run hevent with hmem | ⟨moment, hanswer⟩
  · exact absurd hmem List.not_mem_nil
  · rw [hanswer]
    exact servedAs_answer reader event.request

/-- A nonce that was not prefetched is an error. -/
theorem served_of_mem_run_nonce :
    ServedAs .default (.nonce 0) (answer ⟨.default, ⟨.latest, default⟩⟩ (.nonce 0)) :=
  served_of_mem_run ⟨.default, ⟨.latest, default⟩⟩
    (.call (.nonce 0) fun _ => .done (.ok ()) : Transaction String Unit)
    ⟨.nonce 0, answer ⟨.default, ⟨.latest, default⟩⟩ (.nonce 0)⟩ List.mem_cons_self

/-- With nothing prefetched, any class is declared. -/
theorem unknown_class_is_declared :
    ¬ ∀ (reader : SimulatedStateReader) (transaction : Transaction String Bool),
      ∀ event ∈ (Program.run (serving reader) transaction []).2,
        FromMaps reader.stateMaps event.request event.answer := by
  intro hclaim
  have hread := hclaim ⟨.default, ⟨.latest, default⟩⟩
    (.call (.isDeclared 1) fun _ => .done (.ok true)) ⟨.isDeclared 1, .ok true⟩
    List.mem_cons_self
  cases hread.1 true rfl

end Snip36.PrefetchedReads
