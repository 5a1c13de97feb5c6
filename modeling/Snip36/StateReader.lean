import Snip36.ExecutionData

/-!
The reader that fetches headers and classes for one block id. Its blocking
reads are not available to the browser and always fail. Class formats and the
cache of classes belong to other packages; what is used of them is in `ClassApi`.
-/

namespace Snip36.StateReader

open Library
open Library.Interaction
open Rpc
open ExecutionData

inductive MaybeRelocatable where
  | int (felt : Felt)
  | relocatableValue (segmentIndex offset : Nat)
  deriving DecidableEq

structure EntryPointV0 where
  selector : Felt
  offset : U32
  deriving DecidableEq

structure EntryPointsByType where
  constructor : List EntryPointV0
  external : List EntryPointV0
  l1Handler : List EntryPointV0
  deriving DecidableEq

structure DeprecatedContractClass where
  program : List MaybeRelocatable
  entryPointsByType : EntryPointsByType
  deriving DecidableEq

structure CompiledClassV0 where
  deprecatedClass : DeprecatedContractClass
  deriving DecidableEq

structure CompiledClassV1 where
  programData : List MaybeRelocatable
  bytecodeSegmentFeltSizes : List Nat
  hintsCollection : List (Nat × List String)
  entryPointsByType : List (String × List (Felt × Nat))
  deriving DecidableEq

inductive RunnableCompiledClass where
  | v0 (compiled : CompiledClassV0)
  | v1 (compiled : CompiledClassV1)
  deriving DecidableEq

/-- A runnable class together with the Sierra program it comes from. -/
inductive CompiledClasses where
  | v0 (compiled : CompiledClassV0)
  | v1 (compiled : CompiledClassV1) (sierraProgram : List Felt)
  deriving DecidableEq

abbrev SierraVersion := Nat × Nat × Nat

/-- What the class cache holds. -/
abbrev ContractClassManager := List (ClassHash × CompiledClasses)

structure ClassApi where
  extractSierraVersion : List Felt → Except String SierraVersion
  compiledClassV1FromJson : String → SierraVersion → Except String CompiledClassV1
  gzDecode : List (BitVec 8) → Except String String
  parseProgram : String → Except String (List MaybeRelocatable)
  compiledClassV0TryFrom : DeprecatedContractClass → Except String CompiledClassV0
  setAndCompile : ContractClassManager → ClassHash → CompiledClasses → ContractClassManager

structure RpcStateReader where
  blockId : BlockId
  chainInfo : ChainInfo

/-! ### Legacy classes -/

/-- An offset has 64 bits on the wire and 32 bits in the browser. -/
def mapLegacyEntryPoint (entryPoint : LegacyContractEntryPoint) :
    Outcome ReexecutionError EntryPointV0 :=
  if entryPoint.offset.toNat < 2 ^ 32 then
    .ok ⟨entryPoint.selector, .ofNat 32 entryPoint.offset.toNat⟩
  else .panicked "entry point offset overflow"

def mapLegacyEntryPointList :
    List LegacyContractEntryPoint → Outcome ReexecutionError (List EntryPointV0)
  | [] => .ok []
  | entryPoint :: rest => do
      let first ← mapLegacyEntryPoint entryPoint
      let others ← mapLegacyEntryPointList rest
      pure (first :: others)

def mapLegacyEntryPoints (entryPoints : LegacyEntryPointsByType) :
    Outcome ReexecutionError EntryPointsByType := do
  let constructor ← mapLegacyEntryPointList entryPoints.constructor
  let external ← mapLegacyEntryPointList entryPoints.external
  let l1Handler ← mapLegacyEntryPointList entryPoints.l1Handler
  pure ⟨constructor, external, l1Handler⟩

def legacyToCompiledClassV0 (api : ClassApi) (program : List (BitVec 8))
    (entryPointsByType : LegacyEntryPointsByType) :
    Outcome ReexecutionError CompiledClassV0 := do
  let programJson ← .ofExcept ((api.gzDecode program).mapError fun e =>
    .compiledClass s!"decompress legacy program: {e}")
  let program ← .ofExcept ((api.parseProgram programJson).mapError fun e =>
    .compiledClass s!"parse legacy program: {e}")
  let entryPointsByType ← mapLegacyEntryPoints entryPointsByType
  .ofExcept ((api.compiledClassV0TryFrom ⟨program, entryPointsByType⟩).mapError .compiledClass)

/-! ### Asking the node -/

def getBlockHeaderAsync (reader : RpcStateReader) : RpcProgram ReexecutionError BlockHeader :=
  askOrFail (.getBlockWithTxHashes reader.blockId) id id

def getContractClassAsync (reader : RpcStateReader) (classHash : ClassHash) :
    RpcProgram ReexecutionError ContractClass :=
  askOrFail (.getClass reader.blockId classHash) id id

/-- The compiled form of a Sierra class; both getters fetch it alike. -/
def compileSierra (api : ClassApi) (classHash : ClassHash) (program : List Felt) :
    RpcProgram ReexecutionError CompiledClassV1 := do
  let version ← .done (.ofExcept ((api.extractSierraVersion program).mapError fun e =>
    .compiledClass s!"extract sierra version: {e}"))
  let casmJson ← askOrFail (.getCompiledCasm classHash) id id
  .done (.ofExcept ((api.compiledClassV1FromJson casmJson version).mapError .compiledClass))

def getRunnableCompiledClassAsync (api : ClassApi) (reader : RpcStateReader)
    (classHash : ClassHash) : RpcProgram ReexecutionError RunnableCompiledClass := do
  match ← getContractClassAsync reader classHash with
  | .sierra program =>
      let compiled ← compileSierra api classHash program
      pure (.v1 compiled)
  | .legacy program entryPointsByType =>
      let compiled ← .done (legacyToCompiledClassV0 api program entryPointsByType)
      pure (.v0 compiled)

def getCompiledClassesAsync (api : ClassApi) (reader : RpcStateReader)
    (classHash : ClassHash) : RpcProgram ReexecutionError CompiledClasses := do
  match ← getContractClassAsync reader classHash with
  | .sierra program =>
      let compiled ← compileSierra api classHash program
      pure (.v1 compiled program)
  | .legacy program entryPointsByType =>
      let compiled ← .done (legacyToCompiledClassV0 api program entryPointsByType)
      pure (.v0 compiled)

def IsClassRequest : Request → Prop
  | .getClass .. => True
  | .getCompiledCasm .. => True
  | _ => False

theorem onlyAsks_compileSierra (api : ClassApi) (classHash : ClassHash) (program : List Felt) :
    Program.OnlyAsks IsClassRequest (compileSierra api classHash program) :=
  (Program.onlyAsks_done _).bind fun _ =>
    (onlyAsks_askOrFail trivial _ _).bind fun _ => Program.onlyAsks_done _

theorem onlyAsks_getRunnableCompiledClassAsync (api : ClassApi) (reader : RpcStateReader)
    (classHash : ClassHash) :
    Program.OnlyAsks IsClassRequest (getRunnableCompiledClassAsync api reader classHash) := by
  apply (onlyAsks_askOrFail trivial _ _).bind
  intro contractClass
  cases contractClass with
  | sierra program =>
      exact (onlyAsks_compileSierra api classHash program).bind fun _ => Program.onlyAsks_pure _
  | legacy program entryPointsByType =>
      exact (Program.onlyAsks_done _).bind fun _ => Program.onlyAsks_pure _

theorem onlyAsks_getCompiledClassesAsync (api : ClassApi) (reader : RpcStateReader)
    (classHash : ClassHash) :
    Program.OnlyAsks IsClassRequest (getCompiledClassesAsync api reader classHash) := by
  apply (onlyAsks_askOrFail trivial _ _).bind
  intro contractClass
  cases contractClass with
  | sierra program =>
      exact (onlyAsks_compileSierra api classHash program).bind fun _ => Program.onlyAsks_pure _
  | legacy program entryPointsByType =>
      exact (Program.onlyAsks_done _).bind fun _ => Program.onlyAsks_pure _

/-! ### The blocking reads -/

/-- A blocking read ends in a value or in the text of a state read error. -/
abbrev StateResult (α : Type) := Except String α

namespace RpcStateReader

def getStorageAt (_ : RpcStateReader) (_ : ContractAddress) (_ : StorageKey) :
    StateResult Felt :=
  .error "browser-safe rpc reader does not expose blocking storage access; use get_storage_at_async"

def getNonceAt (_ : RpcStateReader) (_ : ContractAddress) : StateResult Nonce :=
  .error "browser-safe rpc reader does not expose blocking nonce access; use get_nonce_at_async"

def getClassHashAt (_ : RpcStateReader) (_ : ContractAddress) : StateResult ClassHash :=
  .error
    "browser-safe rpc reader does not expose blocking class hash access; use get_class_hash_at_async"

def getCompiledClass (_ : RpcStateReader) (_ : ClassHash) : StateResult RunnableCompiledClass :=
  .error
    "browser-safe rpc reader does not expose blocking compiled class access; use get_runnable_compiled_class_async"

def getCompiledClassHash (_ : RpcStateReader) (_ : ClassHash) : StateResult CompiledClassHash :=
  .error "browser-safe rpc reader does not support get_compiled_class_hash"

def getCompiledClasses (_ : RpcStateReader) (_ : ClassHash) : StateResult CompiledClasses :=
  .error
    "browser-safe rpc reader does not expose blocking compiled classes access; use get_compiled_classes_async"

/-- The only read that succeeds: every class is taken to be declared. -/
def isDeclared (_ : RpcStateReader) (_ : ClassHash) : StateResult Bool := .ok true

end RpcStateReader

end Snip36.StateReader
