import Snip36.VirtualBlockExecutor

/-!
Which classes the prefetch of a run gets into the cache, and which classes make
it fail, for a node that serves some classes and no others.
-/

namespace Snip36.PrefetchedClasses

open Library
open Library.Interaction
open Rpc
open StateReader
open VirtualBlockExecutor

/-! ### A node that serves the declared classes -/

/-- The compiled form of the class is there for whoever asks for it. -/
def Compiles (api : ClassApi) (node : Node) (classHash : ClassHash) : ContractClass → Prop
  | .sierra program =>
      ∃ version, api.extractSierraVersion program = .ok version ∧
        ∀ moment, ∃ casmJson compiled, node moment (.getCompiledCasm classHash) = .ok casmJson ∧
          api.compiledClassV1FromJson casmJson version = .ok compiled
  | .legacy program entryPointsByType =>
      ∃ compiled, legacyToCompiledClassV0 api program entryPointsByType = .ok compiled

/-- At the block of the reader the node knows the declared classes, and refuses
every other class. -/
structure ServesExactly (api : ClassApi) (node : Node) (reader : RpcStateReader)
    (declared : ClassHash → Prop) : Prop where
  serves : ∀ classHash, declared classHash → ∀ moment, ∃ contractClass,
    node moment (.getClass reader.blockId classHash) = .ok contractClass ∧
      Compiles api node classHash contractClass
  refuses : ∀ classHash, ¬ declared classHash → ∀ moment, ∃ error,
    node moment (.getClass reader.blockId classHash) = .error error

variable {api : ClassApi} {node : Node} {before after : Conversation} {classHash : ClassHash}

theorem exists_returns_compileSierra {program : List Felt}
    (h : Compiles api node classHash (.sierra program)) :
    ∃ compiled after, Program.Returns node (compileSierra api classHash program) before compiled
      after := by
  obtain ⟨version, hversion, hcasm⟩ := h
  obtain ⟨casmJson, compiled, hanswer, hcompiled⟩ := hcasm before
  simp only [compileSierra, Program.returns_bind_iff, Program.returns_done_iff,
    Outcome.ofExcept_eq_ok_iff, Fallible.mapError_eq_ok_iff, returns_askOrFail_iff, id_eq]
  exact ⟨compiled, _, version, before, ⟨hversion, rfl⟩, casmJson, _, ⟨hanswer, rfl⟩, hcompiled, rfl⟩

theorem exists_returns_getCompiledClassesAsync_iff {reader : RpcStateReader}
    {declared : ClassHash → Prop} (hserves : ServesExactly api node reader declared) :
    (∃ compiled after, Program.Returns node (getCompiledClassesAsync api reader classHash) before
      compiled after) ↔ declared classHash := by
  simp only [getCompiledClassesAsync, getContractClassAsync, Program.returns_bind_iff,
    returns_askOrFail_iff, id_eq]
  constructor
  · rintro ⟨compiled, after, contractClass, middle, ⟨hanswer, -⟩, -⟩
    by_contra hundeclared
    obtain ⟨error, herror⟩ := hserves.refuses classHash hundeclared before
    rw [herror] at hanswer
    cases hanswer
  · intro hdeclared
    obtain ⟨contractClass, hanswer, hcompiles⟩ := hserves.serves classHash hdeclared before
    cases contractClass with
    | sierra program =>
        obtain ⟨compiled, after, hcompiled⟩ := exists_returns_compileSierra hcompiles
        refine ⟨.v1 compiled program, after, _, _, ⟨hanswer, rfl⟩, ?_⟩
        rw [Program.returns_bind_iff]
        exact ⟨compiled, after, hcompiled, Program.returns_pure_iff.mpr ⟨rfl, rfl⟩⟩
    | legacy program entryPointsByType =>
        obtain ⟨compiled, hcompiled⟩ := hcompiles
        let said : Event Request Answer :=
          ⟨.getClass reader.blockId classHash, node before (.getClass reader.blockId classHash)⟩
        refine ⟨.v0 compiled, before ++ [said], _, _, ⟨hanswer, rfl⟩, ?_⟩
        rw [Program.returns_bind_iff]
        exact ⟨compiled, _, Program.returns_done_iff.mpr ⟨hcompiled, rfl⟩,
          Program.returns_pure_iff.mpr ⟨rfl, rfl⟩⟩

/-! ### One class, then all of them -/

variable {executor : RpcVirtualBlockExecutor} {declared : ClassHash → Prop}
  {manager cache : ContractClassManager} {maps : StateMaps} {size : Nat}

def Cached (classHash : ClassHash) (manager : ContractClassManager) : Prop :=
  classHash ∈ manager.map Prod.fst

/-- A cache of some size. It drops nothing while there is room for one more class. -/
structure CachesClasses (api : ClassApi) (size : Nat) : Prop where
  adds : ∀ manager classHash compiled,
    Cached classHash (api.setAndCompile manager classHash compiled)
  keeps : ∀ manager classHash compiled other, manager.length < size → Cached other manager →
    Cached other (api.setAndCompile manager classHash compiled)
  only : ∀ manager classHash compiled other,
    Cached other (api.setAndCompile manager classHash compiled) →
      Cached other manager ∨ other = classHash
  length_le : ∀ manager classHash compiled,
    (api.setAndCompile manager classHash compiled).length ≤ manager.length + 1

theorem CachesClasses.cached_iff (hcaches : CachesClasses api size) (hroom : manager.length < size)
    {other : ClassHash} {compiled : CompiledClasses} :
    Cached other (api.setAndCompile manager classHash compiled) ↔
      Cached other manager ∨ other = classHash := by
  refine ⟨hcaches.only _ _ _ _, ?_⟩
  rintro (hold | rfl)
  · exact hcaches.keeps _ _ _ _ hroom hold
  · exact hcaches.adds _ _ _

theorem exists_returns_prefetchClass_iff
    (hserves : ServesExactly api node executor.rpcStateReader declared) :
    (∃ manager' after, Program.Returns node (prefetchClass api executor manager classHash) before
      manager' after) ↔ (classHash ≠ 0 → declared classHash) := by
  rw [prefetchClass]
  split
  · next hzero => simp [hzero]
  · next hzero =>
    have hclass : (∃ compiled after, Program.Returns node (getCompiledClassesAsync api
        executor.rpcStateReader classHash) before compiled after) ↔ declared classHash :=
      exists_returns_getCompiledClassesAsync_iff hserves
    rw [← hclass]
    simp only [Program.returns_bind_iff, Program.returns_mapErr_iff, Program.returns_pure_iff]
    constructor
    · rintro ⟨_, _, compiled, middle, hcompiled, -⟩ -
      exact ⟨compiled, middle, hcompiled⟩
    · intro h
      obtain ⟨compiled, middle, hcompiled⟩ := h hzero
      exact ⟨_, _, compiled, middle, hcompiled, rfl, rfl⟩

/-- One pass caches its class, unless that is the class of no contract. -/
theorem cached_of_returns_prefetchClass (hcaches : CachesClasses api size)
    (hroom : manager.length < size)
    (h : Program.Returns node (prefetchClass api executor manager classHash) before cache after) :
    cache.length ≤ manager.length + 1 ∧
      ∀ other, Cached other cache ↔ Cached other manager ∨ other ≠ 0 ∧ other = classHash := by
  rw [prefetchClass] at h
  split at h
  · next hzero =>
    obtain ⟨rfl, -⟩ := Program.returns_pure_iff.mp h
    exact ⟨Nat.le_succ _, fun other => by simp [hzero]⟩
  · next hzero =>
    simp only [Program.returns_bind_iff, Program.returns_pure_iff] at h
    obtain ⟨compiled, _, -, rfl, -⟩ := h
    refine ⟨hcaches.length_le _ _ _, fun other => ?_⟩
    rw [hcaches.cached_iff hroom]
    refine or_congr_right ⟨?_, And.right⟩
    rintro rfl
    exact ⟨hzero, rfl⟩

theorem mem_classHashesToFetch :
    classHash ∈ (classHashesToFetch maps).elements ↔
      classHash ∈ maps.classHashes.values ∨ classHash ∈ maps.declaredContracts.keys := by
  simp [classHashesToFetch, HashSet.ofList]

theorem exists_returns_prefetchClassesIntoCache_iff
    (hserves : ServesExactly api node executor.rpcStateReader declared) :
    (∃ cache after, Program.Returns node (prefetchClassesIntoCache api executor maps manager)
      before cache after) ↔
      ∀ classHash ∈ (classHashesToFetch maps).elements, classHash ≠ 0 → declared classHash := by
  apply Program.exists_returns_foldlM_iff
  intro manager classHash before
  exact exists_returns_prefetchClass_iff hserves

/-- A successful prefetch adds the classes of both maps to the cache, whatever is
reported of them, and nothing else. -/
theorem cached_of_returns_prefetchClassesIntoCache (hcaches : CachesClasses api size)
    (hroom : manager.length + (classHashesToFetch maps).elements.length ≤ size)
    (h : Program.Returns node (prefetchClassesIntoCache api executor maps manager) before cache
      after) :
    ∀ other, Cached other cache ↔
      Cached other manager ∨ other ≠ 0 ∧ other ∈ (classHashesToFetch maps).elements := by
  refine Program.returns_foldlM_induction (R := fun manager items cache =>
    manager.length + items.length ≤ size → ∀ other,
      Cached other cache ↔ Cached other manager ∨ other ≠ 0 ∧ other ∈ items) ?_ ?_ h hroom
  · simp
  · rintro manager classHash middle rest cache ⟨_, _, hpass⟩ hrest hroom other
    rw [List.length_cons] at hroom
    obtain ⟨hlength, hcached⟩ := cached_of_returns_prefetchClass hcaches (by omega) hpass
    rw [hrest (by omega) other, hcached other, List.mem_cons]
    tauto

/-! ### Complete, and failing only for classes that matter -/

/-- The classes that a run can need: the ones that contracts are known to have,
and the ones that were found to be declared. -/
def Matters (maps : StateMaps) (classHash : ClassHash) : Prop :=
  classHash ≠ 0 ∧ classHash ∈ maps.classHashes.values ∨
    maps.declaredContracts.get? classHash = some true

/-- The classes that the execution can be told of by the prefetched state. -/
def Reachable (reader : SimulatedStateReader) (classHash : ClassHash) : Prop :=
  (classHash ≠ 0 ∧ ∃ address, reader.getClassHashAt address = .ok classHash) ∨
    reader.stateMaps.declaredContracts.get? classHash = some true

structure PrefetchesWhatMatters (api : ClassApi) (node : Node) (declared : ClassHash → Prop)
    (executor : RpcVirtualBlockExecutor) (maps : StateMaps) (manager : ContractClassManager)
    (before : Conversation) : Prop where
  succeeds : (∀ classHash, Matters maps classHash → declared classHash) →
    ∃ cache after, Program.Returns node (prefetchClassesIntoCache api executor maps manager) before
      cache after
  covers : ∀ cache after, Program.Returns node
      (prefetchClassesIntoCache api executor maps manager) before cache after →
    ∀ classHash, Reachable ⟨maps, executor.rpcStateReader⟩ classHash → Cached classHash cache

/-- The classes that are reported as not declared are there nevertheless, unless
a class that matters is missing. -/
def NoneMissing (declared : ClassHash → Prop) (maps : StateMaps) : Prop :=
  (∃ classHash, Matters maps classHash ∧ ¬ declared classHash) ∨
    ∀ classHash, classHash ≠ 0 → maps.declaredContracts.get? classHash = some false →
      declared classHash

/-- The hash that stands for no class is not reported as a declared one, unless
it makes no difference. -/
def ZeroSpared (declared : ClassHash → Prop) (maps : StateMaps) (manager : ContractClassManager) :
    Prop :=
  maps.declaredContracts.get? 0 = some true →
    Cached 0 manager ∨
      ∃ classHash ∈ maps.classHashes.values ++ maps.declaredContracts.keys,
        classHash ≠ 0 ∧ ¬ declared classHash

theorem getClassHashAt_eq_ok_iff {reader : RpcStateReader} {address : ContractAddress} :
    (SimulatedStateReader.mk maps reader).getClassHashAt address = .ok classHash ↔
      maps.classHashes.get? address = some classHash := by
  rw [SimulatedStateReader.getClassHashAt]
  cases maps.classHashes.get? address with
  | none => simp [RpcStateReader.getClassHashAt]
  | some value => simp

/-- The blocking fallback knows no class, so the values of the map are all that
the execution can be told. -/
theorem exists_getClassHashAt_iff {reader : RpcStateReader} :
    (∃ address, (SimulatedStateReader.mk maps reader).getClassHashAt address = .ok classHash) ↔
      classHash ∈ maps.classHashes.values := by
  simp only [getClassHashAt_eq_ok_iff, IndexMap.get?_eq_some_iff, IndexMap.values, List.mem_map]
  constructor
  · rintro ⟨address, h⟩
    exact ⟨_, h, rfl⟩
  · rintro ⟨e, h, rfl⟩
    exact ⟨e.1, h⟩

theorem reachable_iff_matters {reader : RpcStateReader} :
    Reachable ⟨maps, reader⟩ classHash ↔ Matters maps classHash := by
  rw [Reachable, Matters, exists_getClassHashAt_iff]

/-- What is fetched is what matters and what is reported as not declared. -/
theorem mem_fetched_iff :
    classHash ≠ 0 ∧ classHash ∈ (classHashesToFetch maps).elements ↔
      classHash ≠ 0 ∧
        (Matters maps classHash ∨ maps.declaredContracts.get? classHash = some false) := by
  refine and_congr_right fun hzero => ?_
  have hkeys : classHash ∈ maps.declaredContracts.keys ↔
      maps.declaredContracts.get? classHash = some true ∨
        maps.declaredContracts.get? classHash = some false := by
    rw [← IndexMap.isSome_get?_iff]
    cases maps.declaredContracts.get? classHash with
    | none => simp
    | some reported => cases reported <;> simp
  rw [mem_classHashesToFetch, hkeys, Matters]
  tauto

theorem succeeds_iff (hserves : ServesExactly api node executor.rpcStateReader declared) :
    ((∀ classHash, Matters maps classHash → declared classHash) →
      ∃ cache after, Program.Returns node (prefetchClassesIntoCache api executor maps manager)
        before cache after) ↔ NoneMissing declared maps := by
  rw [exists_returns_prefetchClassesIntoCache_iff hserves, NoneMissing]
  constructor
  · intro h
    by_cases hmatter : ∀ classHash, Matters maps classHash → declared classHash
    · right
      intro classHash hzero hreported
      have hfetched := mem_fetched_iff.mpr ⟨hzero, Or.inr hreported⟩
      exact h hmatter classHash hfetched.2 hzero
    · left
      push Not at hmatter
      exact hmatter
  · rintro (⟨classHash, hmatters, hundeclared⟩ | hreported) hmatter
    · exact absurd (hmatter classHash hmatters) hundeclared
    · intro classHash hmem hzero
      rcases (mem_fetched_iff.mp ⟨hzero, hmem⟩).2 with h | h
      · exact hmatter classHash h
      · exact hreported classHash hzero h

theorem covers_iff (hserves : ServesExactly api node executor.rpcStateReader declared)
    (hcaches : CachesClasses api size)
    (hroom : manager.length + (classHashesToFetch maps).elements.length ≤ size) :
    (∀ cache after, Program.Returns node (prefetchClassesIntoCache api executor maps manager)
        before cache after →
      ∀ classHash, Reachable ⟨maps, executor.rpcStateReader⟩ classHash →
        Cached classHash cache) ↔ ZeroSpared declared maps manager := by
  have hsome : (∃ cache after, Program.Returns node (prefetchClassesIntoCache api executor maps
      manager) before cache after) ↔
      ∀ classHash ∈ (classHashesToFetch maps).elements, classHash ≠ 0 → declared classHash :=
    exists_returns_prefetchClassesIntoCache_iff hserves
  simp only [reachable_iff_matters, ZeroSpared, List.mem_append, ← mem_classHashesToFetch]
  constructor
  · intro h hzero
    by_contra hmissing
    push Not at hmissing
    obtain ⟨cache, after, hreturns⟩ := hsome.mpr hmissing.2
    have hcached := h cache after hreturns 0 (Or.inr hzero)
    rw [cached_of_returns_prefetchClassesIntoCache hcaches hroom hreturns] at hcached
    rcases hcached with hold | hnew
    · exact hmissing.1 hold
    · exact hnew.1 rfl
  · intro hspared cache after hreturns classHash hmatters
    rw [cached_of_returns_prefetchClassesIntoCache hcaches hroom hreturns]
    by_cases hzero : classHash = 0
    · subst hzero
      left
      have hreported : maps.declaredContracts.get? 0 = some true := by
        rcases hmatters with h | h
        · exact absurd rfl h.1
        · exact h
      rcases hspared hreported with hold | ⟨other, hmem, hother, hundeclared⟩
      · exact hold
      · exact absurd (hsome.mp ⟨cache, after, hreturns⟩ other hmem hother) hundeclared
    · right
      exact mem_fetched_iff.mpr ⟨hzero, Or.inl hmatters⟩

/-- With room in the cache, the prefetch is complete and fails only for classes
that matter, exactly if the other classes do not make it fail. -/
theorem prefetches_what_matters_iff
    (hserves : ServesExactly api node executor.rpcStateReader declared)
    (hcaches : CachesClasses api size)
    (hroom : manager.length + (classHashesToFetch maps).elements.length ≤ size) :
    PrefetchesWhatMatters api node declared executor maps manager before ↔
      NoneMissing declared maps ∧ ZeroSpared declared maps manager := by
  rw [← succeeds_iff hserves, ← covers_iff hserves hcaches hroom]
  exact ⟨fun h => ⟨h.succeeds, h.covers⟩, fun h => ⟨h.1, h.2⟩⟩

/-! ### A node with one class -/

/-- The compiled class of a contract with no code, as text and decoded. -/
def emptyCasm : String :=
  "\x7b\"prime\":\"0x800000000000011000000000000000000000000000000000000000000000001\"," ++
    "\"compiler_version\":\"2.7.0\",\"bytecode\":[],\"hints\":[]," ++
    "\"entry_points_by_type\":\x7b\"CONSTRUCTOR\":[],\"EXTERNAL\":[],\"L1_HANDLER\":[]\x7d\x7d"

def emptyCompiled : CompiledClassV1 :=
  ⟨[], [], [], [("CONSTRUCTOR", []), ("EXTERNAL", []), ("L1_HANDLER", [])]⟩

/-- The three classes that were set last. -/
def keepThree (manager : ContractClassManager) (classHash : ClassHash)
    (compiled : CompiledClasses) : ContractClassManager :=
  (classHash, compiled) :: (manager.filter fun e => e.1 ≠ classHash).take 2

def oneClassApi : ClassApi where
  extractSierraVersion
    | major :: minor :: patch :: _ => .ok (major.val, minor.val, patch.val)
    | _ => .error "missing version"
  compiledClassV1FromJson casmJson _ :=
    if casmJson = emptyCasm then .ok emptyCompiled else .error "not the compiled class"
  gzDecode _ := .error "invalid gzip header"
  parseProgram _ := .error "not a program"
  compiledClassV0TryFrom _ := .error "not a legacy class"
  setAndCompile := keepThree

def oneClassNode : Node := fun _ request =>
  match request with
  | .getClass _ classHash =>
      if classHash = 1 then .ok (.sierra [1, 7, 0]) else .error .classHashNotFound
  | .getCompiledCasm classHash =>
      if classHash = 1 then .ok emptyCasm else .error .classHashNotFound
  | .getStorageProof .. => .error ⟨"no proofs here"⟩
  | .getBlockWithTxHashes _ => .error .blockNotFound
  | .simulateTransactions .. => .error .blockNotFound

def oneClassExecutor : RpcVirtualBlockExecutor where
  rpcStateReader :=
    { blockId := .number 5
      chainInfo := default }
  validateTxs := true
  config := .default default

/-- Some contract has class 1, and these classes were looked up. -/
def mapsWith (declaredContracts : List (ClassHash × Bool)) : StateMaps :=
  { StateMaps.default with
    classHashes := .ofList [(default, 1)]
    declaredContracts := .ofList declaredContracts }

theorem servesExactly_oneClass :
    ServesExactly oneClassApi oneClassNode oneClassExecutor.rpcStateReader (· = 1) := by
  constructor
  · rintro classHash rfl moment
    refine ⟨.sierra [1, 7, 0], rfl, (1, 7, 0), rfl, fun later => ?_⟩
    exact ⟨emptyCasm, emptyCompiled, rfl, by simp [oneClassApi]⟩
  · intro classHash hundeclared moment
    refine ⟨.classHashNotFound, ?_⟩
    simp [oneClassNode, hundeclared]

theorem cachesClasses_oneClass : CachesClasses oneClassApi 3 where
  adds _ _ _ := List.mem_cons_self
  keeps manager classHash compiled other hroom hold := by
    obtain ⟨e, hmem, rfl⟩ := List.mem_map.mp hold
    by_cases hsame : e.1 = classHash
    · rw [hsame]
      exact List.mem_cons_self
    · have hkept : e ∈ manager.filter fun e => e.1 ≠ classHash := by simp [hmem, hsame]
      have hlength := List.length_filter_le (fun e => e.1 ≠ classHash) manager
      change Cached e.1 (keepThree manager classHash compiled)
      rw [Cached, keepThree, List.take_of_length_le (by omega)]
      exact List.mem_cons_of_mem _ (List.mem_map_of_mem hkept)
  only manager classHash compiled other h := by
    rcases List.mem_cons.mp h with hnew | hold
    · exact Or.inr hnew
    · obtain ⟨e, hmem, rfl⟩ := List.mem_map.mp hold
      exact Or.inl (List.mem_map_of_mem (List.mem_filter.mp (List.mem_of_mem_take hmem)).1)
  length_le manager classHash compiled := by
    have hlength := List.length_filter_le (fun e => e.1 ≠ classHash) manager
    change (keepThree manager classHash compiled).length ≤ manager.length + 1
    rw [keepThree, List.length_cons, List.length_take]
    omega

theorem declared_of_matters {declaredContracts : List (ClassHash × Bool)}
    (h : Matters (mapsWith declaredContracts) classHash) :
    classHash = 1 ∨ (IndexMap.ofList declaredContracts).get? classHash = some true := by
  rcases h with ⟨-, hvalue⟩ | hreported
  · left
    simpa [mapsWith, IndexMap.values, IndexMap.ofList, IndexMap.extend, IndexMap.insert,
      IndexMap.empty, IndexMap.keys] using hvalue
  · exact Or.inr hreported

/-- The class 0 is reported as not declared, and is not fetched. -/
theorem prefetches_what_matters_declared :
    PrefetchesWhatMatters oneClassApi oneClassNode (· = 1) oneClassExecutor
      (mapsWith [(1, true), (0, false)]) [] [] := by
  refine (prefetches_what_matters_iff servesExactly_oneClass cachesClasses_oneClass
    (by decide)).mpr ⟨Or.inr ?_, ?_⟩
  · intro classHash hzero hreported
    simp only [mapsWith, IndexMap.ofList, IndexMap.extend_cons, IndexMap.extend_nil,
      IndexMap.get?_insert, IndexMap.get?_empty, if_neg hzero] at hreported
    split at hreported
    · assumption
    · cases hreported
  · intro hreported
    exact absurd hreported (by decide)

/-- A class that was looked up and found not to be declared makes the prefetch
fail, although every class that a run can need is there. -/
theorem undeclared_class_fails :
    ServesExactly oneClassApi oneClassNode oneClassExecutor.rpcStateReader (· = 1) ∧
      ¬ PrefetchesWhatMatters oneClassApi oneClassNode (· = 1) oneClassExecutor
        (mapsWith [(1, true), (2, false)]) [] [] := by
  refine ⟨servesExactly_oneClass, fun h => ?_⟩
  rcases (succeeds_iff servesExactly_oneClass).mp h.succeeds with
    ⟨classHash, hmatters, hother⟩ | hall
  · rcases declared_of_matters hmatters with hone | hreported
    · exact hother hone
    · simp only [IndexMap.ofList, IndexMap.extend_cons, IndexMap.extend_nil,
        IndexMap.get?_insert, IndexMap.get?_empty] at hreported
      grind
  · exact absurd (hall 2 (by decide) (by decide)) (by decide)

end Snip36.PrefetchedClasses
