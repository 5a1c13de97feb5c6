import Snip36.SignedPayload
import Snip36.WebProver

/-!
When the prover of the browser panics. The checks on chunks and merges always
pass, so two causes are left: arguments for which no prover can be built, and a
legacy class of the node with an entry point beyond 32 bits.
-/

namespace Snip36.ProverPanics

open Library
open Library.Interaction
open Payload
open Rpc
open StorageQuery
open StorageMerge
open ExecutionData
open FactsDb
open StateReader
open StorageProofProvider
open VirtualBlockExecutor
open VirtualOs
open WebProver

/-! ### Legacy classes -/

def entryPoints (entryPointsByType : LegacyEntryPointsByType) : List LegacyContractEntryPoint :=
  entryPointsByType.constructor ++ (entryPointsByType.external ++ entryPointsByType.l1Handler)

/-- The program of the class is read, and an entry point of it does not fit. -/
def Oversized (api : ClassApi) (program : List (BitVec 8))
    (entryPointsByType : LegacyEntryPointsByType) : Prop :=
  (∃ programJson parsed, api.gzDecode program = .ok programJson ∧
      api.parseProgram programJson = .ok parsed) ∧
    ∃ entryPoint ∈ entryPoints entryPointsByType, 2 ^ 32 ≤ entryPoint.offset.toNat

/-- A value, or a panic for the reason that is given. -/
def ReturnsUnless {ε β : Type} (reason : Prop) (outcome : Outcome ε β) : Prop :=
  (reason ∧ ∃ message, outcome = .panicked message) ∨ ¬ reason ∧ ∃ value, outcome = .ok value

theorem ReturnsUnless.bind {p q : Prop} {ε β γ : Type} {x : Outcome ε β} {f : β → Outcome ε γ}
    (hx : ReturnsUnless p x) (hf : ∀ b, ReturnsUnless q (f b)) :
    ReturnsUnless (p ∨ q) (x >>= f) := by
  rcases hx with ⟨hp, message, rfl⟩ | ⟨hp, b, rfl⟩
  · exact Or.inl ⟨Or.inl hp, message, rfl⟩
  · rcases hf b with ⟨hq, message, hmessage⟩ | ⟨hq, c, hc⟩
    · exact Or.inl ⟨Or.inr hq, message, hmessage⟩
    · exact Or.inr ⟨fun h => h.elim hp hq, c, hc⟩

theorem ReturnsUnless.map {p : Prop} {ε β γ : Type} {x : Outcome ε β} (f : β → γ)
    (hx : ReturnsUnless p x) : ReturnsUnless p (x >>= fun b => pure (f b)) := by
  rcases hx with ⟨hp, message, rfl⟩ | ⟨hp, b, rfl⟩
  · exact Or.inl ⟨hp, message, rfl⟩
  · exact Or.inr ⟨hp, f b, rfl⟩

theorem returnsUnless_mapLegacyEntryPoint (entryPoint : LegacyContractEntryPoint) :
    ReturnsUnless (2 ^ 32 ≤ entryPoint.offset.toNat) (mapLegacyEntryPoint entryPoint) := by
  unfold mapLegacyEntryPoint
  split
  · next hlt => exact Or.inr ⟨by omega, _, rfl⟩
  · next hlt => exact Or.inl ⟨by omega, _, rfl⟩

theorem returnsUnless_mapLegacyEntryPointList (entryPoints : List LegacyContractEntryPoint) :
    ReturnsUnless (∃ entryPoint ∈ entryPoints, 2 ^ 32 ≤ entryPoint.offset.toNat)
      (mapLegacyEntryPointList entryPoints) := by
  induction entryPoints with
  | nil => exact Or.inr ⟨by simp, [], rfl⟩
  | cons entryPoint rest ih =>
      simp only [List.mem_cons, exists_eq_or_imp]
      exact (returnsUnless_mapLegacyEntryPoint entryPoint).bind fun first => ih.map (first :: ·)

theorem returnsUnless_mapLegacyEntryPoints (entryPointsByType : LegacyEntryPointsByType) :
    ReturnsUnless (∃ entryPoint ∈ entryPoints entryPointsByType, 2 ^ 32 ≤ entryPoint.offset.toNat)
      (mapLegacyEntryPoints entryPointsByType) := by
  simp only [entryPoints, List.mem_append, or_and_right, exists_or]
  apply (returnsUnless_mapLegacyEntryPointList _).bind
  intro constructor
  apply (returnsUnless_mapLegacyEntryPointList _).bind
  intro external
  exact (returnsUnless_mapLegacyEntryPointList _).map fun l1Handler =>
    (⟨constructor, external, l1Handler⟩ : EntryPointsByType)

/-- A legacy class is mapped or reported, unless it is oversized. -/
theorem legacyToCompiledClassV0_panics_iff (api : ClassApi) (program : List (BitVec 8))
    (entryPointsByType : LegacyEntryPointsByType) :
    (∃ message, legacyToCompiledClassV0 api program entryPointsByType = .panicked message) ↔
      Oversized api program entryPointsByType := by
  rw [Oversized]
  cases hdecode : api.gzDecode program with
  | error error =>
      simp [legacyToCompiledClassV0, hdecode, Except.mapError, Outcome.ofExcept]
  | ok programJson =>
      cases hparse : api.parseProgram programJson with
      | error error =>
          simp [legacyToCompiledClassV0, hdecode, hparse, Except.mapError, Outcome.ofExcept]
      | ok parsed =>
          have hread : legacyToCompiledClassV0 api program entryPointsByType =
              mapLegacyEntryPoints entryPointsByType >>= fun mapped =>
                .ofExcept ((api.compiledClassV0TryFrom ⟨parsed, mapped⟩).mapError
                  .compiledClass) := by
            simp [legacyToCompiledClassV0, hdecode, hparse, Except.mapError, Outcome.ofExcept]
          rw [hread]
          rcases returnsUnless_mapLegacyEntryPoints entryPointsByType with
            ⟨hlarge, message, hmap⟩ | ⟨hsmall, mapped, hmap⟩
          · rw [hmap]
            exact ⟨fun _ => ⟨⟨programJson, parsed, rfl, hparse⟩, hlarge⟩, fun _ => ⟨message, rfl⟩⟩
          · rw [hmap, Outcome.bind_ok]
            constructor
            · rintro ⟨message, hmessage⟩
              cases hclass : api.compiledClassV0TryFrom ⟨parsed, mapped⟩ with
              | error error => simp [hclass, Except.mapError, Outcome.ofExcept] at hmessage
              | ok compiled => simp [hclass, Except.mapError, Outcome.ofExcept] at hmessage
            · rintro ⟨-, hlarge⟩
              exact absurd hlarge hsmall

/-! ### The parts of a proving run -/

/-- The node sends a legacy class that is oversized. -/
def SendsOversized (api : ClassApi) : (request : Request) → Answer request → Prop
  | .getClass _ _, answer => ∃ program entryPointsByType,
      answer = .ok (.legacy program entryPointsByType) ∧ Oversized api program entryPointsByType
  | _, _ => False

section Parts

variable {classApi : ClassApi} {ε δ β : Type}

abbrev AnyValue : β → Prop := fun _ => True

theorem panicsOn_askOrFail (classApi : ClassApi) {request : Request} {decode : Answer request → Except δ β}
    {wrap : δ → ε} (h : ∀ answer, ¬ SendsOversized classApi request answer) :
    Program.PanicsOn (SendsOversized classApi) AnyValue (askOrFail request decode wrap) := by
  intro answer
  refine ⟨fun hbad => absurd hbad (h answer), fun _ => ?_⟩
  dsimp only [Program.bind]
  cases decode answer with
  | ok value => trivial
  | error error => trivial

theorem panicsOn_compileSierra (classHash : ClassHash) (program : List Felt) :
    Program.PanicsOn (SendsOversized classApi) AnyValue
      (compileSierra classApi classHash program) := by
  apply (Program.panicsOn_ofExcept _).bind
  intro version _
  apply (panicsOn_askOrFail classApi fun _ => id).bind
  intro casmJson _
  exact Program.panicsOn_ofExcept _

/-- Both getters ask for the class and then compile it or map it. -/
theorem panicsOn_getClass (reader : RpcStateReader) (classHash : ClassHash)
    {continuation : ContractClass → RpcProgram ReexecutionError β}
    (hsierra : ∀ program, Program.PanicsOn (SendsOversized classApi) AnyValue
      (continuation (.sierra program)))
    (hlegacy : ∀ program entryPointsByType, ∃ wrap : CompiledClassV0 → β,
      continuation (.legacy program entryPointsByType) =
        .done (legacyToCompiledClassV0 classApi program entryPointsByType) >>= fun compiled =>
          pure (wrap compiled)) :
    Program.PanicsOn (SendsOversized classApi) AnyValue
      (getContractClassAsync reader classHash >>= continuation) := by
  intro answer
  cases answer with
  | error error => exact ⟨nofun, fun _ => trivial⟩
  | ok contractClass =>
      cases contractClass with
      | sierra program => exact ⟨nofun, fun _ => hsierra program⟩
      | legacy program entryPointsByType =>
          obtain ⟨wrap, hwrap⟩ := hlegacy program entryPointsByType
          have hpanics := legacyToCompiledClassV0_panics_iff classApi program entryPointsByType
          change (_ → ∃ message, continuation (.legacy program entryPointsByType) = _) ∧
            (_ → Program.PanicsOn _ _ (continuation (.legacy program entryPointsByType)))
          rw [hwrap]
          constructor
          · rintro ⟨_, _, hanswer, hover⟩
            cases hanswer
            obtain ⟨message, hmessage⟩ := hpanics.mpr hover
            rw [hmessage]
            exact ⟨message, rfl⟩
          · intro hfits
            cases hmapped : legacyToCompiledClassV0 classApi program entryPointsByType with
            | ok compiled => trivial
            | err error => trivial
            | panicked message =>
                exact absurd ⟨_, _, rfl, hpanics.mp ⟨message, hmapped⟩⟩ hfits

theorem panicsOn_getRunnableCompiledClassAsync (reader : RpcStateReader) (classHash : ClassHash) :
    Program.PanicsOn (SendsOversized classApi) AnyValue
      (getRunnableCompiledClassAsync classApi reader classHash) := by
  apply panicsOn_getClass
  · intro program
    exact (panicsOn_compileSierra classHash program).bind fun _ _ => trivial
  · exact fun program entryPointsByType => ⟨.v0, rfl⟩

theorem panicsOn_getCompiledClassesAsync (reader : RpcStateReader) (classHash : ClassHash) :
    Program.PanicsOn (SendsOversized classApi) AnyValue
      (getCompiledClassesAsync classApi reader classHash) := by
  apply panicsOn_getClass
  · intro program
    exact (panicsOn_compileSierra classHash program).bind fun _ _ => trivial
  · exact fun program entryPointsByType => ⟨.v0, rfl⟩

/-- There is a request for every chunk and there are chunks, so the merge finds
a proof for every chunk and a place for every map. -/
theorem panicsOn_fetchProofs (blockNumber : Nat) (query : RpcStorageProofsQuery) :
    Program.PanicsOn (SendsOversized classApi) AnyValue (fetchProofs blockNumber query) := by
  have hsingle : ∀ query, Program.PanicsOn (SendsOversized classApi) AnyValue
      (fetchSingleProof blockNumber query) := fun query => panicsOn_askOrFail classApi fun _ => id
  unfold fetchProofs
  split
  · exact hsingle query
  · next hcount =>
    rw [splitQuery_eq_requestsFor hcount]
    change Program.PanicsOn _ _
      (Program.forEach (fetchSingleProof blockNumber) (requestsFor query) >>= fun proofs =>
        .done (mergeStorageProofs proofs (requestsFor query) query))
    apply (Program.panicsOn_forEach hsingle _).bind
    intro proofs hlen
    have hrequests : requestsFor query =
        (Chunks.chunks maxKeysPerRequest (flattenQuery query)).map collectQuery := by
      rw [requestsFor, if_neg hcount]
    have hpieces : (Chunks.chunks maxKeysPerRequest (flattenQuery query)).flatten =
        flattenQuery query := Chunks.flatten_chunks (by decide) _
    have hne : Chunks.chunks maxKeysPerRequest (flattenQuery query) ≠ [] := by
      intro hnil
      have hflat := (Chunks.chunks_eq_nil_iff (by decide)).mp hnil
      have hzero := length_flattenQuery query
      rw [hflat, List.length_nil] at hzero
      omega
    rw [hrequests, List.length_map] at hlen
    cases proofs with
    | nil => exact absurd (List.eq_nil_of_length_eq_zero hlen.symm) hne
    | cons first others =>
        rw [hrequests, mergeStorageProofs_of_pieces hpieces hlen rfl]
        trivial

theorem panicsOn_getStorageProofs (committer : CommitterApi)
    (getContractAddresses : StateMaps → HashSet ContractAddress) (blockNumber : Nat)
    (executionData : VirtualBlockExecutionData) (config : StorageProofConfig) :
    Program.PanicsOn (SendsOversized classApi) AnyValue
      (getStorageProofs committer getContractAddresses blockNumber executionData config) := by
  apply (panicsOn_fetchProofs blockNumber _).bind
  intro rpcProof _
  split
  · exact (Program.panicsOn_ofExcept _).bind
      fun _ _ => trivial
  · trivial

theorem panicsOn_baseBlockInfoAsync (block : BlockApi) (executor : RpcVirtualBlockExecutor) :
    Program.PanicsOn (SendsOversized classApi) AnyValue (baseBlockInfoAsync block executor) := by
  apply ((panicsOn_askOrFail classApi fun _ => id).mapErr _).bind
  intro header _
  exact (Program.panicsOn_ofExcept _).bind fun _ _ => trivial

theorem panicsOn_prefetchState (api : ExecutorApi) (executor : RpcVirtualBlockExecutor)
    (blockId : BlockId) (txs : List (InvokeTransaction × TransactionHash)) :
    Program.PanicsOn (SendsOversized classApi) AnyValue
      (prefetchState api executor blockId txs) := by
  unfold prefetchState
  split
  · apply (Program.panicsOn_ofExcept _).bind
    intro rpcTxs _
    apply (panicsOn_askOrFail classApi fun _ => id).bind
    intro field _
    exact Program.panicsOn_ofExcept _
  · trivial

theorem panicsOn_prefetchClassesIntoCache (executor : RpcVirtualBlockExecutor)
    (stateMaps : StateMaps) (manager : ContractClassManager) :
    Program.PanicsOn (SendsOversized classApi) AnyValue
      (prefetchClassesIntoCache classApi executor stateMaps manager) := by
  apply Program.panicsOn_foldlM
  intro manager classHash
  unfold prefetchClass
  split
  · trivial
  · exact ((panicsOn_getCompiledClassesAsync _ classHash).mapErr _).bind fun _ _ => trivial

theorem panicsOn_getClasses (casm : CasmApi) (reader : RpcStateReader)
    (executedClassHashes : HashSet ClassHash) :
    Program.PanicsOn (SendsOversized classApi) AnyValue
      (getClasses classApi casm reader executedClassHashes) := by
  apply Program.panicsOn_foldlM
  intro input classHash
  apply ((panicsOn_getRunnableCompiledClassAsync reader classHash).mapErr _).bind
  intro runnable _
  cases runnable with
  | v0 compiled => trivial
  | v1 compiled =>
      exact (Program.panicsOn_ofExcept _).bind
        fun _ _ => trivial

end Parts

theorem panicsOn_execute (api : ExecutionApi) (executor : RpcVirtualBlockExecutor)
    (blockId : BlockId) (manager : ContractClassManager)
    (txs : List (InvokeTransaction × TransactionHash)) :
    Program.PanicsOn (SendsOversized api.classes) AnyValue
      (execute api executor blockId manager txs) := by
  apply (panicsOn_baseBlockInfoAsync api.block executor).bind
  intro baseBlockInfo _
  apply (panicsOn_prefetchState api.executor executor blockId txs).bind
  intro stateMaps _
  apply (panicsOn_prefetchClassesIntoCache executor stateMaps manager).bind
  intro manager' _
  exact Program.panicsOn_ofExcept _

theorem panicsOn_prepareVirtualOs (api : OsApi) (factory : RpcRunnerFactory) (blockId : BlockId)
    (txs : List InvokeTransaction) :
    Program.PanicsOn (SendsOversized api.classes) AnyValue
      (prepareVirtualOs api factory blockId txs) := by
  apply (Program.panicsOn_ofExcept _).bind
  intro hashedTxs _
  apply ((panicsOn_execute api.toExecutionApi _ blockId _ hashedTxs).mapErr _).bind
  intro executionData _
  apply Program.PanicsOn.bind (G := AnyValue)
  · apply ((panicsOn_getClasses api.casm _ _).mapErr _).bind
    intro classes _
    exact ((panicsOn_getStorageProofs _ _ _ _ _).mapErr _).bind fun _ _ => trivial
  · exact fun _ _ => trivial

/-- A prover that has been built panics at an oversized class only. -/
theorem panicsOn_proveTransaction (api : VirtualOs.ProverApi) (prover : VirtualSnosProver)
    (blockId : BlockId) (transaction : RpcTransaction) :
    Program.PanicsOn (SendsOversized api.classes) AnyValue
      (VirtualOs.proveTransaction api prover blockId transaction) := by
  apply (Program.panicsOn_ofExcept _).bind
  intro invokeV3 _
  apply Program.PanicsOn.bind (G := AnyValue) (Program.PanicsOn.mapErr _ _)
  · intro runnerOutput _
    exact Program.panicsOn_ofExcept _
  · apply (panicsOn_prepareVirtualOs api.toOsApi _ blockId _).bind
    intro prepared _
    exact (Program.panicsOn_ofExcept _).bind
      fun _ _ => trivial

/-! ### Building the prover -/

section Prover

variable {RpcError ε : Type} (api : WebProverApi RpcError)

/-- What the construction of a prover takes for granted. -/
structure Buildable (rpcNodeUrl : String) (chainId : ChainId) : Prop where
  url : ∃ nodeUrl, api.parseUrl rpcNodeUrl = .ok nodeUrl
  chain : ∀ name, chainId ≠ .other name
  precomputes : api.prepareRecursiveProverPrecomputes = .ok ()

theorem returnsUnless_expect {β : Type} (message : String) (x : Except String β) :
    ReturnsUnless (¬ ∃ value, x = .ok value) (expect (ε := ε) message x) := by
  cases x with
  | ok value => exact Or.inr ⟨by simp, value, rfl⟩
  | error error => exact Or.inl ⟨by simp, _, rfl⟩

theorem returnsUnless_getChainInfo (chainId : ChainId)
    (strkFeeTokenAddressOverride : Option ContractAddress) :
    ReturnsUnless (∃ name, chainId = .other name)
      (getChainInfo (ε := ε) chainId strkFeeTokenAddressOverride) := by
  cases chainId with
  | mainnet => exact Or.inr ⟨nofun, _, rfl⟩
  | sepolia => exact Or.inr ⟨nofun, _, rfl⟩
  | integrationSepolia => exact Or.inr ⟨nofun, _, rfl⟩
  | other name => exact Or.inl ⟨⟨name, rfl⟩, _, rfl⟩

theorem returnsUnless_new (proverConfig : ProverConfig) :
    ReturnsUnless (¬ Buildable api proverConfig.rpcNodeUrl proverConfig.chainId)
      (WebProver.VirtualSnosProver.new (ε := ε) api proverConfig) := by
  have hsteps : ReturnsUnless _ (WebProver.VirtualSnosProver.new (ε := ε) api proverConfig) :=
    (returnsUnless_expect _ (api.parseUrl proverConfig.rpcNodeUrl)).bind fun _ =>
      (returnsUnless_getChainInfo proverConfig.chainId proverConfig.strkFeeTokenAddress).bind
        fun chainInfo =>
          (returnsUnless_expect _ api.prepareRecursiveProverPrecomputes).map fun _ =>
            ({ runner :=
                { chainInfo
                  contractClassManager := []
                  runnerConfig := proverConfig.runnerConfig }
               validateZeroFeeFields := proverConfig.validateZeroFeeFields } : VirtualSnosProver)
  have hreason : ¬ Buildable api proverConfig.rpcNodeUrl proverConfig.chainId ↔
      (¬ ∃ nodeUrl, api.parseUrl proverConfig.rpcNodeUrl = .ok nodeUrl) ∨
        (∃ name, proverConfig.chainId = .other name) ∨
          ¬ ∃ value, api.prepareRecursiveProverPrecomputes = .ok value := by
    rw [← not_iff_not, not_not, not_or, not_or, not_not, not_not, not_exists]
    exact ⟨fun h => ⟨h.url, h.chain, (), h.precomputes⟩,
      fun ⟨hurl, hchain, _, hprecomputes⟩ => ⟨hurl, hchain, hprecomputes⟩⟩
  rw [hreason]
  exact hsteps

/-! ### The whole run -/

/-- The outcome is one that the signature announces. -/
def Settles {β : Type} (outcome : Outcome ε β) : Prop :=
  (∃ value, outcome = .ok value) ∨ ∃ error, outcome = .err error

theorem settles_iff_not_panicked {β : Type} {outcome : Outcome ε β} :
    Settles outcome ↔ ¬ ∃ message, outcome = .panicked message := by
  cases outcome with
  | ok value => simp [Settles]
  | err error => simp [Settles]
  | panicked message => simp [Settles]

/-- The arguments get as far as to the construction of a prover. -/
structure Prepared (args : ProveBlockArgs) : Prop where
  transaction : ∃ prepared, prepareTransaction api.crypto api.payload args = .ok prepared
  token : ∃ address, api.parseContractAddress strkToken = .ok address

variable {api} {args : ProveBlockArgs} {node : Node}

theorem run_proveBlock_of_not_prepared (h : ¬ Prepared api args) :
    ∃ error, Program.run node (proveBlock api args) [] = (.err error, []) := by
  cases hprepare : prepareTransaction api.crypto api.payload args with
  | error error =>
      refine ⟨error, ?_⟩
      simp [proveBlock, Program.run_bind, Program.run, hprepare, Outcome.ofExcept]
  | ok prepared =>
      cases htoken : api.parseContractAddress strkToken with
      | error error =>
          refine ⟨.runVirtualOs error, ?_⟩
          have hfails : strkFeeTokenAddress api (some strkToken) = .error error := by
            rw [strkFeeTokenAddress, htoken]
            rfl
          simp [proveBlock, WebProver.runVirtualOs, virtualOsConfigFor, Program.run_bind,
            Program.run_mapErr, Program.run, hprepare, hfails, Outcome.ofExcept, Outcome.mapErr]
      | ok address => exact absurd ⟨⟨prepared, hprepare⟩, address, htoken⟩ h

/-- After the preparation everything hangs on the construction of the prover. -/
theorem prepared_cases (h : Prepared api args) :
    (¬ Buildable api args.rpcUrl (api.chainIdFrom args.chainId) ∧
      ∃ message, Program.run node (proveBlock api args) [] = (.panicked message, [])) ∨
    Buildable api args.rpcUrl (api.chainIdFrom args.chainId) ∧
      Program.PanicsOn (SendsOversized api.prover.classes) AnyValue (proveBlock api args) := by
  obtain ⟨⟨⟨signed, transaction⟩, hprepare⟩, address, haddress⟩ := h
  have htoken : strkFeeTokenAddress api (some strkToken) = .ok (some address) := by
    rw [strkFeeTokenAddress, haddress]
    rfl
  have hnew := returnsUnless_new (ε := String) api
    (proverConfigFor api (virtualOsConfigFor api args transaction) (some address))
  change ReturnsUnless (¬ Buildable api args.rpcUrl (api.chainIdFrom args.chainId)) _ at hnew
  rcases hnew with ⟨hbuild, message, hmessage⟩ | ⟨hbuild, prover, hprover⟩
  · refine Or.inl ⟨hbuild, message, ?_⟩
    have hstrk : (virtualOsConfigFor api args transaction).strkFeeToken = some strkToken := rfl
    simp [proveBlock, WebProver.runVirtualOs, WebProver.proveTransaction, Program.run_bind,
      Program.run_mapErr, Program.run, hprepare, hstrk, htoken, hmessage, Outcome.ofExcept,
      Outcome.mapErr]
  · refine Or.inr ⟨not_not.mp hbuild, ?_⟩
    apply (Program.panicsOn_of_eq_ok (Outcome.ofExcept_eq_ok_iff.mpr hprepare)).bind
    rintro _ rfl
    apply Program.PanicsOn.bind (G := AnyValue) (Program.PanicsOn.mapErr _ _)
    · exact fun artifacts _ => trivial
    · apply (Program.panicsOn_of_eq_ok (Outcome.ofExcept_eq_ok_iff.mpr htoken)).bind
      rintro _ rfl
      apply Program.PanicsOn.bind (G := AnyValue)
      · apply (Program.panicsOn_of_eq_ok hprover).bind
        rintro _ rfl
        exact (panicsOn_proveTransaction api.prover _ _ transaction).mapErr _
      · exact fun result _ => Program.panicsOn_ofExcept _

end Prover

/-- For all arguments and all nodes. -/
theorem settles_iff {RpcError : Type} (api : WebProverApi RpcError) (args : ProveBlockArgs)
    (node : Node) :
    Settles (Program.run node (proveBlock api args) []).1 ↔
      (Prepared api args → Buildable api args.rpcUrl (api.chainIdFrom args.chainId)) ∧
        ∀ event ∈ (Program.run node (proveBlock api args) []).2,
          ¬ SendsOversized api.prover.classes event.request event.answer := by
  rw [settles_iff_not_panicked]
  by_cases hprepared : Prepared api args
  · rcases prepared_cases hprepared with ⟨hbuild, message, hrun⟩ | ⟨hbuild, hpanics⟩
    · rw [hrun]
      exact ⟨fun h => absurd ⟨message, rfl⟩ h, fun h => absurd (h.1 hprepared) hbuild⟩
    · rw [hpanics.run_panics_iff (by simp)]
      simp [hbuild]
  · obtain ⟨error, hrun⟩ := run_proveBlock_of_not_prepared hprepared
    rw [hrun]
    exact ⟨fun _ => ⟨fun h => absurd h hprepared, by simp⟩, fun _ => nofun⟩

/-! ### A chain that is not known -/

open SignedPayload

/-- The transaction that a JSON object stands for. -/
def transactionFromValue (json : Json) : Except String RpcTransaction :=
  match decodeInvoke hexFelt jsonRpc 0 json with
  | some (tx, sig) => do
      let senderAddress ← PatriciaKey.tryFrom tx.senderAddress
      pure (.invoke
        { senderAddress
          calldata := tx.calldata
          signature := [sig.r, sig.s]
          nonce := tx.nonce
          resourceBounds := tx.resourceBounds
          tip := 0
          paymasterData := tx.paymasterData
          accountDeploymentData := tx.accountDeploymentData
          nonceDataAvailabilityMode := tx.nonceDaMode
          feeDataAvailabilityMode := tx.feeDaMode
          proofFacts := tx.proofFacts
          proof := [] })
  | none => .error "not an invoke transaction"

def sampleWebApi : WebProverApi String where
  crypto := echoCrypto
  payload :=
    { getNonceAtBlock := fun _ _ => .ok 5
      fromHex := hexFelt
      fromValue := transactionFromValue }
  prover := permissiveApi (fun _ _ => 0) 1
  parseUrl := .ok
  chainIdFrom := fun name =>
    if name = "SN_MAIN" then .mainnet
    else if name = "SN_SEPOLIA" then .sepolia
    else if name = "SN_INTEGRATION_SEPOLIA" then .integrationSepolia
    else .other name
  parseContractAddress s := do
    let felt ← hexFelt s
    PatriciaKey.tryFrom felt
  prepareRecursiveProverPrecomputes := .ok ()
  utf8Error := fun _ => "invalid utf-8"
  factsToValue facts := .ok (.ofStrings (facts.map feltHex))
  messagesToValue _ := .ok (.arr [])
  debugTransactionHash := feltHex
  displayClassHash := feltHex

def unreachableNode : Node := fun _ request =>
  match request with
  | .getStorageProof .. => .error ⟨"connection refused"⟩
  | .getBlockWithTxHashes .. => .error (.rpcRequest "connection refused")
  | .simulateTransactions .. => .error (.rpcRequest "connection refused")
  | .getClass .. => .error (.rpcRequest "connection refused")
  | .getCompiledCasm .. => .error (.rpcRequest "connection refused")

def devnetArgs : ProveBlockArgs := { plainArgs with chainId := "SN_DEVNET" }

def panicMessage {ε β : Type} : Outcome ε β → Option String
  | .panicked message => some message
  | _ => none

theorem unknown_chain_panics :
    panicMessage (Program.run unreachableNode (proveBlock sampleWebApi devnetArgs) []).1 =
        some "not implemented: Unknown chain ID SN_DEVNET." ∧
      ¬ Settles (Program.run unreachableNode (proveBlock sampleWebApi devnetArgs) []).1 := by
  have hmessage : panicMessage
      (Program.run unreachableNode (proveBlock sampleWebApi devnetArgs) []).1 =
        some "not implemented: Unknown chain ID SN_DEVNET." := by
    decide +kernel
  refine ⟨hmessage, ?_⟩
  rw [settles_iff_not_panicked, not_not]
  cases hrun : (Program.run unreachableNode (proveBlock sampleWebApi devnetArgs) []).1 with
  | ok value => simp [hrun, panicMessage] at hmessage
  | err error => simp [hrun, panicMessage] at hmessage
  | panicked message => exact ⟨message, rfl⟩

end Snip36.ProverPanics
