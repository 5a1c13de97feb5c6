import Snip36.OneTimeDeployment

/-!
Whether the file has the deployments of the server. A save holds the two cells
while it reads them, and then writes the file; other requests may store and save
in between.
-/

namespace Snip36.SavedDeployments

open CoinFlipPlay
open CoinFlipRoutes
open CoinFlipServer
open CoinFlipState
open HandlerAsks
open Library.Interaction
open Library.Interaction.Program
open Library.Interleaving
open Library.Reverting
open OneTimeDeployment
open RouteFailures
open ServerSteps
open SessionGames

/-! ### The file and the saves -/

/-- The file is read back as it was written. -/
def loadDeployments (shared : Shared) : PersistedDeployments := shared.file

/-- `CoinFlipAppState::new`, on the file that a server has left. -/
def restarted (shared : Shared) : Shared :=
  { shared with
    coinflip := (loadDeployments shared).coinflip
    bank := (loadDeployments shared).bank
    commitments := fun _ => none
    readers := fun _ => 0
    sncastLocked := false }

/-- After a restart the deployments are those before it. -/
def Saved (shared : Shared) : Prop :=
  ∀ contract, (restarted shared).deployment contract = shared.deployment contract

/-- What a save has read of the two cells so far. -/
structure Save where
  coinflip : Option (Option Deployment)
  bank : Option (Option Deployment)

def Save.read? (save : Save) : Contract → Option (Option Deployment)
  | .coinFlip => save.coinflip
  | .coinFlipBank => save.bank

/-- A save is due from the store of a deployment to the write of the file. -/
def saveAfter (due : Option Save) : Event Ask Answer → Option Save
  | ⟨.writeDeployment _ _, _⟩ => some ⟨none, none⟩
  | ⟨.holdDeployment .coinFlip, found⟩ => due.map fun save => { save with coinflip := some found }
  | ⟨.holdDeployment .coinFlipBank, found⟩ => due.map fun save => { save with bank := some found }
  | ⟨.writeDeploymentsFile _, _⟩ => none
  | _ => due

def saveDue (history : History Ask Answer) : Option Save := history.foldl saveAfter none

/-- The save that is due has read the given value from the cell, or is still to
read the cell. -/
def covers (contract : Contract) (current : Option Deployment)
    (history : History Ask Answer) : Bool :=
  match saveDue history with
  | none => false
  | some save => save.read? contract = none ∨ save.read? contract = some current

section Properties

variable {backend : Backend} (pool : Pool backend.system)

/-- Once every deployment has returned, the file has what the cells have. -/
def KeepsDeployments : Prop :=
  (∀ t ∈ pool.tasks, (deploys t.request).isSome → t.outcome?.isSome) → Saved pool.shared

/-- The file is given what is in the cells, or another request is still to give
it that. -/
def SavesCovered (move : ServerMove) : Prop :=
  match move, pool.exchange move with
  | .advance i _, some (_, ⟨.writeDeploymentsFile persisted, _⟩) =>
      ∀ contract ∈ [Contract.coinFlip, .coinFlipBank],
        persisted.deployment contract = pool.shared.deployment contract ∨
          ∃ t ∈ pool.tasks.eraseIdx i,
            covers contract (pool.shared.deployment contract) t.history
  | _, _ => True

instance (move : ServerMove) : Decidable (SavesCovered pool move) := by
  unfold SavesCovered
  split
  · infer_instance
  · infer_instance

end Properties

/-! ### What the handlers write to the file -/

/-- The file is given what the save has read. -/
def SaveAsked (history : History Ask Answer) : Ask → Prop
  | .writeDeploymentsFile persisted =>
      saveDue history = some ⟨some persisted.coinflip, some persisted.bank⟩
  | _ => True

def SaveEnds {β : Type} (history : History Ask Answer) (_ : Outcome Failure β) : Prop :=
  saveDue history = none

/-- Requests that have nothing to do with a save. -/
def Unstored : Ask → Prop
  | .writeDeployment _ _ => False
  | .holdDeployment _ => False
  | .dropDeployments => False
  | .writeDeploymentsFile _ => False
  | _ => True

theorem unstored_of_isQuiet (request : Ask) (h : IsQuiet request) : Unstored request := by
  cases request with
  | writeDeployment contract d => exact h.elim
  | holdDeployment contract => exact h.elim
  | dropDeployments => exact h.elim
  | writeDeploymentsFile persisted => exact h.elim
  | _ => trivial

theorem saveDue_append (first second : History Ask Answer) :
    saveDue (first ++ second) = second.foldl saveAfter (saveDue first) :=
  List.foldl_append

theorem saveAfter_none {event : Event Ask Answer} (h : Unstored event.request) :
    saveAfter none event = none := by
  obtain ⟨request, answer⟩ := event
  cases request with
  | writeDeployment contract d => exact h.elim
  | holdDeployment contract => exact h.elim
  | writeDeploymentsFile persisted => exact h.elim
  | _ => rfl

theorem saveDue_of_unstored {history said : History Ask Answer} (hnone : saveDue history = none)
    (hsaid : ∀ event ∈ said, Unstored event.request) : saveDue (history ++ said) = none := by
  rw [saveDue_append, hnone]
  induction said with
  | nil => rfl
  | cons event rest ih =>
      rw [List.forall_mem_cons] at hsaid
      rw [List.foldl_cons, saveAfter_none hsaid.1]
      exact ih hsaid.2

theorem saveAsked_of_unstored {history : History Ask Answer} {request : Ask}
    (h : Unstored request) : SaveAsked history request := by
  cases request with
  | writeDeploymentsFile persisted => exact h.elim
  | _ => trivial

theorem saveAsked_of_onlyAsks {β : Type} {history : History Ask Answer} {program : Handler β}
    (hnone : saveDue history = none) (h : OnlyAsks Unstored program) :
    Throughout SaveAsked SaveEnds history program := by
  apply throughout_of_onlyAsks h
  · exact fun _ _ _ hrequest => saveAsked_of_unstored hrequest
  · exact fun said _ hsaid => saveDue_of_unstored hnone hsaid

theorem saveAsked_bind {β γ : Type} {history : History Ask Answer} {first : Handler γ}
    {f : γ → Handler β} (hnone : saveDue history = none) (h : OnlyAsks Unstored first)
    (hrest : ∀ later value, saveDue later = none → Throughout SaveAsked SaveEnds later (f value)) :
    Throughout SaveAsked SaveEnds history (first >>= f) := by
  apply throughout_bind_of_onlyAsks h
  · exact fun _ _ _ hrequest => saveAsked_of_unstored hrequest
  · exact fun said value hsaid => hrest _ value (saveDue_of_unstored hnone hsaid)
  · exact fun said _ hsaid => saveDue_of_unstored hnone hsaid
  · exact fun said _ hsaid => saveDue_of_unstored hnone hsaid

theorem saveAsked_route (api : ServerApi) (contract : Contract) (plan : DeployPlan)
    {prepare : Deployment → Handler Unit} (hprepare : ∀ d, OnlyAsks Unstored (prepare d)) :
    Throughout SaveAsked SaveEnds [] (deployRoute api contract plan prepare) := by
  refine ⟨trivial, fun found => ?_⟩
  have hread : saveDue ([] ++ [⟨.readDeployment contract, found⟩]) = none := rfl
  cases found with
  | some d => exact hread
  | none =>
      have hdeploy : OnlyAsks Unstored (declareAndDeploy api plan) :=
        onlyAsks_declareAndDeploy api unstored_of_isQuiet plan trivial fun _ _ => trivial
      change Throughout _ _ _ (declareAndDeploy api plan >>= _)
      refine saveAsked_bind hread hdeploy fun later d hlater => ?_
      refine saveAsked_bind hlater (hprepare d) fun later' _ _ => ?_
      refine ⟨trivial, fun _ => ⟨trivial, fun coinflip => ⟨trivial, fun bank => ⟨trivial, fun _ =>
        ⟨?_, fun _ => ?_⟩⟩⟩⟩⟩
      · simp [SaveAsked, saveDue_append, saveAfter]
      · change saveDue _ = none
        simp [saveDue_append, saveAfter]

theorem onlyAsks_confirmDeposit (api : ServerApi) (req : ConfirmDepositRequest) :
    OnlyAsks Unstored (confirmDeposit api req) := by
  have hpolls (request : Ask) (h : IsPoll request) : Unstored request :=
    unstored_of_isQuiet request (isQuiet_of_isPoll h)
  refine (onlyAsks_waitForTx hpolls api _ _ _).bind fun waited => ?_
  refine (onlyAsks_orFailWith _ _ _).bind fun _ => ⟨trivial, fun found => ?_⟩
  refine (onlyAsks_orFail _ _ _).bind fun bank => ⟨trivial, fun entry => ?_⟩
  refine (onlyAsks_orFail _ _ _).bind fun commitment => ?_
  refine (onlyAsks_sncastInvoke hpolls trivial trivial trivial api).bind fun invoked => ?_
  refine (onlyAsks_orFailWith _ _ _).bind fun matchResult => ?_
  refine (onlyAsks_orFail _ _ _).bind fun matchTx => ?_
  refine (onlyAsks_matchBlock unstored_of_isQuiet _).bind fun confirmedBlock => ?_
  exact ⟨trivial, fun _ => ⟨trivial, fun _ => trivial⟩⟩

theorem onlyAsks_handler (backend : Backend) {q : Request} (hq : deploys q = none) :
    OnlyAsks Unstored (backend.handler q) := by
  cases q with
  | deployCoinflip => cases hq
  | deployBank => cases hq
  | commit req => exact ⟨trivial, fun _ => trivial⟩
  | depositInfo req =>
      refine ⟨trivial, fun found => (onlyAsks_orFail _ _ _).bind fun bank => ?_⟩
      refine ⟨trivial, fun entry => (onlyAsks_orFail _ _ _).bind fun commitment => ?_⟩
      exact ⟨trivial, fun _ => trivial⟩
  | confirmDeposit req => exact onlyAsks_confirmDeposit _ req
  | play sessionId params =>
      refine ⟨trivial, fun found => (onlyAsks_orFail _ _ _).bind fun deployment => ?_⟩
      refine ⟨trivial, fun taken => (onlyAsks_orFail _ _ _).bind fun commitment => ?_⟩
      cases verifyReveal backend.api commitment params with
      | error failure => trivial
      | ok u =>
          apply (onlyAsks_runPlay _ _ _).mono
          intro request hrequest
          cases request with
          | writeDeployment contract d => exact hrequest
          | holdDeployment contract => exact hrequest
          | dropDeployments => exact hrequest
          | writeDeploymentsFile persisted => exact hrequest
          | _ => trivial

theorem saveAsked_handler (backend : Backend) (q : Request) :
    Throughout SaveAsked SaveEnds [] (backend.handler q) := by
  cases q with
  | deployCoinflip => exact saveAsked_route _ _ _ fun _ => trivial
  | deployBank =>
      exact saveAsked_route _ _ _ fun d => onlyAsks_fundBank _ unstored_of_isQuiet d trivial trivial
  | _ => exact saveAsked_of_onlyAsks rfl (onlyAsks_handler backend rfl)

/-! ### Saves in a run -/

theorem file_of_serve {shared shared' : Shared} {request : Ask} {offered answer : Answer request}
    (h : serve shared request offered = some (answer, shared')) :
    shared'.file = shared.file ∨ ∃ persisted,
      (⟨request, answer⟩ : Event Ask Answer) = ⟨.writeDeploymentsFile persisted, ()⟩ ∧
        shared'.file = persisted := by
  cases request with
  | writeDeploymentsFile persisted =>
      cases h
      exact Or.inr ⟨persisted, rfl, rfl⟩
  | writeDeployment contract d =>
      obtain ⟨-, rfl⟩ := serve_writeDeployment_eq_some_iff.mp h
      cases contract <;> exact Or.inl rfl
  | insertSession entry =>
      simp only [serve] at h
      split at h
      · cases h
        exact Or.inl rfl
      · cases h
  | lockSncast =>
      simp only [serve] at h
      split at h
      · cases h
      · cases h
        exact Or.inl rfl
  | post url payload =>
      cases h
      left
      split
      · rfl
      · rfl
  | _ =>
      cases h
      exact Or.inl rfl

section Covers

variable {contract : Contract} {current : Option Deployment} {history : History Ask Answer}

theorem covers_iff : covers contract current history = true ↔ ∃ save,
    saveDue history = some save ∧
      (save.read? contract = none ∨ save.read? contract = some current) := by
  unfold covers
  split
  · rename_i hnone
    simp [hnone]
  · rename_i save hsave
    simp [hsave]

/-- A save that is due stays due, unless the file is written. -/
theorem covers_append {event : Event Ask Answer} (h : covers contract current history = true)
    (hfile : ∀ persisted, event.request ≠ .writeDeploymentsFile persisted)
    (hread : ∀ found, event = ⟨.holdDeployment contract, found⟩ → found = current) :
    covers contract current (history ++ [event]) = true := by
  obtain ⟨save, hsave, hcovered⟩ := covers_iff.mp h
  rw [covers_iff, saveDue_append, hsave]
  obtain ⟨request, answer⟩ := event
  cases request with
  | writeDeployment contract' d => exact ⟨⟨none, none⟩, rfl, Or.inl (by cases contract <;> rfl)⟩
  | writeDeploymentsFile persisted => exact absurd rfl (hfile persisted)
  | holdDeployment contract' =>
      have hnew (hsame : contract = contract') : answer = current := by
        subst hsame
        exact hread answer rfl
      cases contract' with
      | coinFlip =>
          refine ⟨_, rfl, ?_⟩
          cases contract with
          | coinFlip => exact Or.inr (congrArg some (hnew rfl))
          | coinFlipBank => exact hcovered
      | coinFlipBank =>
          refine ⟨_, rfl, ?_⟩
          cases contract with
          | coinFlip => exact hcovered
          | coinFlipBank => exact Or.inr (congrArg some (hnew rfl))
  | _ => exact ⟨save, rfl, hcovered⟩

theorem covers_stored (contract' : Contract) (d : Deployment) :
    covers contract current (history ++ [⟨.writeDeployment contract' d, ()⟩]) = true := by
  rw [covers_iff, saveDue_append]
  exact ⟨⟨none, none⟩, rfl, Or.inl (by cases contract <;> rfl)⟩

end Covers

variable {backend : Backend} {pool pool' : Pool backend.system} {move : ServerMove}

/-- The file has what is in the cells, or a request is still to give it that. -/
def Covered (pool : Pool backend.system) : Prop :=
  ∀ contract,
    pool.shared.file.deployment contract = pool.shared.deployment contract ∨
      ∃ t ∈ pool.tasks, covers contract (pool.shared.deployment contract) t.history

theorem Covered.of_same (h : Covered pool) (hfile : pool'.shared.file = pool.shared.file)
    (hcells : ∀ contract, pool'.shared.deployment contract = pool.shared.deployment contract)
    (htasks : ∀ t ∈ pool.tasks, t ∈ pool'.tasks) : Covered pool' := by
  intro contract
  rw [hfile, hcells]
  rcases h contract with hsame | ⟨t, ht, hcovered⟩
  · exact Or.inl hsame
  · exact Or.inr ⟨t, htasks t ht, hcovered⟩

/-- The other tasks stay what they are. -/
theorem mem_of_eraseIdx {answers : (request : Ask) → Answer request} {i : Nat}
    {t t' u : Task backend.system} {request : Ask} {answer : Answer request}
    (hadvance : Pool.Advances pool pool' answers i t t' request answer)
    (hu : u ∈ pool.tasks.eraseIdx i) : u ∈ pool'.tasks := by
  obtain ⟨j, hne, hj⟩ := List.mem_eraseIdx_iff_getElem?.mp hu
  rw [hadvance.tasks]
  exact List.mem_of_getElem? ((List.getElem?_set_ne hne.symm).trans hj)

theorem Covered.advance {answers : (request : Ask) → Answer request} {i : Nat}
    {t t' : Task backend.system} {request : Ask} {answer : Answer request} (h : Covered pool)
    (hadvance : Pool.Advances pool pool' answers i t t' request answer)
    (hsaves : SavesCovered pool (.advance i answers)) : Covered pool' := by
  intro contract
  have hserved := hadvance.served
  by_cases hwrites : ∃ persisted, request = .writeDeploymentsFile persisted
  · obtain ⟨persisted, rfl⟩ := hwrites
    simp only [SavesCovered, hadvance.exchange] at hsaves
    obtain ⟨-, hshared⟩ := Prod.mk.inj (Option.some.inj hserved)
    rw [← hshared]
    rcases hsaves contract (by cases contract <;> simp) with hsame | ⟨u, hu, hcovered⟩
    · exact Or.inl (hsame.trans (by cases contract <;> rfl))
    · refine Or.inr ⟨u, mem_of_eraseIdx hadvance hu, ?_⟩
      cases contract <;> exact hcovered
  · have hfile : pool'.shared.file = pool.shared.file := by
      rcases file_of_serve hserved with hfile | ⟨persisted, hevent, -⟩
      · exact hfile
      · cases hevent
        exact absurd ⟨persisted, rfl⟩ hwrites
    rcases deployment_of_serve hserved contract with hcell | ⟨d, hevent, -⟩
    · rw [hfile, hcell]
      rcases h contract with hsame | ⟨u, hu, hcovered⟩
      · exact Or.inl hsame
      · right
        obtain ⟨j, hj⟩ := List.getElem?_of_mem hu
        rcases eq_or_ne j i with rfl | hne
        · -- the request that is to give the file the value has made one more step
          obtain rfl : u = t := Option.some.inj (hj.symm.trans hadvance.found)
          refine ⟨t', hadvance.mem_after, ?_⟩
          rw [hadvance.history]
          apply covers_append hcovered
          · exact fun persisted hrequest => hwrites ⟨persisted, hrequest⟩
          · intro found hevent
            cases hevent
            exact (Prod.mk.inj (Option.some.inj hserved)).1.symm
        · exact ⟨u, mem_of_eraseIdx hadvance (List.mem_eraseIdx_iff_getElem?.mpr ⟨j, hne, hj⟩),
            hcovered⟩
    · cases hevent
      refine Or.inr ⟨t', hadvance.mem_after, ?_⟩
      rw [hadvance.history]
      exact covers_stored _ _

theorem Covered.step (h : Covered pool) (hstep : pool.step move = .ok pool')
    (hsaves : SavesCovered pool move) : Covered pool' := by
  cases move with
  | arrive request =>
      obtain rfl := Pool.arrive_eq_ok_iff.mp hstep
      exact h.of_same rfl (fun _ => rfl) fun t ht => List.mem_append_left _ ht
  | advance i answers =>
      obtain ⟨t, t', request, answer, hadvance⟩ := Pool.advances_of_step hstep
      exact h.advance hadvance hsaves
  | outside env =>
      obtain ⟨shared, houtside, rfl⟩ := Pool.outside_eq_ok_iff.mp hstep
      obtain ⟨chain, rfl⟩ := shared_of_outside houtside
      exact h.of_same rfl (fun contract => by cases contract <;> rfl) fun t ht => ht

/-- A request that has returned has nothing left to save, and only a deployment
ever had. -/
theorem saveDue_of_over {t : Task backend.system}
    (hover : (deploys t.request).isSome → t.outcome?.isSome) : saveDue t.history = none := by
  cases hdeploys : deploys t.request with
  | none =>
      have hasks : Throughout (fun _ => Unstored) (fun _ _ => True) []
          (backend.handler t.request) :=
        onlyAsks_iff_throughout.mp (onlyAsks_handler backend hdeploys)
      have hsaid : ∀ event ∈ t.history, Unstored event.request := by
        intro event hevent
        obtain ⟨before, later, hsplit⟩ := List.append_of_mem hevent
        exact t.follows.asked hasks hsplit
      have hempty : saveDue [] = none := rfl
      exact saveDue_of_unstored hempty hsaid
  | some contract =>
      have hends := t.follows.throughout (saveAsked_handler backend t.request)
      obtain ⟨outcome, houtcome⟩ := Option.isSome_iff_exists.mp (hover (by rw [hdeploys]; rfl))
      unfold Task.outcome? at houtcome
      split at houtcome
      · rename_i outcome' hdone
        rw [hdone] at hends
        exact hends
      · cases houtcome

theorem Covered.keepsDeployments (h : Covered pool) : KeepsDeployments pool := by
  intro hover contract
  have hrestarted : (restarted pool.shared).deployment contract =
      pool.shared.file.deployment contract := by
    cases contract <;> rfl
  rw [hrestarted]
  rcases h contract with hsame | ⟨t, ht, hcovered⟩
  · exact hsame
  · obtain ⟨save, hsave, -⟩ := covers_iff.mp hcovered
    cases (saveDue_of_over (hover t ht)).symm.trans hsave

theorem Covered.of_saved (hsaved : Saved pool.shared) : Covered pool := by
  intro contract
  have hcontract := hsaved contract
  left
  cases contract <;> exact hcontract

/-- In a run in which nothing stale is written to the file last. -/
theorem deployments_saved (hsaved : Saved pool.shared) (moves : List ServerMove)
    (hmoves : AllMeet Pool.step SavesCovered pool moves) :
    KeepsDeployments (after pool moves) := by
  have h : Covered (after pool moves) :=
    run_keeps_while (fun _ _ _ hsaves h hstep => h.step hstep hsaves) (.of_saved hsaved) hmoves
  exact h.keepsDeployments

theorem saved_bareStart : Saved bareStart.shared := by
  intro contract
  cases contract <;> rfl

/-- The bank is stored, and its save has read that there is no coin flip contract
and has let go of both cells. Then that contract is stored. -/
def overlappingStores : List ServerMove :=
  .arrive .deployBank :: List.replicate 22 (.advance 0 (deploying "0x1")) ++
  .arrive .deployCoinflip :: List.replicate 9 (.advance 1 (deploying "0x4"))

/-- The save of the bank ends before that of the other contract has begun. -/
theorem deployments_saved_overlapping : KeepsDeployments (after bareStart (overlappingStores ++
    .advance 0 (deploying "0x1") :: List.replicate 4 (.advance 1 (deploying "0x4")))) := by
  apply deployments_saved saved_bareStart
  decide +kernel

/-- The save of the bank ends last, and the file is without the other contract. -/
def staleSave : List ServerMove :=
  overlappingStores ++ List.replicate 4 (.advance 1 (deploying "0x4")) ++
  [.advance 0 (deploying "0x1")]

theorem deployment_is_lost :
    ¬ ∀ (backend : Backend) (pool : Pool backend.system) (moves : List ServerMove),
      Fresh backend pool → Saved pool.shared → KeepsDeployments (after pool moves) := by
  intro hclaim
  have hkeeps := hclaim sample bareStart staleSave fresh_bareStart saved_bareStart
  have hover : ∀ t ∈ (after bareStart staleSave).tasks,
      (deploys t.request).isSome → t.outcome?.isSome := by
    decide +kernel
  have hlost : ((restarted (after bareStart staleSave).shared).deployment .coinFlip).isSome = false ∧
      ((after bareStart staleSave).shared.deployment .coinFlip).isSome = true := by
    decide +kernel
  rw [hkeeps hover .coinFlip, hlost.2] at hlost
  cases hlost.1

end Snip36.SavedDeployments
