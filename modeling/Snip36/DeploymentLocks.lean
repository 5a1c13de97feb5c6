import Snip36.Library.ReadWriteLocks
import Snip36.SavedDeployments
import Snip36.SncastLock

/-!
The locks of the cells for the deployments, and that they and the mutex around
`sncast` keep no handler from its end.
-/

namespace Snip36.DeploymentLocks

open CoinFlipRoutes
open CoinFlipServer
open CoinFlipState
open HandlerAsks
open Library.Interaction
open Library.Interaction.Program
open Library.Interleaving
open Library.Mutex
open Library.ReadWriteLocks
open Library.Rest
open OneTimeDeployment
open SavedDeployments
open ServerSteps
open SessionGames
open SncastLock

/-- A save is the only one that keeps guards, and has both when it drops them. -/
def cellUse : Ask → CellUse Contract
  | .readDeployment contract => .read contract
  | .writeDeployment contract _ => .write contract
  | .holdDeployment contract => .hold contract
  | .dropDeployments => .drop [.coinFlipBank, .coinFlip]
  | _ => .free

/-- The order in which a save takes the guards. -/
def rank : Contract → Nat
  | .coinFlip => 0
  | .coinFlipBank => 1

theorem apart_of_unstored (request : Ask) (h : Unstored request) : (cellUse request).Apart := by
  cases request with
  | holdDeployment contract => exact h.elim
  | dropDeployments => exact h.elim
  | _ => trivial

theorem ordered_of_unstored {α : Type} {handler : Handler α} (h : OnlyAsks Unstored handler) :
    Ordered cellUse rank [] handler :=
  ordered_of_apart (h.mono apart_of_unstored)

theorem ordered_saveDeployments : Ordered cellUse rank [] saveDeployments := by
  refine ⟨nofun, fun coinflip => ⟨fun kept hkept => ?_, fun bank => ?_⟩⟩
  · rw [List.mem_singleton.mp hkept]
    exact Nat.zero_lt_one
  · exact ⟨rfl, fun _ => ⟨rfl, fun _ => rfl⟩⟩

theorem ordered_deployRoute (api : ServerApi) (contract : Contract) (plan : DeployPlan)
    {prepare : Deployment → Handler Unit} (hprepare : ∀ d, OnlyAsks Unstored (prepare d)) :
    Ordered cellUse rank [] (deployRoute api contract plan prepare) := by
  refine ⟨rfl, fun found => ?_⟩
  cases found with
  | some deployment => rfl
  | none =>
      have hdeploy : OnlyAsks Unstored (declareAndDeploy api plan) :=
        onlyAsks_declareAndDeploy api unstored_of_isQuiet plan trivial fun _ _ => trivial
      refine (ordered_of_unstored hdeploy).bind fun deployment => ?_
      refine (ordered_of_unstored (hprepare deployment)).bind fun _ => ⟨rfl, fun _ => ?_⟩
      exact ordered_saveDeployments.bind fun _ => rfl

theorem ordered_handler (backend : Backend) (request : Request) :
    Ordered cellUse rank [] (backend.handler request) := by
  cases request with
  | deployCoinflip => exact ordered_deployRoute _ _ _ fun _ => trivial
  | deployBank =>
      exact ordered_deployRoute _ _ _ fun d =>
        onlyAsks_fundBank _ unstored_of_isQuiet d trivial trivial
  | _ => exact ordered_of_unstored (onlyAsks_handler backend rfl)

theorem guarding (backend : Backend) :
    Guarding backend.system cellUse rank Shared.readers where
  handler := ordered_handler backend
  next := by
    intro shared shared' request offered answer h
    cases request with
    | writeDeployment contract d =>
        have hserved : serve shared _ offered = _ := h
        obtain ⟨-, rfl⟩ := serve_writeDeployment_eq_some_iff.mp hserved
        cases contract with
        | coinFlip => rfl
        | coinFlipBank => rfl
    | dropDeployments =>
        cases h
        funext contract
        cases contract with
        | coinFlip => rfl
        | coinFlipBank => rfl
    | lockSncast =>
        simp only [Backend.system, serve, Option.ite_none_left_eq_some] at h
        cases h.2
        rfl
    | insertSession entry =>
        simp only [Backend.system, serve, Option.ite_none_right_eq_some] at h
        cases h.2
        rfl
    | post url payload =>
        cases h
        split
        · rfl
        · rfl
    | _ =>
        cases h
        rfl
  outside := by
    intro shared shared' env h
    obtain ⟨chain, rfl⟩ := shared_of_outside h
    rfl

theorem free_of_acquire (request : Ask) (h : sncastUse request = .acquire) :
    cellUse request = .free := by
  cases request with
  | lockSncast => rfl
  | _ => cases h

/-- A UUID that no session has had. -/
def HasFreshId (shared : Shared) : Prop := ∃ id, (uuidNumber id).isSome ∧ id ∉ shared.issued

theorem servesUnlocked {backend : Backend} {shared : Shared} (hid : HasFreshId shared) :
    ServesUnlocked backend.system sncastUse Shared.sncastLocked cellUse Shared.readers shared := by
  intro request hacquire hwrite
  cases request with
  | lockSncast => exact ⟨(), by simp [Backend.system, serve, hacquire rfl]⟩
  | writeDeployment contract d =>
      exact ⟨(), by simp [Backend.system, serve, hwrite contract rfl]⟩
  | insertSession entry =>
      obtain ⟨id, hid⟩ := hid
      exact ⟨id, by simp [Backend.system, serve, hid]⟩
  | _ => exact ⟨smoothly 0 _, rfl⟩

/-- No lock is taken. -/
def Unlocked (shared : Shared) : Prop :=
  shared.sncastLocked = false ∧ ∀ contract, shared.readers contract = 0

variable {backend : Backend} {pool : Pool backend.system}

/-- Two deployments at the same time. The coin flip contract waits for the mutex
while the bank is deployed, and then for the save of the bank, which holds its
cell. The bank waits for the mutex in between. -/
def contendingDeployments : List ServerMove :=
  [.arrive .deployBank, .arrive .deployCoinflip] ++
    ([0, 1, 0, 1] ++ List.replicate 6 0 ++ [1, 0] ++ List.replicate 6 1 ++ List.replicate 12 0 ++
      [1, 0, 1, 0, 1, 0] ++ List.replicate 4 1).map fun task =>
        .advance task (deploying (if task = 0 then "0x1" else "0x4"))

theorem ended_contendingDeployments :
    ∀ t ∈ (Library.Reverting.run Pool.step bareStart contendingDeployments).tasks,
      t.outcome?.isSome := by
  decide +kernel

def contendingRun : Nat → ServerMove := endless contendingDeployments (.advance 0 (deploying "0x1"))

theorem hasFreshId_contendingRun (n : Nat) :
    HasFreshId (poolAt bareStart contendingRun n).shared := by
  have hissued : (poolAt bareStart contendingRun n).shared.issued = [] :=
    forall_poolAt_endless (P := fun pool => pool.shared.issued = []) ended_contendingDeployments
      (by decide +kernel) (by decide +kernel) n
  refine ⟨sampleSession, by decide +kernel, ?_⟩
  rw [hissued]
  exact List.not_mem_nil

theorem diligentInTurn_contendingRun : DiligentInTurn cellUse bareStart contendingRun :=
  diligentInTurn (diligent_of_ended ended_contendingDeployments (by unfold GoesOn; decide +kernel))

end Snip36.DeploymentLocks
