import Snip36.Library.Mutex
import Snip36.ServerSteps
import Snip36.SessionGames

/-!
The mutex around `sncast`: commands of two handlers do not mix.
-/

namespace Snip36.SncastLock

open CoinFlipPlay
open CoinFlipRoutes
open CoinFlipServer
open CoinFlipState
open HandlerAsks
open Library.Interaction
open Library.Interaction.Program
open Library.Interleaving
open Library.Mutex
open Payload
open RouteFailures
open ServerSteps
open SessionGames
open StarknetRpc

abbrev Tidy {α : Type} (handler : Handler α) : Prop := Disciplined sncastUse false false handler

theorem isFree_of_isPoll {request : Ask} (h : IsPoll request) : IsFree sncastUse request := by
  cases request with
  | deadlinePassed => rfl
  | getReceipt txHash => rfl
  | sleep seconds => rfl
  | _ => exact h.elim

theorem inside_of_isPoll (request : Ask) (h : IsPoll request) : Inside sncastUse request :=
  Or.inr (isFree_of_isPoll h)

section Handlers

variable {α β : Type}

/-- The guard is dropped however its scope is left. -/
theorem tidy_withSncastLock {body : Handler α} (h : OnlyAsks (Inside sncastUse) body) :
    Tidy (withSncastLock body) := by
  refine ⟨rfl, fun _ => ?_⟩
  apply (disciplined_of_inside h).attempt_bind
  intro outcome
  exact ⟨rfl, fun _ => rfl⟩

theorem tidy_of_free {handler : Handler α} (h : OnlyAsks (IsFree sncastUse) handler) :
    Tidy handler :=
  disciplined_of_free h

theorem tidy_orFail (status : Nat) (detail : String) (x : Option α) :
    Tidy (orFail status detail x) := tidy_of_free (onlyAsks_orFail status detail x)

theorem tidy_orFailWith (status : Nat) (detail : String → String) (x : Except String α) :
    Tidy (orFailWith status detail x) := tidy_of_free (onlyAsks_orFailWith status detail x)

theorem isFree_send (event data : String) : IsFree sncastUse (.send event data) := rfl

theorem onlyAsks_free_streamError (message : String) :
    OnlyAsks (IsFree sncastUse) (streamError message : Handler α) :=
  onlyAsks_streamError isFree_send message

theorem onlyAsks_free_orStreamError (message : String → String) (x : Except String α) :
    OnlyAsks (IsFree sncastUse) (orStreamError message x) :=
  onlyAsks_orStreamError isFree_send message x

variable (api : ServerApi) (config : Config) (task : PlayTask)

theorem tidy_sncastInvoke (contractAddress function : String) (calldata : List String) :
    Tidy (sncastInvoke api contractAddress function calldata) := by
  apply tidy_withSncastLock
  refine ⟨Or.inl rfl, fun output => ?_⟩
  cases output with
  | error e => trivial
  | ok output => exact (onlyAsks_confirmedBlock inside_of_isPoll api _).bind fun _ => trivial

theorem tidy_declareAndDeploy (plan : DeployPlan) : Tidy (declareAndDeploy api plan) := by
  apply tidy_withSncastLock
  refine ⟨Or.inl rfl, fun declared => ?_⟩
  refine (onlyAsks_orFailWith _ _ declared).bind fun declareOutput => ?_
  refine (onlyAsks_orFail _ _ _).bind fun classHash => ?_
  refine (onlyAsks_waitIfSome inside_of_isPoll api _).bind fun _ => ?_
  refine ⟨Or.inr rfl, fun salt => ⟨Or.inl rfl, fun deployed => ?_⟩⟩
  refine (onlyAsks_orFailWith _ _ deployed).bind fun deployOutput => ?_
  refine (onlyAsks_ensure _ _ _).bind fun _ => ?_
  refine (onlyAsks_orFail _ _ _).bind fun contractAddress => ?_
  refine (onlyAsks_orFail _ _ _).bind fun txHash => ?_
  refine (onlyAsks_waitForTx inside_of_isPoll api _ _ _).bind fun waited => ?_
  exact (onlyAsks_orFailWith _ _ _).bind fun receipt => trivial

theorem tidy_deployRoute (contract : Contract) (plan : DeployPlan)
    {prepare : Deployment → Handler Unit} (hprepare : ∀ deployment, Tidy (prepare deployment)) :
    Tidy (deployRoute api contract plan prepare) := by
  refine ⟨trivial, fun found => ?_⟩
  cases found with
  | some deployment => rfl
  | none =>
      refine (tidy_declareAndDeploy api plan).bind fun deployment => ?_
      refine (hprepare deployment).bind fun _ => ⟨trivial, fun _ => ?_⟩
      exact (tidy_of_free (onlyAsks_saveDeployments (fun _ => rfl) rfl fun _ => rfl)).bind
        fun _ => rfl

theorem tidy_fundBank (deployment : Deployment) : Tidy (fundBank api deployment) := by
  refine (tidy_sncastInvoke api _ _ _).bind fun approved => ?_
  refine (tidy_orFailWith _ _ approved).bind fun _ => ?_
  refine (tidy_sncastInvoke api _ _ _).bind fun funded => ?_
  exact (tidy_orFailWith _ _ funded).bind fun _ => rfl

theorem tidy_waitForTx (txHash : String) (timeoutSecs pollIntervalSecs : Nat) :
    Tidy (waitForTx api txHash timeoutSecs pollIntervalSecs) :=
  tidy_of_free (onlyAsks_waitForTx (fun _ => isFree_of_isPoll) api txHash timeoutSecs
    pollIntervalSecs)

theorem tidy_matchBlock (blockNumber : Option Nat) : Tidy (matchBlock blockNumber) := by
  cases blockNumber with
  | some block => rfl
  | none =>
      refine ⟨trivial, fun latest => ?_⟩
      cases latest with
      | error e => rfl
      | ok block => rfl

theorem tidy_depositInfo (req : DepositInfoRequest) : Tidy (depositInfo req) := by
  refine ⟨trivial, fun found => (tidy_orFail _ _ found).bind fun bank => ?_⟩
  refine ⟨trivial, fun entry => (tidy_orFail _ _ entry).bind fun commitment => ?_⟩
  exact ⟨trivial, fun _ => rfl⟩

theorem tidy_confirmDeposit (req : ConfirmDepositRequest) : Tidy (confirmDeposit api req) := by
  refine (tidy_waitForTx api req.txHash 120 3).bind fun waited => ?_
  refine (tidy_orFailWith _ _ _).bind fun receipt => ?_
  refine ⟨trivial, fun found => (tidy_orFail _ _ found).bind fun bank => ?_⟩
  refine ⟨trivial, fun entry => (tidy_orFail _ _ entry).bind fun commitment => ?_⟩
  refine (tidy_sncastInvoke api _ _ _).bind fun invoked => ?_
  refine (tidy_orFailWith _ _ _).bind fun matchResult => ?_
  refine (tidy_orFail _ _ _).bind fun matchTx => ?_
  refine (tidy_matchBlock _).bind fun confirmedBlock => ⟨trivial, fun coinflip => ?_⟩
  exact ⟨trivial, fun _ => rfl⟩

/-! ### The task of a play -/

theorem onlyAsks_free_startLog : OnlyAsks (IsFree sncastUse) (startLog task) := by
  unfold startLog
  split
  · trivial
  · exact ⟨rfl, fun _ => trivial⟩

theorem onlyAsks_free_constructTransaction :
    OnlyAsks (IsFree sncastUse) (constructTransaction api config task) := by
  refine ⟨rfl, fun _ => (onlyAsks_free_orStreamError _ _).bind fun calldata => ?_⟩
  refine (onlyAsks_free_orStreamError _ _).bind fun sender => ?_
  refine (onlyAsks_free_orStreamError _ _).bind fun privateKey => ?_
  refine (onlyAsks_free_orStreamError _ _).bind fun chainId => ⟨rfl, fun answered => ?_⟩
  refine (onlyAsks_free_orStreamError _ _).bind fun nonce => ?_
  refine (onlyAsks_free_orStreamError _ _).bind fun sig => ⟨rfl, fun written => ?_⟩
  exact (onlyAsks_free_orStreamError _ _).bind fun _ => ⟨rfl, fun _ => trivial⟩

theorem onlyAsks_free_prove : OnlyAsks (IsFree sncastUse) (prove config task) := by
  refine ⟨rfl, fun _ => ⟨rfl, fun _ => ⟨rfl, fun exit => ?_⟩⟩⟩
  rcases exit with message | (success : Bool)
  · exact onlyAsks_free_streamError _
  · cases success with
    | false => exact onlyAsks_free_streamError _
    | true => exact ⟨rfl, fun _ => ⟨rfl, fun _ => trivial⟩⟩

theorem onlyAsks_free_parseSettlement :
    OnlyAsks (IsFree sncastUse) (parseSettlement config task) := by
  refine ⟨rfl, fun messages => ?_⟩
  dsimp only [Program.bind]
  cases readSettlement messages with
  | some settlement => exact ⟨rfl, fun _ => trivial⟩
  | none => trivial

theorem onlyAsks_free_postPayload (url : String) (payload : Json) (left : Nat) :
    OnlyAsks (IsFree sncastUse) (postPayload api url payload left) := by
  induction left with
  | zero => exact onlyAsks_free_streamError _
  | succ left ih =>
      refine ⟨rfl, fun reply => ?_⟩
      rcases reply with (e | e) | body
      · exact onlyAsks_free_streamError _
      · exact onlyAsks_free_streamError _
      · change OnlyAsks _ (if _ then _ else _)
        split
        · exact ⟨rfl, fun _ => trivial⟩
        · change OnlyAsks _ (if _ then _ else _)
          split
          · exact ⟨rfl, fun _ => ⟨rfl, fun _ => ih⟩⟩
          · exact onlyAsks_free_streamError _

theorem onlyAsks_free_submit (tx : PlayTransaction) :
    OnlyAsks (IsFree sncastUse) (submit api config task tx) := by
  refine ⟨rfl, fun _ => ⟨rfl, fun proofText => ?_⟩⟩
  refine (onlyAsks_free_orStreamError _ _).bind fun proof => ⟨rfl, fun factsText => ?_⟩
  refine (onlyAsks_free_orStreamError _ _).bind fun facts => ?_
  refine (onlyAsks_free_orStreamError _ _).bind fun factsHex => ?_
  refine (onlyAsks_free_orStreamError _ _).bind fun proofFacts => ?_
  refine (onlyAsks_free_orStreamError _ _).bind fun signed => ⟨rfl, fun _ => ?_⟩
  exact (onlyAsks_free_postPayload api _ _ _).bind fun _ => trivial

theorem onlyAsks_free_verifyInclusion (txHash : String) :
    OnlyAsks (IsFree sncastUse) (verifyInclusion api txHash) := by
  refine ⟨rfl, fun _ => ⟨rfl, fun _ => ?_⟩⟩
  refine (onlyAsks_waitForTx (fun _ => isFree_of_isPoll) api txHash 180 5).bind fun waited => ?_
  exact (onlyAsks_free_orStreamError _ _).bind fun receipt => ⟨rfl, fun _ => trivial⟩

theorem tidy_settleOnChain : Tidy (settleOnChain api task) := by
  refine ⟨trivial, fun bank => ?_⟩
  cases bank with
  | none => rfl
  | some bank =>
      refine ⟨trivial, fun _ => ⟨trivial, fun _ => ?_⟩⟩
      refine (tidy_sncastInvoke api _ _ _).bind fun invoked => ?_
      rcases invoked with e | ⟨output, _ | tx, blockNumber⟩
      · exact ⟨trivial, fun _ => rfl⟩
      · exact ⟨trivial, fun _ => rfl⟩
      · exact ⟨trivial, fun _ => ⟨trivial, fun _ => rfl⟩⟩

theorem tidy_runPlay : Tidy (runPlay api config task) := by
  refine (tidy_of_free (onlyAsks_free_startLog task)).bind fun _ => ?_
  refine (tidy_of_free (onlyAsks_free_constructTransaction api config task)).bind fun tx => ?_
  refine (tidy_of_free (onlyAsks_free_prove config task)).bind fun proofSize => ?_
  refine (tidy_of_free (onlyAsks_free_parseSettlement config task)).bind fun settlement => ?_
  refine (tidy_of_free (onlyAsks_free_submit api config task tx)).bind fun txHash => ?_
  refine (tidy_of_free (onlyAsks_free_verifyInclusion api txHash)).bind fun _ => ?_
  refine (tidy_settleOnChain api task).bind fun settleTxHash => ?_
  exact ⟨trivial, fun _ => rfl⟩

theorem tidy_playCoinflip (sessionId : String) (params : PlayQuery) :
    Tidy (playCoinflip api config sessionId params) := by
  refine ⟨trivial, fun found => (tidy_orFail _ _ found).bind fun deployment => ?_⟩
  refine ⟨trivial, fun taken => (tidy_orFail _ _ taken).bind fun commitment => ?_⟩
  cases verifyReveal api commitment params with
  | error failure => rfl
  | ok u => exact tidy_runPlay api config _

end Handlers

theorem tidy_handler (backend : Backend) (request : Request) : Tidy (backend.handler request) := by
  cases request with
  | deployCoinflip => exact tidy_deployRoute backend.api .coinFlip coinFlipPlan fun _ => rfl
  | deployBank =>
      exact tidy_deployRoute backend.api .coinFlipBank (bankPlan backend.config)
        (tidy_fundBank backend.api)
  | commit req => exact ⟨trivial, fun _ => rfl⟩
  | depositInfo req => exact tidy_depositInfo req
  | confirmDeposit req => exact tidy_confirmDeposit backend.api req
  | play sessionId params => exact tidy_playCoinflip backend.api backend.config sessionId params

/-! ### The server -/

theorem locking (backend : Backend) :
    Locking backend.system sncastUse Shared.sncastLocked where
  handler := tidy_handler backend
  acquire := by
    intro shared shared' request offered answer h hacquire
    cases request with
    | lockSncast =>
        simp only [Backend.system, serve, Option.ite_none_left_eq_some, Bool.not_eq_true] at h
        exact h.1
    | _ => cases hacquire
  next := by
    intro shared shared' request offered answer h
    cases serve_cases h with
    | deployed contract d => cases contract <;> rfl
    | _ => rfl
  outside := by
    intro shared shared' env h
    obtain ⟨chain, rfl⟩ := shared_of_outside h
    rfl

variable {backend : Backend} {pool : Pool backend.system}

/-- In every run at most one handler is inside the mutex, and once a command was
handed to `sncast`, another handler hands one over only after the first has given
the mutex back. -/
theorem sncast_exclusive (hfresh : Fresh backend pool) (hfree : pool.shared.sncastLocked = false)
    (moves : List ServerMove) :
    Exclusive sncastUse Shared.sncastLocked (after pool moves) ∧
      ∀ before i command output middle j command' output' later,
        turns pool moves = before ++ (i, ⟨.sncast command, output⟩) ::
          (middle ++ (j, ⟨.sncast command', output'⟩) :: later) →
        j ≠ i → (i, ⟨.unlockSncast, ()⟩) ∈ middle := by
  refine ⟨(exclusive_of_no_tasks hfresh.tasks hfree).run (locking backend) moves, ?_⟩
  intro before i command output middle j command' output' later hsplit hne
  obtain ⟨⟨request, answer⟩, hmem, hrelease⟩ :=
    separated_turns (locking backend) hfresh.tasks hfree moves before i _ middle j _ later hsplit
      hne (Or.inr rfl) nofun
  cases request with
  | unlockSncast => exact hmem
  | _ => cases hrelease

/-- Nothing is deployed. -/
def emptyStart : Pool sample.system where
  shared := { sampleStart.shared with coinflip := none, bank := none }
  tasks := []

theorem fresh_emptyStart : Fresh sample emptyStart where
  tasks := rfl
  commitments := fun _ => rfl
  issued := rfl
  banks := fresh_sampleStart.banks
  payments := rfl
  pending := rfl
  executed := rfl

/-- `sncast` cannot be started. -/
def withoutSncast : (request : Ask) → Answer request
  | .sncast _ => .error "no sncast"
  | request => smoothly 0 request

/-- Two deployments at the same time. The second one waits for the mutex. -/
def twoDeployments : List ServerMove :=
  [.arrive .deployCoinflip, .arrive .deployBank] ++
    [0, 1, 0, 1, 0, 0, 1, 1, 1].map fun task => .advance task withoutSncast

theorem sncast_exclusive_twoDeployments :
    Exclusive sncastUse Shared.sncastLocked (after emptyStart twoDeployments) ∧
      (0, ⟨.unlockSncast, ()⟩) ∈
        ([(0, ⟨.unlockSncast, ()⟩), (1, ⟨.lockSncast, ()⟩)] : List (Nat × Event Ask Answer)) := by
  obtain ⟨hexclusive, hapart⟩ := sncast_exclusive fresh_emptyStart rfl twoDeployments
  refine ⟨hexclusive, ?_⟩
  exact hapart
    [(0, ⟨.readDeployment .coinFlip, none⟩), (1, ⟨.readDeployment .coinFlipBank, none⟩),
      (0, ⟨.lockSncast, ()⟩)]
    0 (.declare "CoinFlip") (.error "no sncast")
    [(0, ⟨.unlockSncast, ()⟩), (1, ⟨.lockSncast, ()⟩)]
    1 (.declare "CoinFlipBank") (.error "no sncast") [(1, ⟨.unlockSncast, ()⟩)] rfl (by decide)

end Snip36.SncastLock
