import Snip36.SeedLock

/-!
Whether the bet of a player stays hidden until the seed is fixed: what the
server and the chain see in two runs that differ in nothing but the bet.
-/

namespace Snip36.BetHiding

open BankLifecycle
open CoinFlipBank
open CoinFlipRoutes
open CoinFlipServer
open CoinFlipState
open Library.Interaction
open Library.Interleaving
open Library.Reverting
open ServerSteps
open SessionGames

/-! ### The player -/

/-- A player with a commitment that tells nothing of the bet. -/
structure Player (backend : Backend) where
  account : ContractAddress
  name : String
  commitment : String
  notMaster : account ≠ backend.master

/-- What the player does up to the reveal, and what everybody else does. The
deposit is made with what a request for the deposit has been answered. -/
inductive PlanStep where
  | commit
  | askDeposit (sessionId : String) (amountWei : U128)
  | deposit (task : Nat)
  | confirm (sessionId txHash : String)
  | other (move : ServerMove)

structure DepositData where
  bank : ContractAddress
  sessionId : Felt
  amount : U256
  seed : Felt

/-- The calldata of the answer, without the placeholder of the bet. -/
def depositData (api : ServerApi) : Response → Option DepositData
  | .depositInfo bankAddress _ sessionFelt betAmountLow betAmountHigh seed _ => do
      let bank ← readAddress api bankAddress
      match ← readWords api [sessionFelt, betAmountLow, betAmountHigh, seed] with
      | [sessionId, low, high, seed] => (u256Of low high).map fun amount =>
          ⟨bank, sessionId, amount, seed⟩
      | _ => none
  | _ => none

def DepositData.call (d : DepositData) (bet : Felt) : BankCall :=
  .deposit d.sessionId d.amount d.seed bet

section Runs

variable {backend : Backend} (player : Player backend) (bet : Felt)

def depositOf (pool : Pool backend.system) : PlanStep → Option DepositData
  | .deposit i =>
      match pool.tasks[i]?.bind Task.outcome? with
      | some (.ok response) => depositData backend.api response
      | _ => none
  | _ => none

def moveOf (pool : Pool backend.system) : PlanStep → Option ServerMove
  | .commit => some (.arrive (.commit ⟨player.commitment, player.name⟩))
  | .askDeposit sessionId amountWei => some (.arrive (.depositInfo ⟨sessionId, amountWei⟩))
  | .deposit i => (depositOf pool (.deposit i)).map fun d =>
      .outside (.callBank d.bank player.account (d.call bet))
  | .confirm sessionId txHash => some (.arrive (.confirmDeposit ⟨sessionId, txHash⟩))
  | .other move => some move

def planStep (pool : Pool backend.system) (step : PlanStep) : Except Unit (Pool backend.system) :=
  match moveOf player bet pool step with
  | none => .error ()
  | some move => pool.step move

def afterPlan (pool : Pool backend.system) (plan : List PlanStep) : Pool backend.system :=
  run (planStep player bet) pool plan

def deposits (pool : Pool backend.system) (plan : List PlanStep) : List DepositData :=
  logged (planStep player bet) (fun pool step => (depositOf pool step).toList) pool plan

/-- What the server and the chain have seen: the requests, everything that was
said and stored for them, the calls of the player and the games. -/
structure Seen where
  requests : List Request
  exchanges : List (History Ask Answer)
  commitments : String → Option BetCommitment
  calls : List (ContractAddress × BankCall)
  games : ContractAddress → Felt → Game

def seen (pool : Pool backend.system) (plan : List PlanStep) : Seen where
  requests := (afterPlan player bet pool plan).tasks.map Task.request
  exchanges := (afterPlan player bet pool plan).tasks.map Task.history
  commitments := (afterPlan player bet pool plan).shared.commitments
  calls := (deposits player bet pool plan).map fun d => (d.bank, d.call bet)
  games := fun a felt => gameAt (afterPlan player bet pool plan).shared.chain a felt

/-- The last step of the plan writes a seed. -/
def EndsLocked (pool : Pool backend.system) (plan : List PlanStep) : Prop :=
  ∃ earlier last move, plan = earlier ++ [last] ∧
    moveOf player bet (afterPlan player bet pool earlier) last = some move ∧
    (SeedLock.written (afterPlan player bet pool earlier) move).isSome

def Hidden (pool : Pool backend.system) (plan : List PlanStep) (bet bet' : Felt) : Prop :=
  seen player bet pool plan = seen player bet' pool plan

end Runs

/-! ### Two runs -/

/-- The server is in the same state in both pools. -/
structure Alike {backend : Backend} (pool pool' : Pool backend.system) : Prop where
  tasks : pool'.tasks = pool.tasks
  shared : pool'.shared = { pool.shared with chain := pool'.shared.chain }
  queues : SameQueues pool.shared.chain pool'.shared.chain

variable {backend : Backend} {pool pool' : Pool backend.system}

/-- What the server is told and stores does not depend on the chain. -/
theorem serve_withChain (shared : Shared) (chain : Chain) (request : Ask)
    (offered : Answer request) :
    serve { shared with chain } request offered =
      (serve shared request offered).map fun served => (served.1,
        { served.2 with
          chain := { chain with
            pending := chain.pending ++ (submitted request served.1).toList } }) := by
  have hnone : ({ chain with
      pending := chain.pending ++ (none : Option MasterTx).toList } : Chain) = chain := by simp
  cases request with
  | readDeployment contract => cases contract <;> simp [serve, submitted, Shared.deployment]
  | writeDeployment contract d =>
      simp only [serve]
      split
      · cases contract <;> simp [submitted, Shared.writeDeployment]
      · rfl
  | holdDeployment contract =>
      cases contract <;> simp [serve, submitted, Shared.deployment, Shared.holdDeployment]
  | dropDeployments => simp [serve, submitted, Shared.dropDeployments]
  | insertSession entry =>
      simp only [serve]
      split
      · simp [submitted, Shared.insertCommitment]
      · rfl
  | lockSncast =>
      simp only [serve]
      split
      · rfl
      · simp [submitted]
  | post url payload =>
      simp only [serve, submitted, Option.map_some]
      split
      · rfl
      · simp
  | _ => simp [serve, submitted, Shared.removeCommitment, Shared.updateCommitment, Shared.submit]

theorem Alike.outside {env env' : Env} (h : Alike pool pool')
    (hfate : (backend.system.outside pool.shared env = none ∧
        backend.system.outside pool'.shared env' = none) ∨
      ∃ c c', backend.system.outside pool.shared env = some { pool.shared with chain := c } ∧
        backend.system.outside pool'.shared env' = some { pool'.shared with chain := c' } ∧
        SameQueues c c') :
    SameFate Alike (pool.step (.outside env)) (pool'.step (.outside env')) := by
  simp only [Pool.step]
  rcases hfate with ⟨hnone, hnone'⟩ | ⟨c, c', hsome, hsome', hqueues⟩
  · rw [hnone, hnone']
    trivial
  · rw [hsome, hsome']
    exact ⟨h.tasks, by rw [h.shared], hqueues⟩

/-- Any two calls of a player leave the server in the same state. -/
theorem Alike.callBank (h : Alike pool pool') {caller : ContractAddress}
    (hcaller : caller ≠ backend.master) (a : ContractAddress) (call call' : BankCall) :
    SameFate Alike (pool.step (.outside (.callBank a caller call)))
      (pool'.step (.outside (.callBank a caller call'))) :=
  h.outside (Or.inr ⟨_, _, if_neg hcaller, if_neg hcaller,
    ((SameQueues.callBank ..).symm.trans h.queues).trans (SameQueues.callBank ..)⟩)

theorem Alike.advance (h : Alike pool pool') (i : Nat)
    (answers : (request : Ask) → Answer request) :
    SameFate Alike (pool.step (.advance i answers)) (pool'.step (.advance i answers)) := by
  simp only [Pool.step]
  rw [h.tasks, h.shared]
  cases pool.tasks[i]?.bind Task.next? with
  | none => trivial
  | some next =>
      obtain ⟨request, resume⟩ := next
      have hserve : backend.system.serve
          { pool.shared with chain := pool'.shared.chain } request (answers request) =
            (backend.system.serve pool.shared request (answers request)).map _ :=
        serve_withChain pool.shared pool'.shared.chain request (answers request)
      dsimp only
      rw [hserve]
      cases hserved : backend.system.serve pool.shared request (answers request) with
      | none => trivial
      | some served =>
          obtain ⟨answer, shared⟩ := served
          have hqueues := h.queues
          refine ⟨rfl, rfl, ?_⟩
          change SameQueues shared.chain _
          rw [chain_of_serve hserved]
          exact ⟨hqueues.height, hqueues.contracts, by simp only [hqueues.pending],
            hqueues.executed, hqueues.firstNonce, hqueues.banks⟩

theorem Alike.step (h : Alike pool pool') (move : ServerMove) :
    SameFate Alike (pool.step move) (pool'.step move) := by
  cases move with
  | arrive q => exact ⟨by rw [h.tasks], h.shared, h.queues⟩
  | advance i answers => exact h.advance i answers
  | outside env =>
      apply h.outside
      cases env with
      | callBank a caller call =>
          by_cases hcaller : caller = backend.master
          · exact Or.inl ⟨if_pos hcaller, if_pos hcaller⟩
          · exact Or.inr ⟨_, _, if_neg hcaller, if_neg hcaller,
              ((SameQueues.callBank ..).symm.trans h.queues).trans (SameQueues.callBank ..)⟩
      | callToken caller call =>
          by_cases hcaller : caller = backend.master
          · exact Or.inl ⟨if_pos hcaller, if_pos hcaller⟩
          · exact Or.inr ⟨_, _, if_neg hcaller, if_neg hcaller,
              ((SameQueues.callToken ..).symm.trans h.queues).trans (SameQueues.callToken ..)⟩
      | execute k address =>
          obtain ⟨hnone, hnone'⟩ | ⟨c, c', hsome, hsome', hqueues⟩ :
              (backend.execute pool.shared.chain k address = none ∧
                backend.execute pool'.shared.chain k address = none) ∨ _ :=
            h.queues.execute k address
          · exact Or.inl ⟨congrArg (Option.map _) hnone, congrArg (Option.map _) hnone'⟩
          · exact Or.inr ⟨c, c', congrArg (Option.map _) hsome, congrArg (Option.map _) hsome',
              hqueues⟩
      | closeBlock =>
          have hqueues := h.queues
          exact Or.inr ⟨_, _, rfl, rfl, congrArg (· + 1) hqueues.height, hqueues.contracts,
            hqueues.pending, hqueues.executed, hqueues.firstNonce, hqueues.banks⟩

theorem Alike.depositOf (h : Alike pool pool') (step : PlanStep) :
    depositOf pool step = depositOf pool' step := by
  unfold BetHiding.depositOf
  rw [h.tasks]

theorem Alike.planStep (h : Alike pool pool') (player : Player backend) (bet bet' : Felt)
    (step : PlanStep) :
    SameFate Alike (planStep player bet pool step) (planStep player bet' pool' step) := by
  cases step with
  | deposit i =>
      simp only [BetHiding.planStep, moveOf, ← h.depositOf]
      cases BetHiding.depositOf pool (.deposit i) with
      | none => trivial
      | some d => exact h.callBank player.notMaster d.bank (d.call bet) (d.call bet')
  | commit => exact h.step (.arrive (.commit ⟨player.commitment, player.name⟩))
  | askDeposit sessionId amountWei =>
      exact h.step (.arrive (.depositInfo ⟨sessionId, amountWei⟩))
  | confirm sessionId txHash => exact h.step (.arrive (.confirmDeposit ⟨sessionId, txHash⟩))
  | other move => exact h.step move

theorem alike_refl (pool : Pool backend.system) : Alike pool pool :=
  ⟨rfl, rfl, .refl _⟩

/-- The server is told the same, whatever the bet is. -/
theorem alike_afterPlan (player : Player backend) (bet bet' : Felt) (pool : Pool backend.system)
    (plan : List PlanStep) :
    Alike (afterPlan player bet pool plan) (afterPlan player bet' pool plan) :=
  run_related (fun _ _ step h => h.planStep player bet bet' step) (alike_refl pool) plan

theorem deposits_eq (player : Player backend) (bet bet' : Felt) (pool : Pool backend.system)
    (plan : List PlanStep) : deposits player bet pool plan = deposits player bet' pool plan :=
  logged_related (fun _ _ step h => h.planStep player bet bet' step)
    (fun _ _ step h => congrArg Option.toList (h.depositOf step)) (alike_refl pool) plan

/-- The server itself sees nothing of the bet. -/
theorem server_sees_same (player : Player backend) (bet bet' : Felt) (pool : Pool backend.system)
    (plan : List PlanStep) :
    (seen player bet pool plan).requests = (seen player bet' pool plan).requests ∧
    (seen player bet pool plan).exchanges = (seen player bet' pool plan).exchanges ∧
    (seen player bet pool plan).commitments = (seen player bet' pool plan).commitments := by
  have halike := alike_afterPlan player bet bet' pool plan
  refine ⟨?_, ?_, ?_⟩
  · exact congrArg (List.map Task.request) halike.tasks.symm
  · exact congrArg (List.map Task.history) halike.tasks.symm
  · exact (congrArg Shared.commitments halike.shared).symm

/-! ### The deposit -/

def Undeposited (player : Player backend) (bet : Felt) (pool : Pool backend.system)
    (plan : List PlanStep) : Prop :=
  AllMeet (planStep player bet) (fun pool step => depositOf pool step = none) pool plan

theorem moveOf_of_depositOf {player : Player backend} {step : PlanStep}
    (h : depositOf pool step = none) (bet bet' : Felt) :
    moveOf player bet pool step = moveOf player bet' pool step := by
  cases step with
  | deposit i =>
      simp only [moveOf]
      rw [h]
      rfl
  | commit => rfl
  | askDeposit sessionId amountWei => rfl
  | confirm sessionId txHash => rfl
  | other move => rfl

theorem afterPlan_of_undeposited {player : Player backend} {bet : Felt} {plan : List PlanStep}
    (h : Undeposited player bet pool plan) (bet' : Felt) :
    afterPlan player bet pool plan = afterPlan player bet' pool plan := by
  induction plan generalizing pool with
  | nil => rfl
  | cons step plan ih =>
      obtain ⟨hstep, hplan⟩ := h
      have hsame : exec (planStep player bet) pool step = exec (planStep player bet') pool step := by
        simp only [exec, planStep, moveOf_of_depositOf hstep bet bet']
      have hrest := ih hplan
      rw [afterPlan, run_cons, ← afterPlan, hrest, hsame]
      rfl

theorem deposits_eq_nil_iff {player : Player backend} {bet : Felt} {plan : List PlanStep} :
    deposits player bet pool plan = [] ↔ Undeposited player bet pool plan := by
  induction plan generalizing pool with
  | nil => exact iff_of_true rfl trivial
  | cons step plan ih =>
      rw [deposits, logged, List.append_eq_nil_iff, ← deposits, ih]
      refine and_congr ?_ Iff.rfl
      cases hdeposit : depositOf pool step with
      | none => cases planStep player bet pool step <;> simp [hdeposit]
      | some d =>
          -- the call takes a step, whether the bank accepts it or not
          have hmade : ∃ pool', planStep player bet pool step = .ok pool' := by
            cases step with
            | deposit i =>
                simp only [planStep, moveOf, hdeposit, Option.map_some]
                exact ⟨_, Pool.outside_eq_ok_iff.mpr ⟨_, if_neg player.notMaster, rfl⟩⟩
            | commit => cases hdeposit
            | askDeposit sessionId amountWei => cases hdeposit
            | confirm sessionId txHash => cases hdeposit
            | other move => cases hdeposit
          obtain ⟨pool', hok⟩ := hmade
          rw [hok]
          simp [hdeposit]

/-- Two bets look the same exactly as long as the player has not deposited. -/
theorem hidden_iff (player : Player backend) (pool : Pool backend.system) (plan : List PlanStep)
    (bet bet' : Felt) :
    Hidden player pool plan bet bet' ↔ bet = bet' ∨ Undeposited player bet pool plan := by
  constructor
  · intro hhidden
    have hcalls : (deposits player bet pool plan).map (fun d => (d.bank, d.call bet)) =
        (deposits player bet' pool plan).map (fun d => (d.bank, d.call bet')) :=
      congrArg Seen.calls hhidden
    rw [deposits_eq player bet' bet] at hcalls
    cases hdeposits : deposits player bet pool plan with
    | nil => exact Or.inr (deposits_eq_nil_iff.mp hdeposits)
    | cons d rest =>
        rw [hdeposits] at hcalls
        have hhead := (Prod.mk.inj (List.cons.inj hcalls).1).2
        simp only [DepositData.call, BankCall.deposit.injEq] at hhead
        exact Or.inl hhead.2.2.2
  · rintro (rfl | hundeposited)
    · rfl
    · obtain ⟨hrequests, hexchanges, hcommitments⟩ :=
        server_sees_same player bet bet' pool plan
      have hdeposits := deposits_eq_nil_iff.mpr hundeposited
      have hdeposits' := (deposits_eq player bet' bet pool plan).trans hdeposits
      have hafter := afterPlan_of_undeposited hundeposited bet'
      unfold Hidden seen
      rw [hdeposits, hdeposits', hafter]
      rfl

def samplePlayer : Player sample where
  account := BankAccounting.playerAddress
  name := "0x3"
  commitment := "0x1"
  notMaster := by decide

/-- The plan up to the step that writes the seed. -/
def samplePlan : List PlanStep :=
  [.commit, .other (.advance 0 (smoothly 11)), .askDeposit sampleSession 10] ++
    List.replicate 3 (.other (.advance 1 (smoothly 11))) ++
  [.deposit 1, .confirm sampleSession "0xd"] ++
    List.replicate 6 (.other (.advance 2 (smoothly 11))) ++
  .other (.outside (.execute 0 0)) :: List.replicate 4 (.other (.advance 2 (smoothly 11)))

theorem bet_is_seen :
    ¬ ∀ (backend : Backend) (player : Player backend) (pool : Pool backend.system)
      (plan : List PlanStep) (bet bet' : Felt), Fresh backend pool →
      EndsLocked player bet pool plan → EndsLocked player bet' pool plan →
      Hidden player pool plan bet bet' := by
  intro hclaim
  have hlocked (bet : Felt) (hwritten : (SeedLock.written
      (afterPlan samplePlayer bet sampleStart samplePlan) (.advance 2 (smoothly 11))).isSome) :
      EndsLocked samplePlayer bet sampleStart
        (samplePlan ++ [.other (.advance 2 (smoothly 11))]) :=
    ⟨samplePlan, _, _, rfl, rfl, hwritten⟩
  have hhidden := hclaim sample samplePlayer sampleStart _ 0 1 fresh_sampleStart
    (hlocked 0 (by decide +kernel)) (hlocked 1 (by decide +kernel))
  have hbets := congrArg (fun s => (s.games BankAccounting.bankAddress 5).bet) hhidden
  exact absurd hbets (by decide +kernel)

end Snip36.BetHiding
