import Snip36.SessionGames

/-!
Whether a contract is deployed once, however many requests for its deployment
run at the same time.
-/

namespace Snip36.OneTimeDeployment

open CoinFlipRoutes
open CoinFlipServer
open CoinFlipState
open HandlerAsks
open Library.Interaction
open Library.Interaction.Program
open Library.Interleaving
open Library.Reverting
open ServerInvariant
open ServerSteps
open SessionGames
open ToolOutput

/-! ### What a deployment asks for -/

def fundedBank : Event Ask Answer → Option String
  | ⟨.sncast (.invoke token _ (bank :: _)), _⟩ => if token = strkToken then some bank else none
  | _ => none

def AddressPrinted (history : History Ask Answer) (address : String) : Prop :=
  ∃ event ∈ history, deployedAddress event = some address

/-- Tokens and the cell of the contract are for the address that was printed. -/
def DeployAsked (history : History Ask Answer) : Ask → Prop
  | .sncast (.invoke _ _ (bank :: _)) => AddressPrinted history bank
  | .writeDeployment _ d => AddressPrinted history d.contractAddress
  | _ => True

/-- The response is the deployment that was found, or that was stored. -/
def DeployReturns (contract : Contract) : History Ask Answer → Response → Prop :=
  fun history response => ∃ d : Deployment, response = Deployment.response d ∧
    ((⟨.readDeployment contract, some d⟩ : Event Ask Answer) ∈ history ∨
      (⟨.writeDeployment contract d, ()⟩ : Event Ask Answer) ∈ history)

/-- The requests of a preparation for an address. -/
def Preparing (address : String) : Ask → Prop
  | .sncast (.invoke _ _ (bank :: _)) => bank = address
  | .writeDeployment _ _ => False
  | _ => True

theorem deployAsked_of_isQuiet (history : History Ask Answer) (request : Ask)
    (h : IsQuiet request) : DeployAsked history request := by
  cases request with
  | sncast command => exact h.elim
  | writeDeployment contract d => exact h.elim
  | _ => trivial

theorem preparing_of_isQuiet {address : String} (request : Ask) (h : IsQuiet request) :
    Preparing address request := by
  cases request with
  | sncast command => exact h.elim
  | writeDeployment contract d => exact h.elim
  | _ => trivial

theorem deployAsked_of_preparing {history : History Ask Answer} {address : String}
    (hprinted : AddressPrinted history address) (said : History Ask Answer) (request : Ask)
    (h : Preparing address request) : DeployAsked (history ++ said) request := by
  obtain ⟨event, hevent, haddress⟩ := hprinted
  have hprinted : AddressPrinted (history ++ said) address :=
    ⟨event, List.mem_append_left _ hevent, haddress⟩
  cases request with
  | sncast command =>
      cases command with
      | invoke token function calldata =>
          cases calldata with
          | nil => trivial
          | cons bank rest =>
              obtain rfl : bank = address := h
              exact hprinted
      | declare name => trivial
      | deploy classHash constructorCalldata salt => trivial
  | writeDeployment contract d => exact h.elim
  | _ => trivial

theorem deployAsked_route (api : ServerApi) (contract : Contract) (plan : DeployPlan)
    {prepare : Deployment → Handler Unit}
    (hprepare : ∀ d, OnlyAsks (Preparing d.contractAddress) (prepare d)) :
    Throughout DeployAsked (Returning (DeployReturns contract)) []
      (deployRoute api contract plan prepare) := by
  refine ⟨trivial, fun found => ?_⟩
  cases found with
  | some d => exact returning_ok_iff.mpr ⟨d, rfl, Or.inl (by simp)⟩
  | none =>
      change Throughout _ _ _ (declareAndDeploy api plan >>= _)
      rw [throughout_returning_bind]
      have hdeploy : Throughout (fun _ request => ∀ h, DeployAsked h request)
          (Returning fun history d => AddressPrinted history d.contractAddress)
          [⟨.readDeployment contract, none⟩] (declareAndDeploy api plan) :=
        throughout_declareAndDeploy api
          (fun request hquiet h => deployAsked_of_isQuiet h request hquiet) plan
          (fun _ => trivial) fun _ _ _ => trivial
      apply hdeploy.mono (fun history _ _ h => h history)
      intro history outcome _ hreturns d hd
      have hprinted : AddressPrinted history d.contractAddress := hreturns d hd
      refine throughout_phase (hprepare d) (deployAsked_of_preparing hprinted) fun said _ => ?_
      obtain ⟨event, hevent, haddress⟩ := hprinted
      refine ⟨⟨event, List.mem_append_left _ hevent, haddress⟩, fun _ => ?_⟩
      refine ⟨trivial, fun coinflip => ⟨trivial, fun bank => ⟨trivial, fun _ =>
        ⟨trivial, fun _ => ?_⟩⟩⟩⟩
      exact returning_ok_iff.mpr ⟨d, rfl, Or.inr (by simp)⟩

theorem deployAsked_handler (backend : Backend) (contract : Contract) :
    Throughout DeployAsked (Returning (DeployReturns contract)) []
      (backend.handler (deployRequest contract)) := by
  cases contract with
  | coinFlip => exact deployAsked_route _ _ _ fun _ => trivial
  | coinFlipBank =>
      exact deployAsked_route _ _ _ fun d => onlyAsks_fundBank _ preparing_of_isQuiet d rfl rfl

/-! ### Deployments in a run -/

def isDeploy : Event Ask Answer → Bool
  | ⟨.sncast (.deploy _ _ _), _⟩ => true
  | _ => false

def deploys : Request → Option Contract
  | .deployCoinflip => some .coinFlip
  | .deployBank => some .coinFlipBank
  | _ => none

/-- Only the bank has a constructor argument. -/
def isDeployOf (contract : Contract) : MasterTx → Bool
  | .sncast (.deploy _ constructorCalldata _) =>
      match contract with
      | .coinFlip => constructorCalldata.isNone
      | .coinFlipBank => constructorCalldata.isSome
  | _ => false

section Properties

variable {backend : Backend} (contract : Contract) (pool : Pool backend.system)

/-- One contract at most was deployed, every response gives the address that is
stored, and no other bank was given tokens. -/
structure OneTime : Prop where
  deployed : (pool.shared.chain.executed.filter fun tx => isDeployOf contract tx.2).length ≤ 1
  answered : ∀ t ∈ pool.tasks, t.request = deployRequest contract → ∀ address classHash block,
    t.outcome? = some (.ok (.deployed address classHash block)) →
    ∃ d, pool.shared.deployment contract = some d ∧ d.contractAddress = address
  fundedOne : ∀ event event' bank bank', pool.Said (deployRequest contract) event →
    pool.Said (deployRequest contract) event' → fundedBank event = some bank →
    fundedBank event' = some bank' → bank = bank'
  fundedStored : ∀ event bank d, pool.Said (deployRequest contract) event →
    fundedBank event = some bank → pool.shared.deployment contract = some d →
    bank = d.contractAddress

/-- A deployment is given to `sncast` while no request of its kind has given it one. -/
def DeploysOnce (move : ServerMove) : Prop :=
  ∀ exchange ∈ pool.exchange move, deploys exchange.1 = some contract → isDeploy exchange.2 →
    ∀ t ∈ pool.tasks, deploys t.request = some contract → ∀ event ∈ t.history, ¬isDeploy event

instance (move : ServerMove) : Decidable (DeploysOnce contract pool move) :=
  inferInstanceAs (Decidable (∀ exchange ∈ pool.exchange move, _))

end Properties

variable {backend : Backend} {contract : Contract} {pool pool' : Pool backend.system}
  {move : ServerMove}

@[simp] theorem deploys_deployRequest (contract : Contract) :
    deploys (deployRequest contract) = some contract := by
  cases contract <;> rfl

theorem isDeploy_of_deployedAddress {event : Event Ask Answer} {address : String}
    (h : deployedAddress event = some address) : isDeploy event = true := by
  unfold deployedAddress at h
  split at h
  · rfl
  · cases h

/-- Who gives `sncast` the deployment of a contract. -/
theorem request_of_issues {config : Config} {history : History Ask Answer}
    {command : SncastCommand} {q : Request} (hdeploy : isDeployOf contract (.sncast command) = true)
    (h : Issues config history command q) : q = deployRequest contract := by
  cases command with
  | declare name => cases hdeploy
  | invoke contractAddress function calldata => cases hdeploy
  | deploy classHash constructorCalldata salt =>
      rcases h.deploy with ⟨rfl, rfl⟩ | ⟨rfl, rfl⟩
      · cases contract with
        | coinFlip => rfl
        | coinFlipBank => cases hdeploy
      · cases contract with
        | coinFlip => cases hdeploy
        | coinFlipBank => rfl

theorem isDeploy_of_submitted {event : Event Ask Answer} {tx : MasterTx}
    (hdeploy : isDeployOf contract tx = true)
    (htx : submitted event.request event.answer = some tx) :
    isDeploy event = true ∧ ∃ command, event.request = .sncast command ∧ tx = .sncast command := by
  obtain ⟨request, answer⟩ := event
  cases request with
  | sncast command =>
      cases htx
      cases command with
      | deploy classHash constructorCalldata salt => exact ⟨rfl, _, rfl, rfl⟩
      | declare name => cases hdeploy
      | invoke contractAddress function calldata => cases hdeploy
  | post url payload =>
      simp only [submitted] at htx
      split at htx
      · cases htx
        cases hdeploy
      · cases htx
  | _ => cases htx

theorem request_of_handedOver {q : Request} {event : Event Ask Answer} {tx : MasterTx}
    {before : History Ask Answer} (hdeploy : isDeployOf contract tx = true)
    (htx : submitted event.request event.answer = some tx)
    (hallowed : Allowed backend.config q before event.request) : q = deployRequest contract := by
  obtain ⟨-, command, hrequest, rfl⟩ := isDeploy_of_submitted hdeploy htx
  rw [hrequest] at hallowed
  exact request_of_issues hdeploy hallowed

def sentTransactions (chain : Chain) : List MasterTx :=
  chain.pending ++ chain.executed.map Prod.snd

theorem sentTransactions_of_included {chain chain' : Chain} {k : Nat} {tx : MasterTx}
    (h : Included chain chain' k tx) : (sentTransactions chain').Perm (sentTransactions chain) := by
  obtain ⟨hk, hget⟩ := List.getElem?_eq_some_iff.mp h.found
  have hpending : (tx :: chain.pending.eraseIdx k).Perm chain.pending :=
    hget ▸ List.getElem_cons_eraseIdx_perm hk
  rw [sentTransactions, h.pending, h.executed, List.map_append, ← List.append_assoc]
  refine List.perm_append_comm.trans ?_
  rw [List.map_cons, List.map_nil, List.singleton_append, ← List.cons_append]
  exact hpending.append_right _

theorem isSome_of_step (hstep : pool.step move = .ok pool')
    (hsome : (pool.shared.deployment contract).isSome) :
    (pool'.shared.deployment contract).isSome := by
  rcases deployment_of_step hstep contract with hsame | ⟨q, d, -, hd⟩
  · rwa [hsame]
  · rw [hd]
    rfl

/-- Tokens go to an address that was printed. -/
theorem printed_of_funded {event : Event Ask Answer} {bank : String}
    (hsaid : pool.Said (deployRequest contract) event) (hbank : fundedBank event = some bank) :
    ∃ event', pool.Said (deployRequest contract) event' ∧ deployedAddress event' = some bank := by
  obtain ⟨before, hasked, hbefore⟩ := hsaid.asked (deployAsked_handler backend contract)
  unfold fundedBank at hbank
  split at hbank
  · split at hbank
    · cases hbank
      obtain ⟨event', hevent', haddress⟩ := hasked
      exact ⟨event', hbefore event' hevent', haddress⟩
    · cases hbank
  · cases hbank

/-- One deployment was handed over, and everything is about its address. -/
structure Once (contract : Contract) (pool : Pool backend.system) : Prop where
  kept : Kept backend pool
  one : ∀ event event', pool.Said (deployRequest contract) event →
    pool.Said (deployRequest contract) event' → isDeploy event → isDeploy event' → event = event'
  sent : (sentTransactions pool.shared.chain).countP (isDeployOf contract) ≤ 1
  stored : ∀ d, pool.shared.deployment contract = some d → ∃ event,
    pool.Said (deployRequest contract) event ∧ deployedAddress event = some d.contractAddress
  found : ∀ q d, pool.Said q ⟨.readDeployment contract, some d⟩ →
    (pool.shared.deployment contract).isSome ∧ ∃ event,
      pool.Said (deployRequest contract) event ∧ deployedAddress event = some d.contractAddress
  written : ∀ q d, pool.Said q ⟨.writeDeployment contract d, ()⟩ →
    (pool.shared.deployment contract).isSome

namespace Once

theorem address_unique (h : Once contract pool) {event event' : Event Ask Answer}
    {address address' : String} (hsaid : pool.Said (deployRequest contract) event)
    (hsaid' : pool.Said (deployRequest contract) event')
    (haddress : deployedAddress event = some address)
    (haddress' : deployedAddress event' = some address') : address = address' := by
  obtain rfl := h.one event event' hsaid hsaid' (isDeploy_of_deployedAddress haddress)
    (isDeploy_of_deployedAddress haddress')
  exact Option.some.inj (haddress.symm.trans haddress')

theorem fresh (hfresh : Fresh backend pool) (hnone : pool.shared.deployment contract = none) :
    Once contract pool := by
  refine ⟨.fresh hfresh, fun _ _ h => absurd h (hfresh.not_said _ _), ?_, ?_,
    fun _ _ h => absurd h (hfresh.not_said _ _), fun _ _ h => absurd h (hfresh.not_said _ _)⟩
  · rw [sentTransactions, hfresh.pending, hfresh.executed]
    exact Nat.zero_le 1
  · intro d hd
    cases hnone.symm.trans hd

section Step

variable (h : Once contract pool) (hstep : pool.step move = .ok pool')

include h hstep

theorem step_one (honce : DeploysOnce contract pool move) (event event' : Event Ask Answer)
    (hsaid : pool'.Said (deployRequest contract) event)
    (hsaid' : pool'.Said (deployRequest contract) event') (hdeploy : isDeploy event)
    (hdeploy' : isDeploy event') : event = event' := by
  -- nothing was handed over before a move that hands something over
  have hfirst {event event' : Event Ask Answer}
      (hnow : pool.exchange move = some (deployRequest contract, event))
      (hdeploy : isDeploy event) (hsaid : pool.Said (deployRequest contract) event') :
      ¬isDeploy event' := by
    obtain ⟨t, ht, hrequest, hevent⟩ := hsaid
    exact honce _ hnow (deploys_deployRequest contract) hdeploy t ht
      (by rw [hrequest, deploys_deployRequest]) event' hevent
  rcases (Pool.said_iff_of_step hstep).mp hsaid with hold | hnow
  · rcases (Pool.said_iff_of_step hstep).mp hsaid' with hold' | hnow'
    · exact h.one event event' hold hold' hdeploy hdeploy'
    · exact absurd hdeploy (hfirst hnow' hdeploy' hold)
  · rcases (Pool.said_iff_of_step hstep).mp hsaid' with hold' | hnow'
    · exact absurd hdeploy' (hfirst hnow hdeploy hold')
    · exact (Prod.mk.inj (Option.some.inj (hnow.symm.trans hnow'))).2

theorem step_sent (honce : DeploysOnce contract pool move) :
    (sentTransactions pool'.shared.chain).countP (isDeployOf contract) ≤ 1 := by
  rcases transactions_of_step hstep with ⟨hexchange, hchain⟩ | ⟨-, hincluded⟩ |
    ⟨-, hpending, hexecuted, -, -⟩
  · rename_i q event
    rw [hchain]
    cases htx : submitted event.request event.answer with
    | none =>
        simp only [sentTransactions, Option.toList_none, List.append_nil]
        exact h.sent
    | some tx =>
        simp only [sentTransactions, Option.toList_some]
        rw [List.append_assoc, List.countP_append, List.countP_append, Nat.add_left_comm,
          ← List.countP_append]
        cases hdeploy : isDeployOf contract tx with
        | false =>
            rw [List.countP_singleton, hdeploy, if_neg Bool.false_ne_true, Nat.zero_add]
            exact h.sent
        | true =>
            -- it is the first
            obtain ⟨before, hallowed, -⟩ := allowed_of_exchange hexchange
            obtain rfl := request_of_handedOver hdeploy htx hallowed
            have hzero : (pool.shared.chain.pending ++
                pool.shared.chain.executed.map Prod.snd).countP (isDeployOf contract) = 0 := by
              rw [List.countP_eq_zero]
              intro tx' htx' hdeploy'
              obtain ⟨q', event', hsaid, hsubmitted⟩ := h.kept.sent tx' (List.mem_append.mp htx')
              obtain ⟨before', hallowed', -⟩ := hsaid.asked (handler_asks backend q')
              obtain rfl := request_of_handedOver hdeploy' hsubmitted hallowed'
              obtain ⟨t, ht, hrequest, hevent⟩ := hsaid
              exact honce _ hexchange (deploys_deployRequest contract)
                (isDeploy_of_submitted hdeploy htx).1 t ht
                (by rw [hrequest, deploys_deployRequest]) event' hevent
                (isDeploy_of_submitted hdeploy' hsubmitted).1
            rw [hzero, Nat.add_zero]
            exact List.countP_le_length
  · rw [(sentTransactions_of_included hincluded).countP_eq]
    exact h.sent
  · rw [sentTransactions, hpending, hexecuted]
    exact h.sent

theorem step_stored (d : Deployment) (hd : pool'.shared.deployment contract = some d) :
    ∃ event, pool'.Said (deployRequest contract) event ∧
      deployedAddress event = some d.contractAddress := by
  rcases deployment_of_step hstep contract with hsame | ⟨q, d', hexchange, hd'⟩
  · obtain ⟨event, hsaid, haddress⟩ := h.stored d (hsame ▸ hd)
    exact ⟨event, Pool.said_of_step hstep hsaid, haddress⟩
  · obtain rfl : d' = d := Option.some.inj (hd'.symm.trans hd)
    obtain ⟨-, rfl, -⟩ := allowed_of_exchange hexchange
    obtain ⟨before, ⟨event, hevent, haddress⟩, hbefore⟩ :=
      Pool.asked_of_exchange hexchange (deployAsked_handler backend contract)
    exact ⟨event, Pool.said_of_step hstep (hbefore event hevent), haddress⟩

theorem step_found (q : Request) (d : Deployment)
    (hsaid : pool'.Said q ⟨.readDeployment contract, some d⟩) :
    (pool'.shared.deployment contract).isSome ∧ ∃ event,
      pool'.Said (deployRequest contract) event ∧
      deployedAddress event = some d.contractAddress := by
  have hbefore : (pool.shared.deployment contract).isSome ∧ ∃ event,
      pool.Said (deployRequest contract) event ∧
      deployedAddress event = some d.contractAddress := by
    rcases (Pool.said_iff_of_step hstep).mp hsaid with hold | hnow
    · exact h.found q d hold
    · obtain ⟨offered, hserved⟩ := served_of_exchange hstep hnow
      have hd : pool.shared.deployment contract = some d :=
        (Prod.mk.inj (Option.some.inj hserved)).1
      exact ⟨by rw [hd]; rfl, h.stored d hd⟩
  obtain ⟨hsome, event, hevent, haddress⟩ := hbefore
  exact ⟨isSome_of_step hstep hsome, event, Pool.said_of_step hstep hevent, haddress⟩

theorem step_written (q : Request) (d : Deployment)
    (hsaid : pool'.Said q ⟨.writeDeployment contract d, ()⟩) :
    (pool'.shared.deployment contract).isSome := by
  rcases (Pool.said_iff_of_step hstep).mp hsaid with hold | hnow
  · exact isSome_of_step hstep (h.written q d hold)
  · obtain ⟨offered, hserved⟩ := served_of_exchange hstep hnow
    rw [← (serve_writeDeployment_eq_some_iff.mp hserved).2]
    cases contract <;> rfl

theorem step (honce : DeploysOnce contract pool move) : Once contract pool' :=
  ⟨h.kept.step hstep, h.step_one hstep honce, h.step_sent hstep honce, h.step_stored hstep,
    h.step_found hstep, h.step_written hstep⟩

end Step

theorem answered (h : Once contract pool) {t : Task backend.system} (ht : t ∈ pool.tasks)
    (hrequest : t.request = deployRequest contract) {address classHash : String} {block : Nat}
    (houtcome : t.outcome? = some (.ok (.deployed address classHash block))) :
    ∃ d, pool.shared.deployment contract = some d ∧ d.contractAddress = address := by
  have hreturns : DeployReturns contract t.history (.deployed address classHash block) := by
    have hthroughout : Throughout DeployAsked (Returning (DeployReturns contract)) t.history
        t.program := t.follows.throughout (hrequest ▸ deployAsked_handler backend contract)
    unfold Task.outcome? at houtcome
    split at houtcome
    · rename_i outcome hdone
      cases houtcome
      rw [hdone] at hthroughout
      exact hthroughout _ rfl
    · cases houtcome
  obtain ⟨d, hresponse, hevent⟩ := hreturns
  have hstored : (pool.shared.deployment contract).isSome ∧ ∃ event,
      pool.Said (deployRequest contract) event ∧
      deployedAddress event = some d.contractAddress := by
    rcases hevent with hread | hwrite
    · exact h.found _ d ⟨t, ht, rfl, hread⟩
    · have hsaid : pool.Said (deployRequest contract) ⟨.writeDeployment contract d, ()⟩ :=
        ⟨t, ht, hrequest, hwrite⟩
      obtain ⟨before, ⟨event, hevent, haddress⟩, hbefore⟩ :=
        hsaid.asked (deployAsked_handler backend contract)
      exact ⟨h.written _ d hsaid, event, hbefore event hevent, haddress⟩
  obtain ⟨hsome, event, hsaid, haddress⟩ := hstored
  obtain ⟨d', hd'⟩ := Option.isSome_iff_exists.mp hsome
  obtain ⟨event', hsaid', haddress'⟩ := h.stored d' hd'
  refine ⟨d', hd', ?_⟩
  cases hresponse
  exact h.address_unique hsaid' hsaid haddress' haddress

end Once

/-- In a run in which a deployment is given to `sncast` once. -/
theorem one_time (hfresh : Fresh backend pool) (hnone : pool.shared.deployment contract = none)
    (moves : List ServerMove) (hmoves : AllMeet Pool.step (DeploysOnce contract) pool moves) :
    OneTime contract (after pool moves) := by
  have h : Once contract (after pool moves) :=
    run_keeps_while (fun _ _ _ honce h hstep => h.step hstep honce) (.fresh hfresh hnone) hmoves
  refine ⟨?_, fun t ht hrequest _ _ _ houtcome => h.answered ht hrequest houtcome, ?_, ?_⟩
  · have hcount := h.sent
    rw [sentTransactions, List.countP_append, List.countP_map] at hcount
    rw [← List.countP_eq_length_filter]
    exact (Nat.le_add_left _ _).trans hcount
  · intro event event' bank bank' hsaid hsaid' hbank hbank'
    obtain ⟨source, hsource, haddress⟩ := printed_of_funded hsaid hbank
    obtain ⟨source', hsource', haddress'⟩ := printed_of_funded hsaid' hbank'
    exact h.address_unique hsource hsource' haddress haddress'
  · intro event bank d hsaid hbank hd
    obtain ⟨source, hsource, haddress⟩ := printed_of_funded hsaid hbank
    obtain ⟨source', hsource', haddress'⟩ := h.stored d hd
    exact h.address_unique hsource hsource' haddress haddress'

def bareStart : Pool sample.system where
  shared := {
    sampleStart.shared with
    coinflip := none
    bank := none
    chain := { sampleStart.shared.chain with banks := fun _ => none, contracts := [] } }
  tasks := []

theorem fresh_bareStart : Fresh sample bareStart :=
  ⟨rfl, fun _ => rfl, rfl, nofun, rfl, rfl, rfl⟩

/-- `sncast` declares, and deploys to an address. -/
def deploying (address : String) : (request : Ask) → Answer request
  | .sncast (.declare _) =>
      .ok ⟨"class_hash: 0x" ++ String.ofList (List.replicate 50 'b'), "", true⟩
  | .sncast (.deploy _ _ _) =>
      .ok ⟨"contract_address: " ++ address ++ " transaction_hash: 0xd", "", true⟩
  | request => smoothly 11 request

/-- A bank is deployed, and asked for again. -/
def repeatedDeployment : List ServerMove :=
  .arrive .deployBank :: List.replicate 23 (.advance 0 (deploying "0x1")) ++
  [.outside (.execute 1 BankAccounting.bankAddress), .arrive .deployBank,
    .advance 1 (deploying "0x4")]

theorem one_time_repeatedDeployment :
    OneTime .coinFlipBank (after bareStart repeatedDeployment) := by
  apply one_time fresh_bareStart rfl
  decide +kernel

/-- Both requests find no bank, and then each of them deploys one. -/
def racingDeployments : List ServerMove :=
  [.arrive .deployBank, .arrive .deployBank, .advance 0 (deploying "0x1"),
    .advance 1 (deploying "0x4")] ++
  List.replicate 22 (.advance 0 (deploying "0x1")) ++
  List.replicate 22 (.advance 1 (deploying "0x4"))

/-- The first response gives the bank that the second request has overwritten. -/
theorem bank_is_overwritten :
    ¬ ∀ (backend : Backend) (contract : Contract) (pool : Pool backend.system)
      (moves : List ServerMove), Fresh backend pool → pool.shared.deployment contract = none →
      OneTime contract (after pool moves) := by
  intro hclaim
  have hone := hclaim sample .coinFlipBank bareStart racingDeployments fresh_bareStart rfl
  have hfirst : ((after bareStart racingDeployments).tasks[0]?.bind fun t => t.outcome?) =
      some (.ok (.deployed "0x1" ("0x" ++ String.ofList (List.replicate 50 'b')) 11)) := by
    decide +kernel
  have hstored : ((after bareStart racingDeployments).shared.deployment .coinFlipBank).map
      Deployment.contractAddress = some "0x4" := by
    decide +kernel
  obtain ⟨t, ht, houtcome⟩ := Option.bind_eq_some_iff.mp hfirst
  have hrequest : t.request = .deployBank := by
    have hrequests : ((after bareStart racingDeployments).tasks[0]?.map
        fun t => deploys t.request) = some (some .coinFlipBank) := by decide +kernel
    rw [ht] at hrequests
    have hdeploys : deploys t.request = some .coinFlipBank := Option.some.inj hrequests
    generalize t.request = q at hdeploys
    cases q with
    | deployBank => rfl
    | _ => cases hdeploys
  obtain ⟨d, hd, haddress⟩ :=
    hone.answered t (List.mem_of_getElem? ht) hrequest _ _ _ houtcome
  rw [hd, Option.map_some, haddress] at hstored
  exact absurd hstored (by decide)

end Snip36.OneTimeDeployment
