import Snip36.CoinFlipServer

/-!
What each handler may ask for, and what has been said for it before it asks.
-/

namespace Snip36.HandlerAsks

open CoinFlipPlay
open CoinFlipRoutes
open CoinFlipServer
open CoinFlipState
open Library.Interaction
open Library.Interaction.Program
open Library.Interleaving
open Payload
open RouteFailures
open StarknetRpc
open ToolOutput

/-- The requests of `wait_for_tx`. -/
def IsPoll : Ask → Prop
  | .deadlinePassed => True
  | .getReceipt _ => True
  | .sleep _ => True
  | _ => False

/-- `wait_for_tx` polls and comes to a verdict. -/
theorem throughout_waitForTx {Asks : History Ask Answer → Ask → Prop}
    {Ends : History Ask Answer → Outcome Failure (Except RpcError Json) → Prop}
    {history : History Ask Answer}
    (hasks : ∀ said request, (∀ event ∈ said, IsPoll event.request) → IsPoll request →
      Asks (history ++ said) request)
    (hends : ∀ said verdict, (∀ event ∈ said, IsPoll event.request) →
      Ends (history ++ said) (.ok verdict))
    (api : ServerApi) (txHash : String) (timeoutSecs pollIntervalSecs : Nat) :
    Throughout Asks Ends history (waitForTx api txHash timeoutSecs pollIntervalSecs) := by
  unfold waitForTx TxPolling.waitForTx
  generalize TxPolling.naps timeoutSecs pollIntervalSecs = naps
  have hpoll (naps : Nat) : ∀ said, (∀ event ∈ said, IsPoll event.request) →
      Throughout Asks Ends (history ++ said)
        ((TxPolling.pollReceipt api.display txHash timeoutSecs pollIntervalSecs naps).translate
          pollInclusion) := by
    induction naps with
    | zero => exact fun said hsaid => hends said _ hsaid
    | succ naps ih =>
        intro said hsaid
        have hmore (event : Event Ask Answer) (hevent : IsPoll event.request)
            {later : History Ask Answer} (hlater : ∀ event ∈ later, IsPoll event.request) :
            ∀ e ∈ later ++ [event], IsPoll e.request :=
          forall_request_append hlater (by simpa using hevent)
        refine ⟨hasks said _ hsaid trivial, fun passed => ?_⟩
        rw [List.append_assoc]
        have hsaid := hmore ⟨.deadlinePassed, passed⟩ trivial hsaid
        cases passed with
        | true => exact hends _ _ hsaid
        | false =>
            refine ⟨hasks _ _ hsaid trivial, fun receipt => ?_⟩
            rw [List.append_assoc]
            have hsaid := hmore ⟨.getReceipt txHash, receipt⟩ trivial hsaid
            have hanswer : pollInclusion.answer (.getReceipt txHash) receipt = receipt := rfl
            dsimp only [Program.bind]
            rw [hanswer]
            cases TxPolling.judged api.display receipt with
            | some verdict => exact hends _ _ hsaid
            | none =>
                refine ⟨hasks _ _ hsaid trivial, fun slept => ?_⟩
                rw [List.append_assoc]
                exact ih _ (hmore ⟨.sleep pollIntervalSecs, slept⟩ trivial hsaid)
  have h := hpoll naps [] (by simp)
  rwa [List.append_nil] at h

theorem throughout_confirmedBlock {Asks : History Ask Answer → Ask → Prop}
    {Ends : History Ask Answer → Outcome Failure (Option Nat) → Prop}
    {history : History Ask Answer}
    (hasks : ∀ said request, (∀ event ∈ said, IsPoll event.request) → IsPoll request →
      Asks (history ++ said) request)
    (hends : ∀ said block, (∀ event ∈ said, IsPoll event.request) →
      Ends (history ++ said) (.ok block))
    (api : ServerApi) (txHash : Option String) :
    Throughout Asks Ends history (confirmedBlock api txHash) := by
  cases txHash with
  | none =>
      have h := hends [] none (by simp)
      rwa [List.append_nil] at h
  | some tx =>
      unfold confirmedBlock
      rw [throughout_bind]
      apply throughout_waitForTx hasks
      intro said verdict hsaid
      cases verdict with
      | error e => exact hends said none hsaid
      | ok receipt => exact hends said _ hsaid

/-- The requests of one `sncast` call under the mutex. -/
def Invoking (command : SncastCommand) : Ask → Prop
  | .sncast c => c = command
  | .lockSncast => True
  | .unlockSncast => True
  | .deadlinePassed => True
  | .getReceipt _ => True
  | .sleep _ => True
  | _ => False

theorem invoking_of_isPoll {command : SncastCommand} {request : Ask} (h : IsPoll request) :
    Invoking command request := by
  cases request with
  | deadlinePassed => trivial
  | getReceipt txHash => trivial
  | sleep seconds => trivial
  | _ => exact h.elim

/-- What the call gives back of what `sncast` has printed. -/
def InvokedWith : Except String Output → Except String InvokeResult → Prop
  | .error e, result => result = .error e
  | .ok output, result => ∃ blockNumber,
      result = .ok ⟨output, parseHexFor "transaction_hash" output.combined, blockNumber⟩

/-- Nothing was handed over to `sncast`. -/
def Unsent (history : History Ask Answer) : Prop :=
  ∀ event ∈ history, ∀ command, event.request ≠ .sncast command

theorem unsent_of_isPoll {history : History Ask Answer}
    (h : ∀ event ∈ history, IsPoll event.request) : Unsent history := by
  intro event hevent command hsncast
  have hpoll := h event hevent
  rw [hsncast] at hpoll
  exact hpoll

/-- One call: the mutex is taken, `sncast` runs, the hash that it has printed is
waited for, and the mutex is given back. -/
theorem throughout_sncastInvoke_exchanges {Asks : History Ask Answer → Ask → Prop}
    {Ends : History Ask Answer → Outcome Failure (Except String InvokeResult) → Prop}
    {history : History Ask Answer} {contractAddress function : String} {calldata : List String}
    (hasks : ∀ said request,
      (∀ event ∈ said, Invoking (.invoke contractAddress function calldata) event.request) →
      Invoking (.invoke contractAddress function calldata) request →
      (∀ command, request = .sncast command → Unsent said) → Asks (history ++ said) request)
    (hends : ∀ locked output polls unlocked result, (∀ event ∈ polls, IsPoll event.request) →
      InvokedWith output result →
      Ends (history ++ ([⟨.lockSncast, locked⟩,
        ⟨.sncast (.invoke contractAddress function calldata), output⟩] ++ polls ++
          [⟨.unlockSncast, unlocked⟩])) (.ok result))
    (api : ServerApi) :
    Throughout Asks Ends history (sncastInvoke api contractAddress function calldata) := by
  have hlock := hasks [] .lockSncast (by simp) trivial (by simp)
  rw [List.append_nil] at hlock
  refine ⟨hlock, fun locked => ?_⟩
  change Throughout Asks Ends _ ((Program.attempt _) >>= _)
  rw [throughout_bind, throughout_attempt]
  refine ⟨hasks _ (.sncast _) (by simp [Invoking]) rfl (by simp [Unsent]), fun output => ?_⟩
  rw [List.append_assoc]
  cases output with
  | error e =>
      refine ⟨hasks _ _ (by simp [Invoking]) trivial (by simp), fun unlocked => ?_⟩
      rw [List.append_assoc]
      exact hends locked (.error e) [] unlocked _ (by simp) rfl
  | ok output =>
      change Throughout Asks _ _ (confirmedBlock api _ >>= _)
      rw [throughout_bind]
      have hpolls (said : History Ask Answer) (hsaid : ∀ event ∈ said, IsPoll event.request) :
          ∀ event ∈ ([⟨.lockSncast, locked⟩] ++
            [⟨.sncast (.invoke contractAddress function calldata), .ok output⟩]) ++ said,
            Invoking (.invoke contractAddress function calldata) event.request :=
        forall_request_append (by simp [Invoking])
          fun event hevent => invoking_of_isPoll (hsaid event hevent)
      apply throughout_confirmedBlock
      · intro said request hsaid hrequest
        rw [List.append_assoc]
        apply hasks _ _ (hpolls said hsaid) (invoking_of_isPoll hrequest)
        rintro command rfl
        exact hrequest.elim
      · intro said block hsaid
        rw [List.append_assoc]
        refine ⟨hasks _ _ (hpolls said hsaid) trivial (by simp), fun unlocked => ?_⟩
        rw [List.append_assoc]
        exact hends locked (.ok output) said unlocked _ hsaid ⟨block, rfl⟩

theorem throughout_sncastInvoke {Asks : History Ask Answer → Ask → Prop}
    {Ends : History Ask Answer → Outcome Failure (Except String InvokeResult) → Prop}
    {history : History Ask Answer} {contractAddress function : String} {calldata : List String}
    (hasks : ∀ said request,
      (∀ event ∈ said, Invoking (.invoke contractAddress function calldata) event.request) →
      Invoking (.invoke contractAddress function calldata) request →
      (∀ command, request = .sncast command → Unsent said) → Asks (history ++ said) request)
    (hends : ∀ said output result,
      (∀ event ∈ said, Invoking (.invoke contractAddress function calldata) event.request) →
      ⟨.sncast (.invoke contractAddress function calldata), output⟩ ∈ said →
      InvokedWith output result → Ends (history ++ said) (.ok result))
    (api : ServerApi) :
    Throughout Asks Ends history (sncastInvoke api contractAddress function calldata) := by
  apply throughout_sncastInvoke_exchanges hasks
  intro locked output polls unlocked result hpolls hinvoked
  refine hends _ output result (forall_request_append ?_ (by simp [Invoking])) (by simp) hinvoked
  exact forall_request_append (by simp [Invoking])
    fun event hevent => invoking_of_isPoll (hpolls event hevent)

section OnlyAsks

variable {P : Ask → Prop} {α : Type}

theorem onlyAsks_streamError (hsend : ∀ event data, P (.send event data)) (message : String) :
    OnlyAsks P (streamError message : Handler α) :=
  ⟨hsend _ _, fun _ => trivial⟩

theorem onlyAsks_orStreamError (hsend : ∀ event data, P (.send event data))
    (message : String → String) (x : Except String α) :
    OnlyAsks P (orStreamError message x) := by
  cases x with
  | error e => exact onlyAsks_streamError hsend _
  | ok a => trivial

section Returning

variable {β : Type} {Asks : History Ask Answer → Ask → Prop}
  {Good : History Ask Answer → β → Prop} {history : History Ask Answer} {f : α → Handler β}

theorem throughout_orStreamError {message : String → String} {x : Except String α}
    (hsend : ∀ event data, Asks history (.send event data))
    (hok : ∀ a, x = .ok a → Throughout Asks (Returning Good) history (f a)) :
    Throughout Asks (Returning Good) history (orStreamError message x >>= f) := by
  cases x with
  | error e => exact ⟨hsend _ _, fun _ => returning_err _⟩
  | ok a => exact hok a rfl

end Returning

theorem onlyAsks_waitForTx (hpolls : ∀ request, IsPoll request → P request) (api : ServerApi)
    (txHash : String) (timeoutSecs pollIntervalSecs : Nat) :
    OnlyAsks P (waitForTx api txHash timeoutSecs pollIntervalSecs) := by
  have hthroughout : Throughout (fun _ => P) (fun _ _ => True) []
      (waitForTx api txHash timeoutSecs pollIntervalSecs) := by
    apply throughout_waitForTx
    · exact fun said request _ hrequest => hpolls request hrequest
    · exact fun _ _ _ => trivial
  exact onlyAsks_iff_throughout.mpr hthroughout

theorem onlyAsks_confirmedBlock (hpolls : ∀ request, IsPoll request → P request)
    (api : ServerApi) (txHash : Option String) : OnlyAsks P (confirmedBlock api txHash) := by
  cases txHash with
  | none => trivial
  | some tx =>
      apply (onlyAsks_waitForTx hpolls api tx 120 3).bind
      intro waited
      cases waited with
      | error e => trivial
      | ok receipt => trivial

theorem onlyAsks_waitIfSome (hpolls : ∀ request, IsPoll request → P request)
    (api : ServerApi) (txHash : Option String) : OnlyAsks P (waitIfSome api txHash) := by
  cases txHash with
  | none => trivial
  | some tx => exact (onlyAsks_waitForTx hpolls api tx 120 3).bind fun _ => trivial

theorem onlyAsks_withSncastLock (hlock : P .lockSncast) (hunlock : P .unlockSncast)
    {body : Handler α} (hbody : OnlyAsks P body) : OnlyAsks P (withSncastLock body) :=
  ⟨hlock, fun _ => hbody.attempt.bind fun _ => ⟨hunlock, fun _ => trivial⟩⟩

theorem onlyAsks_sncastInvoke (hpolls : ∀ request, IsPoll request → P request)
    (hlock : P .lockSncast) (hunlock : P .unlockSncast) {contractAddress function : String}
    {calldata : List String} (hsncast : P (.sncast (.invoke contractAddress function calldata)))
    (api : ServerApi) : OnlyAsks P (sncastInvoke api contractAddress function calldata) := by
  apply onlyAsks_withSncastLock hlock hunlock
  refine ⟨hsncast, fun output => ?_⟩
  cases output with
  | error e => trivial
  | ok output => exact (onlyAsks_confirmedBlock hpolls api _).bind fun _ => trivial

theorem onlyAsks_saveDeployments (hhold : ∀ contract, P (.holdDeployment contract))
    (hdrop : P .dropDeployments) (hwrite : ∀ persisted, P (.writeDeploymentsFile persisted)) :
    OnlyAsks P saveDeployments :=
  ⟨hhold _, fun _ => ⟨hhold _, fun _ => ⟨hdrop, fun _ => ⟨hwrite _, fun _ => trivial⟩⟩⟩⟩

/-- Requests that change nothing that other handlers see but the mutex. -/
def IsQuiet : Ask → Prop
  | .readDeployment _ => True
  | .lockSncast => True
  | .unlockSncast => True
  | .randomSalt => True
  | .deadlinePassed => True
  | .getReceipt _ => True
  | .sleep _ => True
  | .blockNumber => True
  | .getNonceAtBlock _ _ => True
  | .writeJson _ _ => True
  | .readFile _ => True
  | .fileSize _ => True
  | .runProver _ _ => True
  | .send _ _ => True
  | _ => False

theorem isQuiet_of_isPoll {request : Ask} (h : IsPoll request) : IsQuiet request := by
  cases request with
  | deadlinePassed => trivial
  | getReceipt txHash => trivial
  | sleep seconds => trivial
  | _ => exact h.elim

variable (api : ServerApi) (config : Config) (task : PlayTask)

section Phases

variable (hquiet : ∀ request, IsQuiet request → P request)

include hquiet

theorem onlyAsks_orStreamError_of_quiet (message : String → String) (x : Except String α) :
    OnlyAsks P (orStreamError message x) :=
  onlyAsks_orStreamError (fun _ _ => hquiet _ trivial) message x

theorem onlyAsks_streamError_of_quiet (message : String) :
    OnlyAsks P (streamError message : Handler α) :=
  onlyAsks_streamError (fun _ _ => hquiet _ trivial) message

theorem onlyAsks_startLog : OnlyAsks P (startLog task) := by
  unfold startLog
  split
  · trivial
  · exact ⟨hquiet _ trivial, fun _ => trivial⟩

theorem onlyAsks_constructTransaction : OnlyAsks P (constructTransaction api config task) := by
  have horStream {β : Type} (message : String → String) (x : Except String β) :
      OnlyAsks P (orStreamError message x) := onlyAsks_orStreamError_of_quiet hquiet message x
  refine ⟨hquiet _ trivial, fun _ => ?_⟩
  refine (horStream _ _).bind fun calldata => ?_
  refine (horStream _ _).bind fun sender => ?_
  refine (horStream _ _).bind fun privateKey => ?_
  refine (horStream _ _).bind fun chainId => ⟨hquiet _ trivial, fun answered => ?_⟩
  refine (horStream _ _).bind fun nonce => ?_
  refine (horStream _ _).bind fun sig => ⟨hquiet _ trivial, fun written => ?_⟩
  exact (horStream _ _).bind fun _ => ⟨hquiet _ trivial, fun _ => trivial⟩

theorem onlyAsks_prove : OnlyAsks P (prove config task) := by
  refine ⟨hquiet _ trivial, fun _ => ⟨hquiet _ trivial, fun _ =>
    ⟨hquiet _ trivial, fun exit => ?_⟩⟩⟩
  rcases exit with message | (success : Bool)
  · exact onlyAsks_streamError_of_quiet hquiet _
  · cases success with
    | false => exact onlyAsks_streamError_of_quiet hquiet _
    | true => exact ⟨hquiet _ trivial, fun _ => ⟨hquiet _ trivial, fun _ => trivial⟩⟩

theorem onlyAsks_parseSettlement (hread : ∀ path, P (.readJson path)) :
    OnlyAsks P (parseSettlement config task) := by
  refine ⟨hread _, fun messages => ?_⟩
  dsimp only [Program.bind]
  cases readSettlement messages with
  | some settlement => exact ⟨hquiet _ trivial, fun _ => trivial⟩
  | none => trivial

theorem onlyAsks_postPayload {url : String} {payload : Json} (hpost : P (.post url payload))
    (left : Nat) : OnlyAsks P (postPayload api url payload left) := by
  have herror (message : String) : OnlyAsks P (streamError message : Handler Unit) :=
    onlyAsks_streamError_of_quiet hquiet message
  induction left with
  | zero => exact herror _
  | succ left ih =>
      refine ⟨hpost, fun reply => ?_⟩
      rcases reply with (e | e) | body
      · exact herror _
      · exact herror _
      · change OnlyAsks _ (if _ then _ else _)
        split
        · exact ⟨hquiet _ trivial, fun _ => trivial⟩
        · change OnlyAsks _ (if _ then _ else _)
          split
          · exact ⟨hquiet _ trivial, fun _ => ⟨hquiet _ trivial, fun _ => ih⟩⟩
          · exact herror _

theorem onlyAsks_matchBlock (blockNumber : Option Nat) : OnlyAsks P (matchBlock blockNumber) := by
  cases blockNumber with
  | some block => trivial
  | none =>
      refine ⟨hquiet _ trivial, fun latest => ?_⟩
      cases latest with
      | error e => trivial
      | ok block => trivial

/-- What is posted was signed with the nonce of the transaction. -/
theorem onlyAsks_submit (tx : PlayTransaction)
    (hpost : ∀ url params txHash payload, params.nonce = Felt.fromNat tx.nonce →
      signAndBuildPayload api.crypto params = .ok (txHash, payload) → P (.post url payload)) :
    OnlyAsks P (submit api config task tx) := by
  have horStream {β : Type} (message : String → String) (x : Except String β) :
      OnlyAsks P (orStreamError message x) := onlyAsks_orStreamError_of_quiet hquiet message x
  refine ⟨hquiet _ trivial, fun _ => ⟨hquiet _ trivial, fun proofText => ?_⟩⟩
  refine (horStream _ _).bind fun proof => ⟨hquiet _ trivial, fun factsText => ?_⟩
  refine (horStream _ _).bind fun facts => ?_
  refine (horStream _ _).bind fun factsHex => ?_
  refine (horStream _ _).bind fun proofFacts => ?_
  extract_lets params
  cases hsigned : signAndBuildPayload api.crypto params with
  | error e => exact onlyAsks_streamError_of_quiet hquiet _
  | ok signed =>
      refine ⟨hquiet _ trivial, fun _ => ?_⟩
      refine (onlyAsks_postPayload api hquiet ?_ _).bind fun _ => trivial
      exact hpost _ params signed.1 signed.2 rfl hsigned

theorem onlyAsks_verifyInclusion (txHash : String) : OnlyAsks P (verifyInclusion api txHash) := by
  refine ⟨hquiet _ trivial, fun _ => ⟨hquiet _ trivial, fun _ => ?_⟩⟩
  refine (onlyAsks_waitForTx (fun _ h => hquiet _ (isQuiet_of_isPoll h)) api txHash 180 5).bind
    fun waited => ?_
  refine (onlyAsks_orStreamError_of_quiet hquiet _ _).bind fun receipt => ?_
  exact ⟨hquiet _ trivial, fun _ => trivial⟩

theorem onlyAsks_settleOnChain (hsncast : ∀ bank : String,
      P (.sncast (.invoke bank "settle" [sessionFelt task.sessionId, task.seed]))) :
    OnlyAsks P (settleOnChain api task) := by
  refine ⟨hquiet _ trivial, fun bank => ?_⟩
  cases bank with
  | none => trivial
  | some bank =>
      refine ⟨hquiet _ trivial, fun _ => ⟨hquiet _ trivial, fun _ => ?_⟩⟩
      refine (onlyAsks_sncastInvoke (fun _ h => hquiet _ (isQuiet_of_isPoll h))
        (hquiet _ trivial) (hquiet _ trivial) (hsncast _) api).bind fun invoked => ?_
      rcases invoked with e | ⟨output, _ | tx, blockNumber⟩
      · exact ⟨hquiet _ trivial, fun _ => trivial⟩
      · exact ⟨hquiet _ trivial, fun _ => trivial⟩
      · exact ⟨hquiet _ trivial, fun _ => ⟨hquiet _ trivial, fun _ => trivial⟩⟩

end Phases

/-- What the task of a play may ask for. -/
def PlayAsks (task : PlayTask) : Ask → Prop
  | .sncast command => ∃ bank : String,
      command = .invoke bank "settle" [sessionFelt task.sessionId, task.seed]
  | .insertSession _ => False
  | .getCommitment _ => False
  | .removeCommitment _ => False
  | .setBetAmount _ _ => False
  | .setSeedBlock _ _ => False
  | .writeDeployment _ _ => False
  | .holdDeployment _ => False
  | .dropDeployments => False
  | .writeDeploymentsFile _ => False
  | _ => True

theorem playAsks_of_isQuiet {task : PlayTask} (request : Ask) (h : IsQuiet request) :
    PlayAsks task request := by
  cases request with
  | sncast command => exact h.elim
  | insertSession entry => exact h.elim
  | getCommitment id => exact h.elim
  | removeCommitment id => exact h.elim
  | setBetAmount id amount => exact h.elim
  | setSeedBlock id block => exact h.elim
  | writeDeployment contract d => exact h.elim
  | holdDeployment contract => exact h.elim
  | dropDeployments => exact h.elim
  | writeDeploymentsFile persisted => exact h.elim
  | _ => trivial

theorem onlyAsks_runPlay : OnlyAsks (PlayAsks task) (runPlay api config task) := by
  refine (onlyAsks_startLog task playAsks_of_isQuiet).bind fun _ => ?_
  refine (onlyAsks_constructTransaction api config task playAsks_of_isQuiet).bind fun tx => ?_
  refine (onlyAsks_prove config task playAsks_of_isQuiet).bind fun proofSize => ?_
  refine (onlyAsks_parseSettlement config task playAsks_of_isQuiet fun _ => trivial).bind
    fun settlement => ?_
  refine (onlyAsks_submit api config task playAsks_of_isQuiet tx fun _ _ _ _ _ _ => trivial).bind
    fun txHash => ?_
  refine (onlyAsks_verifyInclusion api playAsks_of_isQuiet txHash).bind fun _ => ?_
  refine (onlyAsks_settleOnChain api task playAsks_of_isQuiet fun _ => ⟨_, rfl⟩).bind
    fun settleTxHash => ?_
  exact ⟨trivial, fun _ => trivial⟩

/-- A play is over unless it finds the contract and a commitment that the reveal
opens; then its task runs. -/
theorem throughout_playCoinflip {Asks : History Ask Answer → Ask → Prop}
    {Good : History Ask Answer → Response → Prop} {sessionId : String} {params : PlayQuery}
    (hread : Asks [] (.readDeployment .coinFlip))
    (hremove : ∀ found, Asks [⟨.readDeployment .coinFlip, found⟩] (.removeCommitment sessionId))
    (hrun : ∀ deployment (c : BetCommitment), Throughout Asks (Returning Good)
      [⟨.readDeployment .coinFlip, some deployment⟩, ⟨.removeCommitment sessionId, some c⟩]
      (runPlay api config ⟨deployment, sessionId, c.seedBlock, params.player, params.side⟩)) :
    Throughout Asks (Returning Good) [] (playCoinflip api config sessionId params) := by
  refine ⟨hread, fun found => ?_⟩
  cases found with
  | none => exact returning_err _
  | some deployment =>
      refine ⟨hremove _, fun taken => ?_⟩
      cases taken with
      | none => exact returning_err _
      | some c =>
          dsimp only [orFail, Program.bind, Program.pure_bind]
          cases verifyReveal api c params with
          | error failure => exact returning_err _
          | ok u => exact hrun deployment c

/-- The address that `sncast` prints for a deployment. -/
def deployedAddress : Event Ask Answer → Option String
  | ⟨.sncast (.deploy _ _ _), .ok output⟩ => parseHexFor "contract_address" output.combined
  | _ => none

section Deployment

variable (hquiet : ∀ request, IsQuiet request → P request)

include hquiet

/-- A contract that was deployed has the address that `sncast` has printed. -/
theorem throughout_declareAndDeploy {history : History Ask Answer} (plan : DeployPlan)
    (hdeclare : P (.sncast (.declare plan.contractName)))
    (hdeploy : ∀ classHash salt, P (.sncast (.deploy classHash plan.constructorCalldata salt))) :
    Throughout (fun _ => P) (Returning fun history d =>
      ∃ event ∈ history, deployedAddress event = some d.contractAddress) history
      (declareAndDeploy api plan) := by
  have hpoll (request : Ask) (h : IsPoll request) : P request := hquiet _ (isQuiet_of_isPoll h)
  refine ⟨hquiet _ trivial, fun locked => ?_⟩
  change Throughout _ _ _ ((Program.attempt _) >>= _)
  rw [throughout_bind, throughout_attempt]
  -- the mutex is given back, with whatever the body has come to
  suffices hbody : Throughout (fun _ => P) (Returning fun history (d : Deployment) =>
      ∃ event ∈ history, deployedAddress event = some d.contractAddress) _ _ by
    refine hbody.mono (fun _ _ _ h => h) fun later outcome _ hreturns =>
      ⟨hquiet _ trivial, fun unlocked d hd => ?_⟩
    obtain ⟨event, hevent, haddress⟩ := hreturns d hd
    exact ⟨event, List.mem_append_left _ hevent, haddress⟩
  refine ⟨hdeclare, fun declared => ?_⟩
  refine throughout_orFailWith fun declareOutput _ => ?_
  refine throughout_orFail fun classHash _ => ?_
  refine throughout_phase (onlyAsks_waitIfSome hpoll api _) (fun _ _ h => h) fun said₁ _ => ?_
  refine ⟨hquiet _ trivial, fun salt => ⟨hdeploy _ _, fun deployed => ?_⟩⟩
  refine throughout_orFailWith fun deployOutput houtput => ?_
  refine throughout_phase (onlyAsks_ensure _ _ _) (fun _ _ h => h) fun said₂ _ => ?_
  refine throughout_orFail fun contractAddress haddress => ?_
  refine throughout_orFail fun txHash _ => ?_
  refine throughout_phase (onlyAsks_waitForTx hpoll api _ _ _) (fun _ _ h => h)
    fun said₃ waited => ?_
  refine throughout_orFailWith fun receipt _ => returning_ok_iff.mpr ?_
  subst houtput
  exact ⟨⟨.sncast (.deploy classHash plan.constructorCalldata ("0x" ++ salt)), .ok deployOutput⟩,
    by simp, haddress⟩

theorem onlyAsks_declareAndDeploy (plan : DeployPlan)
    (hdeclare : P (.sncast (.declare plan.contractName)))
    (hdeploy : ∀ classHash salt, P (.sncast (.deploy classHash plan.constructorCalldata salt))) :
    OnlyAsks P (declareAndDeploy api plan) := by
  have h : Throughout (fun _ => P) (fun _ _ => True) [] (declareAndDeploy api plan) :=
    (throughout_declareAndDeploy api hquiet plan hdeclare hdeploy).mono (fun _ _ _ h => h)
      fun _ _ _ _ => trivial
  exact onlyAsks_iff_throughout.mpr h

theorem onlyAsks_fundBank (deployment : Deployment)
    (happrove : P (.sncast (.invoke strkToken "approve"
      [deployment.contractAddress, maxApproval, "0x0"])))
    (htransfer : P (.sncast (.invoke strkToken "transfer"
      [deployment.contractAddress, Library.Hex.lowerHex fundAmount, "0x0"]))) :
    OnlyAsks P (fundBank api deployment) := by
  have hsncast {function : String} {calldata : List String}
      (hcommand : P (.sncast (.invoke strkToken function calldata))) :
      OnlyAsks P (sncastInvoke api strkToken function calldata) :=
    onlyAsks_sncastInvoke (fun _ h => hquiet _ (isQuiet_of_isPoll h)) (hquiet _ trivial)
      (hquiet _ trivial) hcommand api
  refine (hsncast happrove).bind fun approved => (onlyAsks_orFailWith _ _ _).bind fun _ => ?_
  exact (hsncast htransfer).bind fun funded => (onlyAsks_orFailWith _ _ _).bind fun _ => trivial

end Deployment

/-- What a deployment may ask for, with the commands that it gives to `sncast`. -/
def DeployAsks (contract : Contract) (Commands : SncastCommand → Prop) : Ask → Prop
  | .sncast command => Commands command
  | .writeDeployment contract' _ => contract' = contract
  | .insertSession _ => False
  | .getCommitment _ => False
  | .removeCommitment _ => False
  | .setBetAmount _ _ => False
  | .setSeedBlock _ _ => False
  | .post _ _ => False
  | .sendJson _ _ => False
  | _ => True

variable {contract : Contract} {Commands : SncastCommand → Prop}

theorem deployAsks_of_isQuiet (request : Ask) (h : IsQuiet request) :
    DeployAsks contract Commands request := by
  cases request with
  | sncast command => exact h.elim
  | insertSession entry => exact h.elim
  | getCommitment id => exact h.elim
  | removeCommitment id => exact h.elim
  | setBetAmount id amount => exact h.elim
  | setSeedBlock id block => exact h.elim
  | writeDeployment contract d => exact h.elim
  | post url payload => exact h.elim
  | sendJson event data => exact h.elim
  | _ => trivial

theorem onlyAsks_deployRoute (plan : DeployPlan)
    {prepare : Deployment → Handler Unit}
    (hdeclare : Commands (.declare plan.contractName))
    (hdeploy : ∀ classHash salt, Commands (.deploy classHash plan.constructorCalldata salt))
    (hprepare : ∀ deployment, OnlyAsks (DeployAsks contract Commands) (prepare deployment)) :
    OnlyAsks (DeployAsks contract Commands) (deployRoute api contract plan prepare) := by
  refine ⟨trivial, fun found => ?_⟩
  cases found with
  | some deployment => trivial
  | none =>
      have hdeployed : OnlyAsks (DeployAsks contract Commands) (declareAndDeploy api plan) :=
        onlyAsks_declareAndDeploy api deployAsks_of_isQuiet plan hdeclare hdeploy
      refine hdeployed.bind fun deployment => ?_
      refine (hprepare deployment).bind fun _ => ⟨rfl, fun _ => ?_⟩
      exact (onlyAsks_saveDeployments (fun _ => trivial) trivial fun _ => trivial).bind
        fun _ => trivial

end OnlyAsks

/-! ### What has been said before -/

/-- `sncast` has printed a hash for the match of a session. -/
def HashPrinted (history : History Ask Answer) (felt : String) : Prop :=
  ∃ bank output, (⟨.sncast (.invoke bank "match_deposit" [felt]), .ok output⟩ :
      Event Ask Answer) ∈ history ∧
    (parseHexFor "transaction_hash" output.combined).isSome

def DeployCommand (plan : DeployPlan) (command : SncastCommand) : Prop :=
  command = .declare plan.contractName ∨
    ∃ classHash salt, command = .deploy classHash plan.constructorCalldata salt

def FundCommand (command : SncastCommand) : Prop :=
  ∃ deployment : Deployment,
    command = .invoke strkToken "approve" [deployment.contractAddress, maxApproval, "0x0"] ∨
    command = .invoke strkToken "transfer"
      [deployment.contractAddress, Library.Hex.lowerHex fundAmount, "0x0"]

/-- The transactions that a handler gives to `sncast`. -/
def Issues (config : Config) (history : History Ask Answer) (command : SncastCommand) :
    Request → Prop
  | .deployCoinflip => DeployCommand coinFlipPlan command
  | .deployBank => DeployCommand (bankPlan config) command ∨ FundCommand command
  | .confirmDeposit req => Unsent history ∧ ∃ bank c,
      (⟨.getCommitment req.sessionId, some c⟩ : Event Ask Answer) ∈ history ∧
      command = .invoke bank "match_deposit" [c.sessionFelt]
  | .play sessionId _ => ∃ bank c,
      (⟨.removeCommitment sessionId, some c⟩ : Event Ask Answer) ∈ history ∧
      command = .invoke bank "settle" [sessionFelt sessionId, Library.Hex.lowerHex c.seedBlock]
  | .commit _ => False
  | .depositInfo _ => False

section Issues

variable {config : Config} {history : History Ask Answer} {q : Request}

/-- The deployments that are given to `sncast`, and for which requests. -/
theorem Issues.deploy {classHash salt : String} {constructorCalldata : Option String}
    (h : Issues config history (.deploy classHash constructorCalldata salt) q) :
    (q = .deployCoinflip ∧ constructorCalldata = none) ∨
      (q = .deployBank ∧ constructorCalldata = some config.accountAddress) := by
  cases q with
  | deployCoinflip =>
      rcases h with heq | ⟨classHash', salt', heq⟩
      · cases heq
      · cases heq
        exact Or.inl ⟨rfl, rfl⟩
  | deployBank =>
      rcases h with (heq | ⟨classHash', salt', heq⟩) | ⟨deployment, heq | heq⟩
      · cases heq
      · cases heq
        exact Or.inr ⟨rfl, rfl⟩
      · cases heq
      · cases heq
  | commit req => exact h.elim
  | depositInfo req => exact h.elim
  | confirmDeposit req =>
      obtain ⟨-, bank, c, -, heq⟩ := h
      cases heq
  | play sessionId params =>
      obtain ⟨bank, c, -, heq⟩ := h
      cases heq

/-- A call goes to the token, or is the match or the settlement of a session. -/
theorem Issues.invoke {contractAddress function : String} {calldata : List String}
    (h : Issues config history (.invoke contractAddress function calldata) q) :
    contractAddress = strkToken ∨
      (∃ req c, q = .confirmDeposit req ∧ function = "match_deposit" ∧
        calldata = [c.sessionFelt] ∧
        (⟨.getCommitment req.sessionId, some c⟩ : Event Ask Answer) ∈ history) ∨
      ∃ sessionId params c, q = .play sessionId params ∧ function = "settle" ∧
        calldata = [sessionFelt sessionId, Library.Hex.lowerHex c.seedBlock] ∧
        (⟨.removeCommitment sessionId, some c⟩ : Event Ask Answer) ∈ history := by
  cases q with
  | deployCoinflip =>
      rcases h with heq | ⟨classHash, salt, heq⟩
      · cases heq
      · cases heq
  | deployBank =>
      rcases h with (heq | ⟨classHash, salt, heq⟩) | ⟨deployment, heq | heq⟩
      · cases heq
      · cases heq
      · cases heq
        exact Or.inl rfl
      · cases heq
        exact Or.inl rfl
  | commit req => exact h.elim
  | depositInfo req => exact h.elim
  | confirmDeposit req =>
      obtain ⟨-, bank, c, hfound, heq⟩ := h
      cases heq
      exact Or.inr (Or.inl ⟨req, c, rfl, rfl, rfl, hfound⟩)
  | play sessionId params =>
      obtain ⟨bank, c, hremoved, heq⟩ := h
      cases heq
      exact Or.inr (Or.inr ⟨sessionId, params, c, rfl, rfl, rfl, hremoved⟩)

end Issues

def deployRequest : Contract → Request
  | .coinFlip => .deployCoinflip
  | .coinFlipBank => .deployBank

/-- A request that changes the state or sends a transaction belongs to the
handler for it, and comes when its time has come. -/
def Allowed (config : Config) (q : Request) (history : History Ask Answer) : Ask → Prop
  | .writeDeployment contract _ => q = deployRequest contract
  | .insertSession entry => ∃ req, q = .commit req ∧ entry = newCommitment req
  | .removeCommitment id => (∃ params, q = .play id params) ∧ Unsent history
  | .setBetAmount id amount => ∃ req, q = .depositInfo req ∧ id = req.sessionId ∧
      amount = Library.Hex.lowerHex req.amountWei.toNat
  | .setSeedBlock id _ => ∃ req c, q = .confirmDeposit req ∧ id = req.sessionId ∧
      (⟨.getCommitment id, some c⟩ : Event Ask Answer) ∈ history ∧
      HashPrinted history c.sessionFelt ∧
      ∀ event ∈ history, ∀ id block, event.request ≠ .setSeedBlock id block
  | .sncast command => Issues config history command q
  | _ => True

section Allowed

variable (backend : Backend) {Ends : History Ask Answer → Outcome Failure Response → Prop}

theorem allowed_of_playAsks {sessionId : String} {params : PlayQuery} {task : PlayTask}
    {c : BetCommitment} {history : History Ask Answer} (hid : task.sessionId = sessionId)
    (hseed : task.seedBlock = c.seedBlock)
    (hremoved : (⟨.removeCommitment sessionId, some c⟩ : Event Ask Answer) ∈ history)
    {request : Ask} (h : PlayAsks task request) :
    Allowed backend.config (.play sessionId params) history request := by
  cases request with
  | sncast command =>
      obtain ⟨bank, rfl⟩ := h
      refine ⟨bank, c, hremoved, ?_⟩
      rw [PlayTask.seed, hid, hseed]
  | insertSession entry => exact h.elim
  | removeCommitment id => exact h.elim
  | setBetAmount id amount => exact h.elim
  | setSeedBlock id block => exact h.elim
  | writeDeployment contract d => exact h.elim
  | _ => trivial

theorem allowed_play (sessionId : String) (params : PlayQuery) :
    Throughout (Allowed backend.config (.play sessionId params)) (Returning fun _ _ => True) []
      (playCoinflip backend.api backend.config sessionId params) := by
  apply throughout_playCoinflip
  · trivial
  · exact fun found => ⟨⟨params, rfl⟩, by simp [Unsent]⟩
  · intro deployment c
    apply throughout_of_onlyAsks (onlyAsks_runPlay _ _ _)
    · intro said request _ hrequest
      exact allowed_of_playAsks backend rfl rfl (by simp) hrequest
    · exact fun _ _ _ _ _ => trivial

theorem allowed_deploy (contract : Contract) (P : SncastCommand → Prop)
    {program : Handler Response} (h : OnlyAsks (DeployAsks contract P) program)
    (hcommands : ∀ history command, P command →
      Issues backend.config history command (deployRequest contract)) :
    Throughout (Allowed backend.config (deployRequest contract)) (fun _ _ => True) [] program := by
  apply throughout_of_onlyAsks h
  · intro said request _ hrequest
    cases request with
    | sncast command => exact hcommands _ command hrequest
    | writeDeployment contract' d =>
        obtain rfl := hrequest
        rfl
    | insertSession entry => exact hrequest.elim
    | removeCommitment id => exact hrequest.elim
    | setBetAmount id amount => exact hrequest.elim
    | setSeedBlock id block => exact hrequest.elim
    | _ => trivial
  · exact fun _ _ _ => trivial

theorem allowed_depositInfo (req : DepositInfoRequest) :
    Throughout (Allowed backend.config (.depositInfo req)) (fun _ _ => True) [] (depositInfo req) := by
  refine ⟨trivial, fun found => ?_⟩
  cases found with
  | none => trivial
  | some bank =>
      refine ⟨trivial, fun entry => ?_⟩
      cases entry with
      | none => trivial
      | some c => exact ⟨⟨req, rfl, rfl, rfl⟩, fun _ => trivial⟩

theorem allowed_of_isQuiet {q : Request} {history : History Ask Answer} {request : Ask}
    (h : IsQuiet request) : Allowed backend.config q history request := by
  cases request with
  | sncast command => exact h.elim
  | insertSession entry => exact h.elim
  | removeCommitment id => exact h.elim
  | setBetAmount id amount => exact h.elim
  | setSeedBlock id block => exact h.elim
  | writeDeployment contract d => exact h.elim
  | _ => trivial

/-- Once a commitment was found and a hash was printed, the seed is written. -/
theorem allowed_writeSeed {req : ConfirmDepositRequest} {c : BetCommitment}
    {history : History Ask Answer} {invoked : Except String InvokeResult}
    {output : Except String Output} {bank : String}
    (hfound : (⟨.getCommitment req.sessionId, some c⟩ : Event Ask Answer) ∈ history)
    (hsncast : (⟨.sncast (.invoke bank "match_deposit" [c.sessionFelt]), output⟩ :
      Event Ask Answer) ∈ history)
    (hinvoked : InvokedWith output invoked)
    (hunwritten : ∀ event ∈ history, ∀ id block, event.request ≠ .setSeedBlock id block) :
    Throughout (Allowed backend.config (.confirmDeposit req)) (fun _ _ => True) history ((do
      let matchResult ← orFailWith 500 id invoked
      let matchTx ← orFail 500 "Bank match: no tx hash in output" matchResult.txHash
      let confirmedBlock ← matchBlock matchResult.blockNumber
      let coinflip ← await (.readDeployment .coinFlip)
      let deployBlock := (coinflip.map Deployment.deployBlock).getD 0
      let seedBlock := max confirmedBlock deployBlock
      await (.setSeedBlock req.sessionId seedBlock)
      pure (.confirmed true matchTx)) : Handler Response) := by
  cases output with
  | error e =>
      obtain rfl : invoked = .error e := hinvoked
      trivial
  | ok output =>
      obtain ⟨blockNumber, rfl⟩ := hinvoked
      change Throughout _ _ _ (orFail _ _ (parseHexFor "transaction_hash" output.combined) >>= _)
      cases hhash : parseHexFor "transaction_hash" output.combined with
      | none => trivial
      | some matchTx =>
          change Throughout _ _ _ (matchBlock blockNumber >>= _)
          apply throughout_bind_of_onlyAsks (onlyAsks_matchBlock (fun _ h => h) blockNumber)
          · exact fun said request _ hrequest => allowed_of_isQuiet backend hrequest
          · intro said confirmedBlock hsaid
            refine ⟨trivial, fun coinflip => ⟨⟨req, c, rfl, rfl, by simp [hfound], ?_, ?_⟩,
              fun _ => trivial⟩⟩
            · exact ⟨bank, output, by simp [hsncast], by rw [hhash]; rfl⟩
            · intro event hevent id block hwrite
              rw [List.append_assoc, List.mem_append, List.mem_append, List.mem_singleton] at hevent
              rcases hevent with hbefore | hquiet | rfl
              · exact hunwritten event hbefore id block hwrite
              · have h := hsaid event hquiet
                rw [hwrite] at h
                exact h
              · cases hwrite
          · exact fun _ _ _ => trivial
          · exact fun _ _ _ => trivial

theorem allowed_confirmDeposit (req : ConfirmDepositRequest) :
    Throughout (Allowed backend.config (.confirmDeposit req)) (fun _ _ => True) []
      (confirmDeposit backend.api req) := by
  unfold confirmDeposit
  rw [throughout_bind]
  apply throughout_waitForTx
  · exact fun said request _ hrequest => allowed_of_isQuiet backend (isQuiet_of_isPoll hrequest)
  intro said verdict hsaid
  cases verdict with
  | error e => trivial
  | ok receipt =>
      refine ⟨trivial, fun found => ?_⟩
      cases found with
      | none => trivial
      | some bank =>
          refine ⟨trivial, fun entry => ?_⟩
          cases entry with
          | none => trivial
          | some c =>
              change Throughout _ _ _ (sncastInvoke backend.api bank.contractAddress
                "match_deposit" [c.sessionFelt] >>= _)
              rw [throughout_bind]
              apply throughout_sncastInvoke
              · intro said' request _ hrequest hunsent
                cases request with
                | sncast command =>
                    obtain rfl := hrequest
                    refine ⟨?_, _, c, by simp, rfl⟩
                    intro event hevent
                    simp only [List.nil_append, List.mem_append, List.mem_singleton] at hevent
                    rcases hevent with ((hpoll | rfl) | rfl) | hinvoking
                    · exact unsent_of_isPoll hsaid event hpoll
                    · simp
                    · simp
                    · exact hunsent _ rfl event hinvoking
                | insertSession entry => exact hrequest.elim
                | removeCommitment id => exact hrequest.elim
                | setBetAmount id amount => exact hrequest.elim
                | setSeedBlock id block => exact hrequest.elim
                | writeDeployment contract d => exact hrequest.elim
                | _ => trivial
              · intro said' output result hsaid' hsncast hinvoked
                apply allowed_writeSeed backend (c := c) (by simp) (List.mem_append_right _ hsncast) hinvoked
                intro event hevent id block hwrite
                simp only [List.nil_append, List.mem_append, List.mem_singleton] at hevent
                rcases hevent with ((hpoll | rfl) | rfl) | hinvoking
                · have h := hsaid event hpoll
                  rw [hwrite] at h
                  exact h
                · cases hwrite
                · cases hwrite
                · have h := hsaid' event hinvoking
                  rw [hwrite] at h
                  exact h

theorem handler_asks (q : Request) :
    Throughout (Allowed backend.config q) (fun _ _ => True) [] (backend.handler q) := by
  cases q with
  | deployCoinflip =>
      apply allowed_deploy backend .coinFlip (DeployCommand coinFlipPlan)
      · apply onlyAsks_deployRoute
        · exact Or.inl rfl
        · exact fun classHash salt => Or.inr ⟨classHash, salt, rfl⟩
        · exact fun _ => trivial
      · exact fun _ _ h => h
  | deployBank =>
      apply allowed_deploy backend .coinFlipBank fun command =>
        DeployCommand (bankPlan backend.config) command ∨ FundCommand command
      · apply onlyAsks_deployRoute
        · exact Or.inl (Or.inl rfl)
        · exact fun classHash salt => Or.inl (Or.inr ⟨classHash, salt, rfl⟩)
        · intro deployment
          apply onlyAsks_fundBank _ deployAsks_of_isQuiet
          · exact Or.inr ⟨deployment, Or.inl rfl⟩
          · exact Or.inr ⟨deployment, Or.inr rfl⟩
      · exact fun _ _ h => h
  | commit req => exact ⟨⟨req, rfl, rfl⟩, fun _ => trivial⟩
  | depositInfo req => exact allowed_depositInfo backend req
  | confirmDeposit req => exact allowed_confirmDeposit backend req
  | play sessionId params =>
      exact (allowed_play backend sessionId params).mono (fun _ _ _ h => h) fun _ _ _ _ => trivial

end Allowed

end Snip36.HandlerAsks
