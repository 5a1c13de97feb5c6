import Snip36.CounterServer

/-!
What the phases of the counter handlers may ask for.
-/

namespace Snip36.CounterAsks

open CoinFlipState (Config)
open CounterRoutes
open CounterState
open Library.Interaction
open Library.Interaction.Program
open Library.Interleaving
open RouteFailures

variable {α β : Type}

/-- Requests that leave sessions, files and the node as they are, and that have
nothing to do with the input of a run. -/
def IsQuiet : Ask → Prop
  | .getSession _ => True
  | .getNonceAtBlock _ _ => True
  | .createDir _ => True
  | .fileExists _ => True
  | .fileSize _ => True
  | .sleep _ => True
  | .call _ _ => True
  | .send _ _ => True
  | .sendJson _ _ => True
  | _ => False

section OnlyAsks

variable {P : Ask → Prop}

theorem onlyAsks_await {request : Ask} (h : P request) : OnlyAsks P (await request) :=
  ⟨h, fun _ => trivial⟩

theorem onlyAsks_streamError (hsend : ∀ event data, P (.send event data)) (message : String) :
    OnlyAsks P (streamError message : Handler α) :=
  ⟨hsend _ _, fun _ => trivial⟩

theorem onlyAsks_orStreamError (hsend : ∀ event data, P (.send event data))
    (message : String → String) (x : Except String α) :
    OnlyAsks P (orStreamError message x) := by
  cases x with
  | ok a => trivial
  | error e => exact onlyAsks_streamError hsend _

theorem onlyAsks_waitForTx (hpoll : ∀ request, P (.poll request)) (api : CounterApi)
    (txHash : String) (timeoutSecs pollIntervalSecs : Nat) :
    OnlyAsks P (waitForTx api txHash timeoutSecs pollIntervalSecs) :=
  onlyAsks_translate hpoll _

theorem onlyAsks_waitIfKnown (hpoll : ∀ request, P (.poll request)) (block : Option Nat) :
    OnlyAsks P (waitIfKnown block) := by
  cases block with
  | none => trivial
  | some block => exact (onlyAsks_translate hpoll _).bind fun _ => trivial

/-- The mutex is held around the body. -/
theorem onlyAsks_withSncastLock (hlock : P .lockSncast) (hunlock : P .unlockSncast)
    {body : Handler α} (h : OnlyAsks P body) : OnlyAsks P (withSncastLock body) :=
  (onlyAsks_await hlock).bind fun _ => h.attempt.bind fun _ =>
    (onlyAsks_await hunlock).bind fun _ => trivial

/-- The requests of a deployment for a session. -/
def IsDeploying (sessionId : String) : Ask → Prop
  | .lockSncast => True
  | .unlockSncast => True
  | .sncast _ => True
  | .randomSalt => True
  | .poll _ => True
  | .updateSession id _ => id = sessionId
  | _ => False

theorem onlyAsks_deployCounter (api : CounterApi) (sessionId : String) :
    OnlyAsks (IsDeploying sessionId) (deployCounter api sessionId) := by
  apply onlyAsks_withSncastLock
  · trivial
  · trivial
  refine ⟨trivial, fun declared => ?_⟩
  refine (onlyAsks_orFailWith _ _ declared).bind fun declareOutput => ?_
  refine (onlyAsks_orFail _ _ _).bind fun classHash => ?_
  refine ⟨trivial, fun salt => ⟨trivial, fun deployed => ?_⟩⟩
  refine (onlyAsks_orFailWith _ _ deployed).bind fun deployOutput => ?_
  split
  · refine (onlyAsks_orFail _ _ _).bind fun contractAddress => ?_
    refine (onlyAsks_orFail _ _ _).bind fun txHash => ?_
    refine (onlyAsks_waitForTx (fun _ => trivial) api txHash 120 2).bind fun waited => ?_
    refine (onlyAsks_orFailWith _ _ _).bind fun receipt => ?_
    refine (onlyAsks_waitIfKnown (fun _ => trivial) _).bind fun _ => ?_
    exact ⟨rfl, fun _ => trivial⟩
  · trivial

theorem onlyAsks_announceCycle (hsend : ∀ event data, P (.send event data)) (api : CounterApi)
    (task : ProveTask) : OnlyAsks P (announceCycle api task) := by
  unfold announceCycle mulU64
  split
  · trivial
  · exact ⟨hsend _ _, fun _ => trivial⟩

section Throughout

variable {Asks : History Ask Answer → Ask → Prop} {Good : History Ask Answer → β → Prop}
  {history : History Ask Answer} {f : α → Handler β}

theorem throughout_orStreamError (hsend : ∀ event data, Asks history (.send event data))
    {message : String → String} {x : Except String α}
    (hf : ∀ a, x = .ok a → Throughout Asks (Returning Good) history (f a)) :
    Throughout Asks (Returning Good) history (orStreamError message x >>= f) := by
  cases x with
  | ok a => exact hf a rfl
  | error e => exact ⟨hsend _ _, fun _ => returning_err _⟩

/-- A cycle is over unless the session has a contract and a block; then it runs. -/
theorem throughout_proveBlock {Good : History Ask Answer → Response → Prop} {api : CounterApi}
    {config : Config} {sessionId : String} {params : ProveBlockQuery}
    (hread : Asks [] (.getSession sessionId))
    (hcycle : ∀ session (task : ProveTask), task.sessionId = sessionId →
      Throughout Asks (Returning Good) [⟨.getSession sessionId, session⟩]
        (runCycle api config task)) :
    Throughout Asks (Returning Good) [] (proveBlock api config sessionId params) := by
  apply throughout_ask hread
  intro session
  apply throughout_orFail
  intro contractAddress _
  apply throughout_orFail
  intro referenceBlock _
  exact hcycle session _ rfl

end Throughout

/-- What a run does before it hands its transaction over. -/
def IsEarly : Ask → Prop
  | .writeFile _ _ => True
  | .readFile _ => True
  | .startProver _ _ => True
  | .proverReads _ => True
  | .proverAsks _ => True
  | .proverWrites _ _ => True
  | .proverExited _ => True
  | request => IsQuiet request

theorem isEarly_of_isQuiet (request : Ask) (h : IsQuiet request) : IsEarly request := by
  cases request with
  | writeFile path text => trivial
  | readFile path => trivial
  | startProver binary args => trivial
  | proverReads path => trivial
  | proverAsks question => trivial
  | proverWrites path text => trivial
  | proverExited success => trivial
  | _ => exact h

/-- What it does after that. -/
def IsLate : Ask → Prop
  | .poll _ => True
  | .updateSession _ _ => True
  | request => IsQuiet request

theorem isLate_of_isQuiet (request : Ask) (h : IsQuiet request) : IsLate request := by
  cases request with
  | poll request => trivial
  | updateSession id f => trivial
  | _ => exact h

/-- The same requests without an event for the client that carries data. -/
def Unreported (Q : Ask → Prop) : Ask → Prop
  | .sendJson _ _ => False
  | request => Q request

theorem onlyAsks_of_unreported {Q : Ask → Prop} {program : Handler α}
    (h : OnlyAsks (Unreported Q) program) : OnlyAsks Q program := by
  apply h.mono
  intro request hrequest
  cases request with
  | sendJson event data => exact hrequest.elim
  | _ => exact hrequest

theorem unreported_mono {Q Q' : Ask → Prop} (hsub : ∀ request, Q request → Q' request)
    (request : Ask) (h : Unreported Q request) : Unreported Q' request := by
  cases request with
  | sendJson event data => exact h
  | _ => exact hsub _ h

section Phases

variable (api : CounterApi) (config : Config) (task : ProveTask)

theorem onlyAsks_signTransaction (hsend : ∀ event data, P (.send event data))
    (hnonce : ∀ account block, P (.getNonceAtBlock account block)) :
    OnlyAsks P (signTransaction api config task) := by
  refine (onlyAsks_orStreamError hsend _ _).bind fun calldata => ?_
  refine (onlyAsks_orStreamError hsend _ _).bind fun sender => ?_
  refine (onlyAsks_orStreamError hsend _ _).bind fun privateKey => ?_
  refine (onlyAsks_orStreamError hsend _ _).bind fun chainId => ?_
  refine ⟨hnonce _ _, fun answered => ?_⟩
  refine (onlyAsks_orStreamError hsend _ _).bind fun nonce => ?_
  exact (onlyAsks_orStreamError hsend _ _).bind fun sig => onlyAsks_pure _

theorem onlyAsks_constructTransaction :
    OnlyAsks (Unreported IsEarly) (constructTransaction api config task) := by
  have hsend (event data : String) : Unreported IsEarly (.send event data) := trivial
  refine ⟨trivial, fun _ => ?_⟩
  refine (onlyAsks_signTransaction api config task hsend fun _ _ => trivial).bind fun signed => ?_
  refine ⟨trivial, fun created => ?_⟩
  refine (onlyAsks_orStreamError hsend _ created).bind fun _ => ?_
  refine ⟨trivial, fun written => ?_⟩
  exact (onlyAsks_orStreamError hsend _ _).bind fun _ => ⟨trivial, fun _ => trivial⟩

theorem onlyAsks_runProver : OnlyAsks (Unreported IsEarly) (runProver api config task) := by
  refine ⟨trivial, fun started => ?_⟩
  refine (onlyAsks_orStreamError (fun _ _ => trivial) _ started).bind fun _ => ?_
  have hprover : OnlyAsks (Unreported IsEarly) (api.prover (proveArgs config task)) := by
    apply (api.prover_asks (proveArgs config task)).mono
    intro request hrequest
    cases request with
    | proverReads path => trivial
    | proverAsks question => trivial
    | proverWrites path text => trivial
    | _ => exact hrequest.elim
  exact hprover.attempt.bind fun outcome => ⟨trivial, fun _ => trivial⟩

theorem onlyAsks_proofFound (ended : Bool) :
    OnlyAsks (Unreported IsQuiet) (proofFound config task ended) := by
  cases ended with
  | true => exact onlyAsks_await (by trivial)
  | false => trivial

theorem onlyAsks_announceMessages :
    OnlyAsks (Unreported IsQuiet) (announceMessages config task) := by
  refine ⟨trivial, fun saved => ?_⟩
  cases saved with
  | true => exact onlyAsks_await (by trivial)
  | false => trivial

theorem onlyAsks_prove : OnlyAsks (Unreported IsEarly) (prove api config task) := by
  refine ⟨trivial, fun _ => ⟨trivial, fun _ => ?_⟩⟩
  refine (onlyAsks_runProver api config task).bind fun ended => ?_
  have hfound := (onlyAsks_proofFound config task ended).mono (unreported_mono isEarly_of_isQuiet)
  refine hfound.bind fun found => ?_
  cases found with
  | true =>
      refine ⟨trivial, fun proofSize => ⟨trivial, fun _ => ?_⟩⟩
      have hannounced :=
        (onlyAsks_announceMessages config task).mono (unreported_mono isEarly_of_isQuiet)
      exact hannounced.bind fun _ => trivial
  | false => exact onlyAsks_streamError (fun _ _ => trivial) _

theorem onlyAsks_readProof : OnlyAsks (Unreported IsEarly) (readProof api config task) := by
  have hsend (event data : String) : Unreported IsEarly (.send event data) := trivial
  refine ⟨trivial, fun proofText => ?_⟩
  refine (onlyAsks_orStreamError hsend _ proofText).bind fun proof => ?_
  refine ⟨trivial, fun factsText => ?_⟩
  refine (onlyAsks_orStreamError hsend _ factsText).bind fun facts => ?_
  exact (onlyAsks_orStreamError hsend _ _).bind fun proofFacts => onlyAsks_pure _

/-- The requests of the attempts to hand a payload over. -/
def IsAdding (payload : Json) : Ask → Prop
  | .addInvokeTransaction p => p = payload
  | .send _ _ => True
  | .sleep _ => True
  | _ => False

theorem onlyAsks_addTransaction (payload : Json) (left : Nat) :
    OnlyAsks (IsAdding payload) (addTransaction payload left) := by
  have hsend (event data : String) : IsAdding payload (.send event data) := trivial
  induction left with
  | zero => exact onlyAsks_streamError hsend _
  | succ left ih =>
      refine ⟨rfl, fun answer => ?_⟩
      match answer with
      | .ok acceptedTxHash => exact ⟨trivial, fun _ => trivial⟩
      | .error (.jsonRpc msg) =>
          change OnlyAsks _ (if 0 < left then _ else _)
          split
          · exact ⟨trivial, fun _ => ⟨trivial, fun _ => ih⟩⟩
          · exact onlyAsks_streamError hsend _
      | .error (.http _) => exact onlyAsks_streamError hsend _
      | .error (.unexpected _) => exact onlyAsks_streamError hsend _
      | .error (.txTimeout _ _) => exact onlyAsks_streamError hsend _
      | .error (.txRejected _) => exact onlyAsks_streamError hsend _
      | .error (.blockTimeout _ _) => exact onlyAsks_streamError hsend _

theorem onlyAsks_verifyInclusion (rpcTxHash : String) :
    OnlyAsks (Unreported IsLate) (verifyInclusion api task rpcTxHash) := by
  refine ⟨trivial, fun _ => ⟨trivial, fun _ => ?_⟩⟩
  refine (onlyAsks_waitForTx (fun _ => trivial) api rpcTxHash 180 5).bind fun waited => ?_
  refine (onlyAsks_orStreamError (fun _ _ => trivial) _ _).bind fun receipt => ?_
  exact ⟨trivial, fun _ => ⟨trivial, fun _ => trivial⟩⟩

theorem onlyAsks_report (rpcTxHash : String) (proofSize : Nat) (expectedIncrement : U64) :
    OnlyAsks IsLate (report task rpcTxHash proofSize expectedIncrement) :=
  ⟨trivial, fun _ => ⟨trivial, fun _ => ⟨trivial, fun _ => trivial⟩⟩⟩

end Phases

end OnlyAsks

end Snip36.CounterAsks
