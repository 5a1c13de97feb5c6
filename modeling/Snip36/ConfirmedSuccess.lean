import Snip36.DecisiveReceipt
import Snip36.SessionGames

/-!
When a handler that reports success has had its transactions confirmed. A call
of `sncast` gives back the hash that was printed whether or not the wait for it
succeeded, so the handlers do not see a failed wait.
-/

namespace Snip36.ConfirmedSuccess

open CoinFlipPlay
open CoinFlipRoutes
open CoinFlipServer
open CoinFlipState
open DecisiveReceipt
open HandlerAsks
open Library.Interaction
open Library.Interaction.Program
open Library.Interleaving
open RouteFailures
open ToolOutput

/-! ### What a run has to show -/

/-- The receipt is of a transaction in a block that has not failed. -/
def Included (receipt : Json) : Prop :=
  Accepts receipt ∧ ¬Rejects receipt ∧ (receipt.get? "block_number").isSome

instance (receipt : Json) : Decidable (Included receipt) :=
  inferInstanceAs (Decidable (_ ∧ _))

def showsInclusion (txHash : String) : Event Ask Answer → Bool
  | ⟨.getReceipt polled, .ok receipt⟩ => polled = txHash ∧ Included receipt
  | _ => false

/-- The node has shown that the transaction is in a block. -/
def includedIn (said : History Ask Answer) (txHash : String) : Bool :=
  said.any (showsInclusion txHash)

def invokeOutput : Event Ask Answer → Option (Except String Output)
  | ⟨.sncast (.invoke _ _ _), output⟩ => some output
  | _ => none

/-- What `sncast` did with each transaction that it was to invoke. -/
def invokeOutputs (said : History Ask Answer) : List (Except String Output) :=
  said.filterMap invokeOutput

def printedHash : Except String Output → Option String
  | .ok output => parseHexFor "transaction_hash" output.combined
  | .error _ => none

/-- The transaction that was invoked is known and is in a block. -/
def Confirmed (said : History Ask Answer) (output : Except String Output) : Prop :=
  ∃ txHash, printedHash output = some txHash ∧ includedIn said txHash

def sentResult : Event Ask Answer → Option Json
  | ⟨.sendJson "result" data, _⟩ => some data
  | _ => none

def resultsSent (said : History Ask Answer) : List Json := said.filterMap sentResult

/-- A play says that its settlement is confirmed, and reports its hash. -/
def SettlementReported (said : History Ask Answer) : Prop :=
  ⟨.send "log" "Settlement confirmed", ()⟩ ∈ said ∧
    ∃ data ∈ resultsSent said, memberText data "settle_tx_hash" ≠ ""

/-- The handler reports success of what it has invoked. -/
def Reports (said : History Ask Answer) (outcome : Outcome Failure Response) : Request → Prop
  | .confirmDeposit _ => ∃ matchTx, outcome = .ok (.confirmed true matchTx)
  | .deployBank => ∃ contractAddress classHash deployBlock,
      outcome = .ok (.deployed contractAddress classHash deployBlock)
  | .play _ _ => SettlementReported said
  | .deployCoinflip => False
  | .commit _ => False
  | .depositInfo _ => False

def SuccessConfirmed (q : Request) (said : History Ask Answer)
    (outcome : Outcome Failure Response) : Prop :=
  Reports said outcome q → ∀ output ∈ invokeOutputs said, Confirmed said output

/-- Each hash that was printed is of a transaction that is in a block. The bank
also needs a hash from both of its calls, unless one of them could not be made. -/
def HoldsWhen (said : History Ask Answer) : Request → Prop
  | .deployBank => (∃ e, .error e ∈ invokeOutputs said) ∨
      ∀ output ∈ invokeOutputs said, Confirmed said output
  | _ => ∀ output ∈ invokeOutputs said, ∀ txHash, printedHash output = some txHash →
      includedIn said txHash

/-- What is proved of the end of each handler. -/
def Judged (q : Request) (said : History Ask Answer) (outcome : Outcome Failure Response) : Prop :=
  SuccessConfirmed q said outcome ↔ HoldsWhen said q

/-! ### Phases without an invocation -/

/-- Neither an invocation nor a result. -/
def IsSilent : Ask → Prop
  | .sncast (.invoke _ _ _) => False
  | .sendJson _ _ => False
  | _ => True

def Silent (said : History Ask Answer) : Prop := ∀ event ∈ said, IsSilent event.request

theorem isSilent_of_isQuiet (request : Ask) (h : IsQuiet request) : IsSilent request := by
  cases request with
  | sncast command => exact h.elim
  | sendJson event data => exact h.elim
  | _ => trivial

theorem isSilent_of_isPoll (request : Ask) (h : IsPoll request) : IsSilent request :=
  isSilent_of_isQuiet request (isQuiet_of_isPoll h)

theorem invokeOutput_of_isSilent {event : Event Ask Answer} (h : IsSilent event.request) :
    invokeOutput event = none := by
  rcases event with ⟨request, answer⟩
  cases request with
  | sncast command =>
      cases command with
      | invoke contractAddress function calldata => exact h.elim
      | _ => rfl
  | _ => rfl

theorem sentResult_of_isSilent {event : Event Ask Answer} (h : IsSilent event.request) :
    sentResult event = none := by
  rcases event with ⟨request, answer⟩
  cases request with
  | sendJson name data => exact h.elim
  | _ => rfl

theorem Silent.append {first second : History Ask Answer} (h : Silent first) (h' : Silent second) :
    Silent (first ++ second) := forall_request_append h h'

theorem invokeOutputs_of_silent {said : History Ask Answer} (h : Silent said) :
    invokeOutputs said = [] := by
  rw [invokeOutputs, List.filterMap_eq_nil_iff]
  exact fun event hevent => invokeOutput_of_isSilent (h event hevent)

theorem resultsSent_of_silent {said : History Ask Answer} (h : Silent said) :
    resultsSent said = [] := by
  rw [resultsSent, List.filterMap_eq_nil_iff]
  exact fun event hevent => sentResult_of_isSilent (h event hevent)

theorem invokeOutputs_append (first second : History Ask Answer) :
    invokeOutputs (first ++ second) = invokeOutputs first ++ invokeOutputs second :=
  List.filterMap_append

theorem resultsSent_append (first second : History Ask Answer) :
    resultsSent (first ++ second) = resultsSent first ++ resultsSent second :=
  List.filterMap_append

/-- Nothing is invoked, so there is nothing to confirm. -/
theorem judged_of_no_outputs {said : History Ask Answer} (h : invokeOutputs said = [])
    (q : Request) (outcome : Outcome Failure Response) : Judged q said outcome := by
  have hnone (output : Except String Output) : output ∉ invokeOutputs said := by
    rw [h]
    exact List.not_mem_nil
  constructor
  · intro _
    cases q with
    | deployBank => exact Or.inr fun output houtput => absurd houtput (hnone output)
    | _ => exact fun output houtput => absurd houtput (hnone output)
  · exact fun _ _ output houtput => absurd houtput (hnone output)

theorem Silent.judged {said : History Ask Answer} (h : Silent said) (q : Request)
    (outcome : Outcome Failure Response) : Judged q said outcome :=
  judged_of_no_outputs (invokeOutputs_of_silent h) q outcome

variable {q : Request} {α : Type}

theorem throughout_silent {history : History Ask Answer} {first : Handler α}
    {f : α → Handler Response} (hhistory : Silent history) (h : OnlyAsks IsSilent first)
    (hrest : ∀ later value, Silent later → Throughout (fun _ _ => True) (Judged q) later (f value)) :
    Throughout (fun _ _ => True) (Judged q) history (first >>= f) := by
  apply throughout_bind_of_onlyAsks h
  · exact fun _ _ _ _ => trivial
  · exact fun said value hsaid => hrest _ value (hhistory.append hsaid)
  · exact fun said error hsaid => (hhistory.append hsaid).judged q _
  · exact fun said message hsaid => (hhistory.append hsaid).judged q _

theorem throughout_of_silent {history : History Ask Answer} {program : Handler Response}
    (hhistory : Silent history) (h : OnlyAsks IsSilent program) :
    Throughout (fun _ _ => True) (Judged q) history program := by
  apply throughout_of_onlyAsks h
  · exact fun _ _ _ _ => trivial
  · exact fun said outcome hsaid => (hhistory.append hsaid).judged q outcome

/-- A call adds one output, and no result. -/
theorem throughout_invoke {history : History Ask Answer} {f : Except String InvokeResult → Handler α}
    {Ends : History Ask Answer → Outcome Failure α → Prop}
    {contractAddress function : String} {calldata : List String}
    (hrest : ∀ later output result, invokeOutputs later = invokeOutputs history ++ [output] →
      resultsSent later = resultsSent history → InvokedWith output result →
      Throughout (fun _ _ => True) Ends later (f result)) (api : ServerApi) :
    Throughout (fun _ _ => True) Ends history
      (sncastInvoke api contractAddress function calldata >>= f) := by
  rw [throughout_bind]
  apply throughout_sncastInvoke_exchanges
  · exact fun _ _ _ _ _ => trivial
  · intro locked output polls unlocked result hpolls hinvoked
    have hsilent : Silent polls :=
      fun event hevent => isSilent_of_isPoll _ (hpolls event hevent)
    apply hrest _ output result _ _ hinvoked
    · simp only [invokeOutputs_append, invokeOutputs_of_silent hsilent, List.append_nil]
      rfl
    · simp only [resultsSent_append, resultsSent_of_silent hsilent, List.append_nil]
      exact List.append_nil _

/-! ### How the handlers end -/

section Ends

variable {said : History Ask Answer} {outcome : Outcome Failure Response}
  {output : Except String Output} {txHash : String}

/-- Each printed hash is of a transaction in a block. -/
def PrintedIncluded (said : History Ask Answer) : Prop :=
  ∀ output ∈ invokeOutputs said, ∀ txHash, printedHash output = some txHash →
    includedIn said txHash

theorem judged_of_unprinted (hq : HoldsWhen said q ↔ PrintedIncluded said)
    (houtputs : invokeOutputs said = [output]) (hprinted : printedHash output = none)
    (hreports : ¬Reports said outcome q) : Judged q said outcome := by
  rw [Judged, hq]
  refine ⟨fun _ => ?_, fun _ h => absurd h hreports⟩
  rw [PrintedIncluded, houtputs, List.forall_mem_singleton, hprinted]
  exact nofun

theorem judged_of_printed (hq : HoldsWhen said q ↔ PrintedIncluded said)
    (houtputs : invokeOutputs said = [output]) (hprinted : printedHash output = some txHash)
    (hreports : Reports said outcome q) : Judged q said outcome := by
  rw [Judged, hq, PrintedIncluded, SuccessConfirmed, houtputs, List.forall_mem_singleton,
    List.forall_mem_singleton]
  constructor
  · rintro h txHash' hprinted'
    obtain ⟨printed, hprinted'', hincluded⟩ := h hreports
    rw [hprinted'] at hprinted''
    cases hprinted''
    exact hincluded
  · exact fun h _ => ⟨txHash, hprinted, h txHash hprinted⟩

theorem judged_of_failed {e : String} (hfailed : .error e ∈ invokeOutputs said)
    (hreports : ¬Reports said outcome .deployBank) : Judged .deployBank said outcome :=
  ⟨fun _ => Or.inl ⟨e, hfailed⟩, fun _ h => absurd h hreports⟩

theorem judged_of_funded (hmade : ∀ e, .error e ∉ invokeOutputs said)
    (hreports : Reports said outcome .deployBank) : Judged .deployBank said outcome := by
  constructor
  · exact fun h => Or.inr (h hreports)
  · rintro (⟨e, he⟩ | h) _
    · exact absurd he (hmade e)
    · exact h

end Ends

/-! ### The handlers -/

variable (api : ServerApi) (config : Config)

theorem silent_nil : Silent [] := fun _ h => absurd h List.not_mem_nil

theorem onlyAsks_await {request : Ask} (h : IsSilent request) :
    OnlyAsks IsSilent (await request) := ⟨h, fun _ => trivial⟩

/-- Once a hash is printed, the rest of the confirmation succeeds. -/
theorem judged_confirmMatch {req : ConfirmDepositRequest} {later : History Ask Answer}
    {output : Except String Output} {invoked : Except String InvokeResult}
    (houtputs : invokeOutputs later = [output]) (hinvoked : InvokedWith output invoked) :
    Throughout (fun _ _ => True) (Judged (.confirmDeposit req)) later ((do
      let matchResult ← orFailWith 500 id invoked
      let matchTx ← orFail 500 "Bank match: no tx hash in output" matchResult.txHash
      let confirmedBlock ← matchBlock matchResult.blockNumber
      let coinflip ← await (.readDeployment .coinFlip)
      let deployBlock := (coinflip.map Deployment.deployBlock).getD 0
      let seedBlock := max confirmedBlock deployBlock
      await (.setSeedBlock req.sessionId seedBlock)
      pure (.confirmed true matchTx)) : Handler Response) := by
  cases output with
  | error e =>
      obtain rfl : invoked = .error e := hinvoked
      exact judged_of_unprinted Iff.rfl houtputs rfl nofun
  | ok output =>
      obtain ⟨blockNumber, rfl⟩ := hinvoked
      change Throughout _ _ _ (orFail _ _ (parseHexFor "transaction_hash" output.combined) >>= _)
      cases hprinted : parseHexFor "transaction_hash" output.combined with
      | none => exact judged_of_unprinted Iff.rfl houtputs hprinted nofun
      | some matchTx =>
          have hend (said : History Ask Answer) (hsaid : Silent said) :
              Judged (.confirmDeposit req) (later ++ said) (.ok (.confirmed true matchTx)) := by
            have hsame : invokeOutputs (later ++ said) = [.ok output] := by
              rw [invokeOutputs_append, invokeOutputs_of_silent hsaid, houtputs, List.append_nil]
            exact judged_of_printed Iff.rfl hsame hprinted ⟨matchTx, rfl⟩
          cases blockNumber with
          | some block =>
              refine ⟨trivial, fun coinflip => ⟨trivial, fun written => ?_⟩⟩
              rw [List.append_assoc]
              exact hend _ (by simp [Silent, IsSilent])
          | none =>
              refine ⟨trivial, fun latest => ?_⟩
              cases latest with
              | ok block =>
                  refine ⟨trivial, fun coinflip => ⟨trivial, fun written => ?_⟩⟩
                  rw [List.append_assoc, List.append_assoc]
                  exact hend _ (by simp [Silent, IsSilent])
              | error e =>
                  refine ⟨trivial, fun coinflip => ⟨trivial, fun written => ?_⟩⟩
                  rw [List.append_assoc, List.append_assoc]
                  exact hend _ (by simp [Silent, IsSilent])

theorem judged_confirmDeposit (req : ConfirmDepositRequest) :
    Throughout (fun _ _ => True) (Judged (.confirmDeposit req)) [] (confirmDeposit api req) := by
  apply throughout_silent silent_nil (onlyAsks_waitForTx isSilent_of_isPoll api req.txHash 120 3)
  intro said₁ waited hsaid₁
  apply throughout_silent hsaid₁ (onlyAsks_orFailWith _ _ _)
  intro said₂ receipt hsaid₂
  apply throughout_silent hsaid₂ (onlyAsks_await (by trivial))
  intro said₃ found hsaid₃
  apply throughout_silent hsaid₃ (onlyAsks_orFail _ _ _)
  intro said₄ bank hsaid₄
  apply throughout_silent hsaid₄ (onlyAsks_await (by trivial))
  intro said₅ entry hsaid₅
  apply throughout_silent hsaid₅ (onlyAsks_orFail _ _ _)
  intro said₆ commitment hsaid₆
  apply throughout_invoke
  intro later output invoked houtputs _ hinvoked
  rw [invokeOutputs_of_silent hsaid₆, List.nil_append] at houtputs
  exact judged_confirmMatch houtputs hinvoked

/-- After both calls the deployment is stored and reported. -/
theorem judged_deployBank :
    Throughout (fun _ _ => True) (Judged .deployBank) [] (deployBank api config) := by
  refine ⟨trivial, fun found => ?_⟩
  cases found with
  | some deployment => exact Silent.judged (by simp [Silent, IsSilent]) _ _
  | none =>
      have hdeployed : OnlyAsks IsSilent (declareAndDeploy api (bankPlan config)) :=
        onlyAsks_declareAndDeploy api isSilent_of_isQuiet _ trivial fun _ _ => trivial
      apply throughout_silent (by simp [Silent, IsSilent]) hdeployed
      intro said deployment hsaid
      rw [fundBank, throughout_bind]
      apply throughout_invoke
      intro later₁ approveOutput approved happroved _ hinvoked₁
      rw [invokeOutputs_of_silent hsaid, List.nil_append] at happroved
      cases approveOutput with
      | error e =>
          obtain rfl : approved = .error e := hinvoked₁
          exact judged_of_failed (by rw [happroved]; exact List.mem_singleton_self _) nofun
      | ok approveOutput =>
          obtain ⟨approveBlock, rfl⟩ := hinvoked₁
          apply throughout_invoke
          intro later₂ fundOutput funded hfunded _ hinvoked₂
          rw [happroved] at hfunded
          cases fundOutput with
          | error e =>
              obtain rfl : funded = .error e := hinvoked₂
              exact judged_of_failed (e := e) (by simp [hfunded]) nofun
          | ok fundOutput =>
              obtain ⟨fundBlock, rfl⟩ := hinvoked₂
              refine ⟨trivial, fun written => ⟨trivial, fun coinflip => ⟨trivial, fun bank =>
                ⟨trivial, fun dropped => ⟨trivial, fun saved => ?_⟩⟩⟩⟩⟩
              simp only [List.append_assoc]
              apply judged_of_funded _ ⟨_, _, _, rfl⟩
              rw [invokeOutputs_append, hfunded, invokeOutputs_of_silent (by simp [Silent, IsSilent])]
              simp

/-! ### The settlement of a play -/

variable (task : PlayTask)

theorem memberText_resultJson_settleTxHash (settlement : Settlement) (txHash settleTxHash : String)
    (proofSize : Nat) :
    memberText (resultJson task settlement txHash settleTxHash proofSize) "settle_tx_hash" =
      settleTxHash := by
  simp [memberText, resultJson, Json.get?_obj_cons, Json.asStr]

theorem not_reported_of_empty {said : History Ask Answer} {settlement : Settlement}
    {txHash : String} {proofSize : Nat}
    (h : resultsSent said = [resultJson task settlement txHash "" proofSize]) :
    ¬SettlementReported said := by
  rintro ⟨-, data, hdata, hhash⟩
  rw [h, List.mem_singleton] at hdata
  rw [hdata, memberText_resultJson_settleTxHash] at hhash
  exact hhash rfl

/-- The settlement is reported exactly if a hash was printed for it. -/
theorem judged_settle {sessionId : String} {params : PlayQuery} {history : History Ask Answer}
    (hhistory : Silent history) (settlement : Settlement) (txHash : String) (proofSize : Nat) :
    Throughout (fun _ _ => True) (Judged (.play sessionId params)) history ((do
      let settleTxHash ← settleOnChain api task
      await (.sendJson "result" (resultJson task settlement txHash settleTxHash proofSize))
      pure .streamed) : Handler Response) := by
  refine ⟨trivial, fun found => ?_⟩
  cases found with
  | none =>
      refine ⟨trivial, fun sent => ?_⟩
      apply judged_of_no_outputs
      simp only [invokeOutputs_append, invokeOutputs_of_silent hhistory]
      rfl
  | some bank =>
      refine ⟨trivial, fun announced => ⟨trivial, fun logged => ?_⟩⟩
      change Throughout _ _ _ ((_ >>= fun _ => _) >>= _)
      rw [throughout_bind]
      apply throughout_invoke
      intro later output invoked houtputs hresults hinvoked
      replace houtputs : invokeOutputs later = [output] := by
        rw [houtputs, invokeOutputs_of_silent]
        · rfl
        · exact ((hhistory.append (by simp [Silent, IsSilent])).append
            (by simp [Silent, IsSilent])).append (by simp [Silent, IsSilent])
      replace hresults : resultsSent later = [] := by
        rw [hresults, resultsSent_of_silent]
        exact ((hhistory.append (by simp [Silent, IsSilent])).append
          (by simp [Silent, IsSilent])).append (by simp [Silent, IsSilent])
      -- what is still said is logged, and then the result is sent
      have hafter (said : History Ask Answer) (settleTxHash : String) (hsaid : Silent said) :
          invokeOutputs (later ++ said ++ [⟨.sendJson "result"
            (resultJson task settlement txHash settleTxHash proofSize), ()⟩]) = [output] ∧
          resultsSent (later ++ said ++ [⟨.sendJson "result"
            (resultJson task settlement txHash settleTxHash proofSize), ()⟩]) =
              [resultJson task settlement txHash settleTxHash proofSize] := by
        constructor
        · rw [invokeOutputs_append, invokeOutputs_append, houtputs, invokeOutputs_of_silent hsaid]
          rfl
        · rw [resultsSent_append, resultsSent_append, hresults, resultsSent_of_silent hsaid]
          rfl
      cases output with
      | error e =>
          obtain rfl : invoked = .error e := hinvoked
          refine ⟨trivial, fun logged => ⟨trivial, fun sent => ?_⟩⟩
          obtain ⟨hsame, hresult⟩ := hafter
            [⟨.send "log" ("Settlement failed (non-critical): " ++ e), logged⟩] ""
            (by simp [Silent, IsSilent])
          exact judged_of_unprinted Iff.rfl hsame rfl (not_reported_of_empty task hresult)
      | ok output =>
          obtain ⟨blockNumber, rfl⟩ := hinvoked
          cases hprinted : parseHexFor "transaction_hash" output.combined with
          | none =>
              refine ⟨trivial, fun logged => ⟨trivial, fun sent => ?_⟩⟩
              obtain ⟨hsame, hresult⟩ := hafter
                [⟨.send "log" "Settlement: no tx hash in output", logged⟩] ""
                (by simp [Silent, IsSilent])
              exact judged_of_unprinted Iff.rfl hsame hprinted (not_reported_of_empty task hresult)
          | some tx =>
              refine ⟨trivial, fun logged => ⟨trivial, fun confirmed => ⟨trivial, fun sent => ?_⟩⟩⟩
              obtain ⟨hsame, hresult⟩ := hafter
                ([⟨.send "log" ("Settlement tx: " ++ shortened tx), logged⟩] ++
                  [⟨.send "log" "Settlement confirmed", confirmed⟩]) tx
                (by simp [Silent, IsSilent])
              simp only [List.append_assoc] at hsame hresult ⊢
              apply judged_of_printed Iff.rfl hsame hprinted
              refine ⟨by simp, _, by rw [hresult]; exact List.mem_singleton_self _, ?_⟩
              rw [memberText_resultJson_settleTxHash]
              exact parseHexFor_ne_empty hprinted

theorem judged_play (sessionId : String) (params : PlayQuery) :
    Throughout (fun _ _ => True) (Judged (.play sessionId params)) []
      (playCoinflip api config sessionId params) := by
  apply throughout_silent silent_nil (onlyAsks_await (by trivial))
  intro said₁ found hsaid₁
  apply throughout_silent hsaid₁ (onlyAsks_orFail _ _ _)
  intro said₂ deployment hsaid₂
  apply throughout_silent hsaid₂ (onlyAsks_await (by trivial))
  intro said₃ removed hsaid₃
  apply throughout_silent hsaid₃ (onlyAsks_orFail _ _ _)
  intro said₄ commitment hsaid₄
  cases verifyReveal api commitment params with
  | error failure => exact hsaid₄.judged _ _
  | ok u =>
      apply throughout_silent hsaid₄ (onlyAsks_startLog _ isSilent_of_isQuiet)
      intro said₅ _ hsaid₅
      apply throughout_silent hsaid₅ (onlyAsks_constructTransaction api config _ isSilent_of_isQuiet)
      intro said₆ tx hsaid₆
      apply throughout_silent hsaid₆ (onlyAsks_prove config _ isSilent_of_isQuiet)
      intro said₇ proofSize hsaid₇
      apply throughout_silent hsaid₇
        (onlyAsks_parseSettlement config _ isSilent_of_isQuiet fun _ => trivial)
      intro said₈ settlement hsaid₈
      apply throughout_silent hsaid₈
        (onlyAsks_submit api config _ isSilent_of_isQuiet tx fun _ _ _ _ _ _ => trivial)
      intro said₉ txHash hsaid₉
      apply throughout_silent hsaid₉ (onlyAsks_verifyInclusion api isSilent_of_isQuiet txHash)
      intro said₁₀ _ hsaid₁₀
      exact judged_settle api _ hsaid₁₀ settlement txHash proofSize

theorem judged_handler (backend : Backend) (q : Request) :
    Throughout (fun _ _ => True) (Judged q) [] (backend.handler q) := by
  cases q with
  | deployCoinflip =>
      apply throughout_of_silent silent_nil
      refine ⟨trivial, fun found => ?_⟩
      cases found with
      | some deployment => trivial
      | none =>
          refine (onlyAsks_declareAndDeploy backend.api isSilent_of_isQuiet _ trivial
            fun _ _ => trivial).bind fun deployment => ?_
          exact ⟨trivial, fun _ => (onlyAsks_saveDeployments (fun _ => trivial) trivial
            fun _ => trivial).bind fun _ => trivial⟩
  | deployBank => exact judged_deployBank backend.api backend.config
  | commit req => exact throughout_of_silent silent_nil ⟨trivial, fun _ => trivial⟩
  | depositInfo req =>
      apply throughout_of_silent silent_nil
      refine ⟨trivial, fun found => (onlyAsks_orFail _ _ found).bind fun bank => ?_⟩
      refine ⟨trivial, fun entry => (onlyAsks_orFail _ _ entry).bind fun commitment => ?_⟩
      exact ⟨trivial, fun _ => trivial⟩
  | confirmDeposit req => exact judged_confirmDeposit backend.api req
  | play sessionId params => exact judged_play backend.api backend.config sessionId params

/-- For all requests and all answers of `sncast`, the node and everything else. -/
theorem success_confirmed_iff (backend : Backend) (q : Request)
    (env : Environment Ask Answer) :
    SuccessConfirmed q (run env (backend.handler q) []).2 (run env (backend.handler q) []).1 ↔
      HoldsWhen (run env (backend.handler q) []).2 q :=
  (judged_handler backend q).run env

/-! ### A match that is reverted -/

open SessionGames

def revertedReceipt : Json :=
  .obj [("finality_status", .str "ACCEPTED_ON_L2"), ("execution_status", .str "REVERTED"),
    ("block_number", .num 12)]

/-- The deposit is confirmed, and the match is reverted. -/
def revertingEnv : Environment Ask Answer := fun _ request =>
  match request with
  | .readDeployment _ => some ⟨"0x1", "0xb", 4⟩
  | .getCommitment _ => some (newCommitment ⟨"0x1", "0x3"⟩ sampleSession)
  | .getReceipt txHash => if txHash = "0xa" then .ok revertedReceipt
      else smoothly 11 (.getReceipt txHash)
  | request => smoothly 11 request

theorem reverted_match_reported :
    ¬SuccessConfirmed (.confirmDeposit ⟨sampleSession, "0xd"⟩)
      (run revertingEnv (sample.handler (.confirmDeposit ⟨sampleSession, "0xd"⟩)) []).2
      (run revertingEnv (sample.handler (.confirmDeposit ⟨sampleSession, "0xd"⟩)) []).1 := by
  have houtcome : (run revertingEnv
      (sample.handler (.confirmDeposit ⟨sampleSession, "0xd"⟩)) []).1 =
        .ok (.confirmed true "0xa") := by
    decide +kernel
  have houtputs : invokeOutputs (run revertingEnv
      (sample.handler (.confirmDeposit ⟨sampleSession, "0xd"⟩)) []).2 =
        [.ok ⟨"transaction_hash: 0xa", "", true⟩] := by
    decide +kernel
  have hincluded : includedIn (run revertingEnv
      (sample.handler (.confirmDeposit ⟨sampleSession, "0xd"⟩)) []).2 "0xa" = false := by
    decide +kernel
  have hprinted : printedHash (.ok ⟨"transaction_hash: 0xa", "", true⟩) = some "0xa" := by
    decide +kernel
  intro hsuccess
  obtain ⟨txHash, htxHash, hshown⟩ := hsuccess ⟨"0xa", houtcome⟩ _
    (by rw [houtputs]; exact List.mem_singleton_self _)
  rw [hprinted] at htxHash
  cases htxHash
  rw [hincluded] at hshown
  cases hshown

end Snip36.ConfirmedSuccess
