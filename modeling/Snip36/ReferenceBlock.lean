import Snip36.CounterAsks

/-!
Whether the reference block of a session only moves forward. A run writes it at
its end, from a receipt, and other runs may have written it in between.
-/

namespace Snip36.ReferenceBlock

open CoinFlipState (Config Failure)
open CounterAsks
open CounterRoutes
open CounterServer
open CounterState
open Library.Interaction
open Library.Interaction.Program
open Library.Interleaving
open Library.KeyedLog
open Library.Reverting
open StarknetRpc

/-! ### What is known of a run -/

def receiptSeen : Event Ask Answer → Option (Unit × Json)
  | ⟨.poll (.getReceipt _), .ok receipt⟩ => some ((), receipt)
  | _ => none

/-- The last receipt that a run has got. -/
def lastReceipt (history : History Ask Answer) : Option Json := latest receiptSeen history ()

/-- The block that it has read off that receipt. -/
def blockOf (history : History Ask Answer) : Option Nat :=
  (lastReceipt history).bind receiptBlockNumber

def isUpdate (sessionId : String) (event : Event Ask Answer) : Bool :=
  match event.request with
  | .updateSession id _ => id = sessionId
  | _ => false

/-- The run has written to the session. -/
def moved (sessionId : String) (history : History Ask Answer) : Bool :=
  history.any (isUpdate sessionId)

/-- The node has taken nothing. -/
def Unsent (history : History Ask Answer) : Prop :=
  ∀ payload txHash, ⟨.addInvokeTransaction payload, .ok txHash⟩ ∉ history

/-- The node has taken the transaction and no other. -/
def Sent (history : History Ask Answer) (txHash : String) : Prop :=
  (∃ payload, ⟨.addInvokeTransaction payload, .ok txHash⟩ ∈ history) ∧
    ∀ payload tx, ⟨.addInvokeTransaction payload, .ok tx⟩ ∈ history → tx = txHash

/-- A run writes once, at the end, and what it writes is read off the receipt of its
transaction. -/
def ReferenceAsks (sessionId : String) (history : History Ask Answer) : Ask → Prop
  | .updateSession id f => id = sessionId ∧ moved sessionId history = false ∧
      ∃ txHash receipt, Sent history txHash ∧
        ⟨.poll (.getReceipt txHash), .ok receipt⟩ ∈ history ∧
        lastReceipt history = some receipt ∧
        f = setReferenceBlock ((receiptBlockNumber receipt).getD 0)
  | .addInvokeTransaction _ => moved sessionId history = false
  | .poll _ => moved sessionId history = false
  | _ => True

section History

variable {sessionId txHash : String} {history said : History Ask Answer} {event : Event Ask Answer}

theorem moved_append : moved sessionId (history ++ said) =
    (moved sessionId history || moved sessionId said) :=
  List.any_append

theorem moved_concat : moved sessionId (history ++ [event]) =
    (moved sessionId history || isUpdate sessionId event) := by
  simp [moved]

/-- Requests that neither hand a transaction over nor write to the session. -/
def Keeps (request : Ask) : Prop :=
  match request with
  | .addInvokeTransaction _ => False
  | .updateSession _ _ => False
  | _ => True

theorem moved_of_keeps (h : ∀ event ∈ said, Keeps event.request) :
    moved sessionId said = false := by
  rw [moved, List.any_eq_false]
  intro event hevent hupdate
  have hkeeps := h event hevent
  unfold isUpdate at hupdate
  split at hupdate
  · rename_i hrequest
    rw [hrequest] at hkeeps
    exact hkeeps
  · cases hupdate

theorem Unsent.append (h : Unsent history) (hsaid : ∀ event ∈ said, Keeps event.request) :
    Unsent (history ++ said) := by
  intro payload tx hmem
  rcases List.mem_append.mp hmem with hold | hnew
  · exact h payload tx hold
  · exact hsaid _ hnew

theorem Sent.append (h : Sent history txHash) (hsaid : ∀ event ∈ said, Keeps event.request) :
    Sent (history ++ said) txHash := by
  obtain ⟨⟨payload, hmem⟩, honly⟩ := h
  refine ⟨⟨payload, List.mem_append_left _ hmem⟩, fun p tx htx => ?_⟩
  rcases List.mem_append.mp htx with hold | hnew
  · exact honly p tx hold
  · exact (hsaid _ hnew).elim

theorem keeps_of_isEarly (request : Ask) (h : IsEarly request) : Keeps request := by
  cases request with
  | addInvokeTransaction payload => exact h.elim
  | updateSession id f => exact h.elim
  | _ => trivial

theorem referenceAsks_of_isEarly {request : Ask} (h : IsEarly request) :
    ReferenceAsks sessionId history request := by
  cases request with
  | addInvokeTransaction payload => exact h.elim
  | updateSession id f => exact h.elim
  | poll request => exact h.elim
  | _ => trivial

end History

/-! ### The phases of a run -/

section Run

variable {sessionId : String} {history : History Ask Answer}

/-- Before the hand-over. -/
structure Before (sessionId : String) (history : History Ask Answer) : Prop where
  unsent : Unsent history
  unmoved : moved sessionId history = false

/-- After the hand-over, before the write. -/
structure Waiting (sessionId txHash : String) (history : History Ask Answer) : Prop where
  sent : Sent history txHash
  unmoved : moved sessionId history = false

theorem Before.append {said : History Ask Answer} (h : Before sessionId history)
    (hsaid : ∀ event ∈ said, Keeps event.request) : Before sessionId (history ++ said) where
  unsent := h.unsent.append hsaid
  unmoved := by rw [moved_append, h.unmoved, moved_of_keeps hsaid, Bool.or_false]

theorem Waiting.append {txHash : String} {said : History Ask Answer}
    (h : Waiting sessionId txHash history) (hsaid : ∀ event ∈ said, Keeps event.request) :
    Waiting sessionId txHash (history ++ said) where
  sent := h.sent.append hsaid
  unmoved := by rw [moved_append, h.unmoved, moved_of_keeps hsaid, Bool.or_false]

theorem Before.concat {event : Event Ask Answer} (h : Before sessionId history)
    (hevent : Keeps event.request) : Before sessionId (history ++ [event]) :=
  h.append (by simpa using hevent)

theorem Waiting.concat {txHash : String} {event : Event Ask Answer}
    (h : Waiting sessionId txHash history) (hevent : Keeps event.request) :
    Waiting sessionId txHash (history ++ [event]) :=
  h.append (by simpa using hevent)

/-- An early phase leaves everything before the hand-over. -/
theorem before_of_isEarly {α : Type} {first : Handler α} (hfirst : OnlyAsks IsEarly first)
    (h : Before sessionId history) :
    Throughout (ReferenceAsks sessionId) (Returning fun later _ => Before sessionId later)
      history first := by
  apply throughout_of_onlyAsks hfirst
  · exact fun said request _ hrequest => referenceAsks_of_isEarly hrequest
  · intro said outcome hsaid value _
    exact h.append fun event hevent => keeps_of_isEarly _ (hsaid event hevent)

theorem waiting_addTransaction (payload : Json) (left : Nat) (h : Before sessionId history) :
    Throughout (ReferenceAsks sessionId)
      (Returning fun later txHash => Waiting sessionId txHash later) history (addTransaction payload left) := by
  induction left generalizing history with
  | zero => exact ⟨trivial, fun _ => returning_err _⟩
  | succ left ih =>
      refine ⟨h.unmoved, fun answer => ?_⟩
      have hfailed (e : RpcError) :
          Before sessionId (history ++ [⟨.addInvokeTransaction payload, .error e⟩]) := by
        constructor
        · intro p tx hmem
          rcases List.mem_append.mp hmem with hold | hnew
          · exact h.unsent p tx hold
          · cases List.mem_singleton.mp hnew
        · rw [moved_concat, h.unmoved]
          rfl
      match answer with
      | .ok acceptedTxHash =>
          refine ⟨trivial, fun _ => returning_ok_iff.mpr ?_⟩
          apply Waiting.concat
          · constructor
            · refine ⟨⟨payload, by simp⟩, fun p tx hmem => ?_⟩
              rcases List.mem_append.mp hmem with hold | hnew
              · exact absurd hold (h.unsent p tx)
              · cases List.mem_singleton.mp hnew
                rfl
            · rw [moved_concat, h.unmoved]
              rfl
          · trivial
      | .error (.jsonRpc msg) =>
          change Throughout _ _ _ (if 0 < left then _ else _)
          split
          · refine ⟨trivial, fun _ => ⟨trivial, fun _ => ?_⟩⟩
            apply ih
            apply Before.concat
            · exact (hfailed _).concat (by trivial)
            · trivial
          · exact ⟨trivial, fun _ => returning_err _⟩
      | .error (.http _) => exact ⟨trivial, fun _ => returning_err _⟩
      | .error (.unexpected _) => exact ⟨trivial, fun _ => returning_err _⟩
      | .error (.txTimeout _ _) => exact ⟨trivial, fun _ => returning_err _⟩
      | .error (.txRejected _) => exact ⟨trivial, fun _ => returning_err _⟩
      | .error (.blockTimeout _ _) => exact ⟨trivial, fun _ => returning_err _⟩

theorem eq_ok_of_judged {display : Json → String} {reply : Except RpcError Json} {receipt : Json}
    (h : TxPolling.judged display reply = some (.ok receipt)) : reply = .ok receipt := by
  cases reply with
  | error e => cases h
  | ok reply =>
      change judgeReceipt display reply = some (.ok receipt) at h
      simp only [judgeReceipt] at h
      split at h
      · cases h
      · split at h
        · cases h
          rfl
        · cases h

/-- A wait ends well with the receipt that came last. -/
theorem waiting_pollReceipt {txHash : String} (display : Json → String)
    (timeoutSecs pollIntervalSecs naps : Nat) (h : Waiting sessionId txHash history) :
    Throughout (ReferenceAsks sessionId)
      (Returning fun later verdict => Waiting sessionId txHash later ∧
        ∀ receipt, verdict = .ok receipt →
          ⟨.poll (.getReceipt txHash), .ok receipt⟩ ∈ later ∧ lastReceipt later = some receipt)
      history ((TxPolling.pollReceipt (ε := Failure) display txHash timeoutSecs pollIntervalSecs
        naps).translate pollInclusion) := by
  induction naps generalizing history with
  | zero => exact returning_ok_iff.mpr ⟨h, nofun⟩
  | succ naps ih =>
      refine ⟨h.unmoved, fun passed => ?_⟩
      have hpassed : Waiting sessionId txHash (history ++ [⟨.poll .deadlinePassed, passed⟩]) :=
        h.concat trivial
      cases passed with
      | true => exact returning_ok_iff.mpr ⟨hpassed, nofun⟩
      | false =>
          refine ⟨hpassed.unmoved, fun reply => ?_⟩
          have hreplied : Waiting sessionId txHash (history ++ [⟨.poll .deadlinePassed, false⟩] ++
              [⟨.poll (.getReceipt txHash), reply⟩]) := hpassed.concat trivial
          have hreply : pollInclusion.answer (.getReceipt txHash) reply = reply := rfl
          dsimp only [Program.bind]
          rw [hreply]
          cases hjudged : TxPolling.judged display reply with
          | some verdict =>
              refine returning_ok_iff.mpr ⟨hreplied, ?_⟩
              rintro receipt rfl
              obtain rfl := eq_ok_of_judged hjudged
              refine ⟨List.mem_append_right _ (List.mem_singleton.mpr rfl), ?_⟩
              rw [lastReceipt, latest_concat]
              exact put_self _ _ _
          | none =>
              refine ⟨hreplied.unmoved, fun _ => ?_⟩
              apply ih
              exact hreplied.concat (by trivial)

section Task

variable (api : CounterApi) (config : Config) (task : ProveTask)

theorem waiting_submit {tx : ProveTransaction} (h : Before task.sessionId history) :
    Throughout (ReferenceAsks task.sessionId)
      (Returning fun later txHash => Waiting task.sessionId txHash later) history
      (submit api config task tx) := by
  apply throughout_ask trivial
  intro _
  apply Throughout.then
  · apply before_of_isEarly (onlyAsks_of_unreported (onlyAsks_readProof api config task))
    exact h.concat (by trivial)
  rintro later ⟨proof, proofFacts⟩ - hlater
  apply throughout_orStreamError fun _ _ => trivial
  rintro ⟨localTxHash, invokeTx⟩ -
  apply throughout_ask trivial
  intro _
  apply waiting_addTransaction
  exact hlater.concat (by trivial)

/-- What is written is read off the receipt of the transaction that the node has
taken. -/
theorem referenceAsks_verifyInclusion {rpcTxHash : String}
    (h : Waiting task.sessionId rpcTxHash history) :
    Throughout (ReferenceAsks task.sessionId)
      (Returning fun later _ => moved task.sessionId later = true) history
      (verifyInclusion api task rpcTxHash) := by
  apply throughout_ask trivial
  intro _
  apply throughout_ask trivial
  intro _
  apply Throughout.then
  · apply waiting_pollReceipt
    apply Waiting.concat
    · exact h.concat (by trivial)
    · trivial
  rintro later verdict - ⟨hwaiting, hverdict⟩
  apply throughout_orStreamError fun _ _ => trivial
  intro receipt hreceipt
  have hok : verdict = .ok receipt := by
    cases verdict with
    | ok r =>
        cases hreceipt
        rfl
    | error e => cases hreceipt
  obtain ⟨hmem, hlast⟩ := hverdict receipt hok
  refine ⟨trivial, fun _ => ?_⟩
  have hlogged : Waiting task.sessionId rpcTxHash (later ++ [⟨.send "log" ("Tx included in block " ++
      toString ((receiptBlockNumber receipt).getD 0)), ()⟩]) := hwaiting.concat trivial
  refine ⟨⟨rfl, hlogged.unmoved, rpcTxHash, receipt, hlogged.sent, List.mem_append_left _ hmem,
    ?_, rfl⟩, fun _ => returning_ok_iff.mpr ?_⟩
  · rw [lastReceipt, latest_concat]
    exact hlast
  · rw [moved_concat, isUpdate]
    simp

/-- A run that has come to its end has written. -/
theorem referenceAsks_runCycle (h : Before task.sessionId history) :
    Throughout (ReferenceAsks task.sessionId)
      (Returning fun later _ => moved task.sessionId later = true) history
      (runCycle api config task) := by
  apply Throughout.then
  · apply before_of_isEarly _ h
    exact onlyAsks_announceCycle (fun _ _ => trivial) api task
  intro announced expectedIncrement _ hannounced
  apply (before_of_isEarly (onlyAsks_of_unreported (onlyAsks_constructTransaction api config task))
    hannounced).then
  intro constructed tx _ hconstructed
  apply (before_of_isEarly (onlyAsks_of_unreported (onlyAsks_prove api config task))
    hconstructed).then
  intro proved proofSize _ hproved
  apply (waiting_submit api config task hproved).then
  intro submitted rpcTxHash _ hsubmitted
  apply (referenceAsks_verifyInclusion api task hsubmitted).then
  intro verified _ _ hmoved
  apply throughout_ask trivial
  intro value
  apply throughout_ask trivial
  intro _
  refine ⟨trivial, fun _ => returning_ok_iff.mpr ?_⟩
  simp [moved_append, hmoved]

theorem referenceAsks_proveBlock (sessionId : String) (params : ProveBlockQuery) :
    Throughout (ReferenceAsks sessionId)
      (Returning fun later _ => moved sessionId later = true) []
      (proveBlock api config sessionId params) := by
  apply throughout_proveBlock trivial
  rintro session task rfl
  apply referenceAsks_runCycle api config task
  have hstart : Before task.sessionId [] := ⟨fun _ _ => List.not_mem_nil, rfl⟩
  exact hstart.concat (by trivial)

end Task

end Run

/-! ### Many runs -/

section Pools

variable {backend : Backend} (sessionId : String)

def reference (pool : Pool backend.system) : Option Nat :=
  (pool.shared.sessions sessionId).lastReferenceBlock

/-- Just after a deployment in block `d`. -/
structure Deployed (d : Nat) (pool : Pool backend.system) : Prop where
  tasks : pool.tasks = []
  deployBlock : (pool.shared.sessions sessionId).deployBlock = some d
  reference : reference sessionId pool = some d
  openBlock : d ≤ pool.shared.openBlock

/-- The contract of the session stays the same. -/
def NotRedeployed (move : ServerMove) : Prop := move ≠ .arrive (.deployCounter sessionId)

instance (move : ServerMove) : Decidable (NotRedeployed sessionId move) :=
  match move with
  | .arrive (.deployCounter id) =>
      decidable_of_iff (id ≠ sessionId) (by simp [NotRedeployed])
  | .arrive (.proveBlock _ _) => isTrue (by simp [NotRedeployed])
  | .advance _ _ => isTrue (by simp [NotRedeployed])
  | .outside _ => isTrue (by simp [NotRedeployed])

/-- Between two states of a run the reference block has not fallen; it is not below
the deployment nor below the transaction of a run that has succeeded. -/
structure MovesForward (d : Nat) (pool : Pool backend.system) (moves later : List ServerMove) :
    Prop where
  known : ∃ r r', reference sessionId (after pool moves) = some r ∧
    reference sessionId (after pool (moves ++ later)) = some r' ∧ r ≤ r'
  deployed : ∀ r ∈ reference sessionId (after pool moves), d ≤ r
  included : ∀ r ∈ reference sessionId (after pool moves), ∀ t ∈ (after pool moves).tasks,
    ∀ params, t.request = .proveBlock sessionId params → t.outcome? = some (.ok .streamed) →
      ∀ payload txHash, ⟨.addInvokeTransaction payload, .ok txHash⟩ ∈ t.history →
        backend.inclusion txHash ≤ r

/-- A run writes to the session with a block that it could read off its receipt,
and after the runs with earlier blocks. -/
def InOrder (pool : Pool backend.system) (move : ServerMove) : Prop :=
  ∀ said ∈ pool.turn move, isUpdate sessionId said.2 = true → ∀ t ∈ pool.tasks[said.1]?,
    (blockOf t.history).isSome ∧ ∀ block ∈ blockOf t.history, ∀ other ∈ pool.tasks,
      moved sessionId other.history = true → ∀ earlier ∈ blockOf other.history, earlier ≤ block

instance (pool : Pool backend.system) (move : ServerMove) :
    Decidable (InOrder sessionId pool move) :=
  inferInstanceAs (Decidable (∀ said ∈ pool.turn move, isUpdate sessionId said.2 = true →
    ∀ t ∈ pool.tasks[said.1]?, (blockOf t.history).isSome ∧ ∀ block ∈ blockOf t.history,
      ∀ other ∈ pool.tasks, moved sessionId other.history = true →
        ∀ earlier ∈ blockOf other.history, earlier ≤ block))

/-- What is asked for a request. -/
def TaskAsks (q : Request) (history : History Ask Answer) (request : Ask) : Prop :=
  match q with
  | .deployCounter id => IsDeploying id request
  | .proveBlock id _ => ReferenceAsks id history request

/-- A run that has succeeded has written. -/
def TaskEnds (q : Request) (history : History Ask Answer) (outcome : Outcome Failure Response) :
    Prop :=
  match q with
  | .deployCounter _ => True
  | .proveBlock id _ => outcome = .ok .streamed → moved id history = true

theorem throughout_handler (q : Request) :
    Throughout (TaskAsks q) (TaskEnds q) [] (backend.handler q) := by
  cases q with
  | deployCounter id => exact onlyAsks_iff_throughout.mp (onlyAsks_deployCounter backend.api id)
  | proveBlock id params =>
      have hrun := referenceAsks_proveBlock backend.api backend.config id params
      exact hrun.mono (fun _ _ _ hasks => hasks) fun _ _ _ hends hstreamed => hends _ hstreamed

/-- The reference block is that of the deployment, or the latest block of the runs
that have written. -/
structure Latest (pool : Pool backend.system) (d r : Nat) : Prop where
  known : reference sessionId pool = some r
  deployed : d ≤ r
  upper : ∀ t ∈ pool.tasks, moved sessionId t.history = true →
    ∀ block ∈ blockOf t.history, block ≤ r
  reached : r = d ∨ ∃ t ∈ pool.tasks, moved sessionId t.history = true ∧ blockOf t.history = some r

/-- What is known in every state of a run. -/
structure Kept (d : Nat) (pool : Pool backend.system) : Prop where
  openBlock : d ≤ pool.shared.openBlock
  requests : ∀ t ∈ pool.tasks, t.request ≠ .deployCounter sessionId
  sent : ∀ t ∈ pool.tasks, ∀ payload txHash,
    ⟨.addInvokeTransaction payload, .ok txHash⟩ ∈ t.history → d ≤ backend.inclusion txHash
  honest : ∀ t ∈ pool.tasks, ∀ txHash receipt,
    ⟨.poll (.getReceipt txHash), .ok receipt⟩ ∈ t.history →
      ∀ block ∈ receiptBlockNumber receipt, block = backend.inclusion txHash
  settled : ∀ t ∈ pool.tasks, moved sessionId t.history = true →
    ∃ txHash, Sent t.history txHash ∧ blockOf t.history = some (backend.inclusion txHash)
  latest : ∃ r, Latest sessionId pool d r

section Step

variable {sessionId} {d : Nat} {pool pool' : Pool backend.system}

/-- Only the runs of the session write to it, and they write what a receipt says. -/
theorem update_of_taskAsks {q : Request} {history : History Ask Answer} {request : Ask}
    {answer : Answer request} (hrequest : q ≠ .deployCounter sessionId)
    (hasked : TaskAsks q history request)
    (hupdate : isUpdate sessionId ⟨request, answer⟩ = true) :
    (∃ params, q = .proveBlock sessionId params) ∧
      ∃ txHash receipt, Sent history txHash ∧
        ⟨.poll (.getReceipt txHash), .ok receipt⟩ ∈ history ∧
        lastReceipt history = some receipt ∧
        request = .updateSession sessionId
          (setReferenceBlock ((receiptBlockNumber receipt).getD 0)) := by
  cases request with
  | updateSession id f =>
      obtain rfl : id = sessionId := of_decide_eq_true hupdate
      cases q with
      | deployCounter other =>
          obtain rfl : id = other := hasked
          exact absurd rfl hrequest
      | proveBlock other params =>
          obtain ⟨rfl, -, txHash, receipt, hsent, hmem, hlast, rfl⟩ := hasked
          exact ⟨⟨params, rfl⟩, txHash, receipt, hsent, hmem, hlast, rfl⟩
  | _ => cases hupdate

theorem request_of_moved {t : Task backend.system} (hrequest : t.request ≠ .deployCounter sessionId)
    (hmoved : moved sessionId t.history = true) :
    ∃ params, t.request = .proveBlock sessionId params := by
  obtain ⟨⟨request, answer⟩, hmem, hupdate⟩ := List.any_eq_true.mp hmoved
  obtain ⟨before, later, hsplit⟩ := List.append_of_mem hmem
  have hasked := t.follows.asked (throughout_handler t.request) hsplit
  exact (update_of_taskAsks hrequest hasked hupdate).1

section Advance

variable {answers : (request : Ask) → Answer request} {i : Nat} {t t' : Task backend.system}
  {request : Ask} {answer : Answer request}

/-- A run that has written neither sends nor polls any more. -/
theorem quiet_of_moved (h : Kept sessionId d pool)
    (hadvance : Pool.Advances pool pool' answers i t t' request answer)
    (hmoved : moved sessionId t.history = true) :
    Keeps request ∧ receiptSeen ⟨request, answer⟩ = none := by
  obtain ⟨params, hq⟩ := request_of_moved (h.requests t hadvance.mem) hmoved
  have hasked := hadvance.asked (throughout_handler t.request)
  rw [hq] at hasked
  cases request with
  | updateSession id f =>
      obtain ⟨rfl, hunmoved, -⟩ := hasked
      rw [hmoved] at hunmoved
      cases hunmoved
  | addInvokeTransaction payload =>
      change moved sessionId t.history = false at hasked
      rw [hmoved] at hasked
      cases hasked
  | poll request =>
      change moved sessionId t.history = false at hasked
      rw [hmoved] at hasked
      cases hasked
  | _ => exact ⟨trivial, rfl⟩

/-- So what is known of it stays as it is. -/
theorem moved_keeps (h : Kept sessionId d pool)
    (hadvance : Pool.Advances pool pool' answers i t t' request answer)
    (hmoved : moved sessionId t.history = true) :
    blockOf t'.history = blockOf t.history ∧
      ∀ txHash, Sent t.history txHash → Sent t'.history txHash := by
  obtain ⟨hkeeps, hseen⟩ := quiet_of_moved h hadvance hmoved
  rw [hadvance.history]
  constructor
  · rw [blockOf, lastReceipt, latest_concat, hseen]
    rfl
  · exact fun txHash hsent => hsent.append (by simpa using hkeeps)

/-- A run writes the block that its transaction is included in. -/
theorem block_of_update (h : Kept sessionId d pool)
    (hadvance : Pool.Advances pool pool' answers i t t' request answer)
    (horder : InOrder sessionId pool (.advance i answers))
    (hupdate : isUpdate sessionId ⟨request, answer⟩ = true) :
    ∃ txHash, Sent t.history txHash ∧ blockOf t.history = some (backend.inclusion txHash) ∧
      d ≤ backend.inclusion txHash ∧
      (∀ other ∈ pool.tasks, moved sessionId other.history = true →
        ∀ earlier ∈ blockOf other.history, earlier ≤ backend.inclusion txHash) ∧
      reference sessionId pool' = some (backend.inclusion txHash) := by
  obtain ⟨hblock, hearlier⟩ := horder _ hadvance.turn hupdate t hadvance.found
  obtain ⟨block, hblock⟩ := Option.isSome_iff_exists.mp hblock
  have hasked := hadvance.asked (throughout_handler t.request)
  obtain ⟨-, txHash, receipt, hsent, hmem, hlast, rfl⟩ :=
    update_of_taskAsks (h.requests t hadvance.mem) hasked hupdate
  have hread : receiptBlockNumber receipt = some block := by
    rw [blockOf, hlast] at hblock
    exact hblock
  obtain rfl := h.honest t hadvance.mem txHash receipt hmem block hread
  obtain ⟨payload, hpayload⟩ := hsent.1
  refine ⟨txHash, hsent, hblock, h.sent t hadvance.mem payload txHash hpayload,
    hearlier _ hblock, ?_⟩
  have hshared : pool'.shared = pool.shared.updateSession sessionId
      (setReferenceBlock ((receiptBlockNumber receipt).getD 0)) :=
    (Prod.ext_iff.mp (Option.some.inj hadvance.served)).2.symm
  rw [reference, hshared, hread]
  simp [Shared.updateSession, setReferenceBlock]

theorem reference_of_other
    (hadvance : Pool.Advances pool pool' answers i t t' request answer)
    (hupdate : isUpdate sessionId ⟨request, answer⟩ = false) :
    reference sessionId pool' = reference sessionId pool := by
  obtain ⟨-, hsame | ⟨id, f, rfl, hsessions⟩⟩ := serve_sessions hadvance.served
  · rw [reference, hsame, reference]
  · have hne : sessionId ≠ id := fun heq => of_decide_eq_false hupdate heq.symm
    rw [reference, hsessions, Function.update_of_ne hne, reference]

theorem moved_after (hadvance : Pool.Advances pool pool' answers i t t' request answer) :
    moved sessionId t'.history =
      (moved sessionId t.history || isUpdate sessionId ⟨request, answer⟩) := by
  rw [hadvance.history, moved_concat]

/-- The write of a run that comes in order. -/
theorem latest_of_update (h : Kept sessionId d pool)
    (hadvance : Pool.Advances pool pool' answers i t t' request answer)
    (horder : InOrder sessionId pool (.advance i answers))
    (hupdate : isUpdate sessionId ⟨request, answer⟩ = true) {r : Nat}
    (hlatest : Latest sessionId pool d r) : ∃ r', r ≤ r' ∧ Latest sessionId pool' d r' := by
  obtain ⟨txHash, -, hblock, hdeployed, hearlier, hreference⟩ :=
    block_of_update h hadvance horder hupdate
  have hwritten : moved sessionId t'.history = true := by
    rw [moved_after hadvance, hupdate, Bool.or_true]
  have hafter : blockOf t'.history = some (backend.inclusion txHash) := by
    rw [hadvance.history, blockOf, lastReceipt, latest_concat]
    cases request with
    | updateSession id f => exact hblock
    | _ => cases hupdate
  refine ⟨backend.inclusion txHash, ?_, hreference, hdeployed, ?_,
    Or.inr ⟨t', hadvance.mem_after, hwritten, hafter⟩⟩
  · rcases hlatest.reached with rfl | ⟨u, hu, humoved, hublock⟩
    · exact hdeployed
    · exact hearlier u hu humoved r hublock
  · intro u hu humoved block hublock
    rcases hadvance.eq_or_mem hu with rfl | hmem
    · rw [hafter] at hublock
      exact (Option.some.inj hublock).ge
    · exact hearlier u hmem humoved block hublock

theorem latest_of_other (h : Kept sessionId d pool)
    (hadvance : Pool.Advances pool pool' answers i t t' request answer)
    (hupdate : isUpdate sessionId ⟨request, answer⟩ = false) {r : Nat}
    (hlatest : Latest sessionId pool d r) : Latest sessionId pool' d r := by
  have hmoved : moved sessionId t'.history = moved sessionId t.history := by
    rw [moved_after hadvance, hupdate, Bool.or_false]
  refine ⟨(reference_of_other hadvance hupdate).trans hlatest.known, hlatest.deployed, ?_, ?_⟩
  · intro u hu humoved block hublock
    rcases hadvance.eq_or_mem hu with rfl | hmem
    · rw [hmoved] at humoved
      rw [(moved_keeps h hadvance humoved).1] at hublock
      exact hlatest.upper t hadvance.mem humoved block hublock
    · exact hlatest.upper u hmem humoved block hublock
  · apply hlatest.reached.imp_right
    rintro ⟨u, hu, humoved, hublock⟩
    obtain ⟨j, hj⟩ := List.getElem?_of_mem hu
    rcases eq_or_ne j i with rfl | hne
    · obtain rfl := Option.some.inj (hj.symm.trans hadvance.found)
      refine ⟨t', hadvance.mem_after, hmoved.trans humoved, ?_⟩
      rw [(moved_keeps h hadvance humoved).1, hublock]
    · refine ⟨u, ?_, humoved, hublock⟩
      rw [hadvance.tasks]
      exact List.mem_of_getElem? ((List.getElem?_set_ne hne.symm).trans hj)

theorem latest_of_advance (h : Kept sessionId d pool)
    (hadvance : Pool.Advances pool pool' answers i t t' request answer)
    (horder : InOrder sessionId pool (.advance i answers)) {r : Nat}
    (hlatest : Latest sessionId pool d r) : ∃ r', r ≤ r' ∧ Latest sessionId pool' d r' := by
  cases hupdate : isUpdate sessionId ⟨request, answer⟩ with
  | true => exact latest_of_update h hadvance horder hupdate hlatest
  | false => exact ⟨r, Nat.le_refl r, latest_of_other h hadvance hupdate hlatest⟩

theorem settled_of_advance (h : Kept sessionId d pool)
    (hadvance : Pool.Advances pool pool' answers i t t' request answer)
    (horder : InOrder sessionId pool (.advance i answers))
    (hmoved : moved sessionId t'.history = true) :
    ∃ txHash, Sent t'.history txHash ∧ blockOf t'.history = some (backend.inclusion txHash) := by
  rw [moved_after hadvance, Bool.or_eq_true] at hmoved
  rcases hmoved with hbefore | hupdate
  · obtain ⟨hblock, hsent⟩ := moved_keeps h hadvance hbefore
    obtain ⟨txHash, hsame, hincluded⟩ := h.settled t hadvance.mem hbefore
    exact ⟨txHash, hsent txHash hsame, hblock.trans hincluded⟩
  · obtain ⟨txHash, hsent, hblock, -⟩ := block_of_update h hadvance horder hupdate
    refine ⟨txHash, ?_, ?_⟩
    · rw [hadvance.history]
      obtain ⟨⟨payload, hmem⟩, honly⟩ := hsent
      refine ⟨⟨payload, List.mem_append_left _ hmem⟩, fun p tx htx => ?_⟩
      rcases List.mem_append.mp htx with hold | hnew
      · exact honly p tx hold
      · cases List.mem_singleton.mp hnew
        cases hupdate
    · rw [hadvance.history, blockOf, lastReceipt, latest_concat]
      cases request with
      | updateSession id f => exact hblock
      | _ => cases hupdate

theorem kept_of_advance (h : Kept sessionId d pool)
    (hadvance : Pool.Advances pool pool' answers i t t' request answer)
    (horder : InOrder sessionId pool (.advance i answers)) : Kept sessionId d pool' where
  openBlock := by
    rw [(serve_sessions hadvance.served).1]
    exact h.openBlock
  requests := by
    intro u hu
    rcases hadvance.eq_or_mem hu with rfl | hmem
    · rw [hadvance.sameRequest]
      exact h.requests t hadvance.mem
    · exact h.requests u hmem
  sent := by
    intro u hu payload txHash hmem
    rcases hadvance.eq_or_mem hu with rfl | hold
    · rw [hadvance.history] at hmem
      rcases List.mem_append.mp hmem with hbefore | hnew
      · exact h.sent t hadvance.mem payload txHash hbefore
      · cases List.mem_singleton.mp hnew
        exact h.openBlock.trans (openBlock_le_inclusion hadvance.served)
    · exact h.sent u hold payload txHash hmem
  honest := by
    intro u hu txHash receipt hmem block hblock
    rcases hadvance.eq_or_mem hu with rfl | hold
    · rw [hadvance.history] at hmem
      rcases List.mem_append.mp hmem with hbefore | hnew
      · exact h.honest t hadvance.mem txHash receipt hbefore block hblock
      · cases List.mem_singleton.mp hnew
        exact block_of_receipt hadvance.served hblock
    · exact h.honest u hold txHash receipt hmem block hblock
  settled := by
    intro u hu hmoved
    rcases hadvance.eq_or_mem hu with rfl | hold
    · exact settled_of_advance h hadvance horder hmoved
    · exact h.settled u hold hmoved
  latest := by
    obtain ⟨r, hlatest⟩ := h.latest
    obtain ⟨r', -, hlatest'⟩ := latest_of_advance h hadvance horder hlatest
    exact ⟨r', hlatest'⟩

end Advance

/-- A request that has just come has nothing behind it. -/
theorem kept_of_arrive (h : Kept sessionId d pool) {q : Request}
    (hq : q ≠ .deployCounter sessionId) {shared : Shared} (hshared : shared = pool.shared) :
    Kept sessionId d ⟨shared, pool.tasks ++ [Task.start backend.system q]⟩ := by
  subst hshared
  have hcases (t : Task backend.system) (ht : t ∈ pool.tasks ++ [Task.start backend.system q]) :
      t ∈ pool.tasks ∨ t.request = q ∧ t.history = [] := by
    rcases List.mem_append.mp ht with hold | hnew
    · exact Or.inl hold
    · rw [List.mem_singleton.mp hnew]
      exact Or.inr ⟨rfl, rfl⟩
  have hmoved (t : Task backend.system) (ht : t ∈ pool.tasks ++ [Task.start backend.system q])
      (hmoved : moved sessionId t.history = true) : t ∈ pool.tasks := by
    rcases hcases t ht with hold | ⟨-, hempty⟩
    · exact hold
    · rw [hempty] at hmoved
      cases hmoved
  refine ⟨h.openBlock, ?_, ?_, ?_, fun t ht hm => h.settled t (hmoved t ht hm) hm, ?_⟩
  · intro t ht
    rcases hcases t ht with hold | ⟨hrequest, -⟩
    · exact h.requests t hold
    · rwa [hrequest]
  · intro t ht payload txHash hmem
    rcases hcases t ht with hold | ⟨-, hempty⟩
    · exact h.sent t hold payload txHash hmem
    · rw [hempty] at hmem
      exact absurd hmem List.not_mem_nil
  · intro t ht txHash receipt hmem
    rcases hcases t ht with hold | ⟨-, hempty⟩
    · exact h.honest t hold txHash receipt hmem
    · rw [hempty] at hmem
      exact absurd hmem List.not_mem_nil
  · obtain ⟨r, hlatest⟩ := h.latest
    refine ⟨r, hlatest.known, hlatest.deployed,
      fun t ht hm => hlatest.upper t (hmoved t ht hm) hm, ?_⟩
    apply hlatest.reached.imp_right
    rintro ⟨t, ht, hreached⟩
    exact ⟨t, List.mem_append_left _ ht, hreached⟩

/-- One move keeps what is known, and the reference block does not fall. -/
theorem Kept.step {move : ServerMove}
    (hmeet : NotRedeployed sessionId move ∧ InOrder sessionId pool move)
    (h : Kept sessionId d pool) {r : Nat} (hlatest : Latest sessionId pool d r)
    (hstep : pool.step move = .ok pool') :
    Kept sessionId d pool' ∧ ∃ r', r ≤ r' ∧ Latest sessionId pool' d r' := by
  obtain ⟨hstays, horder⟩ := hmeet
  cases move with
  | arrive q =>
      obtain rfl := Pool.arrive_eq_ok_iff.mp hstep
      have hkept : Kept sessionId d
          { pool with tasks := pool.tasks ++ [Task.start backend.system q] } :=
        kept_of_arrive h (fun hq => hstays (by rw [hq])) rfl
      obtain ⟨r', hlatest'⟩ := hkept.latest
      have hsame : r = r' := Option.some.inj (hlatest.known.symm.trans hlatest'.known)
      exact ⟨hkept, r', hsame.le, hlatest'⟩
  | outside env =>
      obtain ⟨shared, houtside, rfl⟩ := Pool.outside_eq_ok_iff.mp hstep
      cases houtside
      refine ⟨⟨h.openBlock.trans (Nat.le_succ _), h.requests, h.sent, h.honest, h.settled, r, ?_⟩,
        r, Nat.le_refl r, ?_⟩
      · exact ⟨hlatest.known, hlatest.deployed, hlatest.upper, hlatest.reached⟩
      · exact ⟨hlatest.known, hlatest.deployed, hlatest.upper, hlatest.reached⟩
  | advance i answers =>
      obtain ⟨t, t', request, answer, hadvance⟩ := Pool.advances_of_step hstep
      exact ⟨kept_of_advance h hadvance horder, latest_of_advance h hadvance horder hlatest⟩

theorem Kept.run {r : Nat} (h : Kept sessionId d pool) (hlatest : Latest sessionId pool d r)
    {moves : List ServerMove}
    (hmeet : AllMeet Pool.step
      (fun pool move => NotRedeployed sessionId move ∧ InOrder sessionId pool move) pool moves) :
    Kept sessionId d (after pool moves) ∧
      ∃ r', r ≤ r' ∧ Latest sessionId (after pool moves) d r' := by
  apply run_keeps_while (P := fun pool => Kept sessionId d pool ∧
    ∃ r', r ≤ r' ∧ Latest sessionId pool d r') _ ⟨h, r, Nat.le_refl r, hlatest⟩ hmeet
  rintro p move p' hmove ⟨hkept, r', hle, hlatest'⟩ hstep
  obtain ⟨hkept', r'', hle', hlatest''⟩ := hkept.step hmove hlatest' hstep
  exact ⟨hkept', r'', hle.trans hle', hlatest''⟩

theorem Deployed.kept (h : Deployed sessionId d pool) :
    Kept sessionId d pool ∧ Latest sessionId pool d d := by
  have hnone (t : Task backend.system) : t ∉ pool.tasks := by
    rw [h.tasks]
    exact List.not_mem_nil
  have hlatest : Latest sessionId pool d d :=
    ⟨h.reference, Nat.le_refl d, fun t ht => absurd ht (hnone t), Or.inl rfl⟩
  exact ⟨⟨h.openBlock, fun t ht => absurd ht (hnone t), fun t ht => absurd ht (hnone t),
    fun t ht => absurd ht (hnone t), fun t ht => absurd ht (hnone t), d, hlatest⟩, hlatest⟩

/-- A run that has succeeded is among those that have written. -/
theorem inclusion_le_of_streamed {r : Nat} (h : Kept sessionId d pool)
    (hlatest : Latest sessionId pool d r) {t : Task backend.system} (ht : t ∈ pool.tasks)
    {params : ProveBlockQuery} (hq : t.request = .proveBlock sessionId params)
    (houtcome : t.outcome? = some (.ok .streamed)) {payload : Json} {txHash : String}
    (hmem : ⟨.addInvokeTransaction payload, .ok txHash⟩ ∈ t.history) :
    backend.inclusion txHash ≤ r := by
  have hmoved : moved sessionId t.history = true := by
    have hends := t.follows.throughout (throughout_handler t.request)
    unfold Task.outcome? at houtcome
    split at houtcome
    · rename_i outcome hdone
      cases houtcome
      rw [hdone, hq] at hends
      exact hends rfl
    · cases houtcome
  obtain ⟨tx, hsent, hblock⟩ := h.settled t ht hmoved
  obtain rfl := hsent.2 payload txHash hmem
  exact hlatest.upper t ht hmoved _ hblock

end Step

/-- In a run in which the runs of the session write in order. -/
theorem reference_moves_forward {d : Nat} (pool : Pool backend.system)
    (hdeployed : Deployed sessionId d pool) (moves later : List ServerMove)
    (hmeet : AllMeet Pool.step
      (fun pool move => NotRedeployed sessionId move ∧ InOrder sessionId pool move) pool
      (moves ++ later)) : MovesForward sessionId d pool moves later := by
  obtain ⟨hmoves, hlater⟩ := allMeet_append.mp hmeet
  obtain ⟨hkept, hlatest⟩ := hdeployed.kept
  obtain ⟨hkept, r, -, hlatest⟩ := hkept.run hlatest hmoves
  obtain ⟨-, r', hle, hlatest'⟩ := hkept.run hlatest hlater
  have honly : ∀ r₁ ∈ reference sessionId (after pool moves), r₁ = r := fun r₁ hr₁ =>
    Option.some.inj (hr₁.symm.trans hlatest.known)
  refine ⟨⟨r, r', hlatest.known, ?_, hle⟩, ?_, ?_⟩
  · rw [after, run_append]
    exact hlatest'.known
  · intro r₁ hr₁
    rw [honly r₁ hr₁]
    exact hlatest.deployed
  · intro r₁ hr₁ t ht params hq houtcome payload txHash hmem
    rw [honly r₁ hr₁]
    exact inclusion_le_of_streamed hkept hlatest ht hq houtcome hmem

end Pools

/-! ### Runs of a session -/

theorem deployed_sampleStart : Deployed "s" 3 sampleStart :=
  ⟨rfl, rfl, rfl, by decide⟩

/-- Two requests for the session. -/
def twoRequests : List ServerMove :=
  [.arrive (.proveBlock "s" ⟨1, 1⟩), .arrive (.proveBlock "s" ⟨2, 1⟩)]

/-- Steps of the first run, whose transaction is included in block 11. -/
def firstSteps (n : Nat) : List ServerMove :=
  List.replicate n (.advance 0 (smoothly "0xa" (.num 11)))

/-- Steps of the second run, whose transaction is included in block 12. -/
def secondSteps (n : Nat) : List ServerMove :=
  List.replicate n (.advance 1 (smoothly "0xb" (.num 12)))

/-- The second run starts from where the first has ended. -/
theorem reference_moves_forward_sample :
    MovesForward "s" 3 sampleStart (twoRequests ++ firstSteps 33 ++ secondSteps 23)
      (secondSteps 10) :=
  reference_moves_forward "s" sampleStart deployed_sampleStart _ _ (by decide +kernel)

/-- A run whose receipt has `null` for the number of the block. -/
def nullRun : List ServerMove :=
  .arrive (.proveBlock "s" ⟨1, 1⟩) :: List.replicate 33 (.advance 0 (smoothly "0xa" .null))

/-- A block number that is there but cannot be read counts as zero. -/
theorem reference_moves_back :
    ¬ ∀ (backend : Backend) (sessionId : String) (d : Nat) (pool : Pool backend.system)
        (moves later : List ServerMove), Deployed sessionId d pool →
        (∀ move ∈ moves ++ later, NotRedeployed sessionId move) →
        MovesForward sessionId d pool moves later := by
  intro hclaim
  have hforward := hclaim sample "s" 3 sampleStart [] nullRun deployed_sampleStart
    (by decide +kernel)
  obtain ⟨r, r', hr, hr', hle⟩ := hforward.known
  have hbefore : reference "s" (after sampleStart []) = some 3 := by decide +kernel
  have hafter : reference "s" (after sampleStart nullRun) = some 0 := by decide +kernel
  cases hbefore.symm.trans hr
  cases hafter.symm.trans hr'
  exact absurd hle (by decide)

end Snip36.ReferenceBlock
