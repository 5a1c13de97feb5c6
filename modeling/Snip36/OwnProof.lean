import Snip36.CounterAsks

/-!
Whether each run of a cycle submits its own proof. The files are named by the
session only, so that runs of one session share them.
-/

namespace Snip36.OwnProof

open CoinFlipPlay (readFelts trim)
open CoinFlipState (Config)
open CounterAsks
open CounterRoutes
open CounterServer
open CounterState
open Library.Fallible
open Library.Interaction
open Library.Interaction.Program
open Library.Interleaving
open Library.KeyedLog
open Payload

/-! ### The files of a run -/

/-- The files that a run reads back, itself or by its prover. -/
def inputs (config : Config) : Request → List String
  | .deployCounter _ => []
  | .proveBlock sessionId _ =>
      [txPath config sessionId, proofPath config sessionId, factsPath config sessionId]

/-- After such an exchange the run reads nothing more. -/
def givesUp : Event Ask Answer → Bool
  | ⟨.startProver _ _, .error _⟩ => true
  | ⟨.proverExited success, _⟩ => !success
  | ⟨.readFile _, .error _⟩ => true
  | ⟨.proverReads _, .error _⟩ => true
  | _ => false

/-- Whether what was written to the file is still to be read, after one exchange more. -/
def waits (path : String) (waiting : Bool) (event : Event Ask Answer) : Bool :=
  if (stored event).map Prod.fst = some path then true
  else if givesUp event ∨ (touched event).map Prod.fst = some path ∨
      (fetched event).map Prod.fst = some path then false
  else waiting

def toRead (history : History Ask Answer) (path : String) : Bool :=
  history.foldl (waits path) false

/-- The task that was the last to change each file. -/
def writer (log : List (Nat × Event Ask Answer)) : String → Option Nat :=
  latest (fun said => (touched said.2).map fun entry => (entry.1, said.1)) log

/-! ### What a run submits -/

/-- The calldata of a transaction that was written down. -/
def jsonCalldata (api : CounterApi) (json : Json) : Option (List Felt) :=
  (json.field (Json.elements Json.asStr) "calldata").bind fun strings =>
    (readFelts api.toServerApi strings).toOption

/-- A transaction that was written down, the files that were read, and what was
signed. -/
structure Submission where
  json : Json
  proof : String
  facts : String
  params : SubmitParams

section Submits

variable (api : CounterApi) (config : Config) (sessionId : String)

/-- The payload is that of the transaction and of the files. -/
structure Builds (history : History Ask Answer) (payload : Json) (s : Submission) : Prop where
  wrote : ⟨.writeFile (txPath config sessionId) (api.pretty s.json), .ok ()⟩ ∈ history
  readProof : ⟨.readFile (proofPath config sessionId), .ok s.proof⟩ ∈ history
  readFacts : ⟨.readFile (factsPath config sessionId), .ok s.facts⟩ ∈ history
  calldata : jsonCalldata api s.json = some s.params.calldata
  proof : s.params.proofBase64 = trim s.proof
  proofFacts : readProofFacts api s.facts = .ok s.params.proofFacts
  signed : ∃ txHash, signAndBuildPayload api.crypto s.params = .ok (txHash, payload)

/-- The prover of the run has read the transaction of the run, and the proof and
the facts are those that it has written. -/
structure IsOwn (history : History Ask Answer) (s : Submission) : Prop where
  proved : ⟨.proverReads (txPath config sessionId), .ok (api.pretty s.json)⟩ ∈ history
  proof : ⟨.proverWrites (proofPath config sessionId) s.proof, .ok ()⟩ ∈ history
  facts : ⟨.proverWrites (factsPath config sessionId) s.facts, .ok ()⟩ ∈ history

/-- The prover has read its input when the transaction was what the run had
written there. -/
def ProverTook (history : History Ask Answer) (json : Json) : Prop :=
  ∃ before text, before ++ [⟨.proverReads (txPath config sessionId), .ok text⟩] <+: history ∧
    latest stored before (txPath config sessionId) = some (api.pretty json)

def Submits (history : History Ask Answer) (payload : Json) : Prop :=
  ∃ s, Builds api config sessionId history payload s ∧
    ProverTook api config sessionId history s.json

end Submits

/-- What the prover does between the reading of its input and its end. -/
def IsProducing : Ask → Prop
  | .proverAsks _ => True
  | .proverWrites _ _ => True
  | _ => False

/-- The last write of the prover to a file has succeeded. -/
def Left (path : String) (said : History Ask Answer) : Prop :=
  ∃ before text later, said = before ++ ⟨.proverWrites path text, .ok ()⟩ :: later ∧
    ∀ event ∈ later, (touched event).map Prod.fst ≠ some path

/-- A prover reads its transaction once, at the start. When it ends well, it has
written the proof and the facts. -/
def Proves (prover : Program Ask Answer Unit Unit) (tx proof facts : String) : Prop :=
  ∃ produce : String → Program Ask Answer Unit Unit,
    prover = (do
      match ← (ask (Ask.proverReads tx) : Program Ask Answer Unit _) with
      | .ok text => produce text
      | .error _ => .done (.err ())) ∧
    ∀ text, Throughout (fun _ => IsProducing)
      (Returning fun said _ => Left proof said ∧ Left facts said) [] (produce text)

/-! ### Waiting -/

section Waiting

variable {history said : History Ask Answer} {event : Event Ask Answer} {path text : String}

@[simp] theorem toRead_nil (path : String) : toRead [] path = false := rfl

theorem toRead_concat (history : History Ask Answer) (event : Event Ask Answer) (path : String) :
    toRead (history ++ [event]) path = waits path (toRead history path) event := by
  rw [toRead, List.foldl_append]
  rfl

theorem waits_of_stored (h : stored event = some (path, text)) (waiting : Bool) :
    waits path waiting event = true := by
  simp [waits, h]

theorem stored_or_of_waits {waiting : Bool} (h : waits path waiting event = true) :
    (∃ text, stored event = some (path, text)) ∨
      (touched event).map Prod.fst ≠ some path ∧ waiting = true := by
  unfold waits at h
  split at h
  · rename_i hstored
    obtain ⟨⟨p, text⟩, hevent, rfl⟩ := Option.map_eq_some_iff.mp hstored
    exact Or.inl ⟨text, hevent⟩
  · split at h
    · cases h
    · rename_i hnot
      exact Or.inr ⟨fun htouched => hnot (Or.inr (Or.inl htouched)), h⟩

/-- Exchanges that have nothing to do with the files. -/
def Idle (event : Event Ask Answer) : Prop :=
  touched event = none ∧ fetched event = none ∧ givesUp event = false

theorem Idle.stored_eq_none (h : Idle event) : stored event = none := by
  cases hstored : stored event with
  | none => rfl
  | some file => cases h.1.symm.trans (touched_of_stored hstored)

theorem waits_of_idle (h : Idle event) (waiting : Bool) : waits path waiting event = waiting := by
  have hstored := h.stored_eq_none
  obtain ⟨htouched, hfetched, hgives⟩ := h
  simp [waits, hstored, htouched, hfetched, hgives]

theorem toRead_append_of_idle (h : ∀ event ∈ said, Idle event) :
    toRead (history ++ said) path = toRead history path := by
  induction said using List.reverseRecOn with
  | nil => rw [List.append_nil]
  | append_singleton said event ih =>
      rw [← List.append_assoc, toRead_concat, waits_of_idle (h event (by simp))]
      exact ih fun e he => h e (List.mem_append_left _ he)

theorem idle_of_isQuiet (h : IsQuiet event.request) : Idle event := by
  obtain ⟨request, answer⟩ := event
  cases request with
  | getSession id => exact ⟨rfl, rfl, rfl⟩
  | getNonceAtBlock account block => exact ⟨rfl, rfl, rfl⟩
  | createDir path => exact ⟨rfl, rfl, rfl⟩
  | fileExists path => exact ⟨rfl, rfl, rfl⟩
  | fileSize path => exact ⟨rfl, rfl, rfl⟩
  | sleep seconds => exact ⟨rfl, rfl, rfl⟩
  | call contractAddress selector => exact ⟨rfl, rfl, rfl⟩
  | send event data => exact ⟨rfl, rfl, rfl⟩
  | sendJson event data => exact ⟨rfl, rfl, rfl⟩
  | _ => exact h.elim

/-- What the prover has left is to be read when it ends. -/
theorem toRead_of_left (hproducing : ∀ event ∈ said, IsProducing event.request)
    (hleft : Left path said) : toRead (history ++ said) path = true := by
  obtain ⟨before, text, later, rfl, hlater⟩ := hleft
  induction later using List.reverseRecOn with
  | nil =>
      rw [← List.append_assoc, toRead_concat]
      exact waits_of_stored rfl _
  | append_singleton later event ih =>
      have hconcat : before ++ ⟨.proverWrites path text, .ok ()⟩ :: (later ++ [event]) =
          (before ++ ⟨.proverWrites path text, .ok ()⟩ :: later) ++ [event] := by simp
      rw [hconcat] at hproducing ⊢
      have hwaiting := ih (fun e he => hlater e (List.mem_append_left _ he))
        fun e he => hproducing e (List.mem_append_left _ he)
      have hevent := hproducing event (by simp)
      have htouched := hlater event (by simp)
      rw [← List.append_assoc, toRead_concat, hwaiting]
      obtain ⟨request, answer⟩ := event
      cases request with
      | proverAsks question => simp [waits, stored, touched, fetched, givesUp]
      | proverWrites p t => simp [waits, fetched, givesUp, htouched]
      | _ => exact hevent.elim

end Waiting

/-! ### The paths -/

theorem getLast?_append_of {s t : String} {c : Char} (h : t.toList.getLast? = some c) :
    (s ++ t).toList.getLast? = some c := by
  simp [String.toList_append, List.getLast?_append, h]

theorem getLast?_joinPath {dir name : String} {c : Char} (h : name.toList.getLast? = some c) :
    (joinPath dir name).toList.getLast? = some c := by
  unfold joinPath
  split
  · exact h
  · split
    · exact getLast?_append_of h
    · exact getLast?_append_of h

section Paths

variable (config : Config) (sessionId : String)

theorem getLast?_txPath : (txPath config sessionId).toList.getLast? = some 'n' :=
  getLast?_joinPath (getLast?_append_of (by decide))

theorem getLast?_proofPath : (proofPath config sessionId).toList.getLast? = some 'f' :=
  getLast?_joinPath (getLast?_append_of (by decide))

theorem getLast?_factsPath : (factsPath config sessionId).toList.getLast? = some 's' :=
  getLast?_append_of (by decide)

theorem txPath_ne_proofPath : txPath config sessionId ≠ proofPath config sessionId := by
  intro h
  have hlast := getLast?_proofPath config sessionId
  rw [← h, getLast?_txPath] at hlast
  cases hlast

theorem txPath_ne_factsPath : txPath config sessionId ≠ factsPath config sessionId := by
  intro h
  have hlast := getLast?_factsPath config sessionId
  rw [← h, getLast?_txPath] at hlast
  cases hlast

theorem factsPath_ne_proofPath : factsPath config sessionId ≠ proofPath config sessionId := by
  intro h
  have hlast := getLast?_proofPath config sessionId
  rw [← h, getLast?_factsPath] at hlast
  cases hlast

end Paths

/-! ### What a run asks for -/

section Run

variable (api : CounterApi) (config : Config) (task : ProveTask)

/-- A run reads what is to be read, writes its transaction only, and submits what
it has put together. -/
def OwnAsks (api : CounterApi) (config : Config) (sessionId : String)
    (history : History Ask Answer) : Ask → Prop
  | .writeFile path _ => path = txPath config sessionId
  | .proverReads path => path = txPath config sessionId ∧ toRead history path = true
  | .readFile path => path ∈ [proofPath config sessionId, factsPath config sessionId] ∧
      toRead history path = true
  | .addInvokeTransaction payload => Submits api config sessionId history payload
  | _ => True

theorem ownAsks_of_isLate {sessionId : String} {history : History Ask Answer} {request : Ask}
    (h : IsLate request) : OwnAsks api config sessionId history request := by
  cases request with
  | writeFile path text => exact h.elim
  | readFile path => exact h.elim
  | proverReads path => exact h.elim
  | addInvokeTransaction payload => exact h.elim
  | _ => trivial

theorem ownAsks_of_isQuiet {sessionId : String} {history : History Ask Answer} {request : Ask}
    (h : IsQuiet request) : OwnAsks api config sessionId history request :=
  ownAsks_of_isLate api config (isLate_of_isQuiet request h)

/-- The transaction of a run is written down and to be read. -/
structure TxWritten (history : History Ask Answer) (tx : ProveTransaction) (json : Json) :
    Prop where
  wrote : ⟨.writeFile (txPath config task.sessionId) (api.pretty json), .ok ()⟩ ∈ history
  last : latest stored history (txPath config task.sessionId) = some (api.pretty json)
  toRead : toRead history (txPath config task.sessionId) = true
  calldata : jsonCalldata api json = some tx.calldata

theorem TxWritten.append {history said : History Ask Answer} {tx : ProveTransaction} {json : Json}
    (h : TxWritten api config task history tx json) (hsaid : ∀ event ∈ said, Idle event) :
    TxWritten api config task (history ++ said) tx json where
  wrote := List.mem_append_left _ h.wrote
  last := by
    rw [latest_append_of_none fun event hevent => (hsaid event hevent).stored_eq_none]
    exact h.last
  toRead := by
    rw [toRead_append_of_idle hsaid]
    exact h.toRead
  calldata := h.calldata

theorem TxWritten.concat {history : History Ask Answer} {event : Event Ask Answer}
    {tx : ProveTransaction} {json : Json} (h : TxWritten api config task history tx json)
    (hevent : Idle event) : TxWritten api config task (history ++ [event]) tx json :=
  h.append api config task (by simpa using hevent)

/-- The prover has ended well: its files are to be read. -/
structure Proved (history : History Ask Answer) (tx : ProveTransaction) (json : Json) : Prop where
  wrote : ⟨.writeFile (txPath config task.sessionId) (api.pretty json), .ok ()⟩ ∈ history
  took : ProverTook api config task.sessionId history json
  proof : toRead history (proofPath config task.sessionId) = true
  facts : toRead history (factsPath config task.sessionId) = true
  calldata : jsonCalldata api json = some tx.calldata

theorem ProverTook.mono {sessionId : String} {history later : History Ask Answer} {json : Json}
    (h : ProverTook api config sessionId history json) (hlater : history <+: later) :
    ProverTook api config sessionId later json := by
  obtain ⟨before, text, hprefix, hlast⟩ := h
  exact ⟨before, text, hprefix.trans hlater, hlast⟩

theorem Proved.append {history said : History Ask Answer} {tx : ProveTransaction} {json : Json}
    (h : Proved api config task history tx json) (hsaid : ∀ event ∈ said, Idle event) :
    Proved api config task (history ++ said) tx json where
  wrote := List.mem_append_left _ h.wrote
  took := ProverTook.mono api config h.took (List.prefix_append history said)
  proof := by
    rw [toRead_append_of_idle hsaid]
    exact h.proof
  facts := by
    rw [toRead_append_of_idle hsaid]
    exact h.facts
  calldata := h.calldata

theorem Proved.concat {history : History Ask Answer} {event : Event Ask Answer}
    {tx : ProveTransaction} {json : Json} (h : Proved api config task history tx json)
    (hevent : Idle event) : Proved api config task (history ++ [event]) tx json :=
  h.append api config task (by simpa using hevent)

theorem jsonCalldata_txJson {calldata : List Felt}
    (h : readFelts api.toServerApi task.calldata = .ok calldata) (nonce : Nat) (sig : Signature) :
    jsonCalldata api (txJson config task nonce sig) = some calldata := by
  have hfield : (txJson config task nonce sig).field (Json.elements Json.asStr) "calldata" =
      some task.calldata := by
    unfold Json.field txJson
    simp only [Json.get?_obj_cons, reduceIte, String.reduceEq, Option.bind_some]
    exact Json.elements_arr_map (List.forall₂_same.mpr fun _ _ => rfl)
  rw [jsonCalldata, hfield, Option.bind_some, h]
  rfl

theorem own_signTransaction (history : History Ask Answer) :
    Throughout (OwnAsks api config task.sessionId)
      (Returning fun _ signed => readFelts api.toServerApi task.calldata = .ok signed.1.calldata)
      history (signTransaction api config task) := by
  apply throughout_orStreamError fun _ _ => trivial
  intro calldata hcalldata
  apply throughout_orStreamError fun _ _ => trivial
  intro sender _
  apply throughout_orStreamError fun _ _ => trivial
  intro privateKey _
  apply throughout_orStreamError fun _ _ => trivial
  intro chainId _
  refine ⟨trivial, fun answered => ?_⟩
  apply throughout_orStreamError fun _ _ => trivial
  intro nonce _
  apply throughout_orStreamError fun _ _ => trivial
  intro sig _
  exact returning_ok_iff.mpr hcalldata

theorem own_constructTransaction (history : History Ask Answer) :
    Throughout (OwnAsks api config task.sessionId)
      (Returning fun later tx => ∃ json, TxWritten api config task later tx json)
      history (constructTransaction api config task) := by
  refine ⟨trivial, fun _ => ?_⟩
  apply (own_signTransaction api config task _).then
  rintro later ⟨tx, sig⟩ - hcalldata
  refine ⟨trivial, fun created => ?_⟩
  apply throughout_orStreamError fun _ _ => trivial
  intro _ _
  refine ⟨rfl, fun written => ?_⟩
  apply throughout_orStreamError fun _ _ => trivial
  intro _ hwritten
  obtain rfl := mapError_eq_ok_iff.mp hwritten
  refine ⟨trivial, fun _ => returning_ok_iff.mpr ⟨txJson config task tx.nonce sig, ?_⟩⟩
  apply TxWritten.concat
  · constructor
    · exact List.mem_append_right _ (List.mem_singleton.mpr rfl)
    · rw [latest_concat]
      exact put_self _ _ _
    · rw [toRead_concat]
      exact waits_of_stored rfl _
    · exact jsonCalldata_txJson api config task hcalldata tx.nonce sig
  · exact idle_of_isQuiet trivial

section Proving

variable {history : History Ask Answer} {tx : ProveTransaction} {json : Json}

theorem own_prover (hproves : Proves (api.prover (proveArgs config task))
      (txPath config task.sessionId) (proofPath config task.sessionId)
      (factsPath config task.sessionId))
    (h : TxWritten api config task history tx json) :
    Throughout (OwnAsks api config task.sessionId)
      (fun later outcome => succeeded outcome = true → Proved api config task later tx json)
      history (api.prover (proveArgs config task)) := by
  obtain ⟨produce, hprover, hproduce⟩ := hproves
  rw [hprover]
  refine ⟨⟨rfl, h.toRead⟩, fun answer => ?_⟩
  cases answer with
  | error e => exact nofun
  | ok text =>
      change Throughout _ _ _ (produce text)
      rw [← List.append_nil (history ++ _), throughout_append]
      apply (hproduce text).only.mono
      · intro said request _ hrequest
        cases request with
        | proverAsks question => trivial
        | proverWrites path text => trivial
        | _ => exact hrequest.elim
      · rintro _ outcome - ⟨hleft, said, rfl, hsaid⟩ hsucceeded
        cases outcome with
        | ok value =>
            obtain ⟨hproof, hfacts⟩ := returning_ok_iff.mp hleft
            constructor
            · exact List.mem_append_left _ (List.mem_append_left _ h.wrote)
            · exact ⟨history, text, List.prefix_append _ _, h.last⟩
            · exact toRead_of_left hsaid hproof
            · exact toRead_of_left hsaid hfacts
            · exact h.calldata
        | err error => cases hsucceeded
        | panicked message => cases hsucceeded

theorem own_runProver (hproves : Proves (api.prover (proveArgs config task))
      (txPath config task.sessionId) (proofPath config task.sessionId)
      (factsPath config task.sessionId))
    (h : TxWritten api config task history tx json) :
    Throughout (OwnAsks api config task.sessionId)
      (Returning fun later ended => ended = true → Proved api config task later tx json)
      history (runProver api config task) := by
  refine ⟨trivial, fun started => ?_⟩
  apply throughout_orStreamError fun _ _ => trivial
  rintro ⟨⟩ rfl
  have hstarted := h.concat api config task
    (show Idle ⟨.startProver config.snip36Bin (proveArgs config task), .ok ()⟩ from
      ⟨rfl, rfl, rfl⟩)
  rw [throughout_returning_bind, throughout_attempt]
  apply (own_prover api config task hproves hstarted).mono fun _ _ _ hasks => hasks
  rintro later outcome - hproved _ ⟨⟩
  refine ⟨trivial, fun _ => returning_ok_iff.mpr fun hsucceeded => ?_⟩
  exact (hproved hsucceeded).concat api config task ⟨rfl, rfl, by simp [givesUp, hsucceeded]⟩

/-- Quiet requests keep what is known of the proof. -/
theorem Proved.throughout_quiet {α : Type} {first : Handler α} (hfirst : OnlyAsks IsQuiet first)
    (h : Proved api config task history tx json) :
    Throughout (OwnAsks api config task.sessionId)
      (Returning fun later _ => Proved api config task later tx json) history first := by
  apply throughout_of_onlyAsks hfirst
  · exact fun said request _ hrequest => ownAsks_of_isQuiet api config hrequest
  · intro said outcome hsaid value _
    exact h.append api config task fun event hevent => idle_of_isQuiet (hsaid event hevent)

theorem own_prove (hproves : Proves (api.prover (proveArgs config task))
      (txPath config task.sessionId) (proofPath config task.sessionId)
      (factsPath config task.sessionId))
    (h : TxWritten api config task history tx json) :
    Throughout (OwnAsks api config task.sessionId)
      (Returning fun later _ => Proved api config task later tx json)
      history (prove api config task) := by
  apply throughout_ask trivial
  intro _
  apply throughout_ask trivial
  intro _
  apply Throughout.then
  · apply own_runProver api config task hproves
    apply TxWritten.concat
    · exact h.concat api config task (idle_of_isQuiet (by trivial))
    · exact idle_of_isQuiet (by trivial)
  · intro later ended _ hproved
    cases ended with
    | false => exact ⟨trivial, fun _ => returning_err _⟩
    | true =>
        refine ⟨trivial, fun found => ?_⟩
        cases found with
        | false => exact ⟨trivial, fun _ => returning_err _⟩
        | true =>
            apply Proved.throughout_quiet api config task
            · refine ⟨trivial, fun proofSize => ⟨trivial, fun _ => ?_⟩⟩
              have hannounced := onlyAsks_of_unreported (onlyAsks_announceMessages config task)
              exact hannounced.bind fun _ => trivial
            · exact (hproved rfl).concat api config task (idle_of_isQuiet (by trivial))

/-- Both files are read while they are to be read. -/
theorem own_readProof (h : Proved api config task history tx json) :
    Throughout (OwnAsks api config task.sessionId)
      (Returning fun later read =>
        ⟨.readFile (proofPath config task.sessionId), .ok read.1⟩ ∈ later ∧
        ∃ facts, ⟨.readFile (factsPath config task.sessionId), .ok facts⟩ ∈ later ∧
          readProofFacts api facts = .ok read.2)
      history (readProof api config task) := by
  apply throughout_ask ⟨by simp, h.proof⟩
  intro proofText
  apply throughout_orStreamError fun _ _ => trivial
  rintro proof rfl
  apply throughout_ask
  · refine ⟨by simp, ?_⟩
    rw [toRead_concat, ← h.facts]
    simp [waits, stored, touched, fetched, givesUp, (factsPath_ne_proofPath config task.sessionId).symm]
  · intro factsText
    apply throughout_orStreamError fun _ _ => trivial
    rintro facts rfl
    apply throughout_orStreamError fun _ _ => trivial
    intro proofFacts hproofFacts
    exact returning_ok_iff.mpr ⟨by simp, facts, by simp, hproofFacts⟩

theorem Submits.mono {sessionId : String} {later : History Ask Answer} {payload : Json}
    (h : Submits api config sessionId history payload) (hlater : history <+: later) :
    Submits api config sessionId later payload := by
  obtain ⟨s, hbuilds, htook⟩ := h
  exact ⟨s, ⟨hlater.subset hbuilds.wrote, hlater.subset hbuilds.readProof,
    hlater.subset hbuilds.readFacts, hbuilds.calldata, hbuilds.proof, hbuilds.proofFacts,
    hbuilds.signed⟩, htook.mono api config hlater⟩

theorem own_addTransaction {sessionId : String} {payload : Json} (attempts : Nat)
    (h : Submits api config sessionId history payload) :
    Throughout (OwnAsks api config sessionId) (Returning fun _ _ => True) history
      (addTransaction payload attempts) := by
  apply throughout_of_onlyAsks (onlyAsks_addTransaction payload attempts)
  · intro said request _ hrequest
    cases request with
    | addInvokeTransaction p =>
        obtain rfl : p = payload := hrequest
        exact h.mono api config (List.prefix_append history said)
    | send event data => trivial
    | sleep seconds => trivial
    | _ => exact hrequest.elim
  · exact fun _ _ _ _ _ => trivial

theorem own_submit (h : Proved api config task history tx json) :
    Throughout (OwnAsks api config task.sessionId) (Returning fun _ _ => True) history
      (submit api config task tx) := by
  apply throughout_ask trivial
  intro _
  apply Throughout.then
  · apply own_readProof api config task
    exact h.concat api config task (idle_of_isQuiet (by trivial))
  rintro later ⟨proof, proofFacts⟩ hlater ⟨hproof, facts, hfacts, hproofFacts⟩
  apply throughout_orStreamError fun _ _ => trivial
  rintro ⟨localTxHash, invokeTx⟩ hsigned
  apply throughout_ask trivial
  intro _
  apply own_addTransaction
  have hearlier := (List.prefix_append history _).trans hlater
  refine Submits.mono api config ⟨⟨json, proof, facts, tx.submitParams proof proofFacts⟩, ?_,
    h.took.mono api config hearlier⟩ (List.prefix_append later _)
  constructor
  · exact hearlier.subset h.wrote
  · exact hproof
  · exact hfacts
  · exact h.calldata
  · rfl
  · exact hproofFacts
  · cases hsign : signAndBuildPayload api.crypto (tx.submitParams proof proofFacts) with
    | ok signed =>
        rw [hsign] at hsigned
        cases hsigned
        exact ⟨localTxHash, rfl⟩
    | error e =>
        rw [hsign] at hsigned
        cases hsigned

end Proving

/-- What is left of a program that is late asks nothing that matters. -/
theorem own_of_isLate {α : Type} {sessionId : String} {history : History Ask Answer}
    {program : Handler α} (h : OnlyAsks IsLate program) :
    Throughout (OwnAsks api config sessionId) (Returning fun _ _ => True) history program := by
  apply throughout_of_onlyAsks h
  · exact fun said request _ hrequest => ownAsks_of_isLate api config hrequest
  · exact fun _ _ _ _ _ => trivial

theorem own_runCycle (hproves : Proves (api.prover (proveArgs config task))
      (txPath config task.sessionId) (proofPath config task.sessionId)
      (factsPath config task.sessionId)) (history : History Ask Answer) :
    Throughout (OwnAsks api config task.sessionId) (Returning fun _ _ => True) history
      (runCycle api config task) := by
  apply throughout_phase (onlyAsks_announceCycle (P := IsQuiet) (fun _ _ => trivial) api task)
  · exact fun said request hrequest => ownAsks_of_isQuiet api config hrequest
  intro said expectedIncrement
  apply (own_constructTransaction api config task _).then
  rintro written tx - ⟨json, hwritten⟩
  apply (own_prove api config task hproves hwritten).then
  intro proved proofSize _ hproved
  apply (own_submit api config task hproved).then
  intro submitted rpcTxHash _ _
  apply own_of_isLate
  exact (onlyAsks_of_unreported (onlyAsks_verifyInclusion api task rpcTxHash)).bind fun _ =>
    onlyAsks_report task rpcTxHash proofSize expectedIncrement

theorem own_proveBlock (hproves : ∀ task, Proves (api.prover (proveArgs config task))
      (txPath config task.sessionId) (proofPath config task.sessionId)
      (factsPath config task.sessionId)) (sessionId : String) (params : ProveBlockQuery) :
    Throughout (OwnAsks api config sessionId) (Returning fun _ _ => True) []
      (proveBlock api config sessionId params) := by
  apply throughout_proveBlock trivial
  rintro session task rfl
  exact own_runCycle api config task (hproves task) _

end Run

/-! ### Many runs -/

/-- The prover does what the route relies on. -/
def ProverWorks (backend : Backend) : Prop :=
  ∀ task, Proves (backend.api.prover (proveArgs backend.config task))
    (txPath backend.config task.sessionId) (proofPath backend.config task.sessionId)
    (factsPath backend.config task.sessionId)

section Pools

variable {backend : Backend}

/-- What is asked for a request. A deployment has no files. -/
def TaskAsks (backend : Backend) (q : Request) (history : History Ask Answer) (request : Ask) :
    Prop :=
  match q with
  | .deployCounter sessionId => IsDeploying sessionId request
  | .proveBlock sessionId _ => OwnAsks backend.api backend.config sessionId history request

theorem throughout_handler (hproves : ProverWorks backend) (q : Request) :
    Throughout (TaskAsks backend q) (fun _ _ => True) [] (backend.handler q) := by
  cases q with
  | deployCounter sessionId =>
      exact onlyAsks_iff_throughout.mp (onlyAsks_deployCounter backend.api sessionId)
  | proveBlock sessionId params =>
      have hrun := own_proveBlock backend.api backend.config hproves sessionId params
      exact hrun.mono (fun _ _ _ hasks => hasks) fun _ _ _ _ => trivial

/-- Only a file that is to be read is read. -/
theorem toRead_of_fetched {q : Request} {history : History Ask Answer} {request : Ask}
    {answer : Answer request} (h : TaskAsks backend q history request) {path text : String}
    (hfetched : fetched ⟨request, answer⟩ = some (path, text)) :
    path ∈ inputs backend.config q ∧ toRead history path = true := by
  cases q with
  | deployCounter sessionId =>
      cases request with
      | readFile p => exact h.elim
      | proverReads p => exact h.elim
      | _ => cases hfetched
  | proveBlock sessionId params =>
      cases request with
      | readFile p =>
          cases answer with
          | ok t =>
              cases hfetched
              exact ⟨List.mem_cons_of_mem _ h.1, h.2⟩
          | error e => cases hfetched
      | proverReads p =>
          cases answer with
          | ok t =>
              cases hfetched
              obtain ⟨rfl, hread⟩ := h
              exact ⟨List.mem_cons_self, hread⟩
          | error e => cases hfetched
      | _ => cases hfetched

/-- All exchanges of a run of the server, with the numbers of their tasks. -/
def conversation (pool : Pool backend.system) (moves : List ServerMove) :
    List (Nat × Event Ask Answer) :=
  Library.Reverting.logged Pool.step (fun pool move => (pool.turn move).toList) pool moves

/-- A file that a run or its prover reads was written by that run or its prover,
and each submission is of a proof that the prover of the run made of the
transaction of the run. -/
structure OwnProofs (pool : Pool backend.system) (moves : List ServerMove) : Prop where
  reads : EachAfter
    (fun before said => ∀ file ∈ fetched said.2, writer before file.1 = some said.1)
    (conversation pool moves)
  submissions : ∀ t ∈ (after pool moves).tasks, ∀ payload answer,
    ⟨.addInvokeTransaction payload, answer⟩ ∈ t.history →
      ∃ sessionId params s, t.request = .proveBlock sessionId params ∧
        Builds backend.api backend.config sessionId t.history payload s ∧
        IsOwn backend.api backend.config sessionId t.history s

/-- No file is changed that another task has written and is to read. -/
def KeepsApart (pool : Pool backend.system) (move : ServerMove) : Prop :=
  ∀ said ∈ pool.turn move, ∀ file ∈ touched said.2, ∀ other ∈ pool.tasks.zipIdx,
    other.2 ≠ said.1 → file.1 ∈ inputs backend.config other.1.request →
      toRead other.1.history file.1 = false

instance (pool : Pool backend.system) (move : ServerMove) : Decidable (KeepsApart pool move) :=
  inferInstanceAs (Decidable (∀ said ∈ pool.turn move, ∀ file ∈ touched said.2,
    ∀ other ∈ pool.tasks.zipIdx, other.2 ≠ said.1 →
      file.1 ∈ inputs backend.config other.1.request →
        toRead other.1.history file.1 = false))

/-- What a task has to read is there as it has left it, and so is read as that. -/
structure Apart (log : List (Nat × Event Ask Answer)) (pool : Pool backend.system) : Prop where
  held : ∀ i t path, pool.tasks[i]? = some t → path ∈ inputs backend.config t.request →
    toRead t.history path = true →
      pool.shared.files path = latest stored t.history path ∧ writer log path = some i
  reads : EachAfter
    (fun before said => ∀ file ∈ fetched said.2, writer before file.1 = some said.1) log
  texts : ∀ t ∈ pool.tasks, EachAfter
    (fun before event => ∀ file ∈ fetched event, latest stored before file.1 = some file.2)
    t.history

theorem writer_concat (log : List (Nat × Event Ask Answer)) (said : Nat × Event Ask Answer) :
    writer (log ++ [said]) =
      put (writer log) ((touched said.2).map fun file => (file.1, said.1)) :=
  latest_concat _ log said

section Step

variable {log : List (Nat × Event Ask Answer)} {pool pool' : Pool backend.system}

theorem Apart.arrive (h : Apart log pool) (q : Request) :
    Apart log { pool with tasks := pool.tasks ++ [Task.start backend.system q] } where
  held := by
    intro i t path ht hpath hread
    rcases Pool.found_of_arrive ht with hold | hnew
    · exact h.held i t path hold hpath hread
    · rw [hnew, toRead_nil] at hread
      cases hread
  reads := h.reads
  texts := by
    intro t ht
    obtain ⟨i, hi⟩ := List.getElem?_of_mem ht
    rcases Pool.found_of_arrive hi with hold | hnew
    · exact h.texts t (List.mem_of_getElem? hold)
    · rw [hnew]
      exact eachAfter_nil

section Advance

variable {answers : (request : Ask) → Answer request} {i : Nat} {t t' : Task backend.system}
  {request : Ask} {answer : Answer request}

/-- A file that a task reads is the one that it has left. -/
theorem Apart.fetched (hproves : ProverWorks backend) (h : Apart log pool)
    (hadvance : Pool.Advances pool pool' answers i t t' request answer) {path text : String}
    (hfetched : CounterServer.fetched ⟨request, answer⟩ = some (path, text)) :
    writer log path = some i ∧ latest stored t.history path = some text := by
  obtain ⟨hpath, hread⟩ :=
    toRead_of_fetched (hadvance.asked (throughout_handler hproves t.request)) hfetched
  obtain ⟨hfiles, hwriter⟩ := h.held i t path hadvance.found hpath hread
  exact ⟨hwriter, hfiles ▸ file_of_fetched hadvance.served hfetched⟩

theorem Apart.held_self (h : Apart log pool)
    (hadvance : Pool.Advances pool pool' answers i t t' request answer) {path : String}
    (hpath : path ∈ inputs backend.config t'.request) (hread : toRead t'.history path = true) :
    pool'.shared.files path = latest stored t'.history path ∧
      writer (log ++ [(i, ⟨request, answer⟩)]) path = some i := by
  rw [hadvance.history, toRead_concat] at hread
  rw [hadvance.sameRequest] at hpath
  rw [hadvance.history, serve_files hadvance.served, latest_concat, writer_concat]
  rcases stored_or_of_waits hread with ⟨text, hstored⟩ | ⟨huntouched, hwaiting⟩
  · simp [hstored, touched_of_stored hstored]
  · have hheld := h.held i t path hadvance.found hpath hwaiting
    cases htouched : touched ⟨request, answer⟩ with
    | none =>
        cases hstored : stored ⟨request, answer⟩ with
        | none => exact hheld
        | some file => cases htouched.symm.trans (touched_of_stored hstored)
    | some file =>
        obtain ⟨p, text⟩ := file
        have hne : path ≠ p := by
          rintro rfl
          exact huntouched (by rw [htouched]; rfl)
        rw [Option.map_some]
        simp only [put_of_ne hne]
        cases hstored : stored ⟨request, answer⟩ with
        | none => exact hheld
        | some file =>
            cases htouched.symm.trans (touched_of_stored hstored)
            simp only [put_of_ne hne]
            exact hheld

theorem Apart.held_other (h : Apart log pool)
    (hadvance : Pool.Advances pool pool' answers i t t' request answer)
    (hapart : KeepsApart pool (.advance i answers)) {j : Nat} (hne : j ≠ i)
    {u : Task backend.system} (hu : pool.tasks[j]? = some u) {path : String}
    (hpath : path ∈ inputs backend.config u.request) (hread : toRead u.history path = true) :
    pool'.shared.files path = latest stored u.history path ∧
      writer (log ++ [(i, ⟨request, answer⟩)]) path = some j := by
  have hheld := h.held j u path hu hpath hread
  rw [serve_files hadvance.served, writer_concat]
  cases htouched : touched ⟨request, answer⟩ with
  | none => exact hheld
  | some file =>
      obtain ⟨p, text⟩ := file
      have hother : path ≠ p := by
        rintro rfl
        have hnot := hapart _ hadvance.turn _ htouched (u, j)
          (List.mem_zipIdx_iff_getElem?.mpr hu) hne hpath
        rw [hread] at hnot
        cases hnot
      rw [Option.map_some]
      simp only [put_of_ne hother]
      exact hheld

theorem Apart.advance (hproves : ProverWorks backend) (h : Apart log pool)
    (hadvance : Pool.Advances pool pool' answers i t t' request answer)
    (hapart : KeepsApart pool (.advance i answers)) :
    Apart (log ++ [(i, ⟨request, answer⟩)]) pool' where
  held := by
    intro j u path hu hpath hread
    rw [hadvance.tasks] at hu
    rcases eq_or_ne j i with rfl | hne
    · rw [List.getElem?_set_self (List.getElem?_eq_some_iff.mp hadvance.found).1] at hu
      obtain rfl := Option.some.inj hu
      exact h.held_self hadvance hpath hread
    · rw [List.getElem?_set_ne hne.symm] at hu
      exact h.held_other hadvance hapart hne hu hpath hread
  reads := eachAfter_concat.mpr ⟨h.reads, fun _ hfetched =>
    (h.fetched hproves hadvance hfetched).1⟩
  texts := by
    intro u hu
    rcases hadvance.eq_or_mem hu with rfl | hmem
    · rw [hadvance.history]
      exact eachAfter_concat.mpr ⟨h.texts t hadvance.mem, fun _ hfetched =>
        (h.fetched hproves hadvance hfetched).2⟩
    · exact h.texts u hmem

end Advance

theorem Apart.step (hproves : ProverWorks backend) {move : ServerMove}
    (hapart : KeepsApart pool move) (h : Apart log pool) (hstep : pool.step move = .ok pool') :
    Apart (log ++ (pool.turn move).toList) pool' := by
  cases move with
  | arrive q =>
      obtain rfl := Pool.arrive_eq_ok_iff.mp hstep
      rw [Pool.turn, Option.toList_none, List.append_nil]
      exact h.arrive q
  | outside env =>
      obtain ⟨shared, houtside, rfl⟩ := Pool.outside_eq_ok_iff.mp hstep
      cases houtside
      rw [Pool.turn, Option.toList_none, List.append_nil]
      exact ⟨h.held, h.reads, h.texts⟩
  | advance i answers =>
      obtain ⟨t, t', request, answer, hadvance⟩ := Pool.advances_of_step hstep
      rw [hadvance.turn, Option.toList_some]
      exact h.advance hproves hadvance hapart

theorem apart_run (hproves : ProverWorks backend) (hfresh : pool.tasks = [])
    {moves : List ServerMove} (hmeet : Library.Reverting.AllMeet Pool.step KeepsApart pool moves) :
    Apart (conversation pool moves) (after pool moves) := by
  have hstart : Apart [] pool := by
    constructor
    · intro i t path ht
      rw [hfresh] at ht
      cases ht
    · exact eachAfter_nil
    · rw [hfresh]
      exact nofun
  have hrun := Library.Reverting.run_logged_while
    (fun pool move => (Pool.turn pool move).toList)
    (fun log pool move pool' hapart h => Apart.step hproves hapart h) hstart hmeet
  rwa [List.nil_append] at hrun

end Step

/-- What a run has stored elsewhere than its transaction, its prover has written. -/
theorem proverWrites_of_stored {history : History Ask Answer} {tx path text : String}
    (hwrites : ∀ event ∈ history, ∀ p t, event.request = .writeFile p t → p = tx)
    (hne : tx ≠ path) (h : latest stored history path = some text) :
    ⟨.proverWrites path text, .ok ()⟩ ∈ history := by
  obtain ⟨⟨request, answer⟩, hmem, hstored⟩ := exists_of_latest h
  cases request with
  | writeFile p t =>
      obtain rfl := hwrites _ hmem p t rfl
      cases answer with
      | ok _ =>
          cases hstored
          exact absurd rfl hne
      | error e => cases hstored
  | proverWrites p t =>
      cases answer with
      | ok _ =>
          cases hstored
          exact hmem
      | error e => cases hstored
  | _ => cases hstored

section Submitted

variable {sessionId : String} {history : History Ask Answer}

/-- A task that reads its own files back submits its own proof. -/
theorem isOwn_of_texts {payload : Json} {s : Submission}
    (hwrites : ∀ event ∈ history, ∀ p t, event.request = .writeFile p t →
      p = txPath backend.config sessionId)
    (htexts : EachAfter
      (fun before event => ∀ file ∈ fetched event, latest stored before file.1 = some file.2)
      history)
    (hbuilds : Builds backend.api backend.config sessionId history payload s)
    (htook : ProverTook backend.api backend.config sessionId history s.json) :
    IsOwn backend.api backend.config sessionId history s := by
  have hread {path text : String} (hmem : ⟨.readFile path, .ok text⟩ ∈ history)
      (hne : txPath backend.config sessionId ≠ path) :
      ⟨.proverWrites path text, .ok ()⟩ ∈ history := by
    obtain ⟨before, later, rfl⟩ := List.append_of_mem hmem
    have hlast := htexts _ _ _ rfl (path, text) rfl
    apply List.mem_append_left
    exact proverWrites_of_stored (fun event hevent =>
      hwrites event (List.mem_append_left _ hevent)) hne hlast
  constructor
  · obtain ⟨before, text, ⟨later, rfl⟩, hlast⟩ := htook
    have htext := htexts before _ later (by rw [List.append_assoc]; rfl) (_, text) rfl
    rw [hlast, Option.some.injEq] at htext
    simp [htext]
  · exact hread hbuilds.readProof (txPath_ne_proofPath backend.config sessionId)
  · exact hread hbuilds.readFacts (txPath_ne_factsPath backend.config sessionId)

end Submitted

/-- In a run in which no task writes over what another one has to read. -/
theorem each_submits_its_own (hproves : ProverWorks backend) (pool : Pool backend.system)
    (hfresh : pool.tasks = []) (moves : List ServerMove)
    (hmeet : Library.Reverting.AllMeet Pool.step KeepsApart pool moves) :
    OwnProofs pool moves := by
  have hapart := apart_run hproves hfresh hmeet
  refine ⟨hapart.reads, fun t ht payload answer hmem => ?_⟩
  have hasked := throughout_handler hproves t.request
  obtain ⟨before, later, hsplit⟩ := List.append_of_mem hmem
  have hsubmits := t.follows.asked hasked hsplit
  cases hq : t.request with
  | deployCounter sessionId =>
      rw [hq] at hsubmits
      exact hsubmits.elim
  | proveBlock sessionId params =>
      rw [hq] at hsubmits hasked
      obtain ⟨s, hbuilds, htook⟩ := Submits.mono backend.api backend.config hsubmits
        (hsplit ▸ List.prefix_append before _)
      refine ⟨sessionId, params, s, rfl, hbuilds, ?_⟩
      apply isOwn_of_texts _ (hapart.texts t ht) hbuilds htook
      intro event hevent p text hrequest
      obtain ⟨first, rest, hwhere⟩ := List.append_of_mem hevent
      have hwrite := t.follows.asked (throughout_handler hproves t.request) hwhere
      rw [hq, hrequest] at hwrite
      exact hwrite

end Pools

/-! ### Two runs of one session -/

theorem proverWorks_sample : ProverWorks sample := by
  intro task
  refine ⟨sampleProduce (proofPath sample.config task.sessionId), rfl, fun text => ?_⟩
  refine ⟨trivial, fun proved => ⟨trivial, fun listed => ?_⟩⟩
  cases proved with
  | error e => exact returning_err _
  | ok _ =>
      cases listed with
      | error e => exact returning_err _
      | ok _ =>
          refine returning_ok_iff.mpr ⟨⟨[], "proof of " ++ text, _, rfl, ?_⟩, ⟨_, "[]", [], rfl, nofun⟩⟩
          intro event hevent
          rw [List.mem_singleton.mp hevent]
          intro hsame
          exact factsPath_ne_proofPath sample.config task.sessionId (Option.some.inj hsame)

/-- The given number of steps of a run. -/
def steps (task n : Nat) : List ServerMove :=
  List.replicate n (.advance task (smoothly "0xa" (.num 11)))

/-- A request to prove some increments by the given amount. -/
def proving (amount : U64) : ServerMove := .arrive (.proveBlock "s" ⟨amount, 1⟩)

/-- The second run waits to write until the first has submitted. -/
theorem each_submits_its_own_sample :
    OwnProofs sampleStart (proving 1 :: proving 2 :: steps 1 5 ++ steps 0 23 ++ steps 1 18) :=
  each_submits_its_own proverWorks_sample sampleStart rfl _ (by decide +kernel)

def overlapping : List ServerMove :=
  proving 1 :: proving 2 :: steps 0 6 ++ steps 1 6 ++ steps 0 5

/-- The prover of the first run reads the transaction that the second has written. -/
theorem foreign_transaction_is_proved :
    ¬ ∀ (backend : Backend) (pool : Pool backend.system) (moves : List ServerMove),
      ProverWorks backend → pool.tasks = [] → OwnProofs pool moves := by
  intro hclaim
  have hreads := (hclaim sample sampleStart overlapping proverWorks_sample rfl).reads
  have hread : ((conversation sampleStart overlapping)[16]?.map fun said =>
      (said.1, (fetched said.2).map Prod.fst)) = some (0, some (txPath sample.config "s")) := by
    decide +kernel
  obtain ⟨⟨i, event⟩, hsaid, heq⟩ := Option.map_eq_some_iff.mp hread
  obtain ⟨rfl, hfetched⟩ := Prod.ext_iff.mp heq
  obtain ⟨file, hfile, hpath⟩ := Option.map_eq_some_iff.mp hfetched
  have hwriter := hreads.at hsaid file hfile
  rw [hpath] at hwriter
  have hother : writer ((conversation sampleStart overlapping).take 16)
      (txPath sample.config "s") = some 1 := by
    decide +kernel
  exact absurd (hother.symm.trans hwriter) (by simp)

end Snip36.OwnProof
