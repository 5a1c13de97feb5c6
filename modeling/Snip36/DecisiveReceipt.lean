import Snip36.TxPolling

/-!
Which receipts the poll for a transaction stops at, and whether the block number
of the receipt that it returns can be read.
-/

namespace Snip36.DecisiveReceipt

open Library.Interaction
open StarknetRpc
open TxPolling

/-! ### Receipts -/

def finalityStatus (receipt : Json) : String :=
  ((receipt.get? "finality_status").bind Json.asStr).getD ""

def executionStatus (receipt : Json) : Option String :=
  (receipt.get? "execution_status").bind Json.asStr

/-- The receipt reports a rejection or a reverted execution. -/
def Rejects (receipt : Json) : Prop :=
  finalityStatus receipt = "REJECTED" ∨ executionStatus receipt = some "REVERTED"

def Accepts (receipt : Json) : Prop :=
  finalityStatus receipt = "ACCEPTED_ON_L2" ∨ finalityStatus receipt = "ACCEPTED_ON_L1"

def Succeeds (receipt : Json) : Prop :=
  executionStatus receipt = none ∨ executionStatus receipt = some "SUCCEEDED"

def Decisive (receipt : Json) : Prop :=
  Rejects receipt ∨ Accepts receipt ∧ (receiptBlockNumber receipt).isSome

instance (receipt : Json) : Decidable (Rejects receipt) := inferInstanceAs (Decidable (_ ∨ _))

instance (receipt : Json) : Decidable (Accepts receipt) := inferInstanceAs (Decidable (_ ∨ _))

instance (receipt : Json) : Decidable (Succeeds receipt) := inferInstanceAs (Decidable (_ ∨ _))

instance (receipt : Json) : Decidable (Decisive receipt) := inferInstanceAs (Decidable (_ ∨ _))

/-- An accepted receipt with a block number that is there and cannot be read, or
with one that can be read and an execution status of some other name. -/
def Misjudged (receipt : Json) : Prop :=
  ¬Rejects receipt ∧ Accepts receipt ∧
    if (receiptBlockNumber receipt).isSome then ¬Succeeds receipt
    else (receipt.get? "block_number").isSome ∧ Succeeds receipt

def firstDecisive (receipts : List Json) : Option Json :=
  receipts.find? fun receipt => Decisive receipt

/-- What the poll returns is the first decisive receipt, or says what it is. -/
structure Usable (receipts : List Json) (verdict : Except RpcError Json) : Prop where
  accepted : ∀ receipt, verdict = .ok receipt → firstDecisive receipts = some receipt ∧
    Accepts receipt ∧ executionStatus receipt ≠ some "REVERTED" ∧
    ∃ n, receiptBlockNumber receipt = some n
  rejected : ∀ text, verdict = .error (.txRejected text) →
    ∃ receipt, firstDecisive receipts = some receipt ∧ Rejects receipt
  timedOut : ∀ txHash timeout, verdict = .error (.txTimeout txHash timeout) →
    firstDecisive receipts = none

/-! ### One receipt -/

variable {display : Json → String} {receipt : Json} {receipts : List Json}
  {verdict : Except RpcError Json}

theorem judgeReceipt_eq (display : Json → String) (receipt : Json) :
    judgeReceipt display receipt =
      if Rejects receipt then some (.error (.txRejected (display receipt)))
      else if Accepts receipt ∧ (receipt.get? "block_number").isSome ∧ Succeeds receipt then
        some (.ok receipt)
      else none := rfl

theorem isSome_blockNumber (h : (receiptBlockNumber receipt).isSome) :
    (receipt.get? "block_number").isSome := by
  unfold receiptBlockNumber at h
  cases hfield : receipt.get? "block_number" with
  | none =>
      rw [hfield] at h
      cases h
  | some blockNumber => rfl

theorem judgeReceipt_cases (h : judgeReceipt display receipt = some verdict) :
    (Rejects receipt ∧ verdict = .error (.txRejected (display receipt))) ∨
      (¬Rejects receipt ∧ Accepts receipt ∧ (receipt.get? "block_number").isSome ∧
        Succeeds receipt ∧ verdict = .ok receipt) := by
  rw [judgeReceipt_eq] at h
  split at h
  · rename_i hrejects
    cases h
    exact Or.inl ⟨hrejects, rfl⟩
  · rename_i hrejects
    split at h
    · rename_i haccepts
      cases h
      exact Or.inr ⟨hrejects, haccepts.1, haccepts.2.1, haccepts.2.2, rfl⟩
    · cases h

/-- A receipt that the poll passes by is decisive only if it is misjudged. -/
theorem misjudged_iff_of_none (h : judgeReceipt display receipt = none) :
    Misjudged receipt ↔ Decisive receipt := by
  rw [judgeReceipt_eq] at h
  have hrejects : ¬Rejects receipt := by
    intro hrejects
    rw [if_pos hrejects] at h
    cases h
  rw [if_neg hrejects] at h
  have hpassed : ¬(Accepts receipt ∧ (receipt.get? "block_number").isSome ∧ Succeeds receipt) := by
    intro haccepts
    rw [if_pos haccepts] at h
    cases h
  constructor
  · rintro ⟨-, haccepts, hmisjudged⟩
    split at hmisjudged
    · rename_i hreadable
      exact Or.inr ⟨haccepts, hreadable⟩
    · exact absurd ⟨haccepts, hmisjudged⟩ hpassed
  · rintro (hrejects' | ⟨haccepts, hreadable⟩)
    · exact absurd hrejects' hrejects
    · refine ⟨hrejects, haccepts, ?_⟩
      rw [if_pos hreadable]
      exact fun hsucceeds => hpassed ⟨haccepts, isSome_blockNumber hreadable, hsucceeds⟩

/-- A receipt that the poll returns is misjudged if its block cannot be read. -/
theorem misjudged_iff_of_ok (h : judgeReceipt display receipt = some (.ok receipt)) :
    Misjudged receipt ↔ receiptBlockNumber receipt = none := by
  rcases judgeReceipt_cases h with ⟨-, hverdict⟩ | ⟨hrejects, haccepts, hfield, hsucceeds, -⟩
  · cases hverdict
  · rw [← Option.not_isSome_iff_eq_none]
    constructor
    · rintro ⟨-, -, hmisjudged⟩ hreadable
      rw [if_pos hreadable] at hmisjudged
      exact hmisjudged hsucceeds
    · intro hunreadable
      refine ⟨hrejects, haccepts, ?_⟩
      rw [if_neg hunreadable]
      exact ⟨hfield, hsucceeds⟩

/-! ### A run of the poll -/

/-- The receipts that a poll has looked at, and what it has come to. -/
inductive Judged (display : Json → String) : List Json → Except RpcError Json → Prop
  | timedOut (txHash : String) (timeout : Nat) :
      Judged display [] (.error (.txTimeout txHash timeout))
  | decided {receipt : Json} {verdict : Except RpcError Json}
      (h : judgeReceipt display receipt = some verdict) : Judged display [receipt] verdict
  | again {receipt : Json} {rest : List Json} {verdict : Except RpcError Json}
      (h : judgeReceipt display receipt = none) (hrest : Judged display rest verdict) :
      Judged display (receipt :: rest) verdict

theorem firstDecisive_cons_of_decisive (h : Decisive receipt) :
    firstDecisive (receipt :: receipts) = some receipt := by
  simp [firstDecisive, h]

theorem firstDecisive_cons_of_not (h : ¬Decisive receipt) :
    firstDecisive (receipt :: receipts) = firstDecisive receipts := by
  simp [firstDecisive, h]

/-- What a poll can come to. -/
theorem Judged.verdict_cases (h : Judged display receipts verdict) :
    (∃ txHash timeout, verdict = .error (.txTimeout txHash timeout)) ∨
      (∃ text, verdict = .error (.txRejected text)) ∨
      ∃ receipt, verdict = .ok receipt ∧ judgeReceipt display receipt = some (.ok receipt) := by
  induction h with
  | timedOut txHash timeout => exact Or.inl ⟨txHash, timeout, rfl⟩
  | decided h =>
      rcases judgeReceipt_cases h with ⟨-, rfl⟩ | ⟨-, -, -, -, rfl⟩
      · exact Or.inr (Or.inl ⟨_, rfl⟩)
      · exact Or.inr (Or.inr ⟨_, rfl, h⟩)
  | again h hrest ih => exact ih

theorem not_usable_of_passed (h : Judged display receipts verdict)
    (hnone : judgeReceipt display receipt = none) (hmisjudged : Misjudged receipt) :
    ¬Usable (receipt :: receipts) verdict := by
  intro husable
  have hfirst : firstDecisive (receipt :: receipts) = some receipt :=
    firstDecisive_cons_of_decisive ((misjudged_iff_of_none hnone).mp hmisjudged)
  rcases h.verdict_cases with ⟨txHash, timeout, rfl⟩ | ⟨text, rfl⟩ | ⟨returned, rfl, hreturned⟩
  · rw [husable.timedOut txHash timeout rfl] at hfirst
    cases hfirst
  · obtain ⟨rejected, hrejected, hrejects⟩ := husable.rejected text rfl
    obtain rfl := Option.some.inj (hrejected.symm.trans hfirst)
    exact hmisjudged.1 hrejects
  · obtain rfl := Option.some.inj ((husable.accepted returned rfl).1.symm.trans hfirst)
    cases hnone.symm.trans hreturned

theorem usable_cons_iff (h : ¬Decisive receipt) :
    Usable (receipt :: receipts) verdict ↔ Usable receipts verdict := by
  have hsame : firstDecisive (receipt :: receipts) = firstDecisive receipts :=
    firstDecisive_cons_of_not h
  constructor
  · intro husable
    exact ⟨hsame ▸ husable.accepted, hsame ▸ husable.rejected, hsame ▸ husable.timedOut⟩
  · intro husable
    exact ⟨hsame ▸ husable.accepted, hsame ▸ husable.rejected, hsame ▸ husable.timedOut⟩

theorem usable_singleton_iff (h : judgeReceipt display receipt = some verdict) :
    Usable [receipt] verdict ↔ ¬Misjudged receipt := by
  rcases judgeReceipt_cases h with ⟨hrejects, rfl⟩ | ⟨hrejects, haccepts, -, hsucceeds, rfl⟩
  · have hfirst : firstDecisive [receipt] = some receipt :=
      firstDecisive_cons_of_decisive (Or.inl hrejects)
    constructor
    · exact fun _ hmisjudged => hmisjudged.1 hrejects
    · exact fun _ => ⟨nofun, fun _ _ => ⟨receipt, hfirst, hrejects⟩, nofun⟩
  · rw [misjudged_iff_of_ok h]
    constructor
    · intro husable hunreadable
      obtain ⟨-, -, -, n, hn⟩ := husable.accepted receipt rfl
      cases hunreadable.symm.trans hn
    · intro hreadable
      obtain ⟨n, hn⟩ := Option.ne_none_iff_exists'.mp hreadable
      refine ⟨?_, nofun, nofun⟩
      intro returned hreturned
      cases hreturned
      have hdecisive : Decisive receipt := Or.inr ⟨haccepts, by rw [hn]; rfl⟩
      exact ⟨firstDecisive_cons_of_decisive hdecisive, haccepts,
        fun hreverted => hrejects (Or.inr hreverted), n, hn⟩

theorem Judged.usable_iff (h : Judged display receipts verdict) :
    Usable receipts verdict ↔ ∀ receipt ∈ receipts, ¬Misjudged receipt := by
  induction h with
  | timedOut txHash timeout =>
      constructor
      · exact fun _ _ hmem => absurd hmem List.not_mem_nil
      · exact fun _ => ⟨nofun, nofun, fun _ _ _ => rfl⟩
  | decided h => rw [usable_singleton_iff h, List.forall_mem_singleton]
  | again hnone hrest ih =>
      rw [List.forall_mem_cons, ← ih]
      constructor
      · intro husable
        have hjudged := fun hmisjudged => not_usable_of_passed hrest hnone hmisjudged husable
        refine ⟨hjudged, (usable_cons_iff ?_).mp husable⟩
        rwa [← misjudged_iff_of_none hnone]
      · rintro ⟨hjudged, husable⟩
        apply (usable_cons_iff _).mpr husable
        rwa [← misjudged_iff_of_none hnone]

def receiptOf : Event PollAsk PollAnswer → Option Json
  | ⟨.getReceipt _, .ok receipt⟩ => some receipt
  | _ => none

def polled (said : History PollAsk PollAnswer) : List Json := said.filterMap receiptOf

/-- Before the deadline, the next receipt is judged. -/
theorem run_pollReceipt_succ {ε : Type} (display : Json → String) (txHash : String)
    (timeoutSecs pollIntervalSecs : Nat) {env : Environment PollAsk PollAnswer} (naps : Nat)
    {before : History PollAsk PollAnswer} (h : env before .deadlinePassed = false) :
    Program.run env (pollReceipt (ε := ε) display txHash timeoutSecs pollIntervalSecs (naps + 1))
        before = Program.run env
      (match judged display (env (before ++ [⟨.deadlinePassed, false⟩]) (.getReceipt txHash)) with
        | some verdict => pure verdict
        | none => do
            poll (.sleep pollIntervalSecs)
            pollReceipt display txHash timeoutSecs pollIntervalSecs naps)
      (before ++ [⟨.deadlinePassed, false⟩] ++ [⟨.getReceipt txHash,
        env (before ++ [⟨.deadlinePassed, false⟩]) (.getReceipt txHash)⟩]) := by
  change Program.run env (if env before .deadlinePassed then _ else _) (before ++ _) = _
  rw [h]
  rfl

/-- The loop always ends, and judges the receipts in the order it gets them. -/
theorem run_pollReceipt {ε : Type} (display : Json → String) (txHash : String)
    (timeoutSecs pollIntervalSecs : Nat) (env : Environment PollAsk PollAnswer) (naps : Nat)
    (before : History PollAsk PollAnswer) : ∃ verdict said,
      Program.run env (pollReceipt (ε := ε) display txHash timeoutSecs pollIntervalSecs naps)
        before = (.ok verdict, before ++ said) ∧ Judged display (polled said) verdict := by
  induction naps generalizing before with
  | zero => exact ⟨_, [], by rw [List.append_nil]; rfl, .timedOut txHash timeoutSecs⟩
  | succ naps ih =>
      cases hpassed : env before .deadlinePassed with
      | true =>
          refine ⟨_, [⟨.deadlinePassed, true⟩], ?_, .timedOut txHash timeoutSecs⟩
          change Program.run env (if env before .deadlinePassed then _ else _) (before ++ _) = _
          rw [hpassed]
          rfl
      | false =>
          rw [run_pollReceipt_succ display txHash timeoutSecs pollIntervalSecs naps hpassed]
          generalize env (before ++ [⟨.deadlinePassed, false⟩]) (.getReceipt txHash) = reply
          cases hjudged : judged display reply with
          | some verdict =>
              obtain ⟨receipt, rfl, hreceipt⟩ : ∃ receipt, reply = .ok receipt ∧
                  judgeReceipt display receipt = some verdict := by
                cases reply with
                | ok receipt => exact ⟨receipt, rfl, hjudged⟩
                | error e => cases hjudged
              refine ⟨verdict, [⟨.deadlinePassed, false⟩, ⟨.getReceipt txHash, .ok receipt⟩], ?_,
                .decided hreceipt⟩
              rw [List.append_assoc]
              rfl
          | none =>
              obtain ⟨verdict, said, hrun, hrest⟩ := ih (before ++ [⟨.deadlinePassed, false⟩] ++
                [⟨.getReceipt txHash, reply⟩] ++ [⟨.sleep pollIntervalSecs, ()⟩])
              refine ⟨verdict, [⟨.deadlinePassed, false⟩, ⟨.getReceipt txHash, reply⟩,
                ⟨.sleep pollIntervalSecs, ()⟩] ++ said, ?_, ?_⟩
              · refine Eq.trans hrun ?_
                simp
              · cases reply with
                | ok receipt => exact .again hjudged hrest
                | error e => exact hrest

/-- The poll comes to a verdict that can be used. -/
def UsableRun {ε : Type} (ended : Outcome ε (Except RpcError Json) × History PollAsk PollAnswer) :
    Prop :=
  ∃ verdict, ended.1 = .ok verdict ∧ Usable (polled ended.2) verdict

/-- Exactly the receipts that are misjudged make the verdict of no use. -/
theorem usable_run_iff {ε : Type} (display : Json → String) (txHash : String)
    (timeoutSecs pollIntervalSecs naps : Nat) (env : Environment PollAsk PollAnswer) :
    UsableRun (Program.run env (pollReceipt (ε := ε) display txHash timeoutSecs pollIntervalSecs
        naps) []) ↔
      ∀ receipt ∈ polled (Program.run env (pollReceipt (ε := ε) display txHash timeoutSecs
        pollIntervalSecs naps) []).2, ¬Misjudged receipt := by
  obtain ⟨verdict, said, hrun, hjudged⟩ := run_pollReceipt (ε := ε) display txHash timeoutSecs
    pollIntervalSecs env naps []
  rw [hrun, List.nil_append, ← hjudged.usable_iff]
  constructor
  · rintro ⟨returned, hreturned, husable⟩
    cases hreturned
    exact husable
  · exact fun husable => ⟨verdict, rfl, husable⟩

/-- The block number is there, and is null. -/
def blocklessReceipt : Json :=
  .obj [("finality_status", .str "ACCEPTED_ON_L2"), ("block_number", .null)]

def answerBlockless : Environment PollAsk PollAnswer
  | _, .deadlinePassed => false
  | _, .getReceipt _ => .ok blocklessReceipt
  | _, .blockNumber => .ok 0
  | _, .sleep _ => ()

/-- The poll returns a receipt whose block number cannot be read. -/
theorem blockless_receipt_is_returned :
    ¬ ∀ (display : Json → String) (txHash : String) (timeoutSecs pollIntervalSecs : Nat)
      (env : Environment PollAsk PollAnswer), UsableRun (Program.run env
        (waitForTx (ε := Empty) display txHash timeoutSecs pollIntervalSecs) []) := by
  intro hclaim
  obtain ⟨verdict, hverdict, husable⟩ := hclaim (fun _ => "") "0xa" 120 3 answerBlockless
  have hreturned : verdict = .ok blocklessReceipt := (Outcome.ok.inj hverdict).symm
  obtain ⟨-, -, -, n, hn⟩ := husable.accepted blocklessReceipt hreturned
  cases hn

end Snip36.DecisiveReceipt
