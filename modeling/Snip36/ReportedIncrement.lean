import Snip36.CounterAsks
import Snip36.Multicall

/-!
Whether a cycle announces and reports what its calls add to the counter.
-/

namespace Snip36.ReportedIncrement

open CoinFlipState (Config)
open CounterAsks
open CounterRoutes
open CounterServer
open CounterState
open Library.Fallible
open Library.Hex
open Library.Interaction.Program
open Multicall
open Payload
open SessionGames (ReadsHex readsHex_hexFelt)

/-! ### The counter -/

/-- `Counter::increment`. -/
def increment (amount counter : Felt) : Felt := counter + amount

/-- The counter after a call that increments it. -/
def executeCall (contract selector counter : Felt) (call : Call Felt) : Option Felt :=
  if call.toAddress = contract ∧ call.selector = selector then
    match call.calldata with
    | [amount] => some (increment amount counter)
    | _ => none
  else none

def execute (contract selector counter : Felt) (calls : List (Call Felt)) : Option Felt :=
  calls.foldlM (executeCall contract selector) counter

def amountOf (contractAddress : String) (call : Call String) : Option Nat :=
  if call.toAddress = contractAddress ∧ call.selector = incrementSelector then
    match call.calldata with
    | [amount] => parseHex amount
    | _ => none
  else none

/-- The amounts of the increments in a calldata that has no other calls. -/
def amounts (contractAddress : String) (calldata : List String) : Option (List Nat) := do
  let calls ← decodeCalls parseHex calldata
  calls.mapM (amountOf contractAddress)

theorem amounts_calldata (task : ProveTask) :
    amounts task.contractAddress task.calldata =
      some (List.replicate task.incrementsPerBlock.toNat task.incrementAmount.toNat) := by
  rw [amounts, calldata_eq_encodeAccountCalls, decodeCalls_encodeAccountCalls]
  change (List.replicate _ _).mapM _ = _
  have hone : amountOf task.contractAddress
      (incrementCall task.contractAddress task.incrementAmount) =
        some task.incrementAmount.toNat := by
    simp [amountOf, incrementCall]
  induction task.incrementsPerBlock.toNat with
  | zero => rfl
  | succ n ih =>
      rw [List.replicate_succ, List.mapM_cons, hone, ih]
      rfl

theorem add_fromNat_zero (felt : Felt) : felt + Felt.fromNat 0 = felt := by
  apply Fin.ext
  simp [Felt.fromNat]

theorem add_fromNat_add (felt : Felt) (a b : Nat) :
    felt + Felt.fromNat a + Felt.fromNat b = felt + Felt.fromNat (a + b) := by
  apply Fin.ext
  simp [Felt.fromNat, Fin.val_add, Nat.add_assoc]

section Execute

variable {fromHex : String → Except String Felt} {contractAddress : String} {amount : U64}
  {contract selector : Felt}

theorem executeCall_of_isRead (hhex : ReadsHex fromHex)
    (hcontract : feltFromHex fromHex contractAddress = .ok contract)
    (hselector : feltFromHex fromHex incrementSelector = .ok selector) {call : Call Felt}
    (h : CallIsRead fromHex call (incrementCall contractAddress amount)) (counter : Felt) :
    executeCall contract selector counter call =
      some (counter + Felt.fromNat amount.toNat) := by
  obtain ⟨toAddress, sel, calldata⟩ := call
  obtain ⟨hto, hsel, hcalldata⟩ := h
  obtain ⟨felt, _, hfelt, hnil, rfl⟩ := List.forall₂_cons_right_iff.mp hcalldata
  obtain rfl := List.forall₂_nil_right_iff.mp hnil
  have hto' := hto.symm.trans hcontract
  have hsel' := hsel.symm.trans hselector
  have hamount := hhex.lowerHex (n := amount.toNat) (amount.isLt.trans (by decide))
  simp only [IsRead, feltFromHex, hamount] at hfelt
  cases hto'
  cases hsel'
  cases hfelt
  simp [executeCall, increment]

/-- Every call adds the amount. -/
theorem execute_increments (hhex : ReadsHex fromHex)
    (hcontract : feltFromHex fromHex contractAddress = .ok contract)
    (hselector : feltFromHex fromHex incrementSelector = .ok selector) {n : Nat}
    {calls : List (Call Felt)}
    (h : List.Forall₂ (CallIsRead fromHex) calls
      (List.replicate n (incrementCall contractAddress amount))) (start : Felt) :
    execute contract selector start calls =
      some (start + Felt.fromNat (n * amount.toNat)) := by
  induction n generalizing calls start with
  | zero =>
      obtain rfl := List.forall₂_nil_right_iff.mp h
      rw [Nat.zero_mul, add_fromNat_zero]
      rfl
  | succ n ih =>
      rw [List.replicate_succ] at h
      obtain ⟨call, rest, hcall, hrest, rfl⟩ := List.forall₂_cons_right_iff.mp h
      rw [execute, List.foldlM_cons, executeCall_of_isRead hhex hcontract hselector hcall]
      change execute contract selector _ rest = _
      rw [ih hrest, add_fromNat_add, Nat.succ_mul, Nat.add_comm]

end Execute

/-- Whatever the counter was, the calls in the calldata add this to it. -/
def Adds (fromHex : String → Except String Felt) (task : ProveTask) (total : Nat) : Prop :=
  ∀ contract selector felts start,
    feltFromHex fromHex task.contractAddress = .ok contract →
    feltFromHex fromHex incrementSelector = .ok selector →
    collect (feltFromHex fromHex) task.calldata = .ok felts →
    ∃ calls, decodeCalls lengthOf felts = some calls ∧
      execute contract selector start calls = some (start + Felt.fromNat total)

theorem adds_product {fromHex : String → Except String Felt} (hhex : ReadsHex fromHex)
    (task : ProveTask) :
    Adds fromHex task (task.incrementsPerBlock.toNat * task.incrementAmount.toNat) := by
  intro contract selector felts start hcontract hselector hfelts
  rw [calldata_eq_encodeAccountCalls] at hfelts
  have hfits : Fits (List.replicate task.incrementsPerBlock.toNat
      (incrementCall task.contractAddress task.incrementAmount)) := by
    constructor
    · rw [List.length_replicate]
      exact task.incrementsPerBlock.isLt.trans (by decide)
    · intro call hcall
      rw [List.eq_of_mem_replicate hcall]
      exact (by decide : 1 < 2 ^ 64)
  obtain ⟨calls, hdecode, hreads⟩ := exists_decodeCalls_felts hhex hfits hfelts
  exact ⟨calls, hdecode, execute_increments hhex hcontract hselector hreads start⟩

/-! ### The announcement and the report -/

def announcement (task : ProveTask) (expectedIncrement : Nat) : Ask :=
  .send "log" ("Starting SNIP-36 cycle: " ++ toString task.incrementsPerBlock.toNat ++
    " calls x increment(" ++ toString task.incrementAmount.toNat ++ ") = +" ++
    toString expectedIncrement ++ " per block")

/-- The calls in the calldata add `total` to the counter, and that is the number
which a cycle computes, announces and reports. -/
structure ReportsIncrement (api : CounterApi) (config : Config) (task : ProveTask)
    (total : Nat) : Prop where
  sums : ∃ numbers, amounts task.contractAddress task.calldata = some numbers ∧
    numbers.sum = total
  adds : Adds api.fromHex task total
  announced : ∀ env history, ∃ expectedIncrement : U64, expectedIncrement.toNat = total ∧
    run env (announceCycle api task) history =
      (.ok expectedIncrement, history ++ [⟨announcement task total, ()⟩])
  reported : ∀ env history, ∀ event ∈ (run env (runCycle api config task) history).2,
    event ∈ history ∨ ∀ data, event.request = .sendJson "complete" data →
      ∃ n, data.get? "increment" = some (.num n) ∧ n = total

section Cycle

variable {api : CounterApi} {config : Config} {task : ProveTask}

theorem sum_amounts {numbers : List Nat}
    (h : amounts task.contractAddress task.calldata = some numbers) :
    numbers.sum = task.incrementsPerBlock.toNat * task.incrementAmount.toNat := by
  rw [amounts_calldata] at h
  cases h
  simp

/-- A product that fits is computed without a panic. -/
theorem announceCycle_eq (api : CounterApi)
    (h : task.incrementAmount.toNat * task.incrementsPerBlock.toNat < 2 ^ 64) :
    ∃ expectedIncrement : U64,
      expectedIncrement.toNat = task.incrementsPerBlock.toNat * task.incrementAmount.toNat ∧
      announceCycle api task = (do
        await (announcement task expectedIncrement.toNat)
        pure expectedIncrement) := by
  have hcount : (task.incrementsPerBlock.setWidth 64).toNat = task.incrementsPerBlock.toNat := by
    rw [BitVec.toNat_setWidth]
    exact Nat.mod_eq_of_lt (task.incrementsPerBlock.isLt.trans (by decide))
  refine ⟨task.incrementAmount * task.incrementsPerBlock.setWidth 64, ?_, ?_⟩
  · rw [BitVec.toNat_mul, hcount, Nat.mod_eq_of_lt h, Nat.mul_comm]
  · have hfits : ¬ (api.overflowChecks = true ∧
        2 ^ 64 ≤ task.incrementAmount.toNat * (task.incrementsPerBlock.setWidth 64).toNat) := by
      rw [hcount]
      omega
    rw [announceCycle, mulU64, if_neg hfits]
    rfl

/-- An event that reports an increment reports this one. -/
def Reports (total : Nat) (request : Ask) : Prop :=
  ∀ data, request = .sendJson "complete" data →
    ∃ n, data.get? "increment" = some (.num n) ∧ n = total

theorem reports_of_unreported {total : Nat} {Q : Ask → Prop} (request : Ask)
    (h : Unreported Q request) : Reports total request := by
  intro data hrequest
  rw [hrequest] at h
  exact h.elim

theorem reports_of_isAdding {total : Nat} {payload : Json} (request : Ask)
    (h : IsAdding payload request) : Reports total request := by
  intro data hrequest
  rw [hrequest] at h
  exact h.elim

theorem reports_send {total : Nat} (event data : String) : Reports total (.send event data) := nofun

theorem onlyAsks_submit {total : Nat} {tx : ProveTransaction} :
    OnlyAsks (Reports total) (submit api config task tx) := by
  refine ⟨nofun, fun _ => ?_⟩
  refine ((onlyAsks_readProof api config task).mono reports_of_unreported).bind fun proof => ?_
  refine (onlyAsks_orStreamError reports_send _ _).bind fun signed => ?_
  refine ⟨nofun, fun _ => ?_⟩
  exact (onlyAsks_addTransaction _ _).mono reports_of_isAdding

theorem onlyAsks_report_increment (rpcTxHash : String) (proofSize : Nat)
    (expectedIncrement : U64) :
    OnlyAsks (Reports expectedIncrement.toNat)
      (report task rpcTxHash proofSize expectedIncrement) := by
  refine ⟨nofun, fun _ => ⟨nofun, fun _ => ⟨?_, fun _ => trivial⟩⟩⟩
  rintro _ ⟨⟩
  exact ⟨expectedIncrement.toNat, by simp [completeJson, Json.get?_obj_cons], rfl⟩

/-- The number that was announced goes through the cycle to its report. -/
theorem onlyAsks_runCycle {expectedIncrement : U64}
    (h : announceCycle api task = (do
      await (announcement task expectedIncrement.toNat)
      pure expectedIncrement)) :
    OnlyAsks (Reports expectedIncrement.toNat) (runCycle api config task) := by
  rw [runCycle, h]
  refine ⟨nofun, fun _ => ?_⟩
  refine ((onlyAsks_constructTransaction api config task).mono reports_of_unreported).bind
    fun tx => ?_
  refine ((onlyAsks_prove api config task).mono reports_of_unreported).bind fun proofSize => ?_
  refine onlyAsks_submit.bind fun rpcTxHash => ?_
  refine ((onlyAsks_verifyInclusion api task rpcTxHash).mono reports_of_unreported).bind
    fun _ => ?_
  exact onlyAsks_report_increment rpcTxHash proofSize expectedIncrement

/-- A number of 64 bits that is the sum of the amounts bounds their product. -/
theorem ReportsIncrement.product_lt {total : Nat} (h : ReportsIncrement api config task total) :
    task.incrementAmount.toNat * task.incrementsPerBlock.toNat < 2 ^ 64 := by
  obtain ⟨numbers, hnumbers, hsum⟩ := h.sums
  obtain ⟨expectedIncrement, hexact, -⟩ := h.announced (fun _ => smoothly "0xa" (.num 11)) []
  rw [Nat.mul_comm, ← sum_amounts hnumbers, hsum, ← hexact]
  exact expectedIncrement.isLt

/-- The number is the real one exactly if it fits 64 bits. -/
theorem reports_increment_iff (hhex : ReadsHex api.fromHex) :
    (∃ total, ReportsIncrement api config task total) ↔
      task.incrementAmount.toNat * task.incrementsPerBlock.toNat < 2 ^ 64 := by
  constructor
  · rintro ⟨total, h⟩
    exact h.product_lt
  · intro h
    obtain ⟨expectedIncrement, hexact, hprogram⟩ := announceCycle_eq api h
    refine ⟨expectedIncrement.toNat, ?_, ?_, ?_, ?_⟩
    · exact ⟨_, amounts_calldata task, by simp [hexact]⟩
    · rw [hexact]
      exact adds_product hhex task
    · intro env history
      refine ⟨expectedIncrement, rfl, ?_⟩
      rw [hprogram]
      rfl
    · intro env history event hevent
      exact (onlyAsks_runCycle hprogram).of_mem_run hevent

end Cycle

/-- Three calls of `increment(2)`. -/
theorem reports_increment_small :
    ∃ total, ReportsIncrement sampleApi sample.config ⟨"s", "0x5", 3, 2, 3⟩ total :=
  (reports_increment_iff readsHex_hexFelt).mpr (by decide)

/-- Two calls of `increment(2 ^ 63)` add `2 ^ 64`, which no build reports. -/
theorem large_increment_not_reported :
    ¬ ∃ overflowChecks total,
      ReportsIncrement { sampleApi with overflowChecks := overflowChecks } sample.config
        ⟨"s", "0x5", 3, 0x8000000000000000, 2⟩ total := by
  rintro ⟨overflowChecks, total, h⟩
  exact absurd h.product_lt (by decide)

end Snip36.ReportedIncrement
