import Snip36.BankFairness

/-!
The life of a session of the bank: its state moves forward one step at a time,
its terms are fixed with the deposit, it is paid out once, and a matched session
can always be paid out.
-/

namespace Snip36.BankLifecycle

open BankAccounting
open BankFairness
open CoinFlipBank
open Library.Erc20
open Library.Fallible
open Library.Reverting
open Library.Words

/-- The five cells of one session. -/
structure Game where
  player : ContractAddress
  amount : U256
  seed : Felt
  bet : Felt
  state : U8

def game (s : Storage) (id : Felt) : Game :=
  ⟨s.gamePlayer id, s.gameAmount id, s.gameSeed id, s.gameBet id, s.gameState id⟩

/-- Everything but the state. -/
def Game.terms (g : Game) : ContractAddress × U256 × Felt × Felt :=
  (g.player, g.amount, g.seed, g.bet)

/-- The steps of the state of a session. -/
inductive Advances : U8 → U8 → Prop
  | deposited : Advances stateEmpty stateDeposited
  | matched : Advances stateDeposited stateMatched
  | settled : Advances stateMatched stateSettled

/-- The session that an action names. -/
def session : Action → Option Felt
  | .bank _ (.deposit sessionId _ _ _) => some sessionId
  | .bank _ (.matchDeposit sessionId) => some sessionId
  | .bank _ (.settle sessionId _) => some sessionId
  | .bank _ .withdraw => none
  | .token _ _ => none

/-- A transfer of the bank's own tokens, and the session that it is for. -/
structure Payment where
  session : Option Felt
  recipient : ContractAddress
  amount : U256

/-- The transfers that the bank makes in an action. -/
def payments (pedersen : Felt → Felt → Felt) (w : World) : Action → List Payment
  | .bank _ (.settle sessionId seed) =>
      (checkedMul (w.bank.gameAmount sessionId) 2).toList.map fun payout =>
        ⟨some sessionId, payee pedersen w.bank sessionId seed, payout⟩
  | .bank caller .withdraw => [⟨none, caller, w.bank.playerBalance caller⟩]
  | _ => []

/-- The tokens that the bank collects from the caller of an action. -/
def collected (w : World) : Action → Nat
  | .bank _ (.deposit _ betAmount _ _) => betAmount.toNat
  | .bank _ (.matchDeposit sessionId) => (w.bank.gameAmount sessionId).toNat
  | _ => 0

def total (ps : List Payment) : Nat := (ps.map fun p => p.amount.toNat).sum

/-- What a list of payments brings to one account. -/
def totalTo (a : ContractAddress) (ps : List Payment) : Nat :=
  total (ps.filter fun p => p.recipient = a)

/-- What one action does to the sessions and, when it is a call to the bank, to
the tokens. -/
structure StepEffect (pedersen : Felt → Felt → Felt) (contract : ContractAddress)
    (w : World) (action : Action) (w' : World) : Prop where
  state : ∀ id, w'.bank.gameState id = w.bank.gameState id ∨
    Advances (w.bank.gameState id) (w'.bank.gameState id)
  terms : ∀ id, w.bank.gameState id ≠ stateEmpty →
    (game w'.bank id).terms = (game w.bank id).terms
  others : ∀ id, session action ≠ some id → game w'.bank id = game w.bank id
  paid : ∀ p ∈ payments pedersen w action, ∃ id, p.session = some id ∧
    w.bank.gameState id = stateMatched ∧ w'.bank.gameState id = stateSettled ∧
    p.amount.toNat = 2 * (w.bank.gameAmount id).toNat ∧
    (p.recipient = w.bank.gamePlayer id ∨ p.recipient = w.bank.owner)
  payout : ∀ id, w.bank.gameState id = stateMatched → w'.bank.gameState id = stateSettled →
    ∃ p, payments pedersen w action = [p] ∧ p.session = some id
  flow : ∀ caller call, action = .bank caller call → ∀ a,
    (w'.token.balance a).toNat + (if a = contract then total (payments pedersen w action) else 0) +
        (if a = caller then collected w action else 0) =
      (w.token.balance a).toNat + totalTo a (payments pedersen w action) +
        (if a = contract then collected w action else 0)

theorem game_recordGame (s : Storage) (sessionId : Felt) (player : ContractAddress)
    (amount : U256) (seed bet id : Felt) :
    game (s.recordGame sessionId player amount seed bet) id =
      if id = sessionId then ⟨player, amount, seed, bet, stateDeposited⟩ else game s id := by
  rcases eq_or_ne id sessionId with rfl | hid
  · simp [game, Storage.recordGame]
  · simp [game, Storage.recordGame, hid]

theorem game_writeState (s : Storage) (sessionId : Felt) (state : U8) (id : Felt) :
    game (s.writeState sessionId state) id =
      if id = sessionId then { game s id with state := state } else game s id := by
  rcases eq_or_ne id sessionId with rfl | hid
  · simp [game, Storage.writeState]
  · simp [game, Storage.writeState, hid]

@[simp] theorem total_nil : total [] = 0 := rfl

@[simp] theorem totalTo_nil (a : ContractAddress) : totalTo a [] = 0 := rfl

theorem total_singleton (p : Payment) : total [p] = p.amount.toNat := by simp [total]

theorem totalTo_singleton (a : ContractAddress) (p : Payment) :
    totalTo a [p] = if a = p.recipient then p.amount.toNat else 0 := by
  rcases eq_or_ne a p.recipient with rfl | ha
  · simp [totalTo, total]
  · simp [totalTo, total, ha, ha.symm]

variable {pedersen : Felt → Felt → Felt} {contract owner caller : ContractAddress}
  {w w' : World} {sessionId seed bet : Felt} {betAmount : U256}

namespace StepEffect

theorem deposit (h : deposit contract caller sessionId betAmount seed bet w = .ok w') :
    StepEffect pedersen contract w (.bank caller (.deposit sessionId betAmount seed bet)) w' := by
  obtain ⟨-, hempty, token, htransfer, rfl⟩ := deposit_eq_ok_iff.mp h
  have hgame := game_recordGame w.bank sessionId caller betAmount seed bet
  refine ⟨?_, ?_, ?_, by simp [payments], ?_, ?_⟩
  · intro id
    rw [Storage.gameState_recordGame]
    rcases eq_or_ne id sessionId with rfl | hid
    · rw [Function.update_self, hempty]
      exact Or.inr .deposited
    · exact Or.inl (Function.update_of_ne hid _ _)
  · intro id hid
    have hne : id ≠ sessionId := by
      rintro rfl
      exact hid hempty
    rw [hgame, if_neg hne]
  · intro id hid
    have hne : id ≠ sessionId := by
      rintro rfl
      exact hid rfl
    rw [hgame, if_neg hne]
  · intro id hmatched hsettled
    have hne : id ≠ sessionId := by
      rintro rfl
      rw [hempty] at hmatched
      exact absurd hmatched (by decide)
    rw [Storage.gameState_recordGame, Function.update_of_ne hne, hmatched] at hsettled
    exact absurd hsettled (by decide)
  · rintro _ _ ⟨⟩ a
    simpa [payments, collected] using (Token.moved_of_transferFrom htransfer).1.flow a

/-- A call that only writes the state of one session keeps all terms. -/
theorem terms_writeState (s : Storage) (sessionId : Felt) (state : U8) (id : Felt) :
    (game (s.writeState sessionId state) id).terms = (game s id).terms := by
  rw [game_writeState]
  split
  · rfl
  · rfl

theorem state_writeState {s : Storage} {state : U8} (h : Advances (s.gameState sessionId) state)
    (id : Felt) : (s.writeState sessionId state).gameState id = s.gameState id ∨
      Advances (s.gameState id) ((s.writeState sessionId state).gameState id) := by
  rw [Storage.gameState_writeState]
  rcases eq_or_ne id sessionId with rfl | hid
  · rw [Function.update_self]
    exact Or.inr h
  · exact Or.inl (Function.update_of_ne hid _ _)

theorem others_writeState (s : Storage) (state : U8) {id : Felt}
    (hid : some sessionId ≠ some id) : game (s.writeState sessionId state) id = game s id := by
  have hne : id ≠ sessionId := by
    rintro rfl
    exact hid rfl
  rw [game_writeState, if_neg hne]

/-- Only the session that is written can come to another state. -/
theorem eq_of_writeState_settled {s : Storage} {state : U8} {id : Felt}
    (hmatched : s.gameState id = stateMatched)
    (hsettled : (s.writeState sessionId state).gameState id = stateSettled) :
    id = sessionId ∧ state = stateSettled := by
  rw [Storage.gameState_writeState] at hsettled
  rcases eq_or_ne id sessionId with rfl | hid
  · rw [Function.update_self] at hsettled
    exact ⟨rfl, hsettled⟩
  · rw [Function.update_of_ne hid, hmatched] at hsettled
    exact absurd hsettled (by decide)

theorem matchDeposit (h : matchDeposit contract caller sessionId w = .ok w') :
    StepEffect pedersen contract w (.bank caller (.matchDeposit sessionId)) w' := by
  obtain ⟨-, hdeposited, token, htransfer, rfl⟩ := matchDeposit_eq_ok_iff.mp h
  refine ⟨?_, fun id _ => terms_writeState _ _ _ id, fun id hid => others_writeState _ _ hid,
    by simp [payments], ?_, ?_⟩
  · apply state_writeState
    rw [hdeposited]
    exact .matched
  · intro id hmatched hsettled
    exact absurd (eq_of_writeState_settled hmatched hsettled).2 (by decide)
  · rintro _ _ ⟨⟩ a
    simpa [payments, collected] using (Token.moved_of_transferFrom htransfer).1.flow a

theorem settle (h : settle contract pedersen caller sessionId seed w = .ok w') :
    StepEffect pedersen contract w (.bank caller (.settle sessionId seed)) w' := by
  obtain ⟨-, hmatched, payout, token, hpayout, htransfer, rfl⟩ := settle_eq_ok_iff.mp h
  have hpayments : payments pedersen w (.bank caller (.settle sessionId seed)) =
      [⟨some sessionId, payee pedersen w.bank sessionId seed, payout⟩] := by
    simp only [payments, hpayout, Option.toList_some, List.map_cons, List.map_nil]
  refine ⟨?_, fun id _ => terms_writeState _ _ _ id, fun id hid => others_writeState _ _ hid,
    ?_, ?_, ?_⟩
  · apply state_writeState
    rw [hmatched]
    exact .settled
  · rw [hpayments]
    intro p hp
    rw [List.mem_singleton] at hp
    subst hp
    exact ⟨sessionId, rfl, hmatched, Function.update_self .., toNat_payout hpayout,
      payee_eq_or _ _ _ _⟩
  · intro id hbefore hsettled
    obtain ⟨rfl, -⟩ := eq_of_writeState_settled hbefore hsettled
    exact ⟨_, hpayments, rfl⟩
  · rintro _ _ ⟨⟩ a
    rw [hpayments, total_singleton, totalTo_singleton]
    simpa [collected] using (Token.moved_of_move htransfer).flow a

/-- A call to the token touches no session. -/
theorem token (call : Call ContractAddress 256) (token : Token ContractAddress 256) :
    StepEffect pedersen contract w (.token caller call) { w with token } :=
  ⟨fun _ => Or.inl rfl, fun _ _ => rfl, fun _ _ => rfl, by simp [payments],
    fun _ hmatched hsettled => absurd (hmatched.symm.trans hsettled) (by decide),
    fun _ _ hbank => nomatch hbank⟩

/-- One action by any caller, in a state where nobody has a withdrawable balance. -/
theorem of_step {action : Action} (hzero : ∀ player, w.bank.playerBalance player = 0)
    (h : step pedersen contract w action = .ok w') :
    StepEffect pedersen contract w action w' := by
  cases action with
  | bank caller call =>
      cases call with
      | deposit sessionId betAmount seed bet => exact deposit h
      | matchDeposit sessionId => exact matchDeposit h
      | settle sessionId seed => exact settle h
      | withdraw =>
          rw [step, callBank, withdraw_eq_error (hzero caller)] at h
          cases h
  | token caller call =>
      simp only [step, bind_eq_ok_iff, orRevert_eq_ok_iff, pure_eq_ok_iff] at h
      obtain ⟨token, -, rfl⟩ := h
      exact StepEffect.token call token

end StepEffect

/-- The payments of one session. -/
def paymentsOf (id : Felt) (log : List Payment) : List Payment :=
  log.filter fun p => p.session = some id

theorem paymentsOf_append (id : Felt) (log more : List Payment) :
    paymentsOf id (log ++ more) = paymentsOf id log ++ paymentsOf id more :=
  List.filter_append ..

/-- The account of all payments up to a state of the bank. -/
structure Paid (owner : ContractAddress) (log : List Payment) (w : World) : Prop where
  ownerKept : w.bank.owner = owner
  playerBalance : ∀ player, w.bank.playerBalance player = 0
  named : ∀ p ∈ log, ∃ id, p.session = some id
  unsettled : ∀ id, w.bank.gameState id ≠ stateSettled → paymentsOf id log = []
  settled : ∀ id, w.bank.gameState id = stateSettled → ∃ p, paymentsOf id log = [p] ∧
    p.amount.toNat = 2 * (w.bank.gameAmount id).toNat ∧
    (p.recipient = w.bank.gamePlayer id ∨ p.recipient = owner)

theorem not_settled_of_advances {state state' : U8} (h : Advances state state') :
    state ≠ stateSettled := by
  cases h with
  | deposited => decide
  | matched => decide
  | settled => decide

theorem matched_of_advances {state state' : U8} (h : Advances state state')
    (hsettled : state' = stateSettled) : state = stateMatched := by
  cases h with
  | deposited => exact absurd hsettled (by decide)
  | matched => exact absurd hsettled (by decide)
  | settled => rfl

/-- No call writes the owner, and only `withdraw` writes a withdrawable balance. -/
theorem cells_of_step {action : Action} (hzero : ∀ player, w.bank.playerBalance player = 0)
    (h : step pedersen contract w action = .ok w') :
    w'.bank.owner = w.bank.owner ∧ w'.bank.playerBalance = w.bank.playerBalance := by
  cases action with
  | bank caller call =>
      cases call with
      | deposit sessionId betAmount seed bet =>
          obtain ⟨-, -, token, -, rfl⟩ := deposit_eq_ok_iff.mp h
          exact ⟨rfl, rfl⟩
      | matchDeposit sessionId =>
          obtain ⟨-, -, token, -, rfl⟩ := matchDeposit_eq_ok_iff.mp h
          exact ⟨rfl, rfl⟩
      | settle sessionId seed =>
          obtain ⟨-, -, payout, token, -, -, rfl⟩ := settle_eq_ok_iff.mp h
          exact ⟨rfl, rfl⟩
      | withdraw =>
          rw [step, callBank, withdraw_eq_error (hzero caller)] at h
          cases h
  | token caller call =>
      simp only [step, bind_eq_ok_iff, orRevert_eq_ok_iff, pure_eq_ok_iff] at h
      obtain ⟨token, -, rfl⟩ := h
      exact ⟨rfl, rfl⟩

namespace Paid

variable {log : List Payment} {action : Action}

theorem deployed (owner : ContractAddress) (token : Token ContractAddress 256) :
    Paid owner [] ⟨token, deployed owner⟩ := by
  have hempty : stateEmpty ≠ stateSettled := by decide
  exact ⟨rfl, fun _ => rfl, by simp, fun _ _ => rfl, fun _ hid => absurd hid hempty⟩

/-- An action pays only for a session that it settles. -/
theorem paymentsOf_eq_nil (heffect : StepEffect pedersen contract w action w') {id : Felt}
    (hid : w.bank.gameState id ≠ stateMatched ∨ w'.bank.gameState id ≠ stateSettled) :
    paymentsOf id (payments pedersen w action) = [] := by
  apply List.filter_eq_nil_iff.mpr
  intro p hp hsession
  obtain ⟨id', hp', hmatched, hsettled, -⟩ := heffect.paid p hp
  obtain rfl : id' = id := Option.some.inj (hp'.symm.trans (by simpa using hsession))
  exact hid.elim (fun h => h hmatched) fun h => h hsettled

/-- A payment that fits the terms of a session still fits them after an action. -/
theorem fits_of_terms (heffect : StepEffect pedersen contract w action w') {id : Felt}
    (hstarted : w.bank.gameState id ≠ stateEmpty) {p : Payment}
    (hamount : p.amount.toNat = 2 * (w.bank.gameAmount id).toNat)
    (hrecipient : p.recipient = w.bank.gamePlayer id ∨ p.recipient = owner) :
    p.amount.toNat = 2 * (w'.bank.gameAmount id).toNat ∧
      (p.recipient = w'.bank.gamePlayer id ∨ p.recipient = owner) := by
  have hterms := heffect.terms id hstarted
  have hplayer : w'.bank.gamePlayer id = w.bank.gamePlayer id := congrArg Prod.fst hterms
  have hsame : w'.bank.gameAmount id = w.bank.gameAmount id := congrArg (fun t => t.2.1) hterms
  rw [hplayer, hsame]
  exact ⟨hamount, hrecipient⟩

/-- A session that is settled now is paid for now. -/
theorem paid_of_settled (hw : Paid owner log w)
    (heffect : StepEffect pedersen contract w action w') {id : Felt}
    (hmatched : w.bank.gameState id = stateMatched)
    (hsettled : w'.bank.gameState id = stateSettled) :
    ∃ p, paymentsOf id (log ++ payments pedersen w action) = [p] ∧
      p.amount.toNat = 2 * (w'.bank.gameAmount id).toNat ∧
      (p.recipient = w'.bank.gamePlayer id ∨ p.recipient = owner) := by
  obtain ⟨p, hpayments, hp⟩ := heffect.payout id hmatched hsettled
  obtain ⟨id', hp', -, -, hamount, hrecipient⟩ := heffect.paid p (by simp [hpayments])
  obtain rfl : id' = id := Option.some.inj (hp'.symm.trans hp)
  have hunsettled : w.bank.gameState id' ≠ stateSettled := by
    rw [hmatched]
    decide
  rw [hw.ownerKept] at hrecipient
  refine ⟨p, ?_, fits_of_terms heffect (Storage.started_of_matched hmatched) hamount hrecipient⟩
  rw [paymentsOf_append, hw.unsettled id' hunsettled, hpayments]
  simp [paymentsOf, hp]

theorem step (hw : Paid owner log w) (h : CoinFlipBank.step pedersen contract w action = .ok w') :
    Paid owner (log ++ payments pedersen w action) w' := by
  have heffect := StepEffect.of_step hw.playerBalance h
  obtain ⟨howner, hbalance⟩ := cells_of_step hw.playerBalance h
  refine ⟨howner.trans hw.ownerKept, ?_, ?_, ?_, ?_⟩
  · rw [hbalance]
    exact hw.playerBalance
  · intro p hp
    rcases List.mem_append.mp hp with hlog | hnow
    · exact hw.named p hlog
    · obtain ⟨id, hid, -⟩ := heffect.paid p hnow
      exact ⟨id, hid⟩
  · intro id hid
    have hbefore : w.bank.gameState id ≠ stateSettled := by
      intro hsettled
      rcases heffect.state id with hsame | hadvances
      · exact hid (hsame.trans hsettled)
      · exact not_settled_of_advances hadvances hsettled
    rw [paymentsOf_append, hw.unsettled id hbefore, paymentsOf_eq_nil heffect (Or.inr hid)]
    rfl
  · intro id hid
    rcases heffect.state id with hsame | hadvances
    · -- settled before: the payment is in the log and the terms have not moved
      have hbefore : w.bank.gameState id = stateSettled := hsame.symm.trans hid
      have hunmatched : w.bank.gameState id ≠ stateMatched := by
        rw [hbefore]
        decide
      have hstarted : w.bank.gameState id ≠ stateEmpty := by
        rw [hbefore]
        decide
      obtain ⟨p, hlog, hamount, hrecipient⟩ := hw.settled id hbefore
      refine ⟨p, ?_, fits_of_terms heffect hstarted hamount hrecipient⟩
      rw [paymentsOf_append, hlog, paymentsOf_eq_nil heffect (Or.inl hunmatched), List.append_nil]
    · exact paid_of_settled hw heffect (matched_of_advances hadvances hid) hid

theorem run (pedersen : Felt → Felt → Felt) (contract owner : ContractAddress)
    (token : Token ContractAddress 256) (actions : List Action) :
    let w : World := ⟨token, CoinFlipBank.deployed owner⟩
    Paid owner (logged (CoinFlipBank.step pedersen contract) (payments pedersen) w actions)
      (run (CoinFlipBank.step pedersen contract) w actions) := by
  intro w
  exact run_logged (payments pedersen) (P := Paid owner) (fun _ _ _ _ hw h => hw.step h)
    (deployed owner token) actions

end Paid

/-- Terms that are fixed stay fixed through every later run. -/
theorem terms_of_run (hzero : ∀ player, w.bank.playerBalance player = 0) {id : Felt}
    (hstarted : w.bank.gameState id ≠ stateEmpty) (later : List Action) :
    (game (run (step pedersen contract) w later).bank id).terms = (game w.bank id).terms := by
  have hstep : ∀ v action v', True →
      ((∀ player, v.bank.playerBalance player = 0) ∧ v.bank.gameState id ≠ stateEmpty ∧
        (game v.bank id).terms = (game w.bank id).terms) →
      step pedersen contract v action = .ok v' →
      (∀ player, v'.bank.playerBalance player = 0) ∧ v'.bank.gameState id ≠ stateEmpty ∧
        (game v'.bank id).terms = (game w.bank id).terms := by
    rintro v action v' - ⟨hv, hid, hterms⟩ h
    have heffect := StepEffect.of_step hv h
    refine ⟨?_, ?_, (heffect.terms id hid).trans hterms⟩
    · rw [(cells_of_step hv h).2]
      exact hv
    · rcases heffect.state id with hsame | hadvances
      · rwa [hsame]
      · intro hempty
        generalize v.bank.gameState id = before, v'.bank.gameState id = after at *
        cases hadvances with
        | deposited => exact absurd hempty (by decide)
        | matched => exact absurd hempty (by decide)
        | settled => exact absurd hempty (by decide)
  exact (run_keeps hstep ⟨hzero, hstarted, rfl⟩ fun _ _ => trivial).2.2

/-- Every run from the deployment of the bank, calls by anybody and reverted
calls included. -/
theorem session_lifecycle (pedersen : Felt → Felt → Felt) (contract owner : ContractAddress)
    (token : Token ContractAddress 256) (actions : List Action) :
    let start : World := ⟨token, deployed owner⟩
    let w := run (step pedersen contract) start actions
    let log := logged (step pedersen contract) (payments pedersen) start actions
    (∀ action e, step pedersen contract w action = .error e →
      exec (step pedersen contract) w action = w) ∧
    (∀ action w', step pedersen contract w action = .ok w' →
      exec (step pedersen contract) w action = w' ∧ StepEffect pedersen contract w action w') ∧
    (∀ later id, w.bank.gameState id ≠ stateEmpty →
      (game (run (step pedersen contract) start (actions ++ later)).bank id).terms =
        (game w.bank id).terms) ∧
    Paid owner log w := by
  intro start w log
  have hpaid : Paid owner log w := Paid.run pedersen contract owner token actions
  refine ⟨fun _ _ h => exec_of_error h, ?_, ?_, hpaid⟩
  · exact fun action w' h => ⟨exec_of_ok h, .of_step hpaid.playerBalance h⟩
  · intro later id hid
    rw [run_append]
    exact terms_of_run hpaid.playerBalance hid later

/-- In every state that outsiders can reach, with any seed. -/
theorem matched_game_settles (pedersen : Felt → Felt → Felt)
    (hdeployed : Deployed contract owner w) (hsupply : w.token.supply < 2 ^ 256)
    {actions : List Action} (hcallers : ∀ action ∈ actions, action.caller ≠ contract)
    (sessionId : Felt)
    (hmatched : (run (step pedersen contract) w actions).bank.gameState sessionId =
      stateMatched) (seed : Felt) :
    let after := run (step pedersen contract) w actions
    ∃ payout w', checkedMul (after.bank.gameAmount sessionId) 2 = some payout ∧
      payout.toNat ≤ (after.token.balance contract).toNat ∧
      payee pedersen after.bank sessionId seed ≠ 0 ∧
      settle contract pedersen owner sessionId seed after = .ok w' := by
  intro after
  have hinv : Invariant contract _ after := Invariant.run hdeployed hcallers
  have hsupply' : after.token.supply < 2 ^ 256 := by
    rw [supply_run]
    exact hsupply
  have howner : after.bank.owner = owner := by
    have hstart : w = ⟨w.token, deployed owner⟩ := by rw [← hdeployed.bank]
    have hpaid := Paid.run pedersen contract owner w.token actions
    rw [← hstart] at hpaid
    exact hpaid.ownerKept
  obtain ⟨w', hsettle⟩ := exists_settle hinv hsupply' hmatched pedersen seed
  obtain ⟨-, -, payout, token, hpayout, htransfer, -⟩ := settle_eq_ok_iff.mp hsettle
  rw [howner] at hsettle
  have hmoved := Token.moved_of_move htransfer
  exact ⟨payout, w', hpayout, hmoved.funds, hmoved.recipient_ne_zero, hsettle⟩

theorem matched_game_settles_matchedGame :
    let after := run (step seedParity bankAddress) freshWorld matchedGame
    ∃ payout w', checkedMul (after.bank.gameAmount 7) 2 = some payout ∧
      payout.toNat ≤ (after.token.balance bankAddress).toNat ∧
      payee seedParity after.bank 7 5 ≠ 0 ∧
      settle bankAddress seedParity ownerAddress 7 5 after = .ok w' := by
  apply matched_game_settles seedParity deployed_freshWorld
  · rw [supply_freshWorld]
    decide
  · decide
  · decide +kernel

end Snip36.BankLifecycle
