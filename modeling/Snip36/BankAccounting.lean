import Snip36.CoinFlipBank

/-!
Where the tokens of the bank come from: outside transfers, the stakes of
deposited games and twice the stakes of matched ones.
-/

namespace Snip36.BankAccounting

open CoinFlipBank
open Library.Erc20
open Library.Erc20.Token (inflow)
open Library.Fallible
open Library.Reverting

/-- A bank as the constructor leaves it, at an address that has approved nothing. -/
structure Deployed (contract owner : ContractAddress) (w : World) : Prop where
  bank : w.bank = deployed owner
  allowance : ∀ spender, w.token.allowance contract spender = 0

/-- The sum of the amounts of the sessions in one state. -/
def amountsIn (s : Storage) (state : U8) : Nat :=
  ∑ id with s.gameState id = state, (s.gameAmount id).toNat

/-- What a plain token call of an outsider moves to the bank. -/
def outsideInflow (contract : ContractAddress) : Action → Nat
  | .bank _ _ => 0
  | .token _ call => inflow contract call

/-- What the bank holds for one session. -/
def held (state : U8) (amount : U256) : Nat :=
  if state = stateDeposited then amount.toNat
  else if state = stateMatched then 2 * amount.toNat
  else 0

theorem held_empty (amount : U256) : held stateEmpty amount = 0 := rfl

theorem held_deposited (amount : U256) : held stateDeposited amount = amount.toNat := rfl

theorem held_matched (amount : U256) : held stateMatched amount = 2 * amount.toNat := rfl

theorem held_settled (amount : U256) : held stateSettled amount = 0 := rfl

def escrow (s : Storage) : Nat := ∑ id, held (s.gameState id) (s.gameAmount id)

theorem escrow_eq_amountsIn (s : Storage) :
    escrow s = amountsIn s stateDeposited + 2 * amountsIn s stateMatched := by
  have hstates : stateDeposited ≠ stateMatched := by decide
  simp only [escrow, amountsIn, Finset.sum_filter, Finset.mul_sum, ← Finset.sum_add_distrib]
  apply Finset.sum_congr rfl
  intro id _
  unfold held
  by_cases hdeposited : s.gameState id = stateDeposited
  · simp [hdeposited, hstates]
  · by_cases hmatched : s.gameState id = stateMatched
    · simp [hmatched, hstates.symm]
    · simp [hdeposited, hmatched]

theorem escrow_update (s s' : Storage) {sessionId : Felt} {state : U8} {amount : U256}
    (hstate : s'.gameState = Function.update s.gameState sessionId state)
    (hamount : s'.gameAmount = Function.update s.gameAmount sessionId amount) :
    escrow s' + held (s.gameState sessionId) (s.gameAmount sessionId) =
      escrow s + held state amount := by
  have hheld : (fun id => held (s'.gameState id) (s'.gameAmount id)) =
      Function.update (fun id => held (s.gameState id) (s.gameAmount id)) sessionId
        (held state amount) := by
    funext id
    rw [hstate, hamount]
    rcases eq_or_ne id sessionId with rfl | hid
    · simp only [Function.update_self]
    · simp only [Function.update_of_ne hid]
  have hsum := sum_update (fun id => held (s.gameState id) (s.gameAmount id)) sessionId
    (held state amount)
  rw [← hheld] at hsum
  unfold escrow
  exact hsum

theorem escrow_recordGame (s : Storage) (sessionId : Felt) (player : ContractAddress)
    (amount : U256) (seed bet : Felt) (h : s.gameState sessionId = stateEmpty) :
    escrow (s.recordGame sessionId player amount seed bet) = escrow s + amount.toNat := by
  have hupdate :=
    escrow_update s (s.recordGame sessionId player amount seed bet) rfl rfl
  rw [h, held_empty, held_deposited, Nat.add_zero] at hupdate
  exact hupdate

theorem escrow_writeState (s : Storage) (sessionId : Felt) (state : U8) :
    escrow (s.writeState sessionId state) +
        held (s.gameState sessionId) (s.gameAmount sessionId) =
      escrow s + held state (s.gameAmount sessionId) :=
  escrow_update s (s.writeState sessionId state) rfl (Function.update_eq_self _ _).symm

theorem held_le_escrow (s : Storage) (sessionId : Felt) :
    held (s.gameState sessionId) (s.gameAmount sessionId) ≤ escrow s :=
  Finset.single_le_sum (f := fun id => held (s.gameState id) (s.gameAmount id))
    (fun _ _ => Nat.zero_le _) (Finset.mem_univ sessionId)

/-- The invariant of the bank after outside transfers of `received` to it. -/
structure Invariant (contract : ContractAddress) (received : Nat) (w : World) : Prop where
  balance : (w.token.balance contract).toNat = received + escrow w.bank
  allowance : ∀ spender, w.token.allowance contract spender = 0
  playerBalance : ∀ player, w.bank.playerBalance player = 0
  address : ∀ id, w.bank.gameState id ≠ stateEmpty → contract ≠ 0
  player : ∀ id, w.bank.gameState id ≠ stateEmpty →
    w.bank.gamePlayer id ≠ contract ∧ w.bank.gamePlayer id ≠ 0
  amount : ∀ id, w.bank.gameState id ≠ stateEmpty → w.bank.gameAmount id > 0
  owner : ∀ id, w.bank.gameState id = stateMatched → w.bank.owner ≠ contract ∧ w.bank.owner ≠ 0

variable {pedersen : Felt → Felt → Felt} {contract owner caller : ContractAddress}
  {received : Nat} {w w' : World} {sessionId seed bet : Felt}

/-- What the address had before the bank was deployed came from outside too. -/
theorem Deployed.invariant (h : Deployed contract owner w) :
    Invariant contract (w.token.balance contract).toNat w := by
  have hescrow : escrow (deployed owner) = 0 := Finset.sum_eq_zero fun _ _ => rfl
  have hempty : ∀ id, w.bank.gameState id = stateEmpty := by
    intro id
    rw [h.bank]
    rfl
  refine ⟨?_, h.allowance, ?_, fun id hid => absurd (hempty id) hid,
    fun id hid => absurd (hempty id) hid, fun id hid => absurd (hempty id) hid, ?_⟩
  · rw [h.bank, hescrow, Nat.add_zero]
  · intro player
    rw [h.bank]
    rfl
  · intro id hid
    rw [hempty id] at hid
    exact absurd hid (by decide)

namespace Invariant

theorem deposit {betAmount : U256} (hcaller : caller ≠ contract) (hw : Invariant contract received w)
    (h : deposit contract caller sessionId betAmount seed bet w = .ok w') :
    Invariant contract received w' := by
  obtain ⟨hamount, hempty, token, htransfer, rfl⟩ := deposit_eq_ok_iff.mp h
  obtain ⟨hmoved, -⟩ := Token.moved_of_transferFrom htransfer
  have hflow := hmoved.flow contract
  rw [if_neg (Ne.symm hcaller), if_pos rfl, hw.balance] at hflow
  refine ⟨?_, fun spender => hmoved.allowance_eq_zero (hw.allowance spender),
    hw.playerBalance, fun _ _ => hmoved.recipient_ne_zero, ?_, ?_, ?_⟩
  · rw [escrow_recordGame _ _ _ _ _ _ hempty]
    dsimp only
    omega
  · intro id hid
    rcases Storage.started_of_recordGame hid with ⟨hplayer, -⟩ | ⟨hbefore, hplayer, -⟩
    · rw [hplayer]
      exact ⟨hcaller, hmoved.sender_ne_zero⟩
    · rw [hplayer]
      exact hw.player id hbefore
  · intro id hid
    rcases Storage.started_of_recordGame hid with ⟨-, hrecorded⟩ | ⟨hbefore, -, hrecorded⟩
    · rw [hrecorded]
      exact hamount
    · rw [hrecorded]
      exact hw.amount id hbefore
  · intro id hid
    exact hw.owner id (Storage.matched_of_recordGame hid)

/-- Moving a session on to a later state keeps what is known about its player
and amount. -/
theorem writeState {state : U8} {token : Token ContractAddress 256}
    (hw : Invariant contract received w) (hstarted : w.bank.gameState sessionId ≠ stateEmpty)
    (hbalance : (token.balance contract).toNat =
      received + escrow (w.bank.writeState sessionId state))
    (hallowance : ∀ spender, token.allowance contract spender = 0)
    (howner : w.bank.owner ≠ contract ∧ w.bank.owner ≠ 0) :
    Invariant contract received ⟨token, w.bank.writeState sessionId state⟩ := by
  have hbefore : ∀ id, (w.bank.writeState sessionId state).gameState id ≠ stateEmpty →
      w.bank.gameState id ≠ stateEmpty := fun id => Storage.started_of_writeState hstarted
  exact ⟨hbalance, hallowance, hw.playerBalance, fun id hid => hw.address id (hbefore id hid),
    fun id hid => hw.player id (hbefore id hid), fun id hid => hw.amount id (hbefore id hid),
    fun _ _ => howner⟩

theorem matchDeposit (hcaller : caller ≠ contract) (hw : Invariant contract received w)
    (h : matchDeposit contract caller sessionId w = .ok w') : Invariant contract received w' := by
  obtain ⟨rfl, hdeposited, token, htransfer, rfl⟩ := matchDeposit_eq_ok_iff.mp h
  obtain ⟨hmoved, -⟩ := Token.moved_of_transferFrom htransfer
  have hflow := hmoved.flow contract
  rw [if_neg (Ne.symm hcaller), if_pos rfl, hw.balance] at hflow
  have hescrow := escrow_writeState w.bank sessionId stateMatched
  rw [hdeposited, held_deposited, held_matched] at hescrow
  apply hw.writeState
  · rw [hdeposited]
    decide
  · omega
  · exact fun spender => hmoved.allowance_eq_zero (hw.allowance spender)
  · exact ⟨hcaller, hmoved.sender_ne_zero⟩

theorem payee_ne_contract (hw : Invariant contract received w)
    (hmatched : w.bank.gameState sessionId = stateMatched)
    (pedersen : Felt → Felt → Felt) (seed : Felt) :
    payee pedersen w.bank sessionId seed ≠ contract ∧
      payee pedersen w.bank sessionId seed ≠ 0 := by
  rcases payee_eq_or pedersen w.bank sessionId seed with hplayer | howner
  · rw [hplayer]
    exact hw.player sessionId (Storage.started_of_matched hmatched)
  · rw [howner]
    exact hw.owner sessionId hmatched

theorem settle (hw : Invariant contract received w)
    (h : settle contract pedersen caller sessionId seed w = .ok w') :
    Invariant contract received w' := by
  obtain ⟨-, hmatched, payout, token, hpayout, htransfer, rfl⟩ := settle_eq_ok_iff.mp h
  have hmoved := Token.moved_of_move htransfer
  have hflow := hmoved.flow contract
  rw [if_pos rfl, if_neg (hw.payee_ne_contract hmatched pedersen seed).1.symm, hw.balance] at hflow
  have hescrow := escrow_writeState w.bank sessionId stateSettled
  rw [hmatched, held_matched, held_settled] at hescrow
  have hvalue := toNat_payout hpayout
  apply hw.writeState
  · exact Storage.started_of_matched hmatched
  · omega
  · exact fun spender => hmoved.allowance_eq_zero (hw.allowance spender)
  · exact hw.owner sessionId hmatched

theorem tokenCall {call : Call ContractAddress 256} {token : Token ContractAddress 256}
    (hcaller : caller ≠ contract) (hw : Invariant contract received w)
    (h : w.token.call caller call = some token) :
    Invariant contract (received + inflow contract call) { w with token } := by
  refine ⟨?_, fun spender => Token.allowance_of_outside_call hcaller hw.allowance h spender,
    hw.playerBalance, hw.address, hw.player, hw.amount, hw.owner⟩
  have hbalance := Token.balance_of_outside_call hcaller hw.allowance h
  rw [hw.balance] at hbalance
  dsimp only
  omega

/-- One action, by any caller but the bank. -/
theorem step {action : Action} (hcaller : action.caller ≠ contract)
    (hw : Invariant contract received w)
    (h : CoinFlipBank.step pedersen contract w action = .ok w') :
    Invariant contract (received + outsideInflow contract action) w' := by
  cases action with
  | bank caller call =>
      cases call with
      | deposit sessionId betAmount seed bet => exact hw.deposit hcaller h
      | matchDeposit sessionId => exact hw.matchDeposit hcaller h
      | settle sessionId seed => exact hw.settle h
      | withdraw =>
          rw [CoinFlipBank.step, callBank, withdraw_eq_error (hw.playerBalance caller)] at h
          cases h
  | token caller call =>
      simp only [CoinFlipBank.step, bind_eq_ok_iff, orRevert_eq_ok_iff, pure_eq_ok_iff] at h
      obtain ⟨token, hcall, rfl⟩ := h
      exact hw.tokenCall hcaller hcall

theorem run (hdeployed : Deployed contract owner w) {actions : List Action}
    (hcallers : ∀ action ∈ actions, action.caller ≠ contract) :
    Invariant contract
      ((w.token.balance contract).toNat +
        gained (CoinFlipBank.step pedersen contract) (outsideInflow contract) w actions)
      (run (CoinFlipBank.step pedersen contract) w actions) := by
  have hstep : ∀ received w action w', action.caller ≠ contract →
      Invariant contract received w →
      CoinFlipBank.step pedersen contract w action = .ok w' →
      Invariant contract (received + outsideInflow contract action) w' :=
    fun _ _ _ _ hcaller hw h => hw.step hcaller h
  exact run_gained (outsideInflow contract) hstep hdeployed.invariant hcallers

end Invariant

section Accounting

variable {actions : List Action}

/-- Every run of calls by outsiders, reverted ones included. Nothing came to the
bank but its balance before the run and plain transfers during it. -/
theorem escrow_accounting (pedersen : Felt → Felt → Felt)
    (hdeployed : Deployed contract owner w)
    (hcallers : ∀ action ∈ actions, action.caller ≠ contract) :
    let after := run (CoinFlipBank.step pedersen contract) w actions
    (after.token.balance contract).toNat =
      (w.token.balance contract).toNat +
        gained (CoinFlipBank.step pedersen contract) (outsideInflow contract) w actions +
        amountsIn after.bank stateDeposited + 2 * amountsIn after.bank stateMatched ∧
    (∀ player, after.bank.playerBalance player = 0) ∧
    ∀ caller, withdraw contract caller after =
      .error (.assertion "Nothing to withdraw") := by
  intro after
  have hinv : Invariant contract _ after := Invariant.run hdeployed hcallers
  refine ⟨?_, hinv.playerBalance, fun caller => withdraw_eq_error (hinv.playerBalance caller)⟩
  rw [hinv.balance, escrow_eq_amountsIn, ← Nat.add_assoc]

end Accounting

def bankAddress : ContractAddress := ⟨1, by decide⟩
def ownerAddress : ContractAddress := ⟨2, by decide⟩
def playerAddress : ContractAddress := ⟨3, by decide⟩

/-- The owner has 100 tokens and the player 50. -/
def freshWorld : World where
  token := {
    balance := Function.update (Function.update (fun _ => 0) ownerAddress 100) playerAddress 50
    allowance := fun _ _ => 0 }
  bank := deployed ownerAddress

theorem deployed_freshWorld : Deployed bankAddress ownerAddress freshWorld :=
  ⟨rfl, fun _ => rfl⟩

/-- The player bets 10 on heads in session 7 and the owner matches. -/
def matchedGame : List Action := [
  .token playerAddress (.approve bankAddress 10),
  .bank playerAddress (.deposit 7 10 4 0),
  .token ownerAddress (.approve bankAddress 10),
  .bank ownerAddress (.matchDeposit 7)]

/-- A matched game and five tokens from outside. -/
theorem escrow_accounting_matchedGame :
    let step := CoinFlipBank.step (fun seed _ => seed) bankAddress
    let actions := matchedGame ++ [.token playerAddress (.transfer bankAddress 5)]
    let after := run step freshWorld actions
    after.bank.gameState 7 = stateMatched ∧
    (after.token.balance bankAddress).toNat =
      (freshWorld.token.balance bankAddress).toNat +
        gained step (outsideInflow bankAddress) freshWorld actions +
        amountsIn after.bank stateDeposited + 2 * amountsIn after.bank stateMatched ∧
    gained step (outsideInflow bankAddress) freshWorld actions = 5 := by
  refine ⟨by decide +kernel, ?_, by decide +kernel⟩
  exact (escrow_accounting _ deployed_freshWorld (by decide)).1

end Snip36.BankAccounting
