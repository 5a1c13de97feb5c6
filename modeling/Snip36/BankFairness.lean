import Snip36.BankAccounting

/-!
Which recipient the owner pays when it settles a matched session, as a function
of the seed that it passes.
-/

namespace Snip36.BankFairness

open BankAccounting
open CoinFlipBank
open Library.Erc20
open Library.Fallible
open Library.Reverting
open Library.Words

/-- The owner settles with `seed` and the balance of `recipient` grows. -/
def Pays (pedersen : Felt → Felt → Felt) (contract : ContractAddress) (w : World)
    (sessionId seed : Felt) (recipient : ContractAddress) : Prop :=
  ∃ w', settle contract pedersen w.bank.owner sessionId seed w = .ok w' ∧
    (w.token.balance recipient).toNat < (w'.token.balance recipient).toNat

/-- One recipient is paid, and no other, whichever seed the owner passes. -/
def OwnerCannotChoose (pedersen : Felt → Felt → Felt) (contract : ContractAddress) (w : World)
    (sessionId : Felt) : Prop :=
  ∃ recipient, ∀ seed a, Pays pedersen contract w sessionId seed a ↔ a = recipient

/-- The bet is no side of the coin, or both sides pay the same account, or the
parity of the hash does not depend on the seed for this player. -/
def PayeeFixed (pedersen : Felt → Felt → Felt) (s : Storage) (sessionId : Felt) : Prop :=
  (s.gameBet sessionId ≠ 0 ∧ s.gameBet sessionId ≠ 1) ∨
  s.gamePlayer sessionId = s.owner ∨
  ∀ seed seed', (pedersen seed (s.gamePlayer sessionId).key).val % 2 =
    (pedersen seed' (s.gamePlayer sessionId).key).val % 2

theorem coinOutcome_eq_zero_or_one (pedersen : Felt → Felt → Felt) (seed player : Felt) :
    coinOutcome pedersen seed player = 0 ∨ coinOutcome pedersen seed player = 1 := by
  unfold coinOutcome
  dsimp only
  split
  · exact Or.inl rfl
  · exact Or.inr rfl

theorem coinOutcome_eq_iff {pedersen : Felt → Felt → Felt} {seed seed' player player' : Felt} :
    coinOutcome pedersen seed player = coinOutcome pedersen seed' player' ↔
      (pedersen seed player).val % 2 = (pedersen seed' player').val % 2 := by
  have hlow : ∀ n : Nat, n % 2 ^ 128 % 2 = n % 2 := fun n =>
    Nat.mod_mod_of_dvd n (by decide)
  have hsides : (0 : Felt) ≠ 1 := by decide
  unfold coinOutcome
  simp only [hlow]
  split <;> split <;> simp_all

/-- Two coins that both hit or both miss a side of the coin show the same side. -/
theorem sides_agree {side coin coin' : Felt} (hside : side = 0 ∨ side = 1)
    (hcoin : coin = 0 ∨ coin = 1) (hcoin' : coin' = 0 ∨ coin' = 1)
    (h : coin = side ↔ coin' = side) : coin = coin' := by
  rcases eq_or_ne coin side with hhit | hhit
  · rw [hhit, h.mp hhit]
  · have hmiss : coin' ≠ side := fun hc => hhit (h.mpr hc)
    rcases hside with rfl | rfl
    · rw [hcoin.resolve_left hhit, hcoin'.resolve_left hmiss]
    · rw [hcoin.resolve_right hhit, hcoin'.resolve_right hmiss]

variable {pedersen : Felt → Felt → Felt} {contract owner : ContractAddress}
  {received : Nat} {w w' : World} {sessionId seed : Felt}

theorem payee_fixed_of_payeeFixed {s : Storage} (h : PayeeFixed pedersen s sessionId)
    (seed seed' : Felt) :
    payee pedersen s sessionId seed = payee pedersen s sessionId seed' := by
  rcases h with ⟨h0, h1⟩ | howner | hcoin
  · have hbank : ∀ seed, payee pedersen s sessionId seed = s.owner := by
      intro seed
      unfold payee
      dsimp only
      rcases coinOutcome_eq_zero_or_one pedersen seed (s.gamePlayer sessionId).key with hc | hc
      · rw [hc, if_neg h0.symm]
      · rw [hc, if_neg h1.symm]
    rw [hbank seed, hbank seed']
  · have hbank : ∀ seed, payee pedersen s sessionId seed = s.owner := by
      intro seed
      rcases payee_eq_or pedersen s sessionId seed with hp | hp
      · rw [hp, howner]
      · exact hp
    rw [hbank seed, hbank seed']
  · unfold payee
    dsimp only
    rw [coinOutcome_eq_iff.mpr (hcoin seed seed')]

theorem payee_eq_player_iff {s : Storage} (hne : s.gamePlayer sessionId ≠ s.owner) :
    payee pedersen s sessionId seed = s.gamePlayer sessionId ↔
      coinOutcome pedersen seed (s.gamePlayer sessionId).key = s.gameBet sessionId := by
  unfold payee
  dsimp only
  split
  · simp_all
  · simp_all [eq_comm]

theorem payeeFixed_iff {s : Storage} :
    PayeeFixed pedersen s sessionId ↔
      ∀ seed seed', payee pedersen s sessionId seed = payee pedersen s sessionId seed' := by
  refine ⟨payee_fixed_of_payeeFixed, fun hfixed => ?_⟩
  by_cases hbet : s.gameBet sessionId ≠ 0 ∧ s.gameBet sessionId ≠ 1
  · exact Or.inl hbet
  by_cases howner : s.gamePlayer sessionId = s.owner
  · exact Or.inr (Or.inl howner)
  refine Or.inr (Or.inr fun seed seed' => coinOutcome_eq_iff.mp ?_)
  have hside : s.gameBet sessionId = 0 ∨ s.gameBet sessionId = 1 := by
    by_contra hnone
    exact hbet (not_or.mp hnone)
  apply sides_agree hside (coinOutcome_eq_zero_or_one _ _ _) (coinOutcome_eq_zero_or_one _ _ _)
  rw [← payee_eq_player_iff howner, ← payee_eq_player_iff howner, hfixed seed seed']

/-- The bank can pay out every matched session. -/
theorem exists_settle (hinv : Invariant contract received w) (hsupply : w.token.supply < 2 ^ 256)
    (hmatched : w.bank.gameState sessionId = stateMatched)
    (pedersen : Felt → Felt → Felt) (seed : Felt) :
    ∃ w', settle contract pedersen w.bank.owner sessionId seed w = .ok w' := by
  have hheld := held_le_escrow w.bank sessionId
  rw [hmatched, held_matched] at hheld
  have hbalance := hinv.balance
  have hbound := (w.token.balance contract).isLt
  obtain ⟨payout, hpayout⟩ : ∃ payout,
      checkedMul (w.bank.gameAmount sessionId) 2 = some payout := by
    apply exists_checkedMul
    have htwo : (2 : U256).toNat = 2 := rfl
    rw [htwo]
    omega
  have hvalue := toNat_payout hpayout
  have hpayee := (hinv.payee_ne_contract hmatched pedersen seed).2
  have hstarted := Storage.started_of_matched hmatched
  have hfunds : payout.toNat ≤ (w.token.balance contract).toNat := by omega
  obtain ⟨token, htoken⟩ :=
    Token.exists_move hsupply (hinv.address sessionId hstarted) hpayee hfunds
  exact ⟨_, settle_eq_ok_iff.mpr ⟨rfl, hmatched, payout, token, hpayout, htoken, rfl⟩⟩

theorem pays_iff (hinv : Invariant contract received w) (hsupply : w.token.supply < 2 ^ 256)
    (hmatched : w.bank.gameState sessionId = stateMatched) (recipient : ContractAddress) :
    Pays pedersen contract w sessionId seed recipient ↔
      recipient = payee pedersen w.bank sessionId seed := by
  have hne := (hinv.payee_ne_contract hmatched pedersen seed).1
  constructor
  · rintro ⟨w', hsettle, hgrows⟩
    obtain ⟨-, -, payout, token, -, htoken, rfl⟩ := settle_eq_ok_iff.mp hsettle
    have hflow := (Token.moved_of_move htoken).flow recipient
    by_contra hother
    rw [if_neg hother] at hflow
    dsimp only at hgrows
    omega
  · rintro rfl
    obtain ⟨w', hsettle⟩ := exists_settle hinv hsupply hmatched pedersen seed
    refine ⟨w', hsettle, ?_⟩
    obtain ⟨-, -, payout, token, hpayout, htoken, rfl⟩ := settle_eq_ok_iff.mp hsettle
    have hflow := (Token.moved_of_move htoken).flow (payee pedersen w.bank sessionId seed)
    rw [if_neg hne, if_pos rfl] at hflow
    have hamount : 0 < (w.bank.gameAmount sessionId).toNat :=
      hinv.amount sessionId (Storage.started_of_matched hmatched)
    have hvalue := toNat_payout hpayout
    dsimp only
    omega

theorem ownerCannotChoose_iff_payeeFixed (hinv : Invariant contract received w)
    (hsupply : w.token.supply < 2 ^ 256)
    (hmatched : w.bank.gameState sessionId = stateMatched) :
    OwnerCannotChoose pedersen contract w sessionId ↔ PayeeFixed pedersen w.bank sessionId := by
  simp only [OwnerCannotChoose, pays_iff hinv hsupply hmatched, payeeFixed_iff]
  constructor
  · rintro ⟨recipient, hpays⟩ seed seed'
    exact ((hpays seed _).mp rfl).trans ((hpays seed' _).mp rfl).symm
  · intro hfixed
    refine ⟨payee pedersen w.bank sessionId 0, fun seed a => ?_⟩
    rw [hfixed seed 0]

theorem supply_of_step {action : Action} (h : step pedersen contract w action = .ok w') :
    w'.token.supply = w.token.supply := by
  cases action with
  | bank caller call =>
      cases call with
      | deposit sessionId betAmount seed bet =>
          obtain ⟨-, -, token, htransfer, rfl⟩ := deposit_eq_ok_iff.mp h
          exact (Token.moved_of_transferFrom htransfer).1.supply_eq
      | matchDeposit sessionId =>
          obtain ⟨-, -, token, htransfer, rfl⟩ := matchDeposit_eq_ok_iff.mp h
          exact (Token.moved_of_transferFrom htransfer).1.supply_eq
      | settle sessionId seed =>
          obtain ⟨-, -, payout, token, -, htransfer, rfl⟩ := settle_eq_ok_iff.mp h
          exact (Token.moved_of_move htransfer).supply_eq
      | withdraw =>
          simp only [step, callBank, withdraw, bind_eq_ok_iff, orRevert_eq_ok_iff,
            pure_eq_ok_iff] at h
          obtain ⟨-, -, token, htransfer, rfl⟩ := h
          exact (Token.moved_of_move htransfer).supply_eq
  | token caller call =>
      simp only [step, bind_eq_ok_iff, orRevert_eq_ok_iff, pure_eq_ok_iff] at h
      obtain ⟨token, hcall, rfl⟩ := h
      exact Token.supply_of_call hcall

theorem supply_run (pedersen : Felt → Felt → Felt) (contract : ContractAddress) (w : World)
    (actions : List Action) :
    (run (step pedersen contract) w actions).token.supply = w.token.supply := by
  have hstep : ∀ v action v', True → v.token.supply = w.token.supply →
      step pedersen contract v action = .ok v' → v'.token.supply = w.token.supply :=
    fun _ _ _ _ hv h => (supply_of_step h).trans hv
  exact run_keeps hstep rfl fun _ _ => trivial

section Reachable

variable {actions : List Action}

/-- In every state that outsiders can reach, for every matched session. -/
theorem owner_cannot_choose_iff (pedersen : Felt → Felt → Felt)
    (hdeployed : Deployed contract owner w) (hsupply : w.token.supply < 2 ^ 256)
    (hcallers : ∀ action ∈ actions, action.caller ≠ contract) (sessionId : Felt)
    (hmatched : (run (step pedersen contract) w actions).bank.gameState sessionId =
      stateMatched) :
    OwnerCannotChoose pedersen contract (run (step pedersen contract) w actions) sessionId ↔
      PayeeFixed pedersen (run (step pedersen contract) w actions).bank sessionId := by
  have hsupply' : (run (step pedersen contract) w actions).token.supply < 2 ^ 256 := by
    rwa [supply_run]
  exact ownerCannotChoose_iff_payeeFixed (Invariant.run hdeployed hcallers) hsupply' hmatched

end Reachable

theorem supply_freshWorld : freshWorld.token.supply = 150 := by
  have hbalance : (fun a => (freshWorld.token.balance a).toNat) =
      Function.update (Function.update (fun _ => 0) ownerAddress 100) playerAddress 50 := by
    funext a
    rcases eq_or_ne a playerAddress with rfl | hplayer
    · rfl
    · rcases eq_or_ne a ownerAddress with rfl | howner
      · rfl
      · simp [freshWorld, hplayer, howner]
  have hplayer := sum_update (Function.update (fun _ => 0) ownerAddress 100) playerAddress 50
  have howner := sum_update (fun _ : ContractAddress => 0) ownerAddress 100
  have hne : playerAddress ≠ ownerAddress := by decide
  rw [← hbalance] at hplayer
  simp only [Function.update_of_ne hne] at hplayer
  simp only [Finset.sum_const_zero] at howner
  unfold Token.supply
  omega

/-- A coin that is the parity of the seed. -/
def seedParity : Felt → Felt → Felt := fun seed _ => seed

theorem owner_cannot_choose_iff_matchedGame :
    OwnerCannotChoose seedParity bankAddress
        (run (step seedParity bankAddress) freshWorld matchedGame) 7 ↔
      PayeeFixed seedParity (run (step seedParity bankAddress) freshWorld matchedGame).bank 7 := by
  apply owner_cannot_choose_iff seedParity deployed_freshWorld
  · rw [supply_freshWorld]
    decide
  · decide
  · decide +kernel

/-- With the recorded bet on heads, an even seed pays the player and an odd one
the owner. -/
theorem owner_chooses_by_seed :
    ¬ ∀ (pedersen : Felt → Felt → Felt) (contract owner : ContractAddress) (w : World)
        (actions : List Action) (sessionId : Felt),
      (∃ seed player seed' player',
        (pedersen seed player).val % 2 ≠ (pedersen seed' player').val % 2) →
      Deployed contract owner w → w.token.supply < 2 ^ 256 →
      (∀ action ∈ actions, action.caller ≠ contract) →
      (run (step pedersen contract) w actions).bank.gameState sessionId = stateMatched →
      OwnerCannotChoose pedersen contract (run (step pedersen contract) w actions)
        sessionId := by
  intro hclaim
  have hcallers : ∀ action ∈ matchedGame, action.caller ≠ bankAddress := by decide
  have hmatched : (run (step seedParity bankAddress) freshWorld matchedGame).bank.gameState 7 =
      stateMatched := by decide +kernel
  have hsupply : freshWorld.token.supply < 2 ^ 256 := by
    rw [supply_freshWorld]
    decide
  have hsupply' : (run (step seedParity bankAddress) freshWorld matchedGame).token.supply <
      2 ^ 256 := by rwa [supply_run]
  have hfixed := (ownerCannotChoose_iff_payeeFixed
    (Invariant.run deployed_freshWorld hcallers) hsupply' hmatched).mp
    (hclaim seedParity bankAddress ownerAddress freshWorld matchedGame 7
      ⟨0, 0, 1, 0, by decide⟩ deployed_freshWorld hsupply hcallers hmatched)
  rcases hfixed with ⟨hheads, -⟩ | howner | hcoin
  · exact hheads (by decide +kernel)
  · exact absurd howner (by decide +kernel)
  · exact absurd (hcoin 0 1) (by decide +kernel)

end Snip36.BankFairness
