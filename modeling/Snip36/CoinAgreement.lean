import Snip36.ReportedResult

/-!
The coin is flipped in four places: by the contract of the game, by the bank
that pays out, and by two test flows that know the result beforehand.
-/

namespace Snip36.CoinAgreement

open CoinFlipBank
open Library.Words
open Payload
open ReportedResult

/-! ### The test flows -/

/-- `args.bet.min(1)`. -/
def clampBet (bet : U8) : U8 := if bet ≤ 1 then bet else 1

/-- Both flows look at the last byte of the hash. -/
def expectedOutcome (pedersen : Felt → Felt → Felt) (seedFelt playerFelt : Felt) : U8 :=
  let expectedHash := pedersen seedFelt playerFelt
  let hashBytes := Felt.toBytesBe expectedHash
  hashBytes.getD 31 0 &&& 1

/-- `expected_won` of the flow that only plays. -/
def expectedWon (pedersen : Felt → Felt → Felt) (seedFelt playerFelt : Felt) (bet : U8) : U8 :=
  if expectedOutcome pedersen seedFelt playerFelt = bet then 1 else 0

/-- `expected_won` of the flow that settles. -/
def expectedWonSettlement (pedersen : Felt → Felt → Felt) (seedFelt playerFelt : Felt)
    (bet : U8) : Bool :=
  expectedOutcome pedersen seedFelt playerFelt == bet

/-- The two checks of the receipt against what was expected, if it has all fields. -/
def verifyReceipt (expectedOutcome expectedWon : U8) : List String → Option (Bool × Bool)
  | _ :: _ :: _ :: outcome :: won :: _ =>
      let msgOutcome : U8 := if outcome = "0x0" then 0 else 1
      let msgWon : U8 := if won = "0x1" then 1 else 0
      some (msgOutcome == expectedOutcome, msgWon == expectedWon)
  | _ => none

/-! ### One coin -/

section

variable {pedersen : Felt → Felt → Felt} {seed player bet : Felt}

theorem val_coinOutcome :
    (coinOutcome pedersen seed player).val = (pedersen seed player).val % 2 := by
  have hparity : (pedersen seed player).val % 2 ^ 128 % 2 = (pedersen seed player).val % 2 :=
    Nat.mod_mod_of_dvd _ (by decide)
  simp only [coinOutcome, hparity]
  rcases Nat.mod_two_eq_zero_or_one (pedersen seed player).val with h | h
  · rw [h, if_pos rfl]
    rfl
  · rw [h, if_neg (by decide)]
    rfl

theorem getD_toBytesBe_last (felt : Felt) :
    (Felt.toBytesBe felt).getD 31 0 = BitVec.ofNat 8 felt.val := by
  simp [Felt.toBytesBe, List.getD]

theorem toNat_expectedOutcome :
    (expectedOutcome pedersen seed player).toNat = (pedersen seed player).val % 2 := by
  rw [expectedOutcome, getD_toBytesBe_last, BitVec.toNat_and, BitVec.toNat_ofNat]
  have hone : (1 : U8).toNat = 1 := rfl
  rw [hone, Nat.and_one_is_mod]
  exact Nat.mod_mod_of_dvd _ (by decide)

/-- The last byte and the low half have one parity. -/
theorem fromNat_expectedOutcome :
    Felt.fromNat (expectedOutcome pedersen seed player).toNat =
      coinOutcome pedersen seed player := by
  apply Fin.val_injective
  rw [val_coinOutcome, toNat_expectedOutcome, Felt.val_fromNat]
  exact lt_starkPrime (by omega)

theorem fromNat_toNat_inj {a b : U8} : Felt.fromNat a.toNat = Felt.fromNat b.toNat ↔ a = b := by
  constructor
  · intro h
    have hval := congrArg Fin.val h
    have hlt : ∀ c : U8, c.toNat < starkPrime := fun c => c.isLt.trans (by decide)
    rw [Felt.val_fromNat (hlt a), Felt.val_fromNat (hlt b)] at hval
    exact BitVec.eq_of_toNat_eq hval
  · rintro rfl
    rfl

/-- The comparison of bytes is the comparison of felts. -/
theorem expectedOutcome_eq_iff {b : U8} :
    expectedOutcome pedersen seed player = b ↔
      coinOutcome pedersen seed player = Felt.fromNat b.toNat := by
  rw [← fromNat_expectedOutcome, fromNat_toNat_inj]

theorem payload_play :
    (play pedersen seed player bet).payload =
      [player, seed, bet, coinOutcome pedersen seed player,
        if coinOutcome pedersen seed player = bet then 1 else 0] := rfl

theorem won_eq_one_iff {p : Prop} [Decidable p] : (if p then (1 : Felt) else 0) = 1 ↔ p := by
  by_cases h : p <;> simp [h]

/-- The recipient got the payout of the game, and nothing else moved. -/
def Paid (contract : ContractAddress) (sessionId : Felt) (recipient : ContractAddress)
    (w w' : World) : Prop :=
  ∃ payout, checkedMul (w.bank.gameAmount sessionId) 2 = some payout ∧
    w.token.transfer contract recipient payout = some w'.token

theorem payee_eq {s : Storage} {sessionId : Felt} (hplayer : (s.gamePlayer sessionId).key = player)
    (hbet : s.gameBet sessionId = bet) :
    payee pedersen s sessionId seed =
      if (if coinOutcome pedersen seed player = bet then (1 : Felt) else 0) = 1 then
        s.gamePlayer sessionId
      else s.owner := by
  subst hplayer hbet
  simp only [payee, won_eq_one_iff]

/-! ### All of them -/

/-- The receipt of a play says this outcome and this result; a matched game that
is settled is paid by them; and the test flows expect them. -/
structure CoinsAgree (pedersen : Felt → Felt → Felt) (seed player bet outcome won : Felt) :
    Prop where
  message : (play pedersen seed player bet).payload = [player, seed, bet, outcome, won]
  settled : ∀ contract caller sessionId w w',
    w.bank.gameState sessionId = stateMatched → (w.bank.gamePlayer sessionId).key = player →
    w.bank.gameBet sessionId = bet → settle contract pedersen caller sessionId seed w = .ok w' →
    Paid contract sessionId
      (if won = 1 then w.bank.gamePlayer sessionId else w.bank.owner) w w'
  expected : ∀ argsBet, bet = Felt.fromNat (clampBet argsBet).toNat →
    outcome = Felt.fromNat (expectedOutcome pedersen seed player).toNat ∧
      won = Felt.fromNat (expectedWon pedersen seed player (clampBet argsBet)).toNat ∧
      (expectedWonSettlement pedersen seed player (clampBet argsBet) = true ↔ won = 1)
  verified : ∀ argsBet, bet = Felt.fromNat (clampBet argsBet).toNat →
    verifyReceipt (expectedOutcome pedersen seed player)
        (expectedWon pedersen seed player (clampBet argsBet))
        ((play pedersen seed player bet).payload.map feltHex) = some (true, true)

theorem expected_eq {b : U8} (hbet : bet = Felt.fromNat b.toNat) :
    (if coinOutcome pedersen seed player = bet then (1 : Felt) else 0) =
      Felt.fromNat (expectedWon pedersen seed player b).toNat := by
  subst hbet
  simp only [expectedWon, expectedOutcome_eq_iff]
  split
  · rfl
  · rfl

theorem msgOutcome_eq :
    (if feltHex (coinOutcome pedersen seed player) = "0x0" then (0 : U8) else 1) =
      expectedOutcome pedersen seed player := by
  symm
  rcases BankFairness.coinOutcome_eq_zero_or_one pedersen seed player with h | h
  · rw [h, if_pos (by decide), expectedOutcome_eq_iff, h]
    rfl
  · rw [h, if_neg (by decide), expectedOutcome_eq_iff, h]
    rfl

theorem msgWon_eq {b : U8} (hbet : bet = Felt.fromNat b.toNat) :
    (if feltHex (if coinOutcome pedersen seed player = bet then 1 else 0) = "0x1" then (1 : U8)
      else 0) = expectedWon pedersen seed player b := by
  simp only [expectedWon, expectedOutcome_eq_iff, ← hbet]
  by_cases h : coinOutcome pedersen seed player = bet
  · rw [if_pos h, if_pos h, if_pos (by decide)]
  · rw [if_neg h, if_neg h, if_neg (by decide)]

/-- So the test passes on a receipt of the contract. -/
theorem verifyReceipt_play {b : U8} (hbet : bet = Felt.fromNat b.toNat) :
    verifyReceipt (expectedOutcome pedersen seed player) (expectedWon pedersen seed player b)
      ((play pedersen seed player bet).payload.map feltHex) = some (true, true) := by
  simp only [payload_play, List.map_cons, verifyReceipt]
  rw [msgOutcome_eq, msgWon_eq hbet, beq_self_eq_true, beq_self_eq_true]

/-- Whatever the hash is, and for every bet, in or out of range. -/
theorem coins_agree (pedersen : Felt → Felt → Felt) (seed player bet : Felt) :
    ∃ outcome won, CoinsAgree pedersen seed player bet outcome won := by
  refine ⟨_, _, payload_play, ?_, ?_, ?_⟩
  · rintro contract caller sessionId w w' - hplayer hbet hsettle
    obtain ⟨-, -, payout, token, hpayout, htransfer, rfl⟩ := settle_eq_ok_iff.mp hsettle
    rw [payee_eq hplayer hbet] at htransfer
    exact ⟨payout, hpayout, htransfer⟩
  · intro argsBet hbet
    refine ⟨fromNat_expectedOutcome.symm, expected_eq hbet, ?_⟩
    rw [won_eq_one_iff, expectedWonSettlement, beq_iff_eq, expectedOutcome_eq_iff, hbet]
  · intro argsBet hbet
    exact verifyReceipt_play hbet

end

end Snip36.CoinAgreement
