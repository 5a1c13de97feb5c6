import Snip36.SessionGames

/-!
Whether the bank matches the stake that was quoted, of the player that has
committed.
-/

namespace Snip36.StakeMatching

open BankLifecycle
open CoinFlipBank
open CoinFlipRoutes
open CoinFlipServer
open CoinFlipState
open HandlerAsks
open Library.Hex
open Library.Interaction
open Library.Interleaving
open Library.Reverting
open ServerInvariant
open ServerSteps
open SessionGames

/-- A game has the player of a commitment and its quoted amount. -/
def Agrees (backend : Backend) (c : BetCommitment) (player : ContractAddress) (amount : U256) :
    Prop :=
  readAddress backend.api c.player = some player ∧ c.betAmount = some (lowerHex amount.toNat)

/-- The same, where an amount need not have been quoted yet. -/
def MayAgree (backend : Backend) (c : BetCommitment) (player : ContractAddress) (amount : U256) :
    Prop :=
  readAddress backend.api c.player = some player ∧
    ∀ quoted ∈ c.betAmount, quoted = lowerHex amount.toNat

instance (backend : Backend) (c : BetCommitment) (player : ContractAddress) (amount : U256) :
    Decidable (MayAgree backend c player amount) :=
  inferInstanceAs (Decidable (_ ∧ _))

/-- In a run, each game that becomes matched is the one of a session for which a
confirmation was asked, and agrees with its commitment. -/
def StakesAgree (backend : Backend) (pool : Pool backend.system) (moves : List ServerMove) : Prop :=
  ∀ before move later a felt, moves = before ++ move :: later →
    let g := gameAt (after pool before).shared.chain a felt
    let g' := gameAt (after pool (before ++ [move])).shared.chain a felt
    g.state ≠ stateMatched → g'.state = stateMatched →
    ∃ req c c', (after pool before).Said (.confirmDeposit req)
        ⟨.getCommitment req.sessionId, some c⟩ ∧
      feltOf backend req.sessionId = some felt ∧
      lastEntry (after pool before) req.sessionId = some c' ∧
      Agrees backend c' g'.player g'.amount

structure Stake where
  bank : ContractAddress
  felt : Felt
  player : ContractAddress
  amount : U256

section Conditions

variable (backend : Backend) (pool : Pool backend.system) (move : ServerMove)

def takenDeposit : Option Stake :=
  match acceptedCall backend pool move with
  | some (a, caller, .deposit felt amount _ _) => some ⟨a, felt, caller, amount⟩
  | _ => none

/-- The deposit of a match that a bank accepts. -/
def matchedDeposit : Option Stake :=
  match acceptedCall backend pool move with
  | some (a, _, .matchDeposit felt) =>
      let g := gameAt pool.shared.chain a felt
      some ⟨a, felt, g.player, g.amount⟩
  | _ => none

variable {backend}

def newSession : Option String :=
  match pool.exchange move with
  | some (_, ⟨.insertSession _, id⟩) => some id
  | _ => none

def newQuote : Option (String × String) :=
  match pool.exchange move with
  | some (_, ⟨.setBetAmount id amount, _⟩) => some (id, amount)
  | _ => none

variable (backend)

/-- The deposits of a session that wait for their match. -/
def waiting (chain : Chain) (id : String) : List Game :=
  match feltOf backend id with
  | none => []
  | some felt =>
      (chain.contracts.map fun a => gameAt chain a felt).filter fun g => g.state = stateDeposited

/-- A deposit comes from the player, and its amount and the quote are the same
from the time on when both are there; a match comes after the quote. -/
structure Fits : Prop where
  deposit : ∀ d ∈ takenDeposit backend pool move, ∀ id ∈ pool.shared.issued,
    feltOf backend id = some d.felt →
    ∀ c ∈ lastEntry pool id, MayAgree backend c d.player d.amount
  session : ∀ id ∈ newSession pool move, waiting backend pool.shared.chain id = []
  quote : ∀ q ∈ newQuote pool move, ∀ g ∈ waiting backend pool.shared.chain q.1,
    q.2 = lowerHex g.amount.toNat
  quoted : ∀ d ∈ matchedDeposit backend pool move, ∀ id ∈ pool.shared.issued,
    feltOf backend id = some d.felt → ∀ c ∈ lastEntry pool id, c.betAmount.isSome

instance : Decidable (Fits backend pool move) :=
  decidable_of_iff ((_ ∧ _) ∧ _ ∧ _)
    ⟨fun h => ⟨h.1.1, h.1.2, h.2.1, h.2.2⟩,
      fun h => ⟨⟨h.deposit, h.session⟩, h.quote, h.quoted⟩⟩

end Conditions

variable {backend : Backend} {pool pool' : Pool backend.system} {move : ServerMove}

/-- Every deposit that is not matched yet agrees with the commitment. -/
structure Fitting (backend : Backend) (pool : Pool backend.system) : Prop where
  kept : Kept backend pool
  fits : ∀ a felt id, id ∈ pool.shared.issued → feltOf backend id = some felt →
    (gameAt pool.shared.chain a felt).state = stateDeposited →
    ∀ c ∈ lastEntry pool id, MayAgree backend c (gameAt pool.shared.chain a felt).player
      (gameAt pool.shared.chain a felt).amount

theorem mem_waiting (h : Kept backend pool) {a : ContractAddress} {felt : Felt} {id : String}
    (hfelt : feltOf backend id = some felt)
    (hdeposited : (gameAt pool.shared.chain a felt).state = stateDeposited) :
    gameAt pool.shared.chain a felt ∈ waiting backend pool.shared.chain id := by
  have hstarted : (gameAt pool.shared.chain a felt).state ≠ stateEmpty := by
    rw [hdeposited]
    decide
  have ha := h.mem_contracts hstarted
  rw [waiting, hfelt]
  exact List.mem_filter.mpr ⟨List.mem_map_of_mem ha, decide_eq_true hdeposited⟩

theorem exchange_of_calledBank {called : ContractAddress × ContractAddress × BankCall}
    (h : calledBank backend pool move = some called) : pool.exchange move = none := by
  cases move with
  | arrive q => rfl
  | advance i answers => cases h
  | outside env => rfl

theorem sessions_of_calledBank (h : Kept backend pool) (hstep : pool.step move = .ok pool')
    {called : ContractAddress × ContractAddress × BankCall}
    (hcalled : calledBank backend pool move = some called) (id : String) :
    lastEntry pool' id = lastEntry pool id ∧ pool'.shared.issued = pool.shared.issued := by
  have hnone := exchange_of_calledBank hcalled
  constructor
  · rcases lastEntry_of_step h hstep id with hsame | ⟨q, event, hexchange, -⟩
    · exact hsame
    · cases hnone.symm.trans hexchange
  · rcases issued_of_step hstep with hsame | ⟨q, entry, id', hexchange, -⟩
    · exact hsame
    · cases hnone.symm.trans hexchange

/-- While a deposit waits, its session may be quoted or seeded, but is not new. -/
theorem Fitting.of_waiting (h : Fitting backend pool) (hfits : Fits backend pool move)
    (hstep : pool.step move = .ok pool') {a : ContractAddress} {felt : Felt} {id : String}
    (hid : id ∈ pool'.shared.issued) (hfelt : feltOf backend id = some felt)
    (hdeposited : (gameAt pool.shared.chain a felt).state = stateDeposited) {c : BetCommitment}
    (hc : lastEntry pool' id = some c) :
    MayAgree backend c (gameAt pool.shared.chain a felt).player
      (gameAt pool.shared.chain a felt).amount := by
  have hwaiting := mem_waiting h.kept hfelt hdeposited
  have hissued : id ∈ pool.shared.issued := by
    rcases issued_of_step hstep with hsame | ⟨q, entry, id', hexchange, -, -, hnew⟩
    · exact hsame ▸ hid
    · rw [hnew] at hid
      rcases List.mem_cons.mp hid with rfl | hold
      · have hnone := hfits.session id (by rw [newSession, hexchange]; rfl)
        rw [hnone] at hwaiting
        exact absurd hwaiting List.not_mem_nil
      · exact hold
  rcases lastEntry_of_step h.kept hstep id with hlast | ⟨q, event, hexchange, -, hentry⟩
  · exact h.fits a felt id hissued hfelt hdeposited c (hlast ▸ hc)
  · rw [hc] at hentry
    generalize hbefore : lastEntry pool id = before at hentry
    cases hentry with
    | insert entry before huuid hnew => exact absurd hissued hnew
    | quote amount before =>
        have hquote := hfits.quote (id, amount) (by rw [newQuote, hexchange]; rfl) _ hwaiting
        have hold := h.fits a felt id hissued hfelt hdeposited before hbefore
        refine ⟨hold.1, fun quoted hquoted => ?_⟩
        obtain rfl := Option.some.inj hquoted
        exact hquote
    | seed block before => exact h.fits a felt id hissued hfelt hdeposited before hbefore

theorem Fitting.step (h : Fitting backend pool) (hfits : Fits backend pool move)
    (hstep : pool.step move = .ok pool') : Fitting backend pool' := by
  refine ⟨h.kept.step hstep, fun a felt id hid hfelt hdeposited c hc => ?_⟩
  rcases game_of_step hstep h.kept.owner a felt with hsame | ⟨caller, call, haccepted, hgame⟩
  · rw [hsame] at hdeposited ⊢
    exact h.of_waiting hfits hstep hid hfelt hdeposited hc
  · obtain ⟨hlast, hissued⟩ :=
      sessions_of_calledBank h.kept hstep (called_of_accepted haccepted) id
    rw [hlast] at hc
    rw [hissued] at hid
    generalize gameAt pool.shared.chain a felt = g at hgame
    generalize gameAt pool'.shared.chain a felt = g' at hgame hdeposited ⊢
    cases hgame with
    | deposited caller amount seed bet g hempty =>
        have htaken : takenDeposit backend pool move = some ⟨a, felt, caller, amount⟩ := by
          rw [takenDeposit, haccepted]
        exact hfits.deposit _ htaken id hid hfelt c hc
    | matched g _ =>
        have hstates : stateMatched = stateDeposited := hdeposited
        exact absurd hstates (by decide)
    | settled seed g _ =>
        have hstates : stateSettled = stateDeposited := hdeposited
        exact absurd hstates (by decide)

theorem Fitting.run (hfresh : Fresh backend pool) {moves : List ServerMove}
    (hmoves : AllMeet Pool.step (Fits backend) pool moves) : Fitting backend (after pool moves) := by
  apply run_keeps_while (fun _ _ _ hfits h hstep => h.step hfits hstep) _ hmoves
  refine ⟨.fresh hfresh, fun a felt id hid => ?_⟩
  exact absurd hid (hfresh.notMem_issued id)

/-- In a run whose deposits and quotes fit. -/
theorem stakes_agree (hfresh : Fresh backend pool) (moves : List ServerMove)
    (hmoves : AllMeet Pool.step (Fits backend) pool moves) : StakesAgree backend pool moves := by
  rintro before move later a felt rfl g g' hbefore hmatched
  obtain ⟨hmeets, hmove, -⟩ := allMeet_append.mp hmoves
  have h : Fitting backend (after pool before) := .run hfresh hmeets
  change Fits backend (after pool before) move at hmove
  have hg' : g' = gameAt (exec Pool.step (after pool before) move).shared.chain a felt := by
    simp only [g', after, run_append, run_cons, run_nil]
  cases hstep : (after pool before).step move with
  | error e =>
      rw [hg', exec_of_error hstep] at hmatched
      exact absurd hmatched hbefore
  | ok pool' =>
      rw [exec_of_ok hstep] at hg'
      rw [hg'] at hmatched
      obtain ⟨haccepted, hdeposited, hgame⟩ := match_of_step h.kept hstep hbefore hmatched
      cases masterCall_of_called h.kept (called_of_accepted haccepted) with
      | @matched req c bank _ hbank hsent hfound hfelt =>
          obtain ⟨hid, -⟩ := h.kept.seen _ _ _ hfound
          obtain ⟨c', hlast⟩ := exists_lastEntry h.kept hid
          have hagree := h.fits a felt _ hid hfelt hdeposited c' hlast
          have hstake : matchedDeposit backend (after pool before) move =
              some ⟨a, felt, g.player, g.amount⟩ := by
            rw [matchedDeposit, haccepted]
          obtain ⟨quoted, hquoted⟩ :=
            Option.isSome_iff_exists.mp (hmove.quoted _ hstake _ hid hfelt c' hlast)
          refine ⟨req, c, c', hfound, hfelt, hlast, ?_⟩
          rw [hg', hgame]
          exact ⟨hagree.1, hquoted.trans (congrArg some (hagree.2 quoted hquoted))⟩

/-- A session of a player, a quote of 10, and a deposit by the sample player. -/
def quotedBet (player : String) (amount : U256) : List ServerMove := [
  .arrive (.commit ⟨"0x1", player⟩),
  .advance 0 (smoothly 11),
  .arrive (.depositInfo ⟨sampleSession, 10⟩)] ++
  List.replicate 3 (.advance 1 (smoothly 11)) ++ [
  .outside (.callBank BankAccounting.bankAddress BankAccounting.playerAddress
    (.deposit 5 amount 0 0))]

theorem stakes_agree_quotedBet :
    StakesAgree sample sampleStart (quotedBet "0x3" 10 ++ sampleConfirm 2) := by
  apply stakes_agree fresh_sampleStart
  decide +kernel

/-- Somebody else deposits another amount, and it is matched. -/
theorem other_stake_is_matched :
    ¬ ∀ (backend : Backend) (pool : Pool backend.system) (moves : List ServerMove),
      Fresh backend pool → StakesAgree backend pool moves := by
  intro hclaim
  have hagrees := hclaim sample sampleStart (quotedBet "0x4" 1 ++ sampleConfirm 2)
    fresh_sampleStart (quotedBet "0x4" 1 ++ (sampleConfirm 2).take 7) (.outside (.execute 0 0))
    ((sampleConfirm 2).drop 8) BankAccounting.bankAddress 5 rfl (by decide +kernel)
    (by decide +kernel)
  obtain ⟨req, c, c', hsaid, -, hlast, -, hamount⟩ := hagrees
  have hkept := Kept.run fresh_sampleStart (quotedBet "0x4" 1 ++ (sampleConfirm 2).take 7)
  have hissued : (after sampleStart (quotedBet "0x4" 1 ++ (sampleConfirm 2).take 7)).shared.issued =
      [sampleSession] := by decide +kernel
  have hid := (hkept.seen _ _ _ hsaid).1
  rw [hissued, List.mem_singleton] at hid
  rw [hid] at hlast
  have hentry : (lastEntry (after sampleStart (quotedBet "0x4" 1 ++ (sampleConfirm 2).take 7))
      sampleSession).bind BetCommitment.betAmount = some "0xa" := by decide +kernel
  rw [hlast, Option.bind_some, hamount] at hentry
  exact absurd hentry (by decide +kernel)

end Snip36.StakeMatching
