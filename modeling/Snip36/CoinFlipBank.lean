import Snip36.FieldTypes
import Snip36.Library.Erc20
import Snip36.Library.Fallible
import Snip36.Library.Reverting

/-!
The contract that holds the stakes of coin flip games, together with the token
that it moves them with. `contract` is its address and `pedersen` the hash that
decides a game.
-/

namespace Snip36.CoinFlipBank

open Library.Erc20
open Library.Fallible
open Library.Words

inductive Revert where
  | assertion (message : String)
  | token
  | overflow
  deriving DecidableEq

def stateEmpty : U8 := 0
def stateDeposited : U8 := 1
def stateMatched : U8 := 2
def stateSettled : U8 := 3

structure Storage where
  owner : ContractAddress
  gamePlayer : Felt → ContractAddress
  gameAmount : Felt → U256
  gameSeed : Felt → Felt
  gameBet : Felt → Felt
  gameState : Felt → U8
  playerBalance : ContractAddress → U256

/-- The constructor writes the owner; every other cell reads as zero. -/
def deployed (owner : ContractAddress) : Storage where
  owner := owner
  gamePlayer := fun _ => 0
  gameAmount := fun _ => 0
  gameSeed := fun _ => 0
  gameBet := fun _ => 0
  gameState := fun _ => stateEmpty
  playerBalance := fun _ => 0

structure World where
  token : Token ContractAddress 256
  bank : Storage

/-- `assert`. -/
def require (p : Prop) [Decidable p] (message : String) : Except Revert Unit :=
  if p then .ok () else .error (.assertion message)

def orRevert {α : Type} (e : Revert) : Option α → Except Revert α
  | some a => .ok a
  | none => .error e

@[simp] theorem require_eq_ok_iff {p : Prop} [Decidable p] {message : String} {u : Unit} :
    require p message = .ok u ↔ p := by
  by_cases h : p <;> simp [require, h]

@[simp] theorem orRevert_eq_ok_iff {α : Type} {e : Revert} {x : Option α} {a : α} :
    orRevert e x = .ok a ↔ x = some a := by
  cases x <;> simp [orRevert]

namespace Storage

def recordGame (s : Storage) (sessionId : Felt) (player : ContractAddress) (amount : U256)
    (seed bet : Felt) : Storage :=
  { s with
    gamePlayer := Function.update s.gamePlayer sessionId player
    gameAmount := Function.update s.gameAmount sessionId amount
    gameSeed := Function.update s.gameSeed sessionId seed
    gameBet := Function.update s.gameBet sessionId bet
    gameState := Function.update s.gameState sessionId stateDeposited }

def writeState (s : Storage) (sessionId : Felt) (state : U8) : Storage :=
  { s with gameState := Function.update s.gameState sessionId state }

variable {s : Storage} {sessionId seed bet id : Felt} {player : ContractAddress} {amount : U256}

@[simp] theorem gameState_recordGame :
    (s.recordGame sessionId player amount seed bet).gameState =
      Function.update s.gameState sessionId stateDeposited := rfl

@[simp] theorem gameState_writeState {state : U8} :
    (s.writeState sessionId state).gameState = Function.update s.gameState sessionId state := rfl

theorem started_of_matched (h : s.gameState id = stateMatched) :
    s.gameState id ≠ stateEmpty := by
  rw [h]
  decide

/-- A session that is not empty after a deposit is the deposited one or was not
empty before. -/
theorem started_of_recordGame
    (h : (s.recordGame sessionId player amount seed bet).gameState id ≠ stateEmpty) :
    ((s.recordGame sessionId player amount seed bet).gamePlayer id = player ∧
      (s.recordGame sessionId player amount seed bet).gameAmount id = amount) ∨
    (s.gameState id ≠ stateEmpty ∧
      (s.recordGame sessionId player amount seed bet).gamePlayer id = s.gamePlayer id ∧
      (s.recordGame sessionId player amount seed bet).gameAmount id = s.gameAmount id) := by
  rcases eq_or_ne id sessionId with rfl | hid
  · exact Or.inl ⟨Function.update_self .., Function.update_self ..⟩
  · rw [gameState_recordGame, Function.update_of_ne hid] at h
    exact Or.inr ⟨h, Function.update_of_ne hid .., Function.update_of_ne hid ..⟩

theorem matched_of_recordGame
    (h : (s.recordGame sessionId player amount seed bet).gameState id = stateMatched) :
    s.gameState id = stateMatched := by
  rcases eq_or_ne id sessionId with rfl | hid
  · rw [gameState_recordGame, Function.update_self] at h
    exact absurd h (by decide)
  · rwa [gameState_recordGame, Function.update_of_ne hid] at h

theorem started_of_writeState {state : U8} (hstarted : s.gameState sessionId ≠ stateEmpty)
    (h : (s.writeState sessionId state).gameState id ≠ stateEmpty) :
    s.gameState id ≠ stateEmpty := by
  rcases eq_or_ne id sessionId with rfl | hid
  · exact hstarted
  · rwa [gameState_writeState, Function.update_of_ne hid] at h

end Storage

section Entrypoints

variable (contract : ContractAddress)

def deposit (caller : ContractAddress) (sessionId : Felt) (betAmount : U256)
    (seed bet : Felt) (w : World) : Except Revert World := do
  require (betAmount > 0) "Amount must be > 0"
  require (w.bank.gameState sessionId = stateEmpty) "Session already exists"
  let token ← orRevert .token (w.token.transferFrom contract caller contract betAmount)
  pure ⟨token, w.bank.recordGame sessionId caller betAmount seed bet⟩

def matchDeposit (caller : ContractAddress) (sessionId : Felt) (w : World) :
    Except Revert World := do
  require (caller = w.bank.owner) "Only owner"
  require (w.bank.gameState sessionId = stateDeposited) "Not deposited"
  let amount := w.bank.gameAmount sessionId
  let token ← orRevert .token (w.token.transferFrom contract caller contract amount)
  pure ⟨token, w.bank.writeState sessionId stateMatched⟩

/-- The coin: the parity of the low half of the hash. -/
def coinOutcome (pedersen : Felt → Felt → Felt) (seed player : Felt) : Felt :=
  let hash := pedersen seed player
  let low := hash.val % 2 ^ 128
  if low % 2 = 0 then 0 else 1

/-- Who gets the payout of a session that is settled with `seed`. -/
def payee (pedersen : Felt → Felt → Felt) (s : Storage) (sessionId seed : Felt) :
    ContractAddress :=
  let player := s.gamePlayer sessionId
  let bet := s.gameBet sessionId
  let outcome := coinOutcome pedersen seed player.key
  if outcome = bet then player else s.owner

def settle (pedersen : Felt → Felt → Felt) (caller : ContractAddress)
    (sessionId seed : Felt) (w : World) : Except Revert World := do
  require (caller = w.bank.owner) "Only owner"
  require (w.bank.gameState sessionId = stateMatched) "Not matched"
  let amount := w.bank.gameAmount sessionId
  let payout ← orRevert .overflow (checkedMul amount 2)
  let recipient := payee pedersen w.bank sessionId seed
  let token ← orRevert .token (w.token.transfer contract recipient payout)
  pure ⟨token, w.bank.writeState sessionId stateSettled⟩

def withdraw (caller : ContractAddress) (w : World) : Except Revert World := do
  let balance := w.bank.playerBalance caller
  require (balance > 0) "Nothing to withdraw"
  let bank := { w.bank with
    playerBalance := Function.update w.bank.playerBalance caller 0 }
  let token ← orRevert .token (w.token.transfer contract caller balance)
  pure ⟨token, bank⟩

end Entrypoints

inductive BankCall where
  | deposit (sessionId : Felt) (betAmount : U256) (seed bet : Felt)
  | matchDeposit (sessionId : Felt)
  | settle (sessionId seed : Felt)
  | withdraw

/-- What an account may do: call the bank, or the token. -/
inductive Action where
  | bank (caller : ContractAddress) (call : BankCall)
  | token (caller : ContractAddress) (call : Call ContractAddress 256)

def Action.caller : Action → ContractAddress
  | .bank caller _ => caller
  | .token caller _ => caller

section Step

variable (pedersen : Felt → Felt → Felt) (contract : ContractAddress)

def callBank (caller : ContractAddress) (w : World) : BankCall → Except Revert World
  | .deposit sessionId betAmount seed bet => deposit contract caller sessionId betAmount seed bet w
  | .matchDeposit sessionId => matchDeposit contract caller sessionId w
  | .settle sessionId seed => settle contract pedersen caller sessionId seed w
  | .withdraw => withdraw contract caller w

def step (w : World) : Action → Except Revert World
  | .bank caller call => callBank pedersen contract caller w call
  | .token caller call => do
      let token ← orRevert .token (w.token.call caller call)
      pure { w with token }

end Step

section Effects

variable {pedersen : Felt → Felt → Felt} {contract caller : ContractAddress} {w w' : World}
  {sessionId seed bet : Felt} {betAmount : U256}

theorem deposit_eq_ok_iff :
    deposit contract caller sessionId betAmount seed bet w = .ok w' ↔
      betAmount > 0 ∧ w.bank.gameState sessionId = stateEmpty ∧
      ∃ token, w.token.transferFrom contract caller contract betAmount = some token ∧
        ⟨token, w.bank.recordGame sessionId caller betAmount seed bet⟩ = w' := by
  simp only [deposit, bind_eq_ok_iff, require_eq_ok_iff, orRevert_eq_ok_iff, pure_eq_ok_iff,
    exists_const]

theorem matchDeposit_eq_ok_iff :
    matchDeposit contract caller sessionId w = .ok w' ↔
      caller = w.bank.owner ∧ w.bank.gameState sessionId = stateDeposited ∧
      ∃ token, w.token.transferFrom contract caller contract (w.bank.gameAmount sessionId) =
          some token ∧
        ⟨token, w.bank.writeState sessionId stateMatched⟩ = w' := by
  simp only [matchDeposit, bind_eq_ok_iff, require_eq_ok_iff, orRevert_eq_ok_iff,
    pure_eq_ok_iff, exists_const]

theorem settle_eq_ok_iff :
    settle contract pedersen caller sessionId seed w = .ok w' ↔
      caller = w.bank.owner ∧ w.bank.gameState sessionId = stateMatched ∧
      ∃ payout token, checkedMul (w.bank.gameAmount sessionId) 2 = some payout ∧
        w.token.transfer contract (payee pedersen w.bank sessionId seed) payout = some token ∧
        ⟨token, w.bank.writeState sessionId stateSettled⟩ = w' := by
  simp only [settle, bind_eq_ok_iff, require_eq_ok_iff, orRevert_eq_ok_iff,
    pure_eq_ok_iff, exists_const, exists_and_left]

theorem toNat_payout {amount payout : U256} (h : checkedMul amount 2 = some payout) :
    payout.toNat = 2 * amount.toNat := by
  have htwo : (2 : U256).toNat = 2 := rfl
  rw [checkedMul_eq_some_iff.mp h, htwo, Nat.mul_comm]

theorem withdraw_eq_error (h : w.bank.playerBalance caller = 0) :
    withdraw contract caller w = .error (.assertion "Nothing to withdraw") := by
  simp [withdraw, require, h, Bind.bind, Except.bind]

theorem payee_eq_or (pedersen : Felt → Felt → Felt) (s : Storage) (sessionId seed : Felt) :
    payee pedersen s sessionId seed = s.gamePlayer sessionId ∨
      payee pedersen s sessionId seed = s.owner := by
  unfold payee
  dsimp only
  split
  · exact Or.inl rfl
  · exact Or.inr rfl

end Effects

end Snip36.CoinFlipBank
