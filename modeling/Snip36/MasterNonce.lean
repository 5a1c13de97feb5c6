import Snip36.SessionGames

/-!
Whether a proved transaction still carries the nonce of the master account when
it is posted.
-/

namespace Snip36.MasterNonce

open CoinFlipPlay
open CoinFlipRoutes
open CoinFlipServer
open CoinFlipState
open HandlerAsks
open Library.Fallible
open Library.Interaction
open Library.Interaction.Program
open Library.Interleaving
open Library.Reverting
open Payload
open ServerInvariant
open ServerSteps
open SessionGames
open StarknetRpc

/-! ### What a play posts -/

def nonceWord (nonce : Nat) : String := feltHex (Felt.fromNat nonce)

theorem nonce_signAndBuildPayload {crypto : StarknetCrypto} {params : SubmitParams}
    {txHash : Felt} {payload : Json} (h : signAndBuildPayload crypto params = .ok (txHash, payload)) :
    memberText payload "nonce" = feltHex params.nonce := by
  simp only [signAndBuildPayload, bind_eq_ok_iff, pure_eq_ok_iff, Prod.mk.injEq] at h
  obtain ⟨sig, -, -, rfl⟩ := h
  rfl

section Handler

variable {Asks : History Ask Answer → Ask → Prop} {history : History Ask Answer}

/-- The nonce of the transaction is the one that the node has answered. -/
theorem throughout_constructTransaction (api : ServerApi) (config : Config) (task : PlayTask)
    {rest : PlayTransaction → Handler Response}
    (hasks : ∀ history request, IsQuiet request → Asks history request)
    (hrest : ∀ said tx, (⟨.getNonceAtBlock config.accountAddress task.seedBlock, .ok tx.nonce⟩ :
        Event Ask Answer) ∈ said →
      Throughout Asks (Returning fun _ _ => True) (history ++ said) (rest tx)) :
    Throughout Asks (Returning fun _ _ => True) history
      (constructTransaction api config task >>= rest) := by
  have hsend (history : History Ask Answer) (event data : String) :
      Asks history (.send event data) := hasks _ _ trivial
  rw [throughout_returning_bind]
  refine ⟨hsend _ _ _, fun _ => ?_⟩
  refine throughout_orStreamError (hsend _) fun calldata _ => ?_
  refine throughout_orStreamError (hsend _) fun sender _ => ?_
  refine throughout_orStreamError (hsend _) fun privateKey _ => ?_
  refine throughout_orStreamError (hsend _) fun chainId _ => ?_
  refine ⟨hasks _ _ trivial, fun answered => ?_⟩
  refine throughout_orStreamError (hsend _) fun nonce hnonce => ?_
  obtain rfl : answered = .ok nonce := by
    cases answered with
    | error e => cases hnonce
    | ok n =>
        cases hnonce
        rfl
  refine throughout_orStreamError (hsend _) fun sig _ => ?_
  refine ⟨hasks _ _ trivial, fun written => ?_⟩
  refine throughout_orStreamError (hsend _) fun _ _ => ?_
  refine ⟨hasks _ _ trivial, fun _ => returning_ok_iff.mpr ?_⟩
  simp only [List.append_assoc]
  apply hrest
  simp

/-- A play posts with the nonce that the node has answered for the block of its
commitment. -/
def PostAsked (config : Config) (sessionId : String) (history : History Ask Answer) : Ask → Prop
  | .post _ payload => ∃ c n,
      (⟨.removeCommitment sessionId, some c⟩ : Event Ask Answer) ∈ history ∧
      (⟨.getNonceAtBlock config.accountAddress c.seedBlock, .ok n⟩ : Event Ask Answer) ∈ history ∧
      memberText payload "nonce" = nonceWord n
  | _ => True

def PostsNonce (nonce : Nat) : Ask → Prop
  | .post _ payload => memberText payload "nonce" = nonceWord nonce
  | _ => True

def Unposted : Ask → Prop
  | .post _ _ => False
  | _ => True

theorem unposted_of_isQuiet (request : Ask) (h : IsQuiet request) : Unposted request := by
  cases request with
  | post url payload => exact h.elim
  | _ => trivial

theorem postsNonce_of_isQuiet (nonce : Nat) (request : Ask) (h : IsQuiet request) :
    PostsNonce nonce request := by
  cases request with
  | post url payload => exact h.elim
  | _ => trivial

variable (backend : Backend) (sessionId : String)

theorem postAsked_of_unposted (history : History Ask Answer) (request : Ask)
    (h : Unposted request) : PostAsked backend.config sessionId history request := by
  cases request with
  | post url payload => exact h.elim
  | _ => trivial

theorem postAsked_play (params : PlayQuery) :
    Throughout (PostAsked backend.config sessionId) (Returning fun _ _ => True) []
      (playCoinflip backend.api backend.config sessionId params) := by
  have hasks := postAsked_of_unposted backend sessionId
  have hquiet := unposted_of_isQuiet
  refine throughout_playCoinflip _ _ trivial (fun _ => trivial) fun deployment c => ?_
  refine throughout_phase (onlyAsks_startLog _ hquiet) (fun _ => hasks _) fun said₁ _ => ?_
  refine throughout_constructTransaction _ _ _
    (fun history request h => hasks history request (hquiet request h)) fun said₂ tx hnonce => ?_
  refine throughout_phase (onlyAsks_prove _ _ hquiet) (fun _ => hasks _) fun said₃ proofSize => ?_
  refine throughout_phase (onlyAsks_parseSettlement _ _ hquiet fun _ => trivial) (fun _ => hasks _)
    fun said₄ settlement => ?_
  have hsubmit := onlyAsks_submit backend.api backend.config
    ⟨deployment, sessionId, c.seedBlock, params.player, params.side⟩
    (postsNonce_of_isQuiet tx.nonce) tx fun url params txHash payload hparams hsigned =>
      (nonce_signAndBuildPayload hsigned).trans (congrArg feltHex hparams)
  apply throughout_bind_of_onlyAsks hsubmit
  · intro said₅ request _ hrequest
    cases request with
    | post url payload => exact ⟨c, tx.nonce, by simp, by simp [hnonce], hrequest⟩
    | _ => trivial
  · intro said₅ txHash _
    refine throughout_phase (onlyAsks_verifyInclusion _ hquiet _) (fun _ => hasks _)
      fun said₆ _ => ?_
    refine throughout_phase (onlyAsks_settleOnChain _ _ hquiet fun _ => trivial) (fun _ => hasks _)
      fun said₇ settleTxHash => ?_
    exact ⟨trivial, fun _ => returning_ok_iff.mpr trivial⟩
  · exact fun _ _ _ => returning_err _
  · exact fun _ _ _ => returning_panicked _

end Handler

/-! ### Nonces in a run -/

structure Posted where
  sessionId : String
  payload : Json

structure NonceAnswer where
  account : String
  block : Nat
  nonce : Nat

section Conditions

variable {backend : Backend} (pool : Pool backend.system) (move : ServerMove)

def posted : Option Posted :=
  match pool.exchange move with
  | some (.play id _, ⟨.post _ payload, _⟩) => some ⟨id, payload⟩
  | _ => none

def nonceAnswer : Option NonceAnswer :=
  match pool.exchange move with
  | some (_, ⟨.getNonceAtBlock account block, .ok nonce⟩) => some ⟨account, block, nonce⟩
  | _ => none

variable (backend)

/-- The node knows the nonce of the master account at the blocks that are closed. -/
def NodeTruthful : Prop :=
  ∀ a ∈ nonceAnswer pool move, a.account = backend.config.accountAddress →
    a.block ≤ pool.shared.chain.height ∧ a.nonce = pool.shared.chain.nonceAt a.block

/-- No transaction of the master account comes between the seed block of a play
and its post. -/
def Undisturbed : Prop :=
  ∀ p ∈ posted pool move, ∀ c ∈ lastEntry pool p.sessionId,
    ∀ tx ∈ pool.shared.chain.executed, tx.1 ≤ c.seedBlock

instance : Decidable (NodeTruthful backend pool move) :=
  inferInstanceAs (Decidable (∀ a ∈ nonceAnswer pool move, _))

instance : Decidable (Undisturbed backend pool move) :=
  inferInstanceAs (Decidable (∀ p ∈ posted pool move, _))

end Conditions

/-- In a run, whatever a play posts carries the nonce that the master account has. -/
def NoncesCurrent (backend : Backend) (pool : Pool backend.system) (moves : List ServerMove) :
    Prop :=
  ∀ before move later p, moves = before ++ move :: later →
    posted (after pool before) move = some p →
    memberText p.payload "nonce" = nonceWord (after pool before).shared.chain.masterNonce

variable {backend : Backend} {pool pool' : Pool backend.system} {move : ServerMove}

/-- What was executed later does not change the nonce of a closed block. -/
theorem nonceAt_of_step (hstep : pool.step move = .ok pool') {block : Nat}
    (hblock : block ≤ pool.shared.chain.height) :
    block ≤ pool'.shared.chain.height ∧
      pool'.shared.chain.nonceAt block = pool.shared.chain.nonceAt block := by
  rcases transactions_of_step hstep with ⟨-, hchain⟩ | ⟨-, hincluded⟩ |
    ⟨-, -, hexecuted, hfirst, hheight⟩
  · rw [hchain]
    exact ⟨hblock, rfl⟩
  · refine ⟨hincluded.height ▸ hblock, ?_⟩
    have hlater : ¬pool.shared.chain.height + 1 ≤ block := by omega
    rw [Chain.nonceAt, hincluded.executed, hincluded.firstNonce, List.filter_append]
    simp [hlater, Chain.nonceAt]
  · refine ⟨hblock.trans hheight, ?_⟩
    rw [Chain.nonceAt, hexecuted, hfirst, Chain.nonceAt]

theorem nonceAt_of_executed {chain : Chain} {block : Nat}
    (h : ∀ tx ∈ chain.executed, tx.1 ≤ block) : chain.nonceAt block = chain.masterNonce := by
  have hall : chain.executed.filter (fun tx => tx.1 ≤ block) = chain.executed :=
    List.filter_eq_self.mpr fun tx htx => decide_eq_true (h tx htx)
  rw [Chain.nonceAt, hall, Chain.masterNonce]

structure Answered (backend : Backend) (pool : Pool backend.system) : Prop where
  kept : Kept backend pool
  nonces : ∀ q block nonce,
    pool.Said q ⟨.getNonceAtBlock backend.config.accountAddress block, .ok nonce⟩ →
    block ≤ pool.shared.chain.height ∧ nonce = pool.shared.chain.nonceAt block

theorem Answered.step (h : Answered backend pool) (htruthful : NodeTruthful backend pool move)
    (hstep : pool.step move = .ok pool') : Answered backend pool' := by
  refine ⟨h.kept.step hstep, fun q block nonce hsaid => ?_⟩
  have hbefore : block ≤ pool.shared.chain.height ∧ nonce = pool.shared.chain.nonceAt block := by
    rcases (Pool.said_iff_of_step hstep).mp hsaid with hold | hnow
    · exact h.nonces q block nonce hold
    · have hanswer : nonceAnswer pool move =
          some ⟨backend.config.accountAddress, block, nonce⟩ := by
        rw [nonceAnswer, hnow]
      exact htruthful _ hanswer rfl
  obtain ⟨hheight, hsame⟩ := nonceAt_of_step hstep hbefore.1
  exact ⟨hheight, hbefore.2.trans hsame.symm⟩

theorem Answered.run (hfresh : Fresh backend pool) {moves : List ServerMove}
    (hmoves : AllMeet Pool.step (NodeTruthful backend) pool moves) :
    Answered backend (after pool moves) := by
  apply run_keeps_while (fun _ _ _ htruthful h hstep => h.step htruthful hstep) _ hmoves
  exact ⟨.fresh hfresh, fun q block nonce hsaid => absurd hsaid (hfresh.not_said _ _)⟩

/-- A play posts with the nonce at its seed block. -/
theorem nonce_of_posted (h : Answered backend pool) {p : Posted}
    (hposted : posted pool move = some p) : ∃ c, lastEntry pool p.sessionId = some c ∧
      memberText p.payload "nonce" = nonceWord (pool.shared.chain.nonceAt c.seedBlock) := by
  unfold posted at hposted
  split at hposted
  · rename_i id params url payload reply hexchange
    cases hposted
    obtain ⟨said, ⟨c, nonce, hremoved, hnonce, hpayload⟩, hsaid⟩ :=
      Pool.asked_of_exchange hexchange (postAsked_play backend id params)
    refine ⟨c, (lastEntry_eq_some_iff h.kept).mpr (Or.inr ⟨_, hsaid _ hremoved⟩), ?_⟩
    rw [hpayload, (h.nonces _ _ _ (hsaid _ hnonce)).2]
  · cases hposted

/-- In a run in which no transaction of the master account comes between. -/
theorem nonces_current (hfresh : Fresh backend pool) (moves : List ServerMove)
    (htruthful : AllMeet Pool.step (NodeTruthful backend) pool moves)
    (hmoves : AllMeet Pool.step (Undisturbed backend) pool moves) :
    NoncesCurrent backend pool moves := by
  rintro before move later p rfl hposted
  obtain ⟨hanswers, -⟩ := allMeet_append.mp htruthful
  obtain ⟨-, hmove, -⟩ := allMeet_append.mp hmoves
  have h : Answered backend (after pool before) := .run hfresh hanswers
  obtain ⟨c, hlast, hpayload⟩ := nonce_of_posted h hposted
  have hcurrent : (after pool before).shared.chain.nonceAt c.seedBlock =
      (after pool before).shared.chain.masterNonce :=
    nonceAt_of_executed (hmove p hposted c hlast)
  rw [hpayload, hcurrent]

def counting (nonce : Nat) : (request : Ask) → Answer request
  | .getNonceAtBlock _ _ => .ok nonce
  | request => smoothly 11 request

/-- The sample bet is matched in block 11, and its play has proved the flip. -/
def provedBet : List ServerMove :=
  sampleBet ++ sampleConfirm 1 ++
    [.outside .closeBlock, .arrive (.play sampleSession ⟨"0x3", 0, "0x1"⟩)] ++
    List.replicate 17 (.advance 2 (counting 1))

theorem nonces_current_provedBet :
    NoncesCurrent sample sampleStart (provedBet ++ [.advance 2 (counting 1)]) := by
  apply nonces_current fresh_sampleStart
  · decide +kernel
  · decide +kernel

def otherSession : String := uuidString 6

def starting : (request : Ask) → Answer request
  | .insertSession _ => otherSession
  | request => smoothly 12 request

/-- Another session is matched in block 12. -/
def otherBet : List ServerMove := [
  .arrive (.commit ⟨"0x1", "0x3"⟩),
  .advance 3 starting,
  .outside (.callBank BankAccounting.bankAddress BankAccounting.playerAddress
    (.deposit 6 10 0 0)),
  .arrive (.confirmDeposit ⟨otherSession, "0xd"⟩)] ++
    List.replicate 6 (.advance 4 (smoothly 12)) ++ [.outside (.execute 0 0)]

/-- The proved transaction of the first session is posted with a nonce that the
match of the second has used. -/
theorem stale_nonce_is_posted :
    ¬ ∀ (backend : Backend) (pool : Pool backend.system) (moves : List ServerMove),
      Fresh backend pool → AllMeet Pool.step (NodeTruthful backend) pool moves →
      NoncesCurrent backend pool moves := by
  intro hclaim
  have hcurrent := hclaim sample sampleStart
    (provedBet ++ otherBet ++ [.advance 2 (counting 1)]) fresh_sampleStart (by decide +kernel)
    (provedBet ++ otherBet) (.advance 2 (counting 1)) []
  have hposted : ((posted (after sampleStart (provedBet ++ otherBet))
      (.advance 2 (counting 1))).map fun p => memberText p.payload "nonce") = some "0x1" := by
    decide +kernel
  obtain ⟨p, hp, hword⟩ := Option.map_eq_some_iff.mp hposted
  have hnonce := hcurrent p rfl hp
  rw [hword] at hnonce
  exact absurd hnonce (by decide +kernel)

end Snip36.MasterNonce
