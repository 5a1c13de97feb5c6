import Snip36.SessionGames

/-!
The reveal of a bet: what its verification makes of the spellings of the values
that it is given, and what a rejected reveal leaves of the stored commitment.
-/

namespace Snip36.RevealVerification

open CoinFlipPlay
open CoinFlipRoutes
open CoinFlipServer
open CoinFlipState
open HandlerAsks
open Library.Fallible
open Library.Hex
open Library.Interaction.Program
open Library.Interleaving
open Payload
open SessionGames
open SignedPayload

/-! ### Values and their spellings -/

/-- A commitment as a player may have sent it: any spelling of two field elements. -/
structure Committed (api : ServerApi) where
  entry : BetCommitment
  player : Felt
  commitment : Felt
  readsPlayer : feltFromHex api.fromHex entry.player = .ok player
  readsCommitment : feltFromHex api.fromHex entry.commitment = .ok commitment

section Values

variable {api : ServerApi} (committed : Committed api) (params : PlayQuery)

def Passes : Prop := verifyReveal api committed.entry params = .ok ()

def Opens : Prop :=
  feltFromHex api.fromHex params.player = .ok committed.player ∧
    ∃ nonce, feltFromHex api.fromHex params.nonce = .ok nonce ∧
      api.pedersen (Felt.fromNat params.side.toNat) nonce = committed.commitment

/-- The player is spelled as before, and the commitment as the server prints it. -/
def SpelledAlike : Prop :=
  params.player = committed.entry.player ∧
    committed.entry.commitment = feltHex committed.commitment

theorem feltHex_injective : Function.Injective feltHex := by
  intro a b h
  have hread := congrArg parseHex h
  simp only [feltHex, parseHex_lowerHex, Option.some.injEq] at hread
  exact Fin.val_injective hread

theorem verifyReveal_eq_ok_iff {entry : BetCommitment} :
    verifyReveal api entry params = .ok () ↔ params.player = entry.player ∧
      ∃ nonce, feltFromHex api.fromHex params.nonce = .ok nonce ∧
        feltHex (api.pedersen (Felt.fromNat params.side.toNat) nonce) = entry.commitment := by
  unfold verifyReveal
  by_cases hplayer : params.player = entry.player
  · simp only [hplayer, ne_eq, not_true_eq_false, if_false, true_and, bind_eq_ok_iff,
      mapError_eq_ok_iff]
    apply exists_congr
    intro nonce
    apply and_congr_right
    intro _
    by_cases hsame : feltHex (api.pedersen (Felt.fromNat params.side.toNat) nonce) =
        entry.commitment
    · rw [if_neg (not_not.mpr hsame)]
      exact iff_of_true rfl hsame
    · rw [if_pos hsame]
      exact iff_of_false (fun h => by cases h) hsame
  · simp only [hplayer, ne_eq, not_false_eq_true, if_true, false_and, iff_false]
    intro h
    cases h

variable {committed params}

theorem Passes.opens (hformat : HexRoundTrip api.fromHex) (h : Passes committed params) :
    Opens committed params := by
  obtain ⟨hplayer, nonce, hnonce, hsame⟩ := (verifyReveal_eq_ok_iff params).mp h
  refine ⟨hplayer ▸ committed.readsPlayer, nonce, hnonce, ?_⟩
  have hread := committed.readsCommitment
  rw [← hsame, feltFromHex, mapError_eq_ok_iff, hformat] at hread
  exact Except.ok.inj hread

theorem Passes.spelledAlike (hformat : HexRoundTrip api.fromHex) (h : Passes committed params) :
    SpelledAlike committed params := by
  obtain ⟨-, nonce, hnonce, hvalue⟩ := h.opens hformat
  obtain ⟨hplayer, nonce', hnonce', hsame⟩ := (verifyReveal_eq_ok_iff params).mp h
  obtain rfl : nonce = nonce' := Except.ok.inj (hnonce.symm.trans hnonce')
  exact ⟨hplayer, by rw [← hsame, hvalue]⟩

theorem Opens.passes (h : Opens committed params) (hspelled : SpelledAlike committed params) :
    Passes committed params := by
  obtain ⟨-, nonce, hnonce, hvalue⟩ := h
  refine (verifyReveal_eq_ok_iff params).mpr ⟨hspelled.1, nonce, hnonce, ?_⟩
  rw [hvalue, hspelled.2]

/-- Two reveals of one commitment with different bets hash to the same value. -/
theorem Passes.collide {params' : PlayQuery} (h : Passes committed params)
    (h' : Passes committed params') :
    ∃ nonce nonce', api.pedersen (Felt.fromNat params.side.toNat) nonce =
      api.pedersen (Felt.fromNat params'.side.toNat) nonce' := by
  obtain ⟨-, nonce, -, hsame⟩ := (verifyReveal_eq_ok_iff params).mp h
  obtain ⟨-, nonce', -, hsame'⟩ := (verifyReveal_eq_ok_iff params').mp h'
  exact ⟨nonce, nonce', feltHex_injective (hsame.trans hsame'.symm)⟩

end Values

/-- The verification goes by value exactly for reveals that do not open the
commitment, or repeat its spelling. No commitment is opened to both bets but by a
collision of the hash. -/
theorem byValue_iff (api : ServerApi) (hformat : HexRoundTrip api.fromHex)
    (committed : Committed api) :
    (∀ params, (Passes committed params ↔ Opens committed params) ↔
      (Opens committed params → SpelledAlike committed params)) ∧
    ∀ params params', params.side = 0 → params'.side = 1 → Passes committed params →
      Passes committed params' → ∃ nonce nonce', api.pedersen 0 nonce = api.pedersen 1 nonce' := by
  constructor
  · intro params
    constructor
    · exact fun hbyValue hopens => (hbyValue.mpr hopens).spelledAlike hformat
    · exact fun hspelled => ⟨Passes.opens hformat, fun hopens => hopens.passes (hspelled hopens)⟩
  · intro params params' hheads htails hpasses hpasses'
    have hcollide := hpasses.collide hpasses'
    rw [hheads, htails] at hcollide
    exact hcollide

/-- The player 3 has committed to 1, in the given spelling. -/
def sampleCommitted (commitment : String) (h : feltFromHex hexFelt commitment = .ok 1) :
    Committed sampleApi where
  entry := ⟨commitment, 0, "0x3", none, "0x5"⟩
  player := 3
  commitment := 1
  readsPlayer := (by decide : feltFromHex hexFelt "0x3" = .ok 3)
  readsCommitment := h

def heads : PlayQuery := ⟨"0x3", 0, "0x1"⟩

theorem byValue_heads : Passes (sampleCommitted "0x1" (by decide)) heads :=
  (((byValue_iff sampleApi hexRoundTrip_hexFelt (sampleCommitted "0x1" (by decide))).1 heads).mpr
    fun _ => ⟨rfl, by decide⟩).mpr ⟨by decide, 1, by decide, by decide⟩

/-- A zero too many, and the bet cannot be revealed. -/
theorem padding_is_rejected :
    ¬ ∀ (api : ServerApi) (committed : Committed api) (params : PlayQuery),
      HexRoundTrip api.fromHex → (Passes committed params ↔ Opens committed params) := by
  intro hclaim
  have hpasses : Passes (sampleCommitted "0x01" (by decide)) heads :=
    (hclaim sampleApi _ heads hexRoundTrip_hexFelt).mpr ⟨by decide, 1, by decide, by decide⟩
  have hspelled := hpasses.spelledAlike hexRoundTrip_hexFelt
  exact absurd hspelled.2 (by decide)

/-! ### What a rejected reveal leaves -/

/-- The failure of a task after its response. -/
def OnStream : Failure → Prop
  | .stream _ => True
  | .response _ _ => False

section OnStream

variable {α : Type}

theorem onlyFails_streamError (message : String) :
    OnlyFails OnStream (streamError message : Handler α) := by
  rintro - error ⟨⟩
  trivial

theorem onlyFails_orStreamError (message : String → String) (x : Except String α) :
    OnlyFails OnStream (orStreamError message x) := by
  cases x with
  | ok a => exact onlyFails_ok a
  | error e => exact onlyFails_streamError (message e)

theorem onlyFails_await (request : Ask) : OnlyFails OnStream (await request) :=
  fun answer => onlyFails_ok answer

variable (api : ServerApi) (config : Config) (task : PlayTask)

theorem onlyFails_startLog : OnlyFails OnStream (startLog task) := by
  unfold startLog
  split
  · exact nofun
  · exact onlyFails_await _

theorem onlyFails_constructTransaction :
    OnlyFails OnStream (constructTransaction api config task) := by
  have horStream {β : Type} (message : String → String) (x : Except String β) :
      OnlyFails OnStream (orStreamError message x) := onlyFails_orStreamError message x
  refine (onlyFails_await _).bind fun _ => ?_
  refine (horStream _ _).bind fun calldata => ?_
  refine (horStream _ _).bind fun sender => ?_
  refine (horStream _ _).bind fun privateKey => ?_
  refine (horStream _ _).bind fun chainId => ?_
  refine (onlyFails_await _).bind fun answered => ?_
  refine (horStream _ _).bind fun nonce => ?_
  refine (horStream _ _).bind fun sig => ?_
  refine (onlyFails_await _).bind fun written => ?_
  refine (horStream _ _).bind fun _ => ?_
  exact (onlyFails_await _).bind fun _ => onlyFails_ok _

theorem onlyFails_prove : OnlyFails OnStream (prove config task) := by
  refine (onlyFails_await _).bind fun _ => (onlyFails_await _).bind fun _ => ?_
  refine (onlyFails_await _).bind fun exit => ?_
  rcases exit with message | (success : Bool)
  · exact onlyFails_streamError _
  · cases success with
    | false => exact onlyFails_streamError _
    | true => exact (onlyFails_await _).bind fun _ => (onlyFails_await _).bind fun _ => onlyFails_ok _

theorem onlyFails_parseSettlement : OnlyFails OnStream (parseSettlement config task) := by
  refine (onlyFails_await _).bind fun messages => ?_
  cases readSettlement messages with
  | some settlement => exact (onlyFails_await _).bind fun _ => onlyFails_ok _
  | none => exact onlyFails_ok _

theorem onlyFails_postPayload (url : String) (payload : Json) (left : Nat) :
    OnlyFails OnStream (postPayload api url payload left) := by
  induction left with
  | zero => exact onlyFails_streamError _
  | succ left ih =>
      refine (onlyFails_await _).bind fun reply => ?_
      rcases reply with (e | e) | body
      · exact onlyFails_streamError _
      · exact onlyFails_streamError _
      · change OnlyFails _ (if _ then _ else if _ then _ else _)
        split
        · exact onlyFails_await _
        · split
          · exact (onlyFails_await _).bind fun _ => (onlyFails_await _).bind fun _ => ih
          · exact onlyFails_streamError _

theorem onlyFails_submit (tx : PlayTransaction) :
    OnlyFails OnStream (submit api config task tx) := by
  have horStream {β : Type} (message : String → String) (x : Except String β) :
      OnlyFails OnStream (orStreamError message x) := onlyFails_orStreamError message x
  refine (onlyFails_await _).bind fun _ => (onlyFails_await _).bind fun proofText => ?_
  refine (horStream _ _).bind fun proof => (onlyFails_await _).bind fun factsText => ?_
  refine (horStream _ _).bind fun facts => ?_
  refine (horStream _ _).bind fun factsHex => ?_
  refine (horStream _ _).bind fun proofFacts => ?_
  refine (horStream _ _).bind fun signed => (onlyFails_await _).bind fun _ => ?_
  exact (onlyFails_postPayload api _ _ _).bind fun _ => onlyFails_ok _

theorem onlyFails_waitForTx (txHash : String) (timeoutSecs pollIntervalSecs : Nat) :
    OnlyFails OnStream (waitForTx api txHash timeoutSecs pollIntervalSecs) := by
  apply onlyFails_of_throughout []
  apply throughout_waitForTx
  · exact fun _ _ _ _ => trivial
  · exact fun _ _ _ => nofun

theorem onlyFails_verifyInclusion (txHash : String) :
    OnlyFails OnStream (verifyInclusion api txHash) := by
  refine (onlyFails_await _).bind fun _ => (onlyFails_await _).bind fun _ => ?_
  refine (onlyFails_waitForTx api txHash 180 5).bind fun waited => ?_
  refine (onlyFails_orStreamError _ _).bind fun receipt => ?_
  exact onlyFails_await _

theorem onlyFails_sncastInvoke (contractAddress function : String) (calldata : List String) :
    OnlyFails OnStream (sncastInvoke api contractAddress function calldata) := by
  apply onlyFails_of_throughout []
  apply throughout_sncastInvoke
  · exact fun _ _ _ _ _ => trivial
  · exact fun _ _ _ _ _ _ => nofun

theorem onlyFails_settleOnChain : OnlyFails OnStream (settleOnChain api task) := by
  refine (onlyFails_await _).bind fun bank => ?_
  cases bank with
  | none => exact onlyFails_ok _
  | some bank =>
      refine (onlyFails_await _).bind fun _ => (onlyFails_await _).bind fun _ => ?_
      refine (onlyFails_sncastInvoke api _ _ _).bind fun invoked => ?_
      rcases invoked with e | ⟨output, _ | tx, blockNumber⟩
      · exact (onlyFails_await _).bind fun _ => onlyFails_ok _
      · exact (onlyFails_await _).bind fun _ => onlyFails_ok _
      · exact (onlyFails_await _).bind fun _ => (onlyFails_await _).bind fun _ => onlyFails_ok _

theorem onlyFails_runPlay : OnlyFails OnStream (runPlay api config task) := by
  refine (onlyFails_startLog task).bind fun _ => ?_
  refine (onlyFails_constructTransaction api config task).bind fun tx => ?_
  refine (onlyFails_prove config task).bind fun proofSize => ?_
  refine (onlyFails_parseSettlement config task).bind fun settlement => ?_
  refine (onlyFails_submit api config task tx).bind fun txHash => ?_
  refine (onlyFails_verifyInclusion api txHash).bind fun _ => ?_
  refine (onlyFails_settleOnChain api task).bind fun settleTxHash => ?_
  exact (onlyFails_await _).bind fun _ => onlyFails_ok _

end OnStream

section Alone

variable {backend : Backend} (pool : Pool backend.system) (sessionId : String) (params : PlayQuery)

/-- The pool after a play that nothing else goes on beside. -/
def playAlone (offered : List ((request : Ask) → Answer request)) : Pool backend.system :=
  after pool (.arrive (.play sessionId params) :: offered.map (.advance pool.tasks.length))

def Rejected (pool : Pool backend.system) (i : Nat) : Prop :=
  ∃ status detail, pool.tasks[i]?.bind Task.outcome? = some (.err (.response status detail))

def CostsNothing : Prop :=
  ∀ offered, Rejected (playAlone pool sessionId params offered) pool.tasks.length →
    (playAlone pool sessionId params offered).shared.commitments = pool.shared.commitments

/-- The reveal passes if there is a contract and a commitment to check it against. -/
def Verified : Prop :=
  pool.shared.coinflip.isSome → ∀ entry, pool.shared.commitments sessionId = some entry →
    verifyReveal backend.api entry params = .ok ()

def aloneFrom (offered : List ((request : Ask) → Answer request)) : Handler Response × Shared :=
  alone serve pool.shared (playCoinflip backend.api backend.config sessionId params) offered

theorem costsNothing_iff_alone :
    CostsNothing pool sessionId params ↔ ∀ offered status detail,
      (aloneFrom pool sessionId params offered).1 = .done (.err (.response status detail)) →
      (aloneFrom pool sessionId params offered).2.commitments = pool.shared.commitments := by
  have hrun (offered : List ((request : Ask) → Answer request)) :
      ∃ t, (playAlone pool sessionId params offered).tasks[pool.tasks.length]? = some t ∧
        (t.program, (playAlone pool sessionId params offered).shared) =
          aloneFrom pool sessionId params offered := by
    let started : Pool backend.system :=
      { pool with tasks := pool.tasks ++ [.start backend.system (.play sessionId params)] }
    have hstarted : started.tasks[pool.tasks.length]? =
        some (.start backend.system (.play sessionId params)) := List.getElem?_concat_length
    exact Pool.run_advances hstarted offered
  apply forall_congr'
  intro offered
  obtain ⟨t, hfound, halone⟩ := hrun offered
  have hprogram : t.program = (aloneFrom pool sessionId params offered).1 :=
    congrArg Prod.fst halone
  rw [← halone, Rejected, hfound]
  simp only [Option.bind_some, Task.outcome?, forall_exists_index]
  cases t.program with
  | done outcome => simp
  | call request next => simp

/-- After two exchanges the reveal is judged, and the commitment is gone. -/
theorem aloneFrom_cons_cons {deployment : Deployment} {entry : BetCommitment}
    (hdeployment : pool.shared.coinflip = some deployment)
    (hentry : pool.shared.commitments sessionId = some entry)
    (first second : (request : Ask) → Answer request)
    (later : List ((request : Ask) → Answer request)) :
    aloneFrom pool sessionId params (first :: second :: later) =
      alone serve (pool.shared.removeCommitment sessionId)
        (match verifyReveal backend.api entry params with
          | .error failure => .done (.err failure)
          | .ok _ => runPlay backend.api backend.config
              ⟨deployment, sessionId, entry.seedBlock, params.player, params.side⟩) later := by
  have hread : serve pool.shared (.readDeployment .coinFlip) (first (.readDeployment .coinFlip)) =
      some (some deployment, pool.shared) := by
    rw [← hdeployment]
    rfl
  have htake : serve pool.shared (.removeCommitment sessionId)
      (second (.removeCommitment sessionId)) =
        some (some entry, pool.shared.removeCommitment sessionId) := by
    rw [← hentry]
    rfl
  exact (alone_cons _ _ _ hread).trans (alone_cons _ _ _ htake)

theorem response_of_verifyReveal {api : ServerApi} {entry : BetCommitment} {failure : Failure}
    (h : verifyReveal api entry params = .error failure) :
    ∃ status detail, failure = .response status detail := by
  unfold verifyReveal at h
  by_cases hplayer : params.player = entry.player
  · simp only [hplayer, ne_eq, not_true_eq_false, if_false] at h
    cases hnonce : feltFromHex api.fromHex params.nonce with
    | error e =>
        rw [hnonce] at h
        exact ⟨_, _, (Except.error.inj h).symm⟩
    | ok nonce =>
        rw [hnonce] at h
        by_cases hsame : feltHex (api.pedersen (Felt.fromNat params.side.toNat) nonce) =
            entry.commitment
        · change (if ¬_ then _ else _) = _ at h
          rw [if_neg (not_not.mpr hsame)] at h
          cases h
        · change (if ¬_ then _ else _) = _ at h
          rw [if_pos hsame] at h
          exact ⟨_, _, (Except.error.inj h).symm⟩
  · simp only [hplayer, ne_eq, not_false_eq_true, if_true] at h
    exact ⟨_, _, (Except.error.inj h).symm⟩

theorem costsNothing_iff : CostsNothing pool sessionId params ↔ Verified pool sessionId params := by
  rw [costsNothing_iff_alone]
  constructor
  · intro hnothing hdeployed entry hentry
    obtain ⟨deployment, hdeployment⟩ := Option.isSome_iff_exists.mp hdeployed
    cases hverify : verifyReveal backend.api entry params with
    | ok u => rfl
    | error failure =>
        obtain ⟨status, detail, rfl⟩ := response_of_verifyReveal params hverify
        have halone : aloneFrom pool sessionId params [smoothly 0, smoothly 0] =
            (.done (.err (.response status detail)), pool.shared.removeCommitment sessionId) := by
          rw [aloneFrom_cons_cons pool sessionId params hdeployment hentry, hverify, alone_done]
        have hsame := hnothing [smoothly 0, smoothly 0] status detail (congrArg Prod.fst halone)
        rw [halone] at hsame
        have hgone : (pool.shared.removeCommitment sessionId).commitments sessionId =
            pool.shared.commitments sessionId := congrFun hsame sessionId
        simp [Shared.removeCommitment, hentry] at hgone
  · intro hverified offered status detail hrejected
    rcases offered with _ | ⟨first, later⟩
    · cases hrejected
    have hread : serve pool.shared (.readDeployment .coinFlip) (first (.readDeployment .coinFlip)) =
        some (pool.shared.coinflip, pool.shared) := rfl
    cases hdeployment : pool.shared.coinflip with
    | none =>
        rw [hdeployment] at hread
        have halone : aloneFrom pool sessionId params (first :: later) = (.done (.err _), _) :=
          (alone_cons _ _ _ hread).trans (alone_done _ _ _)
        rw [halone]
    | some deployment =>
        rw [hdeployment] at hread
        rcases later with _ | ⟨second, later⟩
        · have halone : aloneFrom pool sessionId params [first] = (.call _ _, _) :=
            (alone_cons _ _ _ hread).trans (alone_nil _ _)
          rw [halone] at hrejected
          cases hrejected
        · have htake : serve pool.shared (.removeCommitment sessionId)
              (second (.removeCommitment sessionId)) =
                some (pool.shared.commitments sessionId,
                  pool.shared.removeCommitment sessionId) := rfl
          cases hentry : pool.shared.commitments sessionId with
          | none =>
              rw [hentry] at htake
              have halone : aloneFrom pool sessionId params (first :: second :: later) =
                  (.done (.err _), _) :=
                (alone_cons _ _ _ hread).trans ((alone_cons _ _ _ htake).trans (alone_done _ _ _))
              rw [halone]
              exact (congrArg _ hentry.symm).trans (Function.update_eq_self _ _)
          | some entry =>
              have hok : verifyReveal backend.api entry params = .ok () :=
                hverified (by rw [hdeployment]; rfl) entry hentry
              rw [aloneFrom_cons_cons pool sessionId params hdeployment hentry, hok] at hrejected
              -- the task reports on its stream only
              have hfails : OnlyFails _ (alone serve (pool.shared.removeCommitment sessionId) _ later).1 :=
                onlyFails_alone _ (onlyFails_runPlay backend.api backend.config
                  ⟨deployment, sessionId, entry.seedBlock, params.player, params.side⟩) later
              rw [hrejected] at hfails
              exact (hfails _ rfl).elim

/-- A commitment is there, and somebody else plays. -/
theorem rejection_costs :
    ¬ ∀ (backend : Backend) (pool : Pool backend.system) (sessionId : String) (params : PlayQuery),
      CostsNothing pool sessionId params := by
  intro hclaim
  have hsame := hclaim sample (after sampleStart (sampleBet.take 2)) sampleSession ⟨"0x4", 0, "0x1"⟩
    [smoothly 11, smoothly 11] ⟨400, "Player address does not match commitment.", by decide +kernel⟩
  exact absurd (congrFun hsame sampleSession) (by decide +kernel)

end Alone

end Snip36.RevealVerification
