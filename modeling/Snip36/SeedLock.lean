import Snip36.SessionGames

/-!
When the seed of a session is locked: what is true of it when a play starts, and
whether it can be written again.
-/

namespace Snip36.SeedLock

open CoinFlipBank
open CoinFlipPlay
open CoinFlipRoutes
open CoinFlipServer
open CoinFlipState
open HandlerAsks
open Library.Interaction
open Library.Interaction.Program
open Library.Interleaving
open Library.Reverting
open RouteFailures
open ServerInvariant
open ServerSteps
open SessionGames
open ToolOutput

/-- The session and the commitment of the play whose task a move starts. -/
def started (backend : Backend) (pool : Pool backend.system) (move : ServerMove) :
    Option (String × BetCommitment) :=
  match pool.exchange move with
  | some (.play _ params, ⟨.removeCommitment id, some c⟩) =>
      if (verifyReveal backend.api c params).isOk then some (id, c) else none
  | _ => none

def written {backend : Backend} (pool : Pool backend.system) (move : ServerMove) :
    Option (String × Nat) :=
  match pool.exchange move with
  | some (_, ⟨.setSeedBlock id block, _⟩) => some (id, block)
  | _ => none

/-- The seed of a commitment is written, by a request that has been answered, and
the game is matched. -/
structure SeedLocked (backend : Backend) (pool : Pool backend.system) (id : String)
    (c : BetCommitment) : Prop where
  seed : c.seedBlock ≠ 0
  confirmed : ∃ t ∈ pool.tasks, ∃ req tx, t.request = .confirmDeposit req ∧
    req.sessionId = id ∧ (⟨.setSeedBlock id c.seedBlock, ()⟩ : Event Ask Answer) ∈ t.history ∧
    t.outcome? = some (.ok (.confirmed true tx))
  matched : StateIs backend pool.shared id stateMatched

/-- In a run, the seed of every play that starts is locked. -/
def PlaysLocked (backend : Backend) (pool : Pool backend.system) (moves : List ServerMove) : Prop :=
  ∀ before move later id c, moves = before ++ move :: later →
    started backend (after pool before) move = some (id, c) →
    SeedLocked backend (after pool before) id c

variable {backend : Backend} {pool pool' : Pool backend.system} {move : ServerMove}
  {id : String} {c : BetCommitment}

theorem exchange_of_started (h : started backend pool move = some (id, c)) :
    ∃ q, pool.exchange move = some (q, ⟨.removeCommitment id, some c⟩) := by
  unfold started at h
  split at h
  · rename_i sessionId params id' c' hexchange
    split at h
    · cases h
      exact ⟨_, hexchange⟩
    · cases h
  · cases h

theorem entry_of_started (h : started backend pool move = some (id, c)) :
    pool.shared.commitments id = some c := by
  obtain ⟨q, hexchange⟩ := exchange_of_started h
  exact entry_of_removal hexchange

/-! ### Confirmed before it is written -/

def WritesSeed : Ask → Prop
  | .setSeedBlock _ _ => True
  | _ => False

theorem not_writesSeed_of_isQuiet (request : Ask) (h : IsQuiet request) : ¬WritesSeed request := by
  cases request with
  | setSeedBlock id block => exact h.elim
  | _ => exact id

/-- A confirmation that has written the seed is over. -/
theorem closes_confirmDeposit (api : ServerApi) (req : ConfirmDepositRequest) :
    Closes WritesSeed (fun outcome => ∃ tx, outcome = .ok (.confirmed true tx))
      (confirmDeposit api req) := by
  have hquiet := not_writesSeed_of_isQuiet
  have hpolls (request : Ask) (h : IsPoll request) : ¬WritesSeed request :=
    hquiet request (isQuiet_of_isPoll h)
  have hread (request : Ask) (h : ¬WritesSeed request) :
      OnlyAsks (fun request => ¬WritesSeed request) (await request) := ⟨h, fun _ => trivial⟩
  refine Closes.bind (onlyAsks_waitForTx hpolls api _ _ _) fun waited => ?_
  refine Closes.bind (onlyAsks_orFailWith _ _ _) fun receipt => ?_
  refine Closes.bind (hread _ id) fun found => Closes.bind (onlyAsks_orFail _ _ _) fun bank => ?_
  refine Closes.bind (hread _ id) fun entry => Closes.bind (onlyAsks_orFail _ _ _) fun c => ?_
  refine Closes.bind (onlyAsks_sncastInvoke hpolls id id id api) fun invoked => ?_
  refine Closes.bind (onlyAsks_orFailWith _ _ _) fun matchResult => ?_
  refine Closes.bind (onlyAsks_orFail _ _ _) fun matchTx => ?_
  refine Closes.bind (onlyAsks_matchBlock hquiet _) fun confirmedBlock => ?_
  refine Closes.bind (hread _ id) fun coinflip => ⟨fun _ _ => ⟨_, rfl, matchTx, rfl⟩, ?_⟩
  exact fun _ => trivial

theorem confirmed_of_said {req : ConfirmDepositRequest} {block : Nat}
    (h : pool.Said (.confirmDeposit req) ⟨.setSeedBlock id block, ()⟩) :
    ∃ t ∈ pool.tasks, ∃ tx, t.request = .confirmDeposit req ∧
      (⟨.setSeedBlock id block, ()⟩ : Event Ask Answer) ∈ t.history ∧
      t.outcome? = some (.ok (.confirmed true tx)) := by
  obtain ⟨t, ht, hrequest, hevent⟩ := h
  have hfollows : Follows (confirmDeposit backend.api req) t.history t.program := by
    have hfollows := t.follows
    rwa [hrequest] at hfollows
  obtain ⟨outcome, hdone, tx, rfl⟩ :=
    (closes_confirmDeposit backend.api req).ended hfollows hevent trivial
  exact ⟨t, ht, tx, hrequest, hevent, by simp [Task.outcome?, hdone]⟩

/-! ### What a run keeps -/

/-- A request for a game; a placeholder is not played, and a seed is written only
to a matched game. -/
def LocksWell (backend : Backend) (pool : Pool backend.system) (move : ServerMove) : Prop :=
  Betting move ∧ (∀ s ∈ started backend pool move, s.2.seedBlock ≠ 0) ∧
    ∀ w ∈ written pool move, StateIs backend pool.shared w.1 stateMatched

instance (pool : Pool backend.system) (move : ServerMove) :
    Decidable (LocksWell backend pool move) :=
  inferInstanceAs (Decidable (_ ∧ _))

/-- A seed that is not the placeholder comes from a confirmation, and its session
is matched. -/
structure Locked (backend : Backend) (pool : Pool backend.system) : Prop where
  kept : Kept backend pool
  undeployed : NoDeployment pool
  seeds : ∀ id c, pool.shared.commitments id = some c → c.seedBlock ≠ 0 →
    (∃ req, req.sessionId = id ∧
      pool.Said (.confirmDeposit req) ⟨.setSeedBlock id c.seedBlock, ()⟩) ∧
    StateIs backend pool.shared id stateMatched

theorem Locked.step (hreads : ReadsHex backend.api.fromHex) (h : Locked backend pool)
    (hlocks : LocksWell backend pool move) (hstep : pool.step move = .ok pool') :
    Locked backend pool' := by
  refine ⟨h.kept.step hstep, h.undeployed.step hlocks.1 hstep, fun id c hc hseed => ?_⟩
  have hold (before : BetCommitment) (hbefore : pool.shared.commitments id = some before)
      (hsame : c.seedBlock = before.seedBlock) :
      (∃ req, req.sessionId = id ∧
        pool'.Said (.confirmDeposit req) ⟨.setSeedBlock id c.seedBlock, ()⟩) ∧
      StateIs backend pool'.shared id stateMatched := by
    rw [hsame] at hseed ⊢
    obtain ⟨⟨req, hreq, hsaid⟩, hmatched⟩ := h.seeds id before hbefore hseed
    exact ⟨⟨req, hreq, Pool.said_of_step hstep hsaid⟩,
      matched_of_step h.kept hreads h.undeployed hstep hbefore hmatched⟩
  rcases origin_of_entry hstep hc with
    hsame | ⟨q, entry, hexchange, -, rfl⟩ | ⟨q, before, amount, -, hbefore, rfl⟩ |
      ⟨q, before, block, hexchange, hbefore, rfl⟩
  · exact hold c hsame rfl
  · obtain ⟨said, ⟨req, rfl, rfl⟩, -⟩ := allowed_of_exchange hexchange
    exact absurd rfl hseed
  · exact hold before hbefore rfl
  · obtain ⟨said, ⟨req, c, rfl, hreq, -⟩, -⟩ := allowed_of_exchange hexchange
    have hmatched := hlocks.2.2 (id, block) (by rw [written, hexchange]; rfl)
    exact ⟨⟨req, hreq.symm, (Pool.said_iff_of_step hstep).mpr (Or.inr hexchange)⟩,
      matched_of_step h.kept hreads h.undeployed hstep hbefore hmatched⟩

theorem Locked.run (hreads : ReadsHex backend.api.fromHex) (h : Fresh backend pool)
    {moves : List ServerMove}
    (hmoves : AllMeet Pool.step (LocksWell backend) pool moves) :
    Locked backend (after pool moves) := by
  apply run_keeps_while _ _ hmoves
  · exact fun _ _ _ hmeets hlocked hstep => hlocked.step hreads hmeets hstep
  · refine ⟨.fresh h, .fresh h, fun id c hc => ?_⟩
    rw [h.commitments id] at hc
    cases hc

/-- In a run of requests for games in which no placeholder is played and seeds
are written to matched games only. -/
theorem plays_locked (hreads : ReadsHex backend.api.fromHex) (hfresh : Fresh backend pool)
    (moves : List ServerMove) (hmoves : AllMeet Pool.step (LocksWell backend) pool moves) :
    PlaysLocked backend pool moves := by
  rintro before move later id c rfl hstarted
  obtain ⟨hbefore, hmove, -⟩ := allMeet_append.mp hmoves
  have hlocked : Locked backend (after pool before) := .run hreads hfresh hbefore
  have hseed := hmove.2.1 (id, c) hstarted
  obtain ⟨⟨req, hreq, hsaid⟩, hmatched⟩ := hlocked.seeds id c (entry_of_started hstarted) hseed
  obtain ⟨t, ht, tx, hrequest, hevent, hdone⟩ := confirmed_of_said hsaid
  exact ⟨hseed, ⟨t, ht, req, tx, hrequest, hreq, hevent, hdone⟩, hmatched⟩

def samplePlay : Request := .play sampleSession ⟨"0x3", 0, "0x1"⟩

theorem plays_locked_sampleBet :
    PlaysLocked sample sampleStart (sampleBet ++ sampleConfirm 1 ++
      .arrive samplePlay :: List.replicate 2 (.advance 2 (smoothly 11))) := by
  apply plays_locked readsHex_hexFelt fresh_sampleStart
  decide +kernel

/-- A commitment is played at once, without a deposit. -/
def hastyPlay : List ServerMove := [
  .arrive (.commit ⟨"0x1", "0x3"⟩),
  .advance 0 (smoothly 11),
  .arrive samplePlay,
  .advance 1 (smoothly 11)]

/-- The task runs with the placeholder. -/
theorem placeholder_is_played :
    ¬ ∀ (backend : Backend) (pool : Pool backend.system) (moves : List ServerMove),
      ReadsHex backend.api.fromHex → Fresh backend pool → (∀ move ∈ moves, Betting move) →
      PlaysLocked backend pool moves := by
  intro hclaim
  have hlocked := hclaim sample sampleStart (hastyPlay ++ [.advance 1 (smoothly 11)])
    readsHex_hexFelt fresh_sampleStart (by decide +kernel) hastyPlay _ [] sampleSession
    ⟨"0x1", 0, "0x3", none, sessionFelt sampleSession⟩ rfl (by decide +kernel)
  exact hlocked.seed rfl

/-! ### Written once -/

/-- In a run, a seed that a confirmation has written is not changed later. -/
def SeedsStay {backend : Backend} (pool : Pool backend.system) (moves : List ServerMove) : Prop :=
  ∀ before move later id block c, moves = before ++ move :: later →
    written (after pool before) move = some (id, block) →
    (after pool moves).shared.commitments id = some c → c.seedBlock = block

theorem exchange_of_written {block : Nat} (h : written pool move = some (id, block)) :
    ∃ q, pool.exchange move = some (q, ⟨.setSeedBlock id block, ()⟩) := by
  unfold written at h
  split at h
  · rename_i q id' block' u hexchange
    cases h
    exact ⟨q, hexchange⟩
  · cases h

/-- The session of a match that `sncast` has printed a hash for. -/
def matchPrinted : Event Ask Answer → Option String
  | ⟨.sncast (.invoke _ "match_deposit" [felt]), .ok output⟩ =>
      if (parseHexFor "transaction_hash" output.combined).isSome then some felt else none
  | _ => none

theorem hashPrinted_iff {history : History Ask Answer} {felt : String} :
    HashPrinted history felt ↔ ∃ event ∈ history, matchPrinted event = some felt := by
  constructor
  · rintro ⟨bank, output, hevent, hhash⟩
    exact ⟨_, hevent, if_pos hhash⟩
  · rintro ⟨event, hevent, h⟩
    unfold matchPrinted at h
    split at h
    · split at h
      · rename_i hhash
        cases h
        exact ⟨_, _, hevent, hhash⟩
      · cases h
    · cases h

instance (history : History Ask Answer) (felt : String) : Decidable (HashPrinted history felt) :=
  decidable_of_iff _ hashPrinted_iff.symm

/-- A hash is printed for the match of a session at most once. -/
def PrintsOnce {backend : Backend} (pool : Pool backend.system) (move : ServerMove) : Prop :=
  ∀ exchange ∈ pool.exchange move, ∀ felt ∈ matchPrinted exchange.2,
    ∀ t ∈ pool.tasks, ¬HashPrinted t.history felt

instance (pool : Pool backend.system) (move : ServerMove) : Decidable (PrintsOnce pool move) :=
  inferInstanceAs (Decidable (∀ exchange ∈ pool.exchange move, _))

def OnePrinter {backend : Backend} (pool : Pool backend.system) : Prop :=
  ∀ (i j : Nat) (t u : Task backend.system) (felt : String), pool.tasks[i]? = some t →
    pool.tasks[j]? = some u → HashPrinted t.history felt → HashPrinted u.history felt → i = j

theorem OnePrinter.step (h : OnePrinter pool) (hmove : PrintsOnce pool move)
    (hstep : pool.step move = .ok pool') : OnePrinter pool' := by
  intro i j t u felt ht hu hprinted hprinted'
  obtain ⟨event, hevent, hhash⟩ := hashPrinted_iff.mp hprinted
  obtain ⟨event', hevent', hhash'⟩ := hashPrinted_iff.mp hprinted'
  rcases Pool.mem_history_of_step hstep ht hevent with ⟨s, hs, hold⟩ | ⟨answers, q, hi, hnow⟩
  · have hsprinted := hashPrinted_iff.mpr ⟨event, hold, hhash⟩
    rcases Pool.mem_history_of_step hstep hu hevent' with ⟨s', hs', hold'⟩ | ⟨answers, q, -, hnow⟩
    · exact h i j s s' felt hs hs' hsprinted (hashPrinted_iff.mpr ⟨event', hold', hhash'⟩)
    · exact absurd hsprinted (hmove _ hnow felt hhash' s (List.mem_of_getElem? hs))
  · rcases Pool.mem_history_of_step hstep hu hevent' with ⟨s', hs', hold'⟩ | ⟨answers', q', hj, -⟩
    · exact absurd (hashPrinted_iff.mpr ⟨event', hold', hhash'⟩)
        (hmove _ hnow felt hhash s' (List.mem_of_getElem? hs'))
    · exact (Move.advance.inj (hi.symm.trans hj)).1

/-- A task that writes the seed of a session has had a hash for its match. -/
theorem hashPrinted_of_written (hkept : Kept backend pool) {t : Task backend.system}
    (ht : t ∈ pool.tasks) {history : History Ask Answer} {block : Nat}
    (hbefore : ∀ event ∈ history, event ∈ t.history)
    (hallowed : Allowed backend.config t.request history (.setSeedBlock id block)) :
    HashPrinted history (sessionFelt id) ∧
      ∀ event ∈ history, ∀ id block, event.request ≠ .setSeedBlock id block := by
  obtain ⟨req, c, hrequest, -, hfound, hprinted, hunwritten⟩ := hallowed
  have hfelt := (hkept.seen _ id c ⟨t, ht, rfl, hbefore _ hfound⟩).2
  rw [hfelt] at hprinted
  exact ⟨hprinted, hunwritten⟩

/-- So no task writes the seed of a session that has one. -/
theorem not_said_of_written (hkept : Kept backend pool) (hone : OnePrinter pool) {q : Request}
    {block : Nat} (hexchange : pool.exchange move = some (q, ⟨.setSeedBlock id block, ()⟩))
    (q' : Request) (block' : Nat) : ¬pool.Said q' ⟨.setSeedBlock id block', ()⟩ := by
  rintro ⟨u, hu, -, hevent⟩
  obtain ⟨pool', i, answers, t, t', -, -, -, hadvance⟩ := Pool.advances_of_exchange hexchange
  obtain ⟨j, hj⟩ := List.getElem?_of_mem hu
  obtain ⟨hprinted, hunwritten⟩ := hashPrinted_of_written hkept hadvance.mem
    (fun _ h => h) (hadvance.asked (handler_asks backend t.request))
  obtain ⟨first, rest, hsplit⟩ := List.append_of_mem hevent
  obtain ⟨hprinted', -⟩ := hashPrinted_of_written hkept hu
    (fun _ h => hsplit ▸ List.mem_append_left _ h)
    (u.follows.asked (handler_asks backend u.request) hsplit)
  obtain ⟨event, hmem, hhash⟩ := hashPrinted_iff.mp hprinted'
  have hprinted' : HashPrinted u.history (sessionFelt id) :=
    hashPrinted_iff.mpr ⟨event, hsplit ▸ List.mem_append_left _ hmem, hhash⟩
  obtain rfl : i = j := hone i j t u _ hadvance.found hj hprinted hprinted'
  obtain rfl : t = u := Option.some.inj (hadvance.found.symm.trans hj)
  exact hunwritten _ hevent id block' rfl

structure Written (backend : Backend) (pool : Pool backend.system) (id : String) (block : Nat) :
    Prop where
  kept : Kept backend pool
  one : OnePrinter pool
  issued : id ∈ pool.shared.issued
  said : ∃ q block', pool.Said q ⟨.setSeedBlock id block', ()⟩
  entry : ∀ c, pool.shared.commitments id = some c → c.seedBlock = block

theorem Written.step {block : Nat} (h : Written backend pool id block)
    (hmove : PrintsOnce pool move) (hstep : pool.step move = .ok pool') :
    Written backend pool' id block := by
  obtain ⟨q', block', hsaid⟩ := h.said
  refine ⟨h.kept.step hstep, h.one.step hmove hstep, Kept.issued_mono hstep h.issued,
    ⟨q', block', Pool.said_of_step hstep hsaid⟩, fun c hc => ?_⟩
  rcases origin_of_entry hstep hc with
    hsame | ⟨q, entry, -, hnew, -⟩ | ⟨q, before, amount, -, hbefore, rfl⟩ |
      ⟨q, before, block, hexchange, -, -⟩
  · exact h.entry c hsame
  · exact absurd h.issued hnew
  · exact h.entry before hbefore
  · exact absurd hsaid (not_said_of_written h.kept h.one hexchange q' block')

theorem written_of_exchange {block : Nat} {q : Request} (hkept : Kept backend pool)
    (hone : OnePrinter pool) (hmove : PrintsOnce pool move)
    (hexchange : pool.exchange move = some (q, ⟨.setSeedBlock id block, ()⟩))
    (hstep : pool.step move = .ok pool') : Written backend pool' id block := by
  obtain ⟨before, ⟨req, c, rfl, hreq, hfound, -⟩, hbefore⟩ := allowed_of_exchange hexchange
  refine ⟨hkept.step hstep, hone.step hmove hstep,
    Kept.issued_mono hstep (hkept.seen _ _ _ (hbefore _ hfound)).1,
    ⟨_, block, (Pool.said_iff_of_step hstep).mpr (Or.inr hexchange)⟩, fun c hc => ?_⟩
  obtain ⟨offered, hserved⟩ := served_of_exchange hstep hexchange
  have hshared : pool.shared.updateCommitment id _ = pool'.shared :=
    (Prod.mk.inj (Option.some.inj hserved)).2
  rw [← hshared] at hc
  simp only [Shared.updateCommitment, Function.update_self, Option.map_eq_some_iff] at hc
  obtain ⟨before, -, rfl⟩ := hc
  rfl

/-- In a run in which no session has a second hash for its match. -/
theorem seeds_stay (hfresh : Fresh backend pool) (moves : List ServerMove)
    (hmoves : AllMeet Pool.step PrintsOnce pool moves) : SeedsStay pool moves := by
  rintro before move later id block c rfl hmove hc
  obtain ⟨hbefore, hprints, hlater⟩ := allMeet_append.mp hmoves
  have hone : OnePrinter (after pool before) := by
    apply run_keeps_while (fun _ _ _ hmeets hone hstep => hone.step hmeets hstep) _ hbefore
    intro i j t u felt ht
    rw [hfresh.tasks] at ht
    cases ht
  obtain ⟨q, hexchange⟩ := exchange_of_written hmove
  obtain ⟨pool', -, -, -, -, -, -, hstep, -⟩ := Pool.advances_of_exchange hexchange
  have hwritten : Written backend pool' id block :=
    written_of_exchange (.run hfresh before) hone hprints hexchange hstep
  have hexec : exec Pool.step (run Pool.step pool before) move = pool' := exec_of_ok hstep
  rw [hexec] at hlater
  have hafter : Written backend (after pool (before ++ move :: later)) id block := by
    rw [after, run_append, run_cons, hexec]
    exact run_keeps_while (P := fun pool => Written backend pool id block)
      (fun _ _ _ hmeets h hstep => h.step hmeets hstep) hwritten hlater
  exact hafter.entry c hc

/-- sncast does not send the call, and prints no hash. -/
def refusing : (request : Ask) → Answer request
  | .sncast _ => .ok ⟨"", "Error: Insufficient resources for validate", false⟩
  | request => smoothly 12 request

/-- The deposit is confirmed again. Its second match is not sent. -/
def refusedConfirm : List ServerMove :=
  .arrive (.confirmDeposit ⟨sampleSession, "0xd"⟩) :: List.replicate 7 (.advance 2 refusing)

theorem seeds_stay_sampleBet : SeedsStay sampleStart (sampleBet ++ sampleConfirm 1 ++
    refusedConfirm ++ [.arrive (.depositInfo ⟨sampleSession, 10⟩), .advance 3 (smoothly 12)]) := by
  apply seeds_stay fresh_sampleStart
  decide +kernel

/-- The transaction is included in a block, where it fails. -/
def reverting (block : Nat) : (request : Ask) → Answer request
  | .getReceipt _ => .ok (.obj [("finality_status", .str "ACCEPTED_ON_L2"),
      ("execution_status", .str "REVERTED"), ("block_number", .num block)])
  | request => smoothly block request

/-- The deposit is confirmed again. Its second match fails on the chain. -/
def secondConfirm : List ServerMove :=
  .arrive (.confirmDeposit ⟨sampleSession, "0xd"⟩) ::
    List.replicate 6 (.advance 2 (smoothly 12)) ++ [.outside (.execute 0 0)] ++
    List.replicate 6 (.advance 2 (reverting 12))

/-- Its hash is enough for the seed to move to the latest block. -/
theorem seed_is_moved :
    ¬ ∀ (backend : Backend) (pool : Pool backend.system) (moves : List ServerMove),
      Fresh backend pool → SeedsStay pool moves := by
  intro hclaim
  have hstays := hclaim sample sampleStart (sampleBet ++ sampleConfirm 1 ++ secondConfirm)
    fresh_sampleStart (sampleBet ++ (sampleConfirm 1).dropLast) (.advance 1 (smoothly 11))
    secondConfirm sampleSession 11 ⟨"0x1", 12, "0x3", none, sessionFelt sampleSession⟩ rfl
    (by decide +kernel) (by decide +kernel)
  exact absurd hstays (by decide)

end Snip36.SeedLock
