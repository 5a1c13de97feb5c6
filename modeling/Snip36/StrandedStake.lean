import Snip36.ReportedResult
import Snip36.StakeMatching

/-!
Whether the stake of a matched session can still be settled: by a later play, or
by one that is on its way.
-/

namespace Snip36.StrandedStake

open BankLifecycle
open CoinFlipBank
open CoinFlipRoutes
open CoinFlipServer
open CoinFlipState
open HandlerAsks
open Library.Interaction
open Library.Interleaving
open Library.Reverting
open ReportedResult (reveal reveal_of_said)
open ServerInvariant
open ServerSteps
open SessionGames

section Definitions

variable {backend : Backend}

def sentCommands (t : Task backend.system) : List SncastCommand :=
  t.history.filterMap fun event =>
    match event with
    | ⟨.sncast command, _⟩ => some command
    | _ => none

def pendingCommands (chain : Chain) : List SncastCommand :=
  chain.pending.filterMap fun tx =>
    match tx with
    | .sncast command => some command
    | .proofBearing _ => none

/-- The session whose entry a play has taken. -/
def takenSession (t : Task backend.system) : Option String := (reveal t).map Prod.fst

/-- A play that has taken the entry of a session is not over, and its settlement
was not sent or may still be included. -/
def RunsToSettle (pool : Pool backend.system) (id : String) (t : Task backend.system) : Prop :=
  takenSession t = some id ∧ t.outcome? = none ∧
    ∀ command ∈ sentCommands t, command ∈ pendingCommands pool.shared.chain

instance (pool : Pool backend.system) (id : String) (t : Task backend.system) :
    Decidable (RunsToSettle pool id t) :=
  inferInstanceAs (Decidable (_ ∧ _ ∧ _))

variable (backend)

/-- Every session with a matched game has its entry, or a play that runs. -/
def Recoverable (pool : Pool backend.system) : Prop :=
  ∀ id ∈ pool.shared.issued, ∀ felt, feltOf backend id = some felt → ∀ a,
    (gameAt pool.shared.chain a felt).state = stateMatched →
    (pool.shared.commitments id).isSome ∨ ∃ t ∈ pool.tasks, RunsToSettle pool id t

/-- The contracts at which the game of a session is matched. -/
def matchedAt (chain : Chain) (id : String) : List ContractAddress :=
  match feltOf backend id with
  | none => []
  | some felt => chain.contracts.filter fun a => (gameAt chain a felt).state = stateMatched

variable (pool : Pool backend.system) (move : ServerMove)

/-- The session of the play that ends in a move. -/
def endedPlay : Option String :=
  match move, pool.exchange move with
  | .advance i _, some _ => do
      let t ← (exec Pool.step pool move).tasks[i]?
      if t.outcome?.isSome then takenSession t else none
  | _, _ => none

/-- The session, as a word, whose settlement is included. -/
def includedSettle : Option String :=
  match move with
  | .outside (.execute k _) =>
      match pool.shared.chain.pending[k]? with
      | some (.sncast (.invoke _ "settle" (word :: _))) => some word
      | _ => none
  | _ => none

def settledGame : Option (ContractAddress × Felt) :=
  match acceptedCall backend pool move with
  | some (a, _, .settle felt _) => some (a, felt)
  | _ => none

/-- The matched games of a session that a move does not settle. -/
def leftMatched (id : String) : List ContractAddress :=
  (matchedAt backend pool.shared.chain id).filter fun a =>
    settledGame backend pool move ≠ (feltOf backend id).map (Prod.mk a)

def newlyMatched : List String :=
  match acceptedCall backend pool move with
  | some (_, _, .matchDeposit felt) =>
      pool.shared.issued.filter fun id => feltOf backend id = some felt
  | _ => []

/-- A play that has taken an entry ends only without a matched game; its
settlement, when it is included, leaves no game of the session matched; and a game
is matched only before that. -/
structure EndsInTime : Prop where
  ended : ∀ id ∈ endedPlay backend pool move, matchedAt backend pool.shared.chain id = []
  included : ∀ word ∈ includedSettle backend pool move, ∀ id ∈ pool.shared.issued,
    sessionFelt id = word → leftMatched backend pool move id = []
  matched : ∀ id ∈ newlyMatched backend pool move, ∀ t ∈ pool.tasks,
    takenSession t = some id → RunsToSettle pool id t

instance : Decidable (EndsInTime backend pool move) :=
  decidable_of_iff (_ ∧ _ ∧ _)
    ⟨fun h => ⟨h.1, h.2.1, h.2.2⟩, fun h => ⟨h.ended, h.included, h.matched⟩⟩

end Definitions

variable {backend : Backend} {pool pool' : Pool backend.system} {move : ServerMove} {id : String}
  {a : ContractAddress} {felt : Felt}

theorem mem_sentCommands {t : Task backend.system} {command : SncastCommand} :
    command ∈ sentCommands t ↔ ∃ output,
      (⟨.sncast command, output⟩ : Event Ask Answer) ∈ t.history := by
  constructor
  · intro h
    obtain ⟨event, hevent, hcommand⟩ := List.mem_filterMap.mp h
    split at hcommand
    · cases hcommand
      exact ⟨_, hevent⟩
    · cases hcommand
  · rintro ⟨output, hevent⟩
    exact List.mem_filterMap.mpr ⟨_, hevent, rfl⟩

theorem mem_pendingCommands {chain : Chain} {command : SncastCommand} :
    command ∈ pendingCommands chain ↔ .sncast command ∈ chain.pending := by
  constructor
  · intro h
    obtain ⟨tx, htx, hcommand⟩ := List.mem_filterMap.mp h
    cases tx with
    | sncast command' =>
        cases hcommand
        exact htx
    | proofBearing payload => cases hcommand
  · intro h
    exact List.mem_filterMap.mpr ⟨_, h, rfl⟩

theorem takenSession_eq_some_iff {t : Task backend.system} : takenSession t = some id ↔
    ∃ params c, t.request = .play id params ∧
      (⟨.removeCommitment id, some c⟩ : Event Ask Answer) ∈ t.history := by
  constructor
  · intro h
    obtain ⟨⟨id', params⟩, hreveal, heq⟩ := Option.map_eq_some_iff.mp h
    obtain rfl : id' = id := heq
    unfold reveal at hreveal
    split at hreveal
    · rename_i id'' params' hrequest
      split at hreveal
      · rename_i hsome
        cases hreveal
        obtain ⟨event, hevent, htaken⟩ := List.findSome?_isSome_iff.mp hsome
        obtain ⟨c, hc⟩ := Option.isSome_iff_exists.mp htaken
        exact ⟨params, c, hrequest, takenEntry_eq_some_iff.mp hc ▸ hevent⟩
      · cases hreveal
    · cases hreveal
  · rintro ⟨params, c, hrequest, hevent⟩
    have hsome : (t.history.findSome? (takenEntry id)).isSome := by
      rw [List.findSome?_isSome_iff]
      exact ⟨_, hevent, by rw [takenEntry_eq_some_iff.mpr rfl]; rfl⟩
    simp only [takenSession, reveal, hrequest, hsome, if_true, Option.map_some]

/-- A session that is not in the map was taken by a play. -/
theorem exists_taken {q : Request} {c : BetCommitment}
    (h : pool.Said q ⟨.removeCommitment id, some c⟩) :
    ∃ t ∈ pool.tasks, takenSession t = some id := by
  obtain ⟨before, ⟨⟨params, rfl⟩, -⟩, -⟩ := h.asked (handler_asks backend q)
  obtain ⟨t, ht, hrequest, hevent⟩ := h
  exact ⟨t, ht, takenSession_eq_some_iff.mpr ⟨params, c, hrequest, hevent⟩⟩

/-- What such a play hands over to `sncast` settles its session. -/
theorem settle_of_sent {t : Task backend.system} {command : SncastCommand}
    (htaken : takenSession t = some id) (hsent : command ∈ sentCommands t) :
    ∃ bank seed, command = .invoke bank "settle" [sessionFelt id, seed] := by
  obtain ⟨params, c, hrequest, -⟩ := takenSession_eq_some_iff.mp htaken
  obtain ⟨output, hevent⟩ := mem_sentCommands.mp hsent
  obtain ⟨before, after, hsplit⟩ := List.append_of_mem hevent
  have hissues : Issues backend.config before command t.request :=
    t.follows.asked (handler_asks backend t.request) hsplit
  rw [hrequest] at hissues
  obtain ⟨bank, c, -, rfl⟩ := hissues
  exact ⟨bank, _, rfl⟩

theorem mem_matchedAt (h : Kept backend pool) (hfelt : feltOf backend id = some felt)
    (hmatched : (gameAt pool.shared.chain a felt).state = stateMatched) :
    a ∈ matchedAt backend pool.shared.chain id := by
  have hstarted : (gameAt pool.shared.chain a felt).state ≠ stateEmpty := by
    rw [hmatched]
    decide
  rw [matchedAt, hfelt]
  exact List.mem_filter.mpr ⟨h.mem_contracts hstarted, decide_eq_true hmatched⟩

/-! ### One move -/

section Advance

variable {i : Nat} {answers : (request : Ask) → Answer request} {u u' : Task backend.system}
  {request : Ask} {answer : Answer request}

theorem takenSession_of_advance (h : Pool.Advances pool pool' answers i u u' request answer)
    (htaken : takenSession u = some id) : takenSession u' = some id := by
  obtain ⟨params, c, hrequest, hevent⟩ := takenSession_eq_some_iff.mp htaken
  refine takenSession_eq_some_iff.mpr ⟨params, c, h.sameRequest.trans hrequest, ?_⟩
  rw [h.history]
  exact List.mem_append_left _ hevent

theorem running_of_advance (h : Pool.Advances pool pool' answers i u u' request answer)
    (hkept : Kept backend pool) (hstep : pool.step (.advance i answers) = .ok pool')
    (hends : EndsInTime backend pool (.advance i answers))
    (hfelt : feltOf backend id = some felt)
    (hmatched : (gameAt pool'.shared.chain a felt).state = stateMatched)
    (htaken : takenSession u' = some id) : u'.outcome? = none := by
  by_contra hover
  have hended : endedPlay backend pool (.advance i answers) = some id := by
    have hi : pool'.tasks[i]? = some u' := by
      rw [h.tasks]
      exact List.getElem?_set_self (List.getElem?_eq_some_iff.mp h.found).1
    have hsome : u'.outcome?.isSome := Option.isSome_iff_ne_none.mpr hover
    simp only [endedPlay, h.exchange, exec_of_ok hstep, hi, Option.bind_eq_bind, Option.bind_some,
      hsome, if_true, htaken]
  have hbefore : (gameAt pool.shared.chain a felt).state = stateMatched := by
    rwa [gameAt, chain_of_serve h.served] at hmatched
  have hmem := mem_matchedAt hkept hfelt hbefore
  rw [hends.ended id hended] at hmem
  exact List.not_mem_nil hmem

theorem pending_of_advance (h : Pool.Advances pool pool' answers i u u' request answer)
    {command : SncastCommand} (hpending : command ∈ pendingCommands pool.shared.chain) :
    command ∈ pendingCommands pool'.shared.chain := by
  rw [mem_pendingCommands] at hpending ⊢
  rw [chain_of_serve h.served]
  exact List.mem_append_left _ hpending

/-- What a task has sent by now was sent before or is pending. -/
theorem sent_of_advance (h : Pool.Advances pool pool' answers i u u' request answer)
    {command : SncastCommand} (hsent : command ∈ sentCommands u') :
    command ∈ sentCommands u ∨ command ∈ pendingCommands pool'.shared.chain := by
  have hchain := chain_of_serve h.served
  obtain ⟨output, hevent⟩ := mem_sentCommands.mp hsent
  rw [h.history] at hevent
  rcases List.mem_append.mp hevent with hold | hnew
  · exact Or.inl (mem_sentCommands.mpr ⟨output, hold⟩)
  · cases List.mem_singleton.mp hnew
    right
    rw [mem_pendingCommands, hchain]
    exact List.mem_append_right _ (List.mem_singleton.mpr rfl)

end Advance

/-- No game of a session is matched once its settlement is included. -/
theorem unmatched_of_included {k : Nat} {address : ContractAddress} {bank seed : String}
    (hkept : Kept backend pool) (hends : EndsInTime backend pool (.outside (.execute k address)))
    (hstep : pool.step (.outside (.execute k address)) = .ok pool')
    (hid : id ∈ pool.shared.issued) (hfelt : feltOf backend id = some felt)
    (hk : pool.shared.chain.pending[k]? =
      some (.sncast (.invoke bank "settle" [sessionFelt id, seed]))) :
    (gameAt pool'.shared.chain a felt).state ≠ stateMatched := by
  intro hmatched
  by_cases hbefore : (gameAt pool.shared.chain a felt).state = stateMatched
  · have hnone := hends.included (sessionFelt id) (by rw [includedSettle, hk]; rfl) id hid rfl
    have hsettled : settledGame backend pool (.outside (.execute k address)) = some (a, felt) := by
      by_contra hleft
      rw [leftMatched, List.filter_eq_nil_iff] at hnone
      exact hnone a (mem_matchedAt hkept hfelt hbefore) (by rw [hfelt]; exact decide_eq_true hleft)
    unfold settledGame at hsettled
    split at hsettled
    · rename_i b caller felt' seed haccepted
      cases hsettled
      have hstate := settled_of_accepted hstep haccepted
      rw [hmatched] at hstate
      exact absurd hstate (by decide)
    · cases hsettled
  · -- a settlement matches nothing
    obtain ⟨haccepted, -⟩ := match_of_step hkept hstep hbefore hmatched
    have hcalled := called_of_accepted haccepted
    simp only [calledBank, hk, Option.bind_eq_bind, Option.bind_some,
      Option.bind_eq_some_iff] at hcalled
    obtain ⟨⟨b, call⟩, hinvoked, heq⟩ := hcalled
    cases heq
    obtain ⟨-, -, args, -, hcall⟩ := invokedBank_eq_some_iff.mp hinvoked
    rcases args with - | ⟨x, - | ⟨y, - | ⟨z, rest⟩⟩⟩
    all_goals simp [bankCallOf] at hcall

theorem RunsToSettle.step {t : Task backend.system} (h : RunsToSettle pool id t)
    (ht : t ∈ pool.tasks) (hkept : Kept backend pool) (hid : id ∈ pool.shared.issued)
    (hends : EndsInTime backend pool move) (hstep : pool.step move = .ok pool')
    (hfelt : feltOf backend id = some felt)
    (hmatched : (gameAt pool'.shared.chain a felt).state = stateMatched) :
    ∃ t' ∈ pool'.tasks, RunsToSettle pool' id t' := by
  obtain ⟨htaken, hrunning, hpending⟩ := h
  cases move with
  | arrive q =>
      obtain rfl := Pool.arrive_eq_ok_iff.mp hstep
      exact ⟨t, List.mem_append_left _ ht, htaken, hrunning, hpending⟩
  | advance i answers =>
      obtain ⟨u, u', request, answer, hadvance⟩ := Pool.advances_of_step hstep
      obtain ⟨j, hj⟩ := List.getElem?_of_mem ht
      rcases eq_or_ne j i with rfl | hne
      · obtain rfl : t = u := Option.some.inj (hj.symm.trans hadvance.found)
        have htaken' := takenSession_of_advance hadvance htaken
        refine ⟨u', hadvance.mem_after, htaken',
          running_of_advance hadvance hkept hstep hends hfelt hmatched htaken', ?_⟩
        intro command hsent
        rcases sent_of_advance hadvance hsent with hold | hnew
        · exact pending_of_advance hadvance (hpending command hold)
        · exact hnew
      · have ht' : t ∈ pool'.tasks := by
          rw [hadvance.tasks]
          exact List.mem_of_getElem? ((List.getElem?_set_ne hne.symm).trans hj)
        exact ⟨t, ht', htaken, hrunning,
          fun command hsent => pending_of_advance hadvance (hpending command hsent)⟩
  | outside env =>
      obtain ⟨shared, -, rfl⟩ := Pool.outside_eq_ok_iff.mp hstep
      refine ⟨t, ht, htaken, hrunning, fun command hsent => ?_⟩
      have hbefore := mem_pendingCommands.mp (hpending command hsent)
      rw [mem_pendingCommands]
      rcases transactions_of_step hstep with ⟨hexchange, -⟩ | ⟨hmove, hincluded⟩ |
        ⟨-, hsame, -, -, -⟩
      · cases hexchange
      · -- its settlement is not included while the session is matched
        cases hmove
        obtain ⟨j, hj⟩ := List.getElem?_of_mem hbefore
        rw [hincluded.pending, List.mem_eraseIdx_iff_getElem?]
        refine ⟨j, ?_, hj⟩
        rintro rfl
        obtain ⟨bank, seed, rfl⟩ := settle_of_sent htaken hsent
        exact unmatched_of_included hkept hends hstep hid hfelt hj hmatched
      · rwa [hsame]

/-- The play that takes the entry of a matched session runs. -/
theorem runs_of_removal {q : Request} {entry : Option BetCommitment} (hentry : entry.isSome)
    (hexchange : pool.exchange move = some (q, ⟨.removeCommitment id, entry⟩))
    (hkept : Kept backend pool) (hends : EndsInTime backend pool move)
    (hstep : pool.step move = .ok pool') (hfelt : feltOf backend id = some felt)
    (hmatched : (gameAt pool'.shared.chain a felt).state = stateMatched) :
    ∃ t ∈ pool'.tasks, RunsToSettle pool' id t := by
  obtain ⟨c, rfl⟩ := Option.isSome_iff_exists.mp hentry
  obtain ⟨pool'', i, answers, u, u', rfl, rfl, hstep', hadvance⟩ :=
    Pool.advances_of_exchange hexchange
  obtain rfl : pool'' = pool' := Except.ok.inj (hstep'.symm.trans hstep)
  obtain ⟨⟨params, hrequest⟩, hunsent⟩ :=
    hadvance.asked (handler_asks backend u.request)
  have htaken : takenSession u' = some id := by
    refine takenSession_eq_some_iff.mpr ⟨params, c, hadvance.sameRequest.trans hrequest, ?_⟩
    rw [hadvance.history]
    exact List.mem_append_right _ (List.mem_singleton.mpr rfl)
  refine ⟨u', hadvance.mem_after, htaken,
    running_of_advance hadvance hkept hstep hends hfelt hmatched htaken, ?_⟩
  intro command hsent
  rcases sent_of_advance hadvance hsent with hold | hnew
  · obtain ⟨output, hevent⟩ := mem_sentCommands.mp hold
    exact absurd rfl (hunsent _ hevent command)
  · exact hnew

theorem entry_of_new (h : Kept backend pool) (hstep : pool.step move = .ok pool')
    (hid : id ∈ pool'.shared.issued) (hnew : id ∉ pool.shared.issued) :
    (pool'.shared.commitments id).isSome := by
  rcases (h.step hstep).recorded id hid with ⟨c, hc⟩ | ⟨q, c, hsaid⟩
  · exact Option.isSome_iff_exists.mpr ⟨c, hc⟩
  · rcases (Pool.said_iff_of_step hstep).mp hsaid with hold | hnow
    · exact absurd (h.removed q id c hold).1 hnew
    · exact absurd (h.entries id c (entry_of_removal hnow)).1 hnew

theorem Recoverable.step (h : Recoverable backend pool) (hkept : Kept backend pool)
    (hends : EndsInTime backend pool move) (hstep : pool.step move = .ok pool') :
    Recoverable backend pool' := by
  intro id hid felt hfelt a hmatched
  by_cases hissued : id ∈ pool.shared.issued
  · by_cases hbefore : (gameAt pool.shared.chain a felt).state = stateMatched
    · rcases h id hissued felt hfelt a hbefore with hentry | ⟨t, ht, hruns⟩
      · rcases entry_of_step hstep id with hsame | ⟨q, event, hexchange, hchange⟩
        · left
          rwa [hsame]
        · generalize pool.shared.commitments id = before at hchange hentry
          generalize pool'.shared.commitments id = after at hchange
          cases hchange with
          | insert entry before huuid hnew => exact Or.inl rfl
          | remove before =>
              exact Or.inr (runs_of_removal hentry hexchange hkept hends hstep hfelt hmatched)
          | quote amount c => exact Or.inl rfl
          | seed block c => exact Or.inl rfl
      · exact Or.inr (hruns.step ht hkept hissued hends hstep hfelt hmatched)
    · obtain ⟨haccepted, -⟩ := match_of_step hkept hstep hbefore hmatched
      have hnew : id ∈ newlyMatched backend pool move := by
        rw [newlyMatched, haccepted]
        exact List.mem_filter.mpr ⟨hissued, decide_eq_true hfelt⟩
      rcases hkept.recorded id hissued with ⟨c, hc⟩ | ⟨q, c, hsaid⟩
      · have hnone := StakeMatching.exchange_of_calledBank (called_of_accepted haccepted)
        rcases entry_of_step hstep id with hsame | ⟨q, event, hexchange, -⟩
        · left
          rw [hsame, hc]
          rfl
        · cases hnone.symm.trans hexchange
      · obtain ⟨t, ht, htaken⟩ := exists_taken hsaid
        have hruns := hends.matched id hnew t ht htaken
        exact Or.inr (hruns.step ht hkept hissued hends hstep hfelt hmatched)
  · exact Or.inl (entry_of_new hkept hstep hid hissued)

/-- In a run in which plays end in time. -/
theorem never_stranded (hfresh : Fresh backend pool) (moves : List ServerMove)
    (hmoves : AllMeet Pool.step (EndsInTime backend) pool moves) :
    Recoverable backend (after pool moves) := by
  have hrun : Kept backend (after pool moves) ∧ Recoverable backend (after pool moves) := by
    apply run_keeps_while (P := fun pool => Kept backend pool ∧ Recoverable backend pool) _ _ hmoves
    · intro pool move pool' hends h hstep
      exact ⟨h.1.step hstep, h.2.step h.1 hends hstep⟩
    · refine ⟨.fresh hfresh, fun id hid => ?_⟩
      exact absurd hid (hfresh.notMem_issued id)
  exact hrun.2

/-- Everything goes well but the proof. -/
def failingProver : (request : Ask) → Answer request
  | .runProver _ _ => .exited false
  | request => smoothly 11 request

def revealedBet : List ServerMove :=
  sampleBet ++ sampleConfirm 1 ++ [.arrive (.play sampleSession ⟨"0x3", 0, "0x1"⟩)]

def settledBet : List ServerMove :=
  revealedBet ++ List.replicate 31 (.advance 2 (smoothly 11)) ++ .outside (.execute 1 0) ::
    List.replicate 5 (.advance 2 (smoothly 11))

theorem never_stranded_settledBet : Recoverable sample (after sampleStart settledBet) := by
  apply never_stranded fresh_sampleStart
  decide +kernel

/-- The prover fails, the play is over, and nothing is left to settle the bet. -/
theorem failed_play_strands :
    ¬ ∀ (backend : Backend) (pool : Pool backend.system) (moves : List ServerMove),
      ReadsHex backend.api.fromHex → Fresh backend pool →
      Recoverable backend (after pool moves) := by
  intro hclaim
  have hrecover := hclaim sample sampleStart
    (revealedBet ++ List.replicate 11 (.advance 2 failingProver)) readsHex_hexFelt
    fresh_sampleStart sampleSession (by decide +kernel) 5 (by decide +kernel)
    BankAccounting.bankAddress (by decide +kernel)
  exact absurd hrecover (by decide +kernel)

end Snip36.StrandedStake
