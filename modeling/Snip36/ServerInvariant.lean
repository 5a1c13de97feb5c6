import Snip36.ServerSteps

/-!
What holds in every state of the server: where entries, transactions and
payments come from.
-/

namespace Snip36.ServerInvariant

open BankLifecycle
open CoinFlipBank
open CoinFlipRoutes
open CoinFlipServer
open CoinFlipState
open HandlerAsks
open Library.Hex
open Library.Interaction
open Library.Interleaving
open Library.Reverting
open ServerSteps

def paymentsBy (chain : Chain) (a : ContractAddress) : List Payment :=
  (chain.payments.filter fun p => p.bank = a).map BankPayment.payment

section Payments

variable {backend : Backend} {chain chain' : Chain}

theorem paymentsBy_of_eq (h : chain'.payments = chain.payments) :
    paymentsBy chain' = paymentsBy chain := by
  funext a
  rw [paymentsBy, h, paymentsBy]

theorem paymentsBy_of_called {a caller : ContractAddress} {call : BankCall} {storage : Storage}
    {w : World} (h : BankCalled backend chain chain' a caller call storage w)
    (b : ContractAddress) : paymentsBy chain' b = paymentsBy chain b ++
      if b = a then payments backend.api.pedersen ⟨chain.token, storage⟩ (.bank caller call)
      else [] := by
  rw [paymentsBy, h.payments, List.filter_append, List.map_append, ← paymentsBy]
  congr 1
  rcases eq_or_ne b a with rfl | hne
  · simp [List.filter_map, Function.comp_def]
  · simp [List.filter_map, Function.comp_def, hne, hne.symm]

/-- An account of payments does not depend on the token. -/
theorem paid_withToken {owner : ContractAddress} {log : List Payment}
    {token : Library.Erc20.Token ContractAddress 256} {storage : Storage}
    (h : Paid owner log ⟨token, storage⟩) (token' : Library.Erc20.Token ContractAddress 256) :
    Paid owner log ⟨token', storage⟩ :=
  ⟨h.ownerKept, h.playerBalance, h.named, h.unsettled, h.settled⟩

end Payments

/-- Every session is what its exchanges made it, every transaction was handed
over in one, and every bank belongs to the master account and has accounted for
its payments. -/
structure Kept (backend : Backend) (pool : Pool backend.system) : Prop where
  entries : ∀ id c, pool.shared.commitments id = some c →
    id ∈ pool.shared.issued ∧ c.sessionFelt = sessionFelt id
  issued : ∀ id ∈ pool.shared.issued, (uuidNumber id).isSome
  seen : ∀ q id c, pool.Said q ⟨.getCommitment id, some c⟩ →
    id ∈ pool.shared.issued ∧ c.sessionFelt = sessionFelt id
  removed : ∀ q id c, pool.Said q ⟨.removeCommitment id, some c⟩ →
    id ∈ pool.shared.issued ∧ c.sessionFelt = sessionFelt id ∧ pool.shared.commitments id = none
  taken : ∀ id q q' c c', pool.Said q ⟨.removeCommitment id, some c⟩ →
    pool.Said q' ⟨.removeCommitment id, some c'⟩ → q = q' ∧ c = c'
  recorded : ∀ id ∈ pool.shared.issued, (∃ c, pool.shared.commitments id = some c) ∨
    ∃ q c, pool.Said q ⟨.removeCommitment id, some c⟩
  sent : ∀ tx, Sent pool.shared.chain tx → ∃ q event, pool.Said q event ∧
    submitted event.request event.answer = some tx
  banks : ∀ a storage, pool.shared.chain.banks a = some storage →
    Paid backend.master (paymentsBy pool.shared.chain a) ⟨pool.shared.chain.token, storage⟩
  contracts : ∀ a storage, pool.shared.chain.banks a = some storage →
    a ∈ pool.shared.chain.contracts
  unpaid : ∀ a, pool.shared.chain.banks a = none → paymentsBy pool.shared.chain a = []

namespace Kept

variable {backend : Backend} {pool pool' : Pool backend.system} {move : ServerMove}

theorem fresh (h : Fresh backend pool) : Kept backend pool := by
  have hpayments (a : ContractAddress) : paymentsBy pool.shared.chain a = [] := by
    simp [paymentsBy, h.payments]
  refine ⟨?_, fun id hid => absurd hid (h.notMem_issued id),
    fun q id c hc => absurd hc (h.not_said _ _), fun q id c hc => absurd hc (h.not_said _ _),
    fun id q q' c c' hc => absurd hc (h.not_said _ _), fun id hid => absurd hid (h.notMem_issued id),
    ?_, ?_, fun a storage ha => (h.banks a storage ha).2, fun a _ => hpayments a⟩
  · intro id c hc
    rw [h.commitments id] at hc
    cases hc
  · intro tx htx
    rw [Sent, h.pending, h.executed] at htx
    exact (htx.elim List.not_mem_nil List.not_mem_nil).elim
  · intro a storage ha
    rw [hpayments, (h.banks a storage ha).1]
    exact Paid.deployed _ _

theorem owner (h : Kept backend pool) : ∀ a storage, pool.shared.chain.banks a = some storage →
    storage.owner = backend.master :=
  fun a storage ha => (h.banks a storage ha).ownerKept

/-- A game is at a contract that was deployed. -/
theorem mem_contracts (h : Kept backend pool) {a : ContractAddress} {felt : Felt}
    (hstate : (gameAt pool.shared.chain a felt).state ≠ stateEmpty) :
    a ∈ pool.shared.chain.contracts := by
  cases ha : pool.shared.chain.banks a with
  | none =>
      rw [gameAt, ha] at hstate
      exact absurd rfl hstate
  | some storage => exact h.contracts a storage ha

theorem issued_mono (hstep : pool.step move = .ok pool') {id : String}
    (hid : id ∈ pool.shared.issued) : id ∈ pool'.shared.issued := by
  rcases issued_of_step hstep with hsame | ⟨q, entry, id', -, -, -, hnew⟩
  · rwa [hsame]
  · rw [hnew]
    exact List.mem_cons_of_mem _ hid

theorem issues (h : Kept backend pool) {command : SncastCommand}
    (hsent : Sent pool.shared.chain (.sncast command)) :
    ∃ q before, Issues backend.config before command q ∧
      ∀ earlier ∈ before, pool.Said q earlier := by
  obtain ⟨q, ⟨request, answer⟩, hsaid, htx⟩ := h.sent _ hsent
  obtain ⟨before, hallowed, hbefore⟩ := hsaid.asked (handler_asks backend q)
  cases request with
  | sncast command' =>
      cases htx
      exact ⟨q, before, hallowed, hbefore⟩
  | post url payload =>
      simp only [submitted] at htx
      split at htx
      · cases htx
      · cases htx
  | _ => cases htx

theorem owner_of_deployed (h : Kept backend pool) {chain' : Chain} {a owner : ContractAddress}
    {classHash word salt : String}
    (hdeployed : BankDeployed backend pool.shared.chain chain' a classHash word salt owner) :
    owner = backend.master := by
  obtain ⟨q, before, hissues, -⟩ := h.issues (Or.inl hdeployed.pending)
  have hread := hdeployed.read
  rcases hissues.deploy with ⟨-, hnone⟩ | ⟨-, hword⟩
  · cases hnone
  · rw [Option.some.inj hword, backend.account] at hread
    exact (Option.some.inj hread).symm

section Step

variable (h : Kept backend pool) (hstep : pool.step move = .ok pool')

include h hstep

theorem step_entries (id : String) (c : BetCommitment)
    (hc : pool'.shared.commitments id = some c) :
    id ∈ pool'.shared.issued ∧ c.sessionFelt = sessionFelt id := by
  have hold (before : BetCommitment) (hbefore : pool.shared.commitments id = some before)
      (hfelt : c.sessionFelt = before.sessionFelt) :
      id ∈ pool'.shared.issued ∧ c.sessionFelt = sessionFelt id := by
    obtain ⟨hid, hsame⟩ := h.entries id before hbefore
    exact ⟨issued_mono hstep hid, hfelt.trans hsame⟩
  rcases origin_of_entry hstep hc with
    hsame | ⟨q, entry, hexchange, -, rfl⟩ | ⟨q, before, amount, -, hbefore, rfl⟩ |
      ⟨q, before, block, -, hbefore, rfl⟩
  · exact hold c hsame rfl
  · obtain ⟨offered, hserved⟩ := served_of_exchange hstep hexchange
    obtain ⟨said, ⟨req, rfl, rfl⟩, -⟩ := allowed_of_exchange hexchange
    simp only [serve] at hserved
    split at hserved
    · obtain ⟨hid, hshared⟩ := Prod.mk.inj (Option.some.inj hserved)
      rw [← hshared]
      exact ⟨List.mem_cons.mpr (Or.inl hid.symm), rfl⟩
    · cases hserved
  · exact hold before hbefore rfl
  · exact hold before hbefore rfl

theorem step_removed (q : Request) (id : String) (c : BetCommitment)
    (hsaid : pool'.Said q ⟨.removeCommitment id, some c⟩) :
    id ∈ pool'.shared.issued ∧ c.sessionFelt = sessionFelt id ∧
      pool'.shared.commitments id = none := by
  rcases (Pool.said_iff_of_step hstep).mp hsaid with hold | hnow
  · obtain ⟨hid, hfelt, hnone⟩ := h.removed q id c hold
    refine ⟨issued_mono hstep hid, hfelt, ?_⟩
    rcases entry_of_step hstep id with hsame | ⟨q', event, hexchange, hentry⟩
    · exact hsame.trans hnone
    · -- an id is not issued again
      rw [hnone] at hentry
      generalize pool'.shared.commitments id = after at hentry
      cases hentry with
      | insert entry before hid' hnew => exact absurd hid hnew
      | remove before => rfl
  · obtain ⟨offered, hserved⟩ := served_of_exchange hstep hnow
    have hanswer : pool.shared.commitments id = some c ∧
        pool.shared.removeCommitment id = pool'.shared := by
      simpa [serve] using hserved
    obtain ⟨hid, hfelt⟩ := h.entries id c hanswer.1
    refine ⟨issued_mono hstep hid, hfelt, ?_⟩
    rw [← hanswer.2]
    exact Function.update_self ..

theorem step_taken (id : String) (q q' : Request) (c c' : BetCommitment)
    (hsaid : pool'.Said q ⟨.removeCommitment id, some c⟩)
    (hsaid' : pool'.Said q' ⟨.removeCommitment id, some c'⟩) : q = q' ∧ c = c' := by
  rcases (Pool.said_iff_of_step hstep).mp hsaid with hold | hnow
  · rcases (Pool.said_iff_of_step hstep).mp hsaid' with hold' | hnow'
    · exact h.taken id q q' c c' hold hold'
    · cases (h.removed q id c hold).2.2.symm.trans (entry_of_removal hnow')
  · rcases (Pool.said_iff_of_step hstep).mp hsaid' with hold' | hnow'
    · cases (h.removed q' id c' hold').2.2.symm.trans (entry_of_removal hnow)
    · obtain ⟨hq, hevent⟩ := Prod.mk.inj (Option.some.inj (hnow.symm.trans hnow'))
      cases hevent
      exact ⟨hq, rfl⟩

theorem step_recorded (id : String) (hid : id ∈ pool'.shared.issued) :
    (∃ c, pool'.shared.commitments id = some c) ∨
      ∃ q c, pool'.Said q ⟨.removeCommitment id, some c⟩ := by
  have hold (hid : id ∈ pool.shared.issued) : (∃ c, pool'.shared.commitments id = some c) ∨
      ∃ q c, pool'.Said q ⟨.removeCommitment id, some c⟩ := by
    rcases h.recorded id hid with ⟨c, hc⟩ | ⟨q, c, hsaid⟩
    · rcases entry_of_step hstep id with hsame | ⟨q, event, hexchange, hentry⟩
      · exact Or.inl ⟨c, hsame.trans hc⟩
      · rw [hc] at hentry
        generalize pool'.shared.commitments id = after at hentry
        cases hentry with
        | insert entry before hid' hnew => exact Or.inl ⟨_, rfl⟩
        | remove before =>
            exact Or.inr ⟨q, c, (Pool.said_iff_of_step hstep).mpr (Or.inr hexchange)⟩
        | quote amount c => exact Or.inl ⟨_, rfl⟩
        | seed block c => exact Or.inl ⟨_, rfl⟩
    · exact Or.inr ⟨q, c, Pool.said_of_step hstep hsaid⟩
  rcases issued_of_step hstep with hsame | ⟨q, entry, id', hexchange, -, -, hnew⟩
  · exact hold (hsame ▸ hid)
  · rw [hnew] at hid
    rcases List.mem_cons.mp hid with rfl | hissued
    · obtain ⟨offered, hserved⟩ := served_of_exchange hstep hexchange
      simp only [serve] at hserved
      split at hserved
      · obtain ⟨hid, hshared⟩ := Prod.mk.inj (Option.some.inj hserved)
        rw [← hshared, ← hid]
        exact Or.inl ⟨_, Function.update_self ..⟩
      · cases hserved
    · exact hold hissued

theorem step_seen (q : Request) (id : String) (c : BetCommitment)
    (hsaid : pool'.Said q ⟨.getCommitment id, some c⟩) :
    id ∈ pool'.shared.issued ∧ c.sessionFelt = sessionFelt id := by
  have hfound : id ∈ pool.shared.issued ∧ c.sessionFelt = sessionFelt id := by
    rcases (Pool.said_iff_of_step hstep).mp hsaid with hold | hnow
    · exact h.seen q id c hold
    · obtain ⟨offered, hserved⟩ := served_of_exchange hstep hnow
      have hanswer : pool.shared.commitments id = some c ∧ pool.shared = pool'.shared := by
        simpa [serve] using hserved
      exact h.entries id c hanswer.1
  exact ⟨issued_mono hstep hfound.1, hfound.2⟩

theorem step_issued : ∀ id ∈ pool'.shared.issued, (uuidNumber id).isSome := by
  intro id hid
  rcases issued_of_step hstep with hsame | ⟨q, entry, id', -, huuid, -, hnew⟩
  · exact h.issued id (hsame ▸ hid)
  · rw [hnew] at hid
    rcases List.mem_cons.mp hid with rfl | hold
    · exact huuid
    · exact h.issued id hold

theorem step_sent (tx : MasterTx) (hsent : Sent pool'.shared.chain tx) :
    ∃ q event, pool'.Said q event ∧ submitted event.request event.answer = some tx := by
  rcases sent_of_step hstep hsent with hold | ⟨q, event, hexchange, htx⟩
  · obtain ⟨q, event, hsaid, htx⟩ := h.sent tx hold
    exact ⟨q, event, Pool.said_of_step hstep hsaid, htx⟩
  · exact ⟨q, event, (Pool.said_iff_of_step hstep).mpr (Or.inr hexchange), htx⟩

theorem step_banks (a : ContractAddress) (storage : Storage)
    (ha : pool'.shared.chain.banks a = some storage) :
    Paid backend.master (paymentsBy pool'.shared.chain a)
      ⟨pool'.shared.chain.token, storage⟩ := by
  rcases bank_of_step hstep with ⟨hbanks, -, hpayments⟩ |
    ⟨b, caller, call, storage', w, -, hcalled⟩ | ⟨b, classHash, word, salt, owner, hdeployed⟩
  · rw [hbanks] at ha
    rw [paymentsBy_of_eq hpayments]
    exact paid_withToken (h.banks a storage ha) _
  · rw [hcalled.banks] at ha
    rw [paymentsBy_of_called hcalled]
    rcases eq_or_ne a b with rfl | hne
    · rw [Function.update_self] at ha
      obtain rfl := Option.some.inj ha
      rw [if_pos rfl]
      have hcall : CoinFlipBank.step backend.api.pedersen a ⟨pool.shared.chain.token, storage'⟩
          (.bank caller call) = .ok w := hcalled.called
      exact paid_withToken ((h.banks a storage' hcalled.found).step hcall) _
    · rw [Function.update_of_ne hne] at ha
      rw [if_neg hne, List.append_nil]
      exact paid_withToken (h.banks a storage ha) _
  · rw [hdeployed.banks] at ha
    rw [paymentsBy_of_eq hdeployed.payments]
    rcases eq_or_ne a b with rfl | hne
    · rw [Function.update_self] at ha
      obtain rfl := Option.some.inj ha
      rw [h.unpaid a hdeployed.fresh, owner_of_deployed h hdeployed]
      exact Paid.deployed _ _
    · rw [Function.update_of_ne hne] at ha
      exact paid_withToken (h.banks a storage ha) _

theorem step_unpaid (a : ContractAddress) (ha : pool'.shared.chain.banks a = none) :
    paymentsBy pool'.shared.chain a = [] := by
  rcases bank_of_step hstep with ⟨hbanks, -, hpayments⟩ |
    ⟨b, caller, call, storage, w, -, hcalled⟩ | ⟨b, classHash, word, salt, owner, hdeployed⟩
  · rw [hbanks] at ha
    rw [paymentsBy_of_eq hpayments]
    exact h.unpaid a ha
  · rw [hcalled.banks] at ha
    rcases eq_or_ne a b with rfl | hne
    · rw [Function.update_self] at ha
      cases ha
    · rw [Function.update_of_ne hne] at ha
      rw [paymentsBy_of_called hcalled, if_neg hne, List.append_nil]
      exact h.unpaid a ha
  · rw [hdeployed.banks] at ha
    rw [paymentsBy_of_eq hdeployed.payments]
    rcases eq_or_ne a b with rfl | hne
    · rw [Function.update_self] at ha
      cases ha
    · rw [Function.update_of_ne hne] at ha
      exact h.unpaid a ha

theorem step_contracts (a : ContractAddress) (storage : Storage)
    (ha : pool'.shared.chain.banks a = some storage) : a ∈ pool'.shared.chain.contracts := by
  rcases bank_of_step hstep with ⟨hbanks, hcontracts, -⟩ |
    ⟨b, caller, call, storage', w, -, hcalled⟩ | ⟨b, classHash, word, salt, owner, hdeployed⟩
  · rw [hbanks] at ha
    exact hcontracts (h.contracts a storage ha)
  · rw [hcalled.banks] at ha
    rw [hcalled.contracts]
    rcases eq_or_ne a b with rfl | hne
    · exact h.contracts a storage' hcalled.found
    · rw [Function.update_of_ne hne] at ha
      exact h.contracts a storage ha
  · rw [hdeployed.banks] at ha
    rw [hdeployed.contracts]
    rcases eq_or_ne a b with rfl | hne
    · exact List.mem_cons_self
    · rw [Function.update_of_ne hne] at ha
      exact List.mem_cons_of_mem _ (h.contracts a storage ha)

theorem step : Kept backend pool' :=
  ⟨h.step_entries hstep, h.step_issued hstep, h.step_seen hstep, h.step_removed hstep,
    h.step_taken hstep, h.step_recorded hstep, h.step_sent hstep,
    h.step_banks hstep, h.step_contracts hstep, h.step_unpaid hstep⟩

end Step

theorem run (h : Fresh backend pool) (moves : List ServerMove) :
    Kept backend (after pool moves) :=
  run_keeps (fun _ _ _ _ hkept hstep => hkept.step hstep) (fresh h) fun _ _ => trivial

end Kept

/-! ### The last entry of a session -/

/-- The entry that an exchange takes out of the map. -/
def takenEntry (id : String) : Event Ask Answer → Option BetCommitment
  | ⟨.removeCommitment id', some c⟩ => if id' = id then some c else none
  | _ => none

/-- The entry in the map or, when a play has taken it, the one that it took. -/
def lastEntry {backend : Backend} (pool : Pool backend.system) (id : String) :
    Option BetCommitment :=
  (pool.shared.commitments id).or
    (pool.tasks.findSome? fun t => t.history.findSome? (takenEntry id))

variable {backend : Backend} {pool pool' : Pool backend.system} {move : ServerMove} {id : String}

theorem takenEntry_eq_some_iff {event : Event Ask Answer} {c : BetCommitment} :
    takenEntry id event = some c ↔ event = ⟨.removeCommitment id, some c⟩ := by
  constructor
  · intro h
    unfold takenEntry at h
    split at h
    · split at h
      · rename_i hid
        cases h
        rw [hid]
      · cases h
    · cases h
  · rintro rfl
    exact if_pos rfl

theorem lastEntry_eq_some_iff (h : Kept backend pool) {c : BetCommitment} :
    lastEntry pool id = some c ↔ pool.shared.commitments id = some c ∨
      ∃ q, pool.Said q ⟨.removeCommitment id, some c⟩ := by
  have htaken : (pool.tasks.findSome? fun t => t.history.findSome? (takenEntry id)) = some c ↔
      ∃ q, pool.Said q ⟨.removeCommitment id, some c⟩ := by
    constructor
    · intro hfind
      obtain ⟨t, ht, hfind⟩ := List.exists_of_findSome?_eq_some hfind
      obtain ⟨event, hevent, htake⟩ := List.exists_of_findSome?_eq_some hfind
      rw [takenEntry_eq_some_iff] at htake
      exact ⟨t.request, t, ht, rfl, htake ▸ hevent⟩
    · rintro ⟨q, t, ht, hq, hevent⟩
      cases hfind : pool.tasks.findSome? fun t => t.history.findSome? (takenEntry id) with
      | none =>
          have hnone := List.findSome?_eq_none_iff.mp (List.findSome?_eq_none_iff.mp hfind t ht)
          cases (hnone _ hevent).symm.trans (takenEntry_eq_some_iff.mpr rfl)
      | some c' =>
          obtain ⟨t', ht', hfind⟩ := List.exists_of_findSome?_eq_some hfind
          obtain ⟨event, hevent', htake⟩ := List.exists_of_findSome?_eq_some hfind
          rw [takenEntry_eq_some_iff] at htake
          exact congrArg some (h.taken id t'.request q c' c
            ⟨t', ht', rfl, htake ▸ hevent'⟩ ⟨t, ht, hq, hevent⟩).2
  rw [lastEntry, Option.or_eq_some_iff, htaken]
  constructor
  · exact fun hor => hor.imp_right And.right
  · rintro (hc | hsaid)
    · exact Or.inl hc
    · obtain ⟨q, hq⟩ := hsaid
      exact Or.inr ⟨(h.removed q id c hq).2.2, q, hq⟩

theorem exists_lastEntry (h : Kept backend pool) (hid : id ∈ pool.shared.issued) :
    ∃ c, lastEntry pool id = some c := by
  rcases h.recorded id hid with ⟨c, hc⟩ | ⟨q, c, hsaid⟩
  · exact ⟨c, (lastEntry_eq_some_iff h).mpr (Or.inl hc)⟩
  · exact ⟨c, (lastEntry_eq_some_iff h).mpr (Or.inr ⟨q, hsaid⟩)⟩

/-- Taking an entry out does not change what it was last. -/
theorem lastEntry_of_step (h : Kept backend pool) (hstep : pool.step move = .ok pool')
    (id : String) : lastEntry pool' id = lastEntry pool id ∨
      ∃ q event, pool.exchange move = some (q, event) ∧ (lastEntry pool' id).isSome ∧
        EntryStep pool.shared.issued id event (lastEntry pool id) (lastEntry pool' id) := by
  have hiff {c : BetCommitment} : lastEntry pool id = some c ↔ _ := lastEntry_eq_some_iff h
  have hiff' {c : BetCommitment} : lastEntry pool' id = some c ↔ _ :=
    lastEntry_eq_some_iff (h.step hstep)
  rcases entry_of_step hstep id with hsame | ⟨q, event, hexchange, hentry⟩
  · left
    apply Option.ext
    intro c
    rw [hiff, hiff', hsame]
    constructor
    · rintro (hc | ⟨q, hsaid⟩)
      · exact Or.inl hc
      · rcases (Pool.said_iff_of_step hstep).mp hsaid with hold | hnow
        · exact Or.inr ⟨q, hold⟩
        · exact Or.inl (entry_of_removal hnow)
    · rintro (hc | ⟨q, hsaid⟩)
      · exact Or.inl hc
      · exact Or.inr ⟨q, Pool.said_of_step hstep hsaid⟩
  · generalize hbefore : pool.shared.commitments id = before at hentry
    generalize hafter : pool'.shared.commitments id = after at hentry
    cases hentry with
    | insert entry before hid hnew =>
        have hlast := hiff'.mpr (Or.inl hafter)
        refine Or.inr ⟨q, _, hexchange, by rw [hlast]; rfl, ?_⟩
        rw [hlast]
        exact .insert entry _ hid hnew
    | remove before =>
        left
        apply Option.ext
        intro c
        rw [hiff, hiff', hafter, hbefore]
        constructor
        · rintro (hc | ⟨q', hsaid⟩)
          · cases hc
          · rcases (Pool.said_iff_of_step hstep).mp hsaid with hold | hnow
            · exact Or.inr ⟨q', hold⟩
            · exact Or.inl (hbefore.symm.trans (entry_of_removal hnow))
        · rintro (rfl | ⟨q', hsaid⟩)
          · exact Or.inr ⟨q, (Pool.said_iff_of_step hstep).mpr (Or.inr hexchange)⟩
          · exact Or.inr ⟨q', Pool.said_of_step hstep hsaid⟩
    | quote amount c =>
        have hlast := hiff'.mpr (Or.inl hafter)
        refine Or.inr ⟨q, _, hexchange, by rw [hlast]; rfl, ?_⟩
        rw [hlast, hiff.mpr (Or.inl hbefore)]
        exact .quote amount c
    | seed block c =>
        have hlast := hiff'.mpr (Or.inl hafter)
        refine Or.inr ⟨q, _, hexchange, by rw [hlast]; rfl, ?_⟩
        rw [hlast, hiff.mpr (Or.inl hbefore)]
        exact .seed block c

end Snip36.ServerInvariant
