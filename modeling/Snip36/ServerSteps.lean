import Snip36.HandlerAsks

/-!
What one move does: to the entry of a session, to the transactions of the master
account, and to the game of a session at a bank.
-/

namespace Snip36.ServerSteps

open BankAccounting
open BankLifecycle
open CoinFlipBank
open CoinFlipRoutes
open CoinFlipServer
open CoinFlipState
open Library.Interaction
open Library.Interleaving

/-! ### Sessions -/

/-- How an exchange changes the entry of a session. -/
inductive EntryStep (issued : List String) (id : String) :
    Event Ask Answer → Option BetCommitment → Option BetCommitment → Prop
  | insert (entry : String → BetCommitment) (before : Option BetCommitment)
      (hid : (uuidNumber id).isSome) (hnew : id ∉ issued) :
      EntryStep issued id ⟨.insertSession entry, id⟩ before (some (entry id))
  | remove (before : Option BetCommitment) :
      EntryStep issued id ⟨.removeCommitment id, before⟩ before none
  | quote (amount : String) (c : BetCommitment) :
      EntryStep issued id ⟨.setBetAmount id amount, ()⟩ (some c)
        (some { c with betAmount := some amount })
  | seed (block : Nat) (c : BetCommitment) :
      EntryStep issued id ⟨.setSeedBlock id block, ()⟩ (some c)
        (some { c with seedBlock := block })

section Serve

variable {shared shared' : Shared} {request : Ask} {offered answer : Answer request}

/-- The transaction that a request hands over for the chain. -/
def submitted : (request : Ask) → Answer request → Option MasterTx
  | .sncast command, _ => some (.sncast command)
  | .post _ payload, reply => if mayBeTaken reply then some (.proofBearing payload) else none
  | _, _ => none

/-- What a request does to the state of the server. -/
inductive ServeStep (shared : Shared) : Event Ask Answer → Shared → Prop
  | inserted (entry : String → BetCommitment) (id : String) (hid : (uuidNumber id).isSome)
      (hnew : id ∉ shared.issued) :
      ServeStep shared ⟨.insertSession entry, id⟩ (shared.insertCommitment id (entry id))
  | removed (id : String) :
      ServeStep shared ⟨.removeCommitment id, shared.commitments id⟩ (shared.removeCommitment id)
  | quoted (id amount : String) :
      ServeStep shared ⟨.setBetAmount id amount, ()⟩
        (shared.updateCommitment id fun c => { c with betAmount := some amount })
  | seeded (id : String) (block : Nat) :
      ServeStep shared ⟨.setSeedBlock id block, ()⟩
        (shared.updateCommitment id fun c => { c with seedBlock := block })
  | deployed (contract : Contract) (d : Deployment) :
      ServeStep shared ⟨.writeDeployment contract d, ()⟩ (shared.writeDeployment d contract)
  | handedOver (request : Ask) (answer : Answer request) (readers : Contract → Nat)
      (file : PersistedDeployments) :
      ServeStep shared ⟨request, answer⟩
        { shared with
          readers := readers
          sncastLocked := (sncastUse request).next shared.sncastLocked
          file := file
          chain := { shared.chain with
            pending := shared.chain.pending ++ (submitted request answer).toList } }

/-- A cell is written when nobody holds it. -/
theorem serve_writeDeployment_eq_some_iff {contract : Contract} {d : Deployment}
    {offered answer : Answer (.writeDeployment contract d)} :
    serve shared (.writeDeployment contract d) offered = some (answer, shared') ↔
      shared.readers contract = 0 ∧ shared.writeDeployment d contract = shared' := by
  simp [serve]

theorem serve_cases (h : serve shared request offered = some (answer, shared')) :
    ServeStep shared ⟨request, answer⟩ shared' := by
  have hquiet (readers : Contract → Nat) (file : PersistedDeployments)
      (hnone : submitted request answer = none) :
      ServeStep shared ⟨request, answer⟩ { shared with
        readers := readers
        sncastLocked := (sncastUse request).next shared.sncastLocked
        file := file } := by
    have hstep : ServeStep shared _ _ := .handedOver request answer readers file
    rwa [hnone, Option.toList_none, List.append_nil] at hstep
  cases request with
  | insertSession entry =>
      simp only [serve] at h
      split at h
      · rename_i hnew
        cases h
        exact .inserted entry offered hnew.1 hnew.2
      · cases h
  | removeCommitment id =>
      cases h
      exact .removed id
  | setBetAmount id amount =>
      cases h
      exact .quoted id amount
  | setSeedBlock id block =>
      cases h
      exact .seeded id block
  | writeDeployment contract d =>
      obtain ⟨-, rfl⟩ := serve_writeDeployment_eq_some_iff.mp h
      exact .deployed contract d
  | holdDeployment contract =>
      cases h
      exact hquiet (shared.holdDeployment contract).readers shared.file rfl
  | dropDeployments =>
      cases h
      exact hquiet shared.dropDeployments.readers shared.file rfl
  | lockSncast =>
      simp only [serve] at h
      split at h
      · cases h
      · cases h
        exact hquiet shared.readers shared.file rfl
  | sncast command =>
      cases h
      exact .handedOver _ _ _ _
  | post url payload =>
      cases h
      have hstep : ServeStep shared _ _ :=
        .handedOver (.post url payload) offered shared.readers shared.file
      simp only [submitted] at hstep
      split
      · rename_i htaken
        rwa [if_pos htaken] at hstep
      · rename_i htaken
        exact hquiet shared.readers shared.file (if_neg htaken)
  | unlockSncast =>
      cases h
      exact hquiet shared.readers shared.file rfl
  | writeDeploymentsFile persisted =>
      cases h
      exact hquiet shared.readers persisted rfl
  | _ =>
      cases h
      exact hquiet shared.readers shared.file rfl

theorem entry_of_update {event : Event Ask Answer} {id id' : String}
    {f : BetCommitment → BetCommitment}
    (hevent : ∀ c, EntryStep shared.issued id' event (some c) (some (f c))) :
    (shared.updateCommitment id' f).commitments id = shared.commitments id ∨
      EntryStep shared.issued id event (shared.commitments id)
        ((shared.updateCommitment id' f).commitments id) := by
  rcases eq_or_ne id id' with rfl | hid
  · simp only [Shared.updateCommitment, Function.update_self]
    cases shared.commitments id with
    | none => exact Or.inl rfl
    | some c => exact Or.inr (hevent c)
  · exact Or.inl (Function.update_of_ne hid _ _)

theorem entry_of_serve (h : serve shared request offered = some (answer, shared')) (id : String) :
    shared'.commitments id = shared.commitments id ∨
      EntryStep shared.issued id ⟨request, answer⟩ (shared.commitments id)
        (shared'.commitments id) := by
  cases serve_cases h with
  | inserted entry id' hid hnew =>
      rcases eq_or_ne id id' with rfl | hne
      · simp only [Shared.insertCommitment, Function.update_self]
        exact Or.inr (.insert entry _ hid hnew)
      · exact Or.inl (Function.update_of_ne hne _ _)
  | removed id' =>
      rcases eq_or_ne id id' with rfl | hne
      · simp only [Shared.removeCommitment, Function.update_self]
        exact Or.inr (.remove _)
      · exact Or.inl (Function.update_of_ne hne _ _)
  | quoted id' amount => exact entry_of_update fun c => .quote amount c
  | seeded id' block => exact entry_of_update fun c => .seed block c
  | deployed contract d => cases contract <;> exact Or.inl rfl
  | handedOver => exact Or.inl rfl

theorem issued_of_serve (h : serve shared request offered = some (answer, shared')) :
    shared'.issued = shared.issued ∨ ∃ entry id,
      (⟨request, answer⟩ : Event Ask Answer) = ⟨.insertSession entry, id⟩ ∧
        (uuidNumber id).isSome ∧ id ∉ shared.issued ∧ shared'.issued = id :: shared.issued := by
  cases serve_cases h with
  | inserted entry id hid hnew => exact Or.inr ⟨entry, id, rfl, hid, hnew, rfl⟩
  | deployed contract d => cases contract <;> exact Or.inl rfl
  | _ => exact Or.inl rfl

theorem deployment_of_serve (h : serve shared request offered = some (answer, shared'))
    (contract : Contract) : shared'.deployment contract = shared.deployment contract ∨
      ∃ d, (⟨request, answer⟩ : Event Ask Answer) = ⟨.writeDeployment contract d, ()⟩ ∧
        shared'.deployment contract = some d := by
  cases serve_cases h with
  | deployed contract' d =>
      rcases eq_or_ne contract contract' with rfl | hne
      · exact Or.inr ⟨d, rfl, by cases contract <;> rfl⟩
      · left
        cases contract <;> cases contract' <;> first | rfl | exact absurd rfl hne
  | _ => cases contract <;> exact Or.inl rfl

/-- The chain is given what is submitted, and nothing else is done to it. -/
theorem chain_of_serve (h : serve shared request offered = some (answer, shared')) :
    shared'.chain = { shared.chain with
      pending := shared.chain.pending ++ (submitted request answer).toList } := by
  have hnone : ({ shared.chain with
      pending := shared.chain.pending ++ (none : Option MasterTx).toList } : Chain) =
      shared.chain := by simp
  cases serve_cases h with
  | deployed contract d => cases contract <;> exact hnone.symm
  | handedOver => rfl
  | _ => exact hnone.symm

end Serve

variable {backend : Backend} {pool pool' : Pool backend.system} {move : ServerMove}

section Outside

variable {shared shared' : Shared}

theorem outside_callBank_eq_some_iff {bank caller : ContractAddress} {call : BankCall} :
    backend.outside shared (.callBank bank caller call) = some shared' ↔
      caller ≠ backend.master ∧ { shared with
        chain := shared.chain.callBank backend.api.pedersen bank caller call } = shared' := by
  rw [Backend.outside, Option.ite_none_left_eq_some, Option.some.injEq]

theorem outside_callToken_eq_some_iff {caller : ContractAddress}
    {call : Library.Erc20.Call ContractAddress 256} :
    backend.outside shared (.callToken caller call) = some shared' ↔
      caller ≠ backend.master ∧
        { shared with chain := shared.chain.callToken caller call } = shared' := by
  rw [Backend.outside, Option.ite_none_left_eq_some, Option.some.injEq]

theorem shared_of_outside {env : Env} (h : backend.outside shared env = some shared') :
    ∃ chain, shared' = { shared with chain } := by
  cases env with
  | callBank bank caller call =>
      obtain ⟨-, rfl⟩ := outside_callBank_eq_some_iff.mp h
      exact ⟨_, rfl⟩
  | callToken caller call =>
      obtain ⟨-, rfl⟩ := outside_callToken_eq_some_iff.mp h
      exact ⟨_, rfl⟩
  | execute k address =>
      obtain ⟨chain, -, rfl⟩ := Option.map_eq_some_iff.mp h
      exact ⟨chain, rfl⟩
  | closeBlock =>
      cases h
      exact ⟨_, rfl⟩

end Outside

/-- A move serves one request of a handler, or it leaves all but the chain alone. -/
theorem served_or_chain_of_step (h : pool.step move = .ok pool') :
    (∃ chain, pool'.shared = { pool.shared with chain := chain }) ∨
      ∃ q request, ∃ answer : Answer request, ∃ offered,
        pool.exchange move = some (q, ⟨request, answer⟩) ∧
          serve pool.shared request offered = some (answer, pool'.shared) := by
  cases move with
  | arrive request =>
      obtain rfl := Pool.arrive_eq_ok_iff.mp h
      exact Or.inl ⟨pool.shared.chain, rfl⟩
  | advance i answers =>
      obtain ⟨t, t', request, answer, hadvance⟩ := Pool.advances_of_step h
      exact Or.inr ⟨t.request, request, answer, _, hadvance.exchange, hadvance.served⟩
  | outside env =>
      obtain ⟨shared, houtside, rfl⟩ := Pool.outside_eq_ok_iff.mp h
      exact Or.inl (shared_of_outside houtside)

theorem deployment_of_step (h : pool.step move = .ok pool') (contract : Contract) :
    pool'.shared.deployment contract = pool.shared.deployment contract ∨
      ∃ q d, pool.exchange move = some (q, ⟨.writeDeployment contract d, ()⟩) ∧
        pool'.shared.deployment contract = some d := by
  rcases served_or_chain_of_step h with
    ⟨chain, hshared⟩ | ⟨q, request, answer, _, hexchange, hserved⟩
  · rw [hshared]
    cases contract <;> exact Or.inl rfl
  · rcases deployment_of_serve hserved contract with hsame | ⟨d, hevent, hd⟩
    · exact Or.inl hsame
    · exact Or.inr ⟨q, d, by rw [hexchange, hevent], hd⟩

theorem entry_of_step (h : pool.step move = .ok pool') (id : String) :
    pool'.shared.commitments id = pool.shared.commitments id ∨
      ∃ q event, pool.exchange move = some (q, event) ∧
        EntryStep pool.shared.issued id event (pool.shared.commitments id)
          (pool'.shared.commitments id) := by
  rcases served_or_chain_of_step h with
    ⟨chain, hshared⟩ | ⟨q, request, answer, _, hexchange, hserved⟩
  · exact Or.inl (by rw [hshared])
  · exact (entry_of_serve hserved id).imp_right fun hstep => ⟨q, _, hexchange, hstep⟩

/-- An entry after a step was there before, or it is new, quoted or seeded. -/
theorem origin_of_entry (h : pool.step move = .ok pool') {id : String} {c : BetCommitment}
    (hc : pool'.shared.commitments id = some c) :
    pool.shared.commitments id = some c ∨
      (∃ q entry, pool.exchange move = some (q, ⟨.insertSession entry, id⟩) ∧
        id ∉ pool.shared.issued ∧ c = entry id) ∨
      (∃ q before amount, pool.exchange move = some (q, ⟨.setBetAmount id amount, ()⟩) ∧
        pool.shared.commitments id = some before ∧
        c = { before with betAmount := some amount }) ∨
      ∃ q before block, pool.exchange move = some (q, ⟨.setSeedBlock id block, ()⟩) ∧
        pool.shared.commitments id = some before ∧ c = { before with seedBlock := block } := by
  rcases entry_of_step h id with hsame | ⟨q, event, hexchange, hentry⟩
  · exact Or.inl (hsame ▸ hc)
  · right
    rw [hc] at hentry
    generalize hbefore : pool.shared.commitments id = before at hentry
    cases hentry with
    | insert entry before hid hnew => exact Or.inl ⟨q, entry, hexchange, hnew, rfl⟩
    | quote amount before => exact Or.inr (Or.inl ⟨q, before, amount, hexchange, rfl, rfl⟩)
    | seed block before => exact Or.inr (Or.inr ⟨q, before, block, hexchange, rfl, rfl⟩)

theorem issued_of_step (h : pool.step move = .ok pool') :
    pool'.shared.issued = pool.shared.issued ∨ ∃ q entry id,
      pool.exchange move = some (q, ⟨.insertSession entry, id⟩) ∧ (uuidNumber id).isSome ∧
        id ∉ pool.shared.issued ∧ pool'.shared.issued = id :: pool.shared.issued := by
  rcases served_or_chain_of_step h with
    ⟨chain, hshared⟩ | ⟨q, request, answer, _, hexchange, hserved⟩
  · exact Or.inl (by rw [hshared])
  · rcases issued_of_serve hserved with hsame | ⟨entry, id, hevent, hnew⟩
    · exact Or.inl hsame
    · exact Or.inr ⟨q, entry, id, by rw [hexchange, hevent], hnew⟩

theorem served_of_exchange (h : pool.step move = .ok pool') {q : Request}
    {event : Event Ask Answer} (hexchange : pool.exchange move = some (q, event)) :
    ∃ offered, serve pool.shared event.request offered = some (event.answer, pool'.shared) := by
  obtain ⟨pool'', i, answers, t, t', rfl, -, hstep, hadvance⟩ := Pool.advances_of_exchange hexchange
  obtain rfl : pool'' = pool' := Except.ok.inj (hstep.symm.trans h)
  exact ⟨_, hadvance.served⟩

/-- A play takes what is in the map. -/
theorem entry_of_removal {q : Request} {id : String} {entry : Option BetCommitment}
    (hexchange : pool.exchange move = some (q, ⟨.removeCommitment id, entry⟩)) :
    pool.shared.commitments id = entry := by
  obtain ⟨pool', i, answers, t, t', -, -, hstep, -⟩ := Pool.advances_of_exchange hexchange
  obtain ⟨offered, hserved⟩ := served_of_exchange hstep hexchange
  exact (Prod.mk.inj (Option.some.inj hserved)).1

theorem allowed_of_exchange {q : Request} {event : Event Ask Answer}
    (hexchange : pool.exchange move = some (q, event)) :
    ∃ before, HandlerAsks.Allowed backend.config q before event.request ∧
      ∀ earlier ∈ before, pool.Said q earlier :=
  Pool.asked_of_exchange hexchange (HandlerAsks.handler_asks backend q)

/-! ### Transactions -/

/-- Handed over for the chain, included or not. -/
def Sent (chain : Chain) (tx : MasterTx) : Prop :=
  tx ∈ chain.pending ∨ tx ∈ chain.executed.map Prod.snd

/-- An inclusion: one transaction is no longer pending, and is now executed. -/
structure Included (chain chain' : Chain) (k : Nat) (tx : MasterTx) : Prop where
  found : chain.pending[k]? = some tx
  pending : chain'.pending = chain.pending.eraseIdx k
  executed : chain'.executed = chain.executed ++ [(chain.height + 1, tx)]
  height : chain'.height = chain.height
  firstNonce : chain'.firstNonce = chain.firstNonce

section Chain

variable {chain chain' : Chain}

theorem callBank_cases (pedersen : Felt → Felt → Felt) (chain : Chain)
    (bank caller : ContractAddress) (call : BankCall) :
    chain.callBank pedersen bank caller call = chain ∨
      ∃ storage w, chain.banks bank = some storage ∧
        CoinFlipBank.callBank pedersen bank caller ⟨chain.token, storage⟩ call = .ok w ∧
        chain.callBank pedersen bank caller call = { chain with
          token := w.token
          banks := Function.update chain.banks bank (some w.bank)
          payments := chain.payments ++
            (BankLifecycle.payments pedersen ⟨chain.token, storage⟩ (.bank caller call)).map
              (BankPayment.mk bank call) } := by
  unfold Chain.callBank
  split
  · exact Or.inl rfl
  · rename_i storage hstorage
    split
    · exact Or.inl rfl
    · rename_i w hcall
      exact Or.inr ⟨storage, w, hstorage, hcall, rfl⟩

theorem callToken_cases (chain : Chain) (caller : ContractAddress)
    (call : Library.Erc20.Call ContractAddress 256) :
    ∃ token, chain.callToken caller call = { chain with token } := by
  unfold Chain.callToken
  split
  · exact ⟨chain.token, rfl⟩
  · rename_i token _
    exact ⟨token, rfl⟩

variable (backend)

def invokedBank : MasterTx → Option (ContractAddress × BankCall)
  | .sncast (.invoke contractAddress function calldata) => do
      let contract ← readAddress backend.api contractAddress
      let args ← readWords backend.api calldata
      if contract = backend.strk then none
      else do
        let call ← bankCallOf function args
        some (contract, call)
  | _ => none

variable {backend} in
theorem invokedBank_eq_some_iff {contractAddress function : String} {calldata : List String}
    {a : ContractAddress} {call : BankCall} :
    invokedBank backend (.sncast (.invoke contractAddress function calldata)) = some (a, call) ↔
      readAddress backend.api contractAddress = some a ∧ a ≠ backend.strk ∧
        ∃ args, readWords backend.api calldata = some args ∧
          bankCallOf function args = some call := by
  simp only [invokedBank, Option.bind_eq_bind, Option.bind_eq_some_iff]
  constructor
  · rintro ⟨contract, hcontract, args, hargs, h⟩
    split at h
    · cases h
    · rename_i hstrk
      obtain ⟨call', hcall, heq⟩ := Option.bind_eq_some_iff.mp h
      cases heq
      exact ⟨hcontract, hstrk, args, hargs, hcall⟩
  · rintro ⟨hcontract, hstrk, args, hargs, hcall⟩
    exact ⟨a, hcontract, args, hargs, by rw [if_neg hstrk, hcall, Option.bind_some]⟩

variable {backend} in
theorem invoke_of_invokedBank {contractAddress function : String} {calldata : List String}
    {a : ContractAddress} {call : BankCall}
    (h : invokedBank backend (.sncast (.invoke contractAddress function calldata)) =
      some (a, call)) (chain : Chain) :
    backend.invoke chain contractAddress function calldata =
      chain.callBank backend.api.pedersen a backend.master call := by
  obtain ⟨hcontract, hstrk, args, hargs, hcall⟩ := invokedBank_eq_some_iff.mp h
  simp only [Backend.invoke, hcontract, hargs, hcall, if_neg hstrk]

theorem invoke_cases (chain : Chain) (contractAddress function : String) (calldata : List String) :
    (∃ a call, invokedBank backend (.sncast (.invoke contractAddress function calldata)) =
        some (a, call) ∧
      backend.invoke chain contractAddress function calldata =
        chain.callBank backend.api.pedersen a backend.master call) ∨
    ∃ token, backend.invoke chain contractAddress function calldata = { chain with token } := by
  unfold Backend.invoke
  split
  · rename_i contract args hcontract hargs
    split
    · rename_i hstrk
      cases htoken : tokenCallOf function args with
      | none => exact Or.inr ⟨chain.token, rfl⟩
      | some call => exact Or.inr (callToken_cases chain backend.master call)
    · rename_i hstrk
      cases hbank : bankCallOf function args with
      | none => exact Or.inr ⟨chain.token, rfl⟩
      | some call =>
          exact Or.inl ⟨contract, call, by simp [invokedBank, hcontract, hargs, hstrk, hbank], rfl⟩
  · exact Or.inr ⟨chain.token, rfl⟩

variable {backend}

/-- Two chains differ in nothing but tokens, payments and what the banks store. -/
structure SameQueues (chain chain' : Chain) : Prop where
  height : chain.height = chain'.height
  contracts : chain.contracts = chain'.contracts
  pending : chain.pending = chain'.pending
  executed : chain.executed = chain'.executed
  firstNonce : chain.firstNonce = chain'.firstNonce
  banks : ∀ a, (chain.banks a).isSome = (chain'.banks a).isSome

namespace SameQueues

variable {backend : Backend} {chain chain' chain'' : Chain}

theorem refl (chain : Chain) : SameQueues chain chain :=
  ⟨rfl, rfl, rfl, rfl, rfl, fun _ => rfl⟩

theorem symm (h : SameQueues chain chain') : SameQueues chain' chain :=
  ⟨h.height.symm, h.contracts.symm, h.pending.symm, h.executed.symm, h.firstNonce.symm,
    fun a => (h.banks a).symm⟩

theorem trans (h : SameQueues chain chain') (h' : SameQueues chain' chain'') :
    SameQueues chain chain'' :=
  ⟨h.height.trans h'.height, h.contracts.trans h'.contracts, h.pending.trans h'.pending,
    h.executed.trans h'.executed, h.firstNonce.trans h'.firstNonce,
    fun a => (h.banks a).trans (h'.banks a)⟩

theorem callBank (pedersen : Felt → Felt → Felt) (chain : Chain) (a caller : ContractAddress)
    (call : BankCall) : SameQueues chain (chain.callBank pedersen a caller call) := by
  rcases callBank_cases pedersen chain a caller call with hsame | ⟨storage, w, hfound, -, heq⟩
  · rw [hsame]
    exact refl chain
  · rw [heq]
    refine ⟨rfl, rfl, rfl, rfl, rfl, fun b => ?_⟩
    rcases eq_or_ne b a with rfl | hne
    · simp [hfound]
    · simp [Function.update_of_ne hne]

theorem callToken (chain : Chain) (caller : ContractAddress)
    (call : Library.Erc20.Call ContractAddress 256) :
    SameQueues chain (chain.callToken caller call) := by
  obtain ⟨token, heq⟩ := callToken_cases chain caller call
  rw [heq]
  exact ⟨rfl, rfl, rfl, rfl, rfl, fun _ => rfl⟩

theorem invoke (chain : Chain) (contractAddress function : String) (calldata : List String) :
    SameQueues chain (backend.invoke chain contractAddress function calldata) := by
  rcases invoke_cases backend chain contractAddress function calldata with
    ⟨a, call, -, heq⟩ | ⟨token, heq⟩
  · rw [heq]
    exact callBank _ chain a backend.master call
  · rw [heq]
    exact ⟨rfl, rfl, rfl, rfl, rfl, fun _ => rfl⟩

end SameQueues

/-- The chain with its `k`-th pending transaction included. -/
def withIncluded (chain : Chain) (k : Nat) (tx : MasterTx) : Chain :=
  { chain with
    pending := chain.pending.eraseIdx k
    executed := chain.executed ++ [(chain.height + 1, tx)] }

/-- What an included transaction does. -/
inductive Execution (backend : Backend) (chain : Chain) (k : Nat) (address : ContractAddress) :
    MasterTx → Chain → Prop
  | proofBearing (payload : Json) :
      Execution backend chain k address (.proofBearing payload)
        (withIncluded chain k (.proofBearing payload))
  | declare (name : String) :
      Execution backend chain k address (.sncast (.declare name))
        (withIncluded chain k (.sncast (.declare name)))
  | deploy (classHash : String) (constructorCalldata : Option String) (salt : String)
      (hcontracts : address ∉ chain.contracts) (hbanks : chain.banks address = none) :
      Execution backend chain k address (.sncast (.deploy classHash constructorCalldata salt))
        (backend.deploy
          (withIncluded chain k (.sncast (.deploy classHash constructorCalldata salt))) address
          constructorCalldata)
  | invoke (contractAddress function : String) (calldata : List String) :
      Execution backend chain k address (.sncast (.invoke contractAddress function calldata))
        (backend.invoke
          (withIncluded chain k (.sncast (.invoke contractAddress function calldata)))
          contractAddress function calldata)

theorem execution_of_execute {k : Nat} {address : ContractAddress}
    (h : backend.execute chain k address = some chain') :
    ∃ tx, chain.pending[k]? = some tx ∧ Execution backend chain k address tx chain' := by
  unfold Backend.execute at h
  cases htx : chain.pending[k]? with
  | none =>
      rw [htx] at h
      cases h
  | some tx =>
      rw [htx] at h
      refine ⟨tx, rfl, ?_⟩
      cases tx with
      | proofBearing payload =>
          cases h
          exact .proofBearing payload
      | sncast command =>
          cases command with
          | declare name =>
              cases h
              exact .declare name
          | deploy classHash constructorCalldata salt =>
              simp only at h
              split at h
              · cases h
              · rename_i hfresh
                cases h
                rw [not_or, Option.not_isSome_iff_eq_none] at hfresh
                exact .deploy classHash constructorCalldata salt hfresh.1 hfresh.2
          | invoke contractAddress function calldata =>
              cases h
              exact .invoke contractAddress function calldata

theorem included_of_execute {k : Nat} {address : ContractAddress}
    (h : backend.execute chain k address = some chain') :
    ∃ tx, Included chain chain' k tx := by
  obtain ⟨tx, htx, hexecution⟩ := execution_of_execute h
  refine ⟨tx, ?_⟩
  cases hexecution with
  | proofBearing payload => exact ⟨htx, rfl, rfl, rfl, rfl⟩
  | declare name => exact ⟨htx, rfl, rfl, rfl, rfl⟩
  | deploy classHash constructorCalldata salt => exact ⟨htx, rfl, rfl, rfl, rfl⟩
  | invoke contractAddress function calldata =>
      have hqueues (tx : MasterTx) : SameQueues (withIncluded chain k tx)
          (backend.invoke (withIncluded chain k tx) contractAddress function calldata) :=
        .invoke _ contractAddress function calldata
      obtain ⟨hheight, -, hpending, hexecuted, hfirst, -⟩ :=
        hqueues (.sncast (.invoke contractAddress function calldata))
      exact ⟨htx, hpending.symm, hexecuted.symm, hheight.symm, hfirst.symm⟩

/-- A transaction is included in both chains or in neither. -/
theorem SameQueues.execute (h : SameQueues chain chain') (k : Nat) (address : ContractAddress) :
    (backend.execute chain k address = none ∧ backend.execute chain' k address = none) ∨
      ∃ c c', backend.execute chain k address = some c ∧
        backend.execute chain' k address = some c' ∧ SameQueues c c' := by
  unfold Backend.execute
  rw [← h.pending]
  cases chain.pending[k]? with
  | none => exact Or.inl ⟨rfl, rfl⟩
  | some tx =>
      have hincluded : SameQueues
          { chain with
            pending := chain.pending.eraseIdx k
            executed := chain.executed ++ [(chain.height + 1, tx)] }
          { chain' with
            pending := chain.pending.eraseIdx k
            executed := chain'.executed ++ [(chain'.height + 1, tx)] } :=
        ⟨h.height, h.contracts, rfl, by rw [h.executed, h.height], h.firstNonce, h.banks⟩
      cases tx with
      | proofBearing payload => exact Or.inr ⟨_, _, rfl, rfl, hincluded⟩
      | sncast command =>
          cases command with
          | declare name => exact Or.inr ⟨_, _, rfl, rfl, hincluded⟩
          | deploy classHash constructorCalldata salt =>
              simp only [← h.contracts, ← h.banks address]
              split
              · exact Or.inl ⟨rfl, rfl⟩
              · refine Or.inr ⟨_, _, rfl, rfl, h.height, ?_, rfl, hincluded.executed,
                  h.firstNonce, fun a => ?_⟩
                · simp only [Backend.deploy, h.contracts]
                · simp only [Backend.deploy]
                  cases constructorCalldata.bind (readAddress backend.api) with
                  | none => exact h.banks a
                  | some owner =>
                      rcases eq_or_ne a address with rfl | hne
                      · simp
                      · simpa [Function.update_of_ne hne] using h.banks a
          | invoke contractAddress function calldata =>
              exact Or.inr ⟨_, _, rfl, rfl,
                ((invoke _ contractAddress function calldata).symm.trans hincluded).trans
                  (invoke _ contractAddress function calldata)⟩

end Chain

/-- What a move is to the transactions of the master account. -/
inductive TxChange (pool : Pool backend.system) (move : ServerMove) (chain' : Chain) : Prop
  | submitted {q : Request} {event : Event Ask Answer}
      (hexchange : pool.exchange move = some (q, event))
      (hchain : chain' = { pool.shared.chain with
        pending := pool.shared.chain.pending ++ (submitted event.request event.answer).toList })
  | included {k : Nat} {address : ContractAddress} {tx : MasterTx}
      (hmove : move = .outside (.execute k address))
      (hincluded : Included pool.shared.chain chain' k tx)
  | none (hexchange : pool.exchange move = none)
      (hpending : chain'.pending = pool.shared.chain.pending)
      (hexecuted : chain'.executed = pool.shared.chain.executed)
      (hfirst : chain'.firstNonce = pool.shared.chain.firstNonce)
      (hheight : pool.shared.chain.height ≤ chain'.height)

theorem transactions_of_step (h : pool.step move = .ok pool') :
    TxChange pool move pool'.shared.chain := by
  cases move with
  | arrive request =>
      obtain rfl := Pool.arrive_eq_ok_iff.mp h
      exact .none rfl rfl rfl rfl le_rfl
  | advance i answers =>
      obtain ⟨t, t', request, answer, hadvance⟩ := Pool.advances_of_step h
      exact .submitted hadvance.exchange (chain_of_serve hadvance.served)
  | outside env =>
      obtain ⟨shared, houtside, rfl⟩ := Pool.outside_eq_ok_iff.mp h
      have hnone {chain' : Chain} (hqueues : SameQueues pool.shared.chain chain') :
          TxChange pool (.outside env) chain' :=
        .none rfl hqueues.pending.symm hqueues.executed.symm hqueues.firstNonce.symm
          hqueues.height.le
      cases env with
      | callBank bank caller call =>
          obtain ⟨-, rfl⟩ := outside_callBank_eq_some_iff.mp houtside
          exact hnone (.callBank ..)
      | callToken caller call =>
          obtain ⟨-, rfl⟩ := outside_callToken_eq_some_iff.mp houtside
          exact hnone (.callToken ..)
      | execute k address =>
          obtain ⟨chain, hchain, rfl⟩ := Option.map_eq_some_iff.mp houtside
          obtain ⟨tx, hincluded⟩ := included_of_execute hchain
          exact .included rfl hincluded
      | closeBlock =>
          cases houtside
          exact .none rfl rfl rfl rfl (Nat.le_succ _)

theorem sent_of_step (h : pool.step move = .ok pool') {tx : MasterTx}
    (hsent : Sent pool'.shared.chain tx) :
    Sent pool.shared.chain tx ∨ ∃ q event, pool.exchange move = some (q, event) ∧
      submitted event.request event.answer = some tx := by
  rcases transactions_of_step h with ⟨hexchange, hchain⟩ | ⟨-, hincluded⟩ | ⟨-, hpending, hexecuted⟩
  · rw [hchain] at hsent
    rcases hsent with hpending | hexecuted
    · rcases List.mem_append.mp hpending with hold | hnew
      · exact Or.inl (Or.inl hold)
      · exact Or.inr ⟨_, _, hexchange, Option.mem_toList.mp hnew⟩
    · exact Or.inl (Or.inr hexecuted)
  · rcases hsent with hpending | hexecuted
    · rw [hincluded.pending] at hpending
      exact Or.inl (Or.inl (List.mem_of_mem_eraseIdx hpending))
    · rw [hincluded.executed, List.map_append, List.mem_append] at hexecuted
      rcases hexecuted with hold | hnow
      · exact Or.inl (Or.inr hold)
      · obtain rfl := List.mem_singleton.mp hnow
        exact Or.inl (Or.inl (List.mem_of_getElem? hincluded.found))
  · rw [Sent, hpending, hexecuted] at hsent
    exact Or.inl hsent

/-! ### Calls to the banks -/

/-- The call to a bank that a move makes: the bank, the caller and the call. -/
def calledBank (backend : Backend) (pool : Pool backend.system) :
    ServerMove → Option (ContractAddress × ContractAddress × BankCall)
  | .outside (.callBank bank caller call) =>
      if caller = backend.master then none else some (bank, caller, call)
  | .outside (.execute k _) => do
      let tx ← pool.shared.chain.pending[k]?
      let (bank, call) ← invokedBank backend tx
      some (bank, backend.master, call)
  | _ => none

/-- The bank accepts a call in the state that the chain is in. -/
def accepts (backend : Backend) (chain : Chain)
    (called : ContractAddress × ContractAddress × BankCall) : Bool :=
  match chain.banks called.1 with
  | none => false
  | some storage => (CoinFlipBank.callBank backend.api.pedersen called.1 called.2.1
      ⟨chain.token, storage⟩ called.2.2).isOk

def acceptedCall (backend : Backend) (pool : Pool backend.system) (move : ServerMove) :
    Option (ContractAddress × ContractAddress × BankCall) :=
  (calledBank backend pool move).filter (accepts backend pool.shared.chain)

theorem called_of_accepted {called : ContractAddress × ContractAddress × BankCall}
    (h : acceptedCall backend pool move = some called) :
    calledBank backend pool move = some called :=
  (Option.filter_eq_some_iff.mp h).1

structure BankCalled (backend : Backend) (chain chain' : Chain) (a caller : ContractAddress)
    (call : BankCall) (storage : Storage) (w : World) : Prop where
  found : chain.banks a = some storage
  called : CoinFlipBank.callBank backend.api.pedersen a caller ⟨chain.token, storage⟩ call = .ok w
  banks : chain'.banks = Function.update chain.banks a (some w.bank)
  contracts : chain'.contracts = chain.contracts
  payments : chain'.payments = chain.payments ++
    (BankLifecycle.payments backend.api.pedersen ⟨chain.token, storage⟩ (.bank caller call)).map
      (BankPayment.mk a call)

structure BankDeployed (backend : Backend) (chain chain' : Chain) (a : ContractAddress)
    (classHash word salt : String) (owner : ContractAddress) : Prop where
  pending : .sncast (.deploy classHash (some word) salt) ∈ chain.pending
  read : readAddress backend.api word = some owner
  fresh : chain.banks a = none
  banks : chain'.banks = Function.update chain.banks a (some (deployed owner))
  contracts : chain'.contracts = a :: chain.contracts
  payments : chain'.payments = chain.payments

def BankChange (backend : Backend) (chain chain' : Chain)
    (called : Option (ContractAddress × ContractAddress × BankCall)) : Prop :=
  (chain'.banks = chain.banks ∧ chain.contracts ⊆ chain'.contracts ∧
    chain'.payments = chain.payments) ∨
  (∃ a caller call storage w, called = some (a, caller, call) ∧
    BankCalled backend chain chain' a caller call storage w) ∨
  ∃ a classHash word salt owner, BankDeployed backend chain chain' a classHash word salt owner

section Calls

variable {chain : Chain}

theorem bankChange_callBank (a caller : ContractAddress) (call : BankCall) :
    BankChange backend chain (chain.callBank backend.api.pedersen a caller call)
      (some (a, caller, call)) := by
  rcases callBank_cases backend.api.pedersen chain a caller call with
    hsame | ⟨storage, w, hfound, hcall, heq⟩
  · rw [hsame]
    exact Or.inl ⟨rfl, List.Subset.refl _, rfl⟩
  · rw [heq]
    exact Or.inr (Or.inl ⟨a, caller, call, storage, w, rfl, hfound, hcall, rfl, rfl, rfl⟩)

theorem bankCalled_callBank {a caller : ContractAddress} {call : BankCall} {storage : Storage}
    {w : World} (hfound : chain.banks a = some storage)
    (hcall : CoinFlipBank.callBank backend.api.pedersen a caller ⟨chain.token, storage⟩ call =
      .ok w) :
    BankCalled backend chain (chain.callBank backend.api.pedersen a caller call) a caller call
      storage w := by
  have heq : chain.callBank backend.api.pedersen a caller call = { chain with
      token := w.token
      banks := Function.update chain.banks a (some w.bank)
      payments := chain.payments ++
        (BankLifecycle.payments backend.api.pedersen ⟨chain.token, storage⟩
          (.bank caller call)).map (BankPayment.mk a call) } := by
    simp only [Chain.callBank, hfound, hcall]
  rw [heq]
  exact ⟨hfound, hcall, rfl, rfl, rfl⟩

theorem accepts_eq_true_iff {a caller : ContractAddress} {call : BankCall} :
    accepts backend chain (a, caller, call) = true ↔ ∃ storage w, chain.banks a = some storage ∧
      CoinFlipBank.callBank backend.api.pedersen a caller ⟨chain.token, storage⟩ call = .ok w := by
  unfold accepts
  cases hfound : chain.banks a with
  | none => simp
  | some storage =>
      cases hcall : CoinFlipBank.callBank backend.api.pedersen a caller ⟨chain.token, storage⟩
          call with
      | error e => simp [hcall, Except.isOk, Except.toBool]
      | ok w => simp [hcall, Except.isOk, Except.toBool]

section Included

variable {chain' : Chain} {k : Nat} {tx : MasterTx}

theorem BankCalled.of_included {a caller : ContractAddress} {call : BankCall} {storage : Storage}
    {w : World} (h : BankCalled backend (withIncluded chain k tx) chain' a caller call storage w) :
    BankCalled backend chain chain' a caller call storage w :=
  ⟨h.found, h.called, h.banks, h.contracts, h.payments⟩

theorem BankChange.of_included {called : Option (ContractAddress × ContractAddress × BankCall)}
    (h : BankChange backend (withIncluded chain k tx) chain' called) :
    BankChange backend chain chain' called := by
  rcases h with h | ⟨a, caller, call, storage, w, hcalled, h⟩ | ⟨a, classHash, word, salt, owner, h⟩
  · exact Or.inl h
  · exact Or.inr (Or.inl ⟨a, caller, call, storage, w, hcalled, h.of_included⟩)
  · exact Or.inr (Or.inr ⟨a, classHash, word, salt, owner, List.mem_of_mem_eraseIdx h.pending,
      h.read, h.fresh, h.banks, h.contracts, h.payments⟩)

end Included

theorem bankChange_execute {chain' : Chain} {k : Nat} {address : ContractAddress}
    (h : backend.execute chain k address = some chain') :
    BankChange backend chain chain' (do
      let tx ← chain.pending[k]?
      let (bank, call) ← invokedBank backend tx
      some (bank, backend.master, call)) := by
  obtain ⟨tx, htx, hexecution⟩ := execution_of_execute h
  rw [htx]
  cases hexecution with
  | proofBearing payload => exact Or.inl ⟨rfl, List.Subset.refl _, rfl⟩
  | declare name => exact Or.inl ⟨rfl, List.Subset.refl _, rfl⟩
  | deploy classHash constructorCalldata salt hcontracts hbanks =>
      cases howner : constructorCalldata.bind (readAddress backend.api) with
      | none =>
          exact Or.inl ⟨by simp [Backend.deploy, howner, withIncluded],
            List.subset_cons_self _ _, rfl⟩
      | some owner =>
          obtain ⟨word, rfl, hword⟩ := Option.bind_eq_some_iff.mp howner
          exact Or.inr (Or.inr ⟨address, classHash, word, salt, owner, List.mem_of_getElem? htx,
            hword, hbanks, by simp [Backend.deploy, hword, withIncluded], rfl, rfl⟩)
  | invoke contractAddress function calldata =>
      rcases invoke_cases backend
          (withIncluded chain k (.sncast (.invoke contractAddress function calldata)))
          contractAddress function calldata with ⟨a, call, hcalled, heq⟩ | ⟨token, heq⟩
      · rw [heq]
        simp only [Option.bind_eq_bind, Option.bind_some, hcalled]
        exact (bankChange_callBank a backend.master call).of_included
      · rw [heq]
        exact Or.inl ⟨rfl, List.Subset.refl _, rfl⟩

theorem bank_of_step (h : pool.step move = .ok pool') :
    BankChange backend pool.shared.chain pool'.shared.chain (calledBank backend pool move) := by
  cases move with
  | arrive request =>
      obtain rfl := Pool.arrive_eq_ok_iff.mp h
      exact Or.inl ⟨rfl, List.Subset.refl _, rfl⟩
  | advance i answers =>
      obtain ⟨t, t', request, answer, hadvance⟩ := Pool.advances_of_step h
      rw [chain_of_serve hadvance.served]
      exact Or.inl ⟨rfl, List.Subset.refl _, rfl⟩
  | outside env =>
      obtain ⟨shared, houtside, rfl⟩ := Pool.outside_eq_ok_iff.mp h
      cases env with
      | callBank bank caller call =>
          obtain ⟨hcaller, rfl⟩ := outside_callBank_eq_some_iff.mp houtside
          rw [calledBank, if_neg hcaller]
          exact bankChange_callBank bank caller call
      | callToken caller call =>
          obtain ⟨-, rfl⟩ := outside_callToken_eq_some_iff.mp houtside
          obtain ⟨token, heq⟩ := callToken_cases pool.shared.chain caller call
          simp only [heq]
          exact Or.inl ⟨rfl, List.Subset.refl _, rfl⟩
      | execute k address =>
          obtain ⟨chain, hchain, rfl⟩ := Option.map_eq_some_iff.mp houtside
          exact bankChange_execute hchain
      | closeBlock =>
          cases houtside
          exact Or.inl ⟨rfl, List.Subset.refl _, rfl⟩

theorem bankCalled_of_accepted (h : pool.step move = .ok pool') {a caller : ContractAddress}
    {call : BankCall} (haccepted : acceptedCall backend pool move = some (a, caller, call)) :
    ∃ storage w, BankCalled backend pool.shared.chain pool'.shared.chain a caller call storage w := by
  obtain ⟨hcalled, haccepts⟩ := Option.filter_eq_some_iff.mp haccepted
  obtain ⟨storage, w, hfound, hcall⟩ := accepts_eq_true_iff.mp haccepts
  refine ⟨storage, w, ?_⟩
  cases move with
  | arrive request => cases hcalled
  | advance i answers => cases hcalled
  | outside env =>
      obtain ⟨shared, houtside, rfl⟩ := Pool.outside_eq_ok_iff.mp h
      cases env with
      | callBank bank caller' call' =>
          obtain ⟨hcaller, rfl⟩ := outside_callBank_eq_some_iff.mp houtside
          rw [calledBank, if_neg hcaller] at hcalled
          cases hcalled
          exact bankCalled_callBank hfound hcall
      | callToken caller' call' => cases hcalled
      | closeBlock => cases hcalled
      | execute k address =>
          simp only [calledBank, Option.bind_eq_bind, Option.bind_eq_some_iff] at hcalled
          obtain ⟨tx, htx, ⟨bank, call'⟩, hinvoked, heq⟩ := hcalled
          cases heq
          obtain ⟨chain, hchain, rfl⟩ := Option.map_eq_some_iff.mp houtside
          obtain ⟨tx', htx', hexecution⟩ := execution_of_execute hchain
          obtain rfl : tx = tx' := Option.some.inj (htx.symm.trans htx')
          cases hexecution with
          | proofBearing payload => cases hinvoked
          | declare name => cases hinvoked
          | deploy classHash constructorCalldata salt => cases hinvoked
          | invoke contractAddress function calldata =>
              rw [invoke_of_invokedBank hinvoked]
              apply BankCalled.of_included
              exact bankCalled_callBank hfound hcall

end Calls

/-! ### Games -/

inductive GameStep (owner : ContractAddress) (id : Felt) :
    ContractAddress → BankCall → Game → Game → Prop
  | deposited (caller : ContractAddress) (amount : U256) (seed bet : Felt) (g : Game)
      (h : g.state = stateEmpty) :
      GameStep owner id caller (.deposit id amount seed bet) g
        ⟨caller, amount, seed, bet, stateDeposited⟩
  | matched (g : Game) (h : g.state = stateDeposited) :
      GameStep owner id owner (.matchDeposit id) g { g with state := stateMatched }
  | settled (seed : Felt) (g : Game) (h : g.state = stateMatched) :
      GameStep owner id owner (.settle id seed) g { g with state := stateSettled }

theorem game_of_call {pedersen : Felt → Felt → Felt} {contract caller : ContractAddress}
    {w w' : World} {call : BankCall}
    (h : CoinFlipBank.callBank pedersen contract caller w call = .ok w') (id : Felt) :
    game w'.bank id = game w.bank id ∨
      GameStep w.bank.owner id caller call (game w.bank id) (game w'.bank id) := by
  cases call with
  | deposit sessionId amount seed bet =>
      obtain ⟨-, hempty, token, -, rfl⟩ := deposit_eq_ok_iff.mp h
      rw [game_recordGame]
      split
      · rename_i hid
        subst hid
        exact Or.inr (.deposited caller amount seed bet _ hempty)
      · exact Or.inl rfl
  | matchDeposit sessionId =>
      obtain ⟨rfl, hdeposited, token, -, rfl⟩ := matchDeposit_eq_ok_iff.mp h
      rw [game_writeState]
      split
      · rename_i hid
        subst hid
        exact Or.inr (.matched _ hdeposited)
      · exact Or.inl rfl
  | settle sessionId seed =>
      obtain ⟨rfl, hmatched, payout, token, -, -, rfl⟩ := settle_eq_ok_iff.mp h
      rw [game_writeState]
      split
      · rename_i hid
        subst hid
        exact Or.inr (.settled seed _ hmatched)
      · exact Or.inl rfl
  | withdraw =>
      simp only [CoinFlipBank.callBank, withdraw, Library.Fallible.bind_eq_ok_iff,
        orRevert_eq_ok_iff, Library.Fallible.pure_eq_ok_iff] at h
      obtain ⟨-, -, token, -, rfl⟩ := h
      exact Or.inl rfl

/-- The game of a session at a bank. Where no bank is, all cells are zero. -/
def gameAt (chain : Chain) (a : ContractAddress) (id : Felt) : Game :=
  game ((chain.banks a).getD (deployed 0)) id

/-- Only a call that the bank accepts changes a game. -/
theorem game_of_step (h : pool.step move = .ok pool')
    (howner : ∀ a storage, pool.shared.chain.banks a = some storage →
      storage.owner = backend.master) (a : ContractAddress) (id : Felt) :
    gameAt pool'.shared.chain a id = gameAt pool.shared.chain a id ∨
      ∃ caller call, acceptedCall backend pool move = some (a, caller, call) ∧
        GameStep backend.master id caller call (gameAt pool.shared.chain a id)
          (gameAt pool'.shared.chain a id) := by
  rcases bank_of_step h with ⟨hbanks, -, -⟩ | ⟨b, caller, call, storage, w, hcalled, hbank⟩ |
    ⟨b, classHash, word, salt, owner, hdeployed⟩
  · rw [gameAt, hbanks]
    exact Or.inl rfl
  · simp only [gameAt, hbank.banks]
    rcases eq_or_ne a b with rfl | hne
    · have haccepted : acceptedCall backend pool move = some (a, caller, call) :=
        Option.filter_eq_some_iff.mpr
          ⟨hcalled, accepts_eq_true_iff.mpr ⟨storage, w, hbank.found, hbank.called⟩⟩
      simp only [Function.update_self, hbank.found, Option.getD_some]
      rcases game_of_call hbank.called id with hsame | hstep
      · exact Or.inl hsame
      · rw [howner a storage hbank.found] at hstep
        exact Or.inr ⟨caller, call, haccepted, hstep⟩
    · rw [Function.update_of_ne hne]
      exact Or.inl rfl
  · simp only [gameAt, hdeployed.banks]
    rcases eq_or_ne a b with rfl | hne
    · rw [Function.update_self, hdeployed.fresh]
      exact Or.inl rfl
    · rw [Function.update_of_ne hne]
      exact Or.inl rfl

theorem settled_of_accepted (h : pool.step move = .ok pool') {a caller : ContractAddress}
    {id seed : Felt} (haccepted : acceptedCall backend pool move = some (a, caller, .settle id seed)) :
    (gameAt pool'.shared.chain a id).state = stateSettled := by
  obtain ⟨storage, w, hbank⟩ := bankCalled_of_accepted h haccepted
  obtain ⟨-, -, payout, token, -, -, rfl⟩ := settle_eq_ok_iff.mp hbank.called
  rw [gameAt, hbank.banks, Function.update_self, Option.getD_some, game_writeState, if_pos rfl]

end Snip36.ServerSteps
