import Snip36.ServerInvariant
import Snip36.SignedPayload

/-!
The game of a session: where it is on the chain, and which moves can change it.
-/

namespace Snip36.SessionGames

open BankLifecycle
open CoinFlipBank
open CoinFlipRoutes
open CoinFlipServer
open CoinFlipState
open HandlerAsks
open Library.Hex
open Library.Interaction
open Library.Interleaving
open Library.Reverting
open ServerInvariant
open ServerSteps

/-- The reader of field elements reads up to 64 hex digits. -/
def ReadsHex (fromHex : String → Except String Felt) : Prop :=
  ∀ s n, s.length ≤ 66 → parseHex s = some n → n < starkPrime → fromHex s = .ok (Felt.fromNat n)

theorem ReadsHex.lowerHex {fromHex : String → Except String Felt} (hreads : ReadsHex fromHex)
    {n : Nat} (hn : n < starkPrime) : fromHex (lowerHex n) = .ok (Felt.fromNat n) :=
  hreads _ n (length_lowerHex_le (by decide : 0 < 64) (hn.trans (by decide))) (parseHex_lowerHex n)
    hn

def bankAddress (backend : Backend) (shared : Shared) : Option ContractAddress :=
  shared.bank.bind fun d => readAddress backend.api d.contractAddress

def feltOf (backend : Backend) (id : String) : Option Felt :=
  (backend.api.fromHex (sessionFelt id)).toOption

def sessionGame (backend : Backend) (shared : Shared) (id : String) : Option Game := do
  let a ← bankAddress backend shared
  let felt ← feltOf backend id
  some (gameAt shared.chain a felt)

/-- The state of a session on the chain. -/
def StateIs (backend : Backend) (shared : Shared) (id : String) (state : U8) : Prop :=
  (sessionGame backend shared id).map Game.state = some state

instance (backend : Backend) (shared : Shared) (id : String) (state : U8) :
    Decidable (StateIs backend shared id state) :=
  inferInstanceAs (Decidable (_ = _))

variable {backend : Backend} {pool pool' : Pool backend.system} {move : ServerMove}
  {id id' : String} {a : ContractAddress} {felt : Felt}

theorem length_sessionFelt_uuidString (n : Nat) : (sessionFelt (uuidString n)).length ≤ 66 := by
  have hfilter := List.length_filter_le (fun c => decide (c ≠ '-')) (uuidString n).toList
  have hlength : (uuidString n).toList.length = 36 := by simp [uuidString]
  have hprefix : "0x".length = 2 := by decide
  rw [sessionFelt, String.length_append, hprefix, String.length_ofList]
  omega

theorem feltOf_of_uuid (hreads : ReadsHex backend.api.fromHex) {n : Nat}
    (h : uuidNumber id = some n) : feltOf backend id = some (Felt.fromNat n) := by
  obtain ⟨hparse, hn⟩ := Option.filter_eq_some_iff.mp h
  rw [decide_eq_true_eq] at hn
  have hlt : n < starkPrime := lt_starkPrime (hn.1.trans (by decide))
  have hlength : (sessionFelt id).length ≤ 66 := by
    rw [hn.2]
    exact length_sessionFelt_uuidString n
  rw [feltOf, hreads _ n hlength hparse hlt]
  rfl

/-- Two sessions have two games. -/
theorem eq_of_feltOf_eq (hreads : ReadsHex backend.api.fromHex)
    (hid : (uuidNumber id).isSome) (hid' : (uuidNumber id').isSome)
    (h : feltOf backend id = some felt) (h' : feltOf backend id' = some felt) : id = id' := by
  obtain ⟨n, hn⟩ := Option.isSome_iff_exists.mp hid
  obtain ⟨n', hn'⟩ := Option.isSome_iff_exists.mp hid'
  have hread (m : Nat) {s : String} (hm : uuidNumber s = some m) :
      m < starkPrime ∧ s = uuidString m := by
    obtain ⟨-, hfilter⟩ := Option.filter_eq_some_iff.mp hm
    rw [decide_eq_true_eq] at hfilter
    exact ⟨lt_starkPrime (hfilter.1.trans (by decide)), hfilter.2⟩
  rw [feltOf_of_uuid hreads hn] at h
  rw [feltOf_of_uuid hreads hn'] at h'
  have hfelt : Felt.fromNat n = Felt.fromNat n' := Option.some.inj (h.trans h'.symm)
  have hval := congrArg Fin.val hfelt
  rw [Felt.val_fromNat (hread n hn).1, Felt.val_fromNat (hread n' hn').1] at hval
  rw [(hread n hn).2, (hread n' hn').2, hval]

/-! ### Calls of the master account -/

/-- The two calls that the server makes to a bank, with the exchanges that they
come from. -/
inductive MasterCall (pool : Pool backend.system) (a : ContractAddress) : BankCall → Prop
  | matched {req : ConfirmDepositRequest} {c : BetCommitment} {bank : String} {felt : Felt}
      (hbank : readAddress backend.api bank = some a)
      (hpending : .sncast (.invoke bank "match_deposit" [sessionFelt req.sessionId]) ∈
        pool.shared.chain.pending)
      (hfound : pool.Said (.confirmDeposit req) ⟨.getCommitment req.sessionId, some c⟩)
      (hfelt : feltOf backend req.sessionId = some felt) :
      MasterCall pool a (.matchDeposit felt)
  | settled {id : String} {params : CoinFlipPlay.PlayQuery} {c : BetCommitment} {bank : String}
      {felt seed : Felt}
      (hbank : readAddress backend.api bank = some a)
      (hpending : .sncast (.invoke bank "settle" [sessionFelt id, lowerHex c.seedBlock]) ∈
        pool.shared.chain.pending)
      (hremoved : pool.Said (.play id params) ⟨.removeCommitment id, some c⟩)
      (hfelt : feltOf backend id = some felt)
      (hseed : (backend.api.fromHex (lowerHex c.seedBlock)).toOption = some seed) :
      MasterCall pool a (.settle felt seed)

/-- The bank of a call that takes effect as a transaction of the master account. -/
theorem masterCall_of_invokedBank (h : Kept backend pool) {tx : MasterTx} {call : BankCall}
    (hpending : tx ∈ pool.shared.chain.pending) (hcall : invokedBank backend tx = some (a, call)) :
    MasterCall pool a call := by
  cases tx with
  | proofBearing payload => cases hcall
  | sncast command =>
      cases command with
      | declare name => cases hcall
      | deploy classHash constructorCalldata salt => cases hcall
      | invoke bank function calldata =>
          obtain ⟨hbank, hstrk, args, hargs, hcallOf⟩ := invokedBank_eq_some_iff.mp hcall
          obtain ⟨q, before, hissues, hbefore⟩ := h.issues (Or.inl hpending)
          rcases hissues.invoke with rfl | ⟨req, c, rfl, rfl, rfl, hfound⟩ |
            ⟨id, params, c, rfl, rfl, rfl, hremoved⟩
          · rw [backend.token] at hbank
            exact absurd (Option.some.inj hbank).symm hstrk
          · have hsaid := hbefore _ hfound
            rw [(h.seen _ _ _ hsaid).2] at hpending hargs
            simp only [readWords, List.mapM_cons, List.mapM_nil, Option.pure_def,
              Option.bind_eq_bind, Option.bind_some, Option.bind_eq_some_iff] at hargs
            obtain ⟨felt, hfelt, heq⟩ := hargs
            cases heq
            obtain rfl : BankCall.matchDeposit felt = call := by
              simpa [bankCallOf] using hcallOf
            exact .matched hbank hpending hsaid hfelt
          · simp only [readWords, List.mapM_cons, List.mapM_nil, Option.pure_def,
              Option.bind_eq_bind, Option.bind_some, Option.bind_eq_some_iff] at hargs
            obtain ⟨felt, hfelt, _, ⟨seed, hseed, heq⟩, heq'⟩ := hargs
            cases heq
            cases heq'
            obtain rfl : BankCall.settle felt seed = call := by
              simpa [bankCallOf] using hcallOf
            exact .settled hbank hpending (hbefore _ hremoved) hfelt hseed

/-- A call to a bank comes from outside, or is one of the two of the server. -/
theorem call_cases (h : Kept backend pool) {caller : ContractAddress} {call : BankCall}
    (hcalled : calledBank backend pool move = some (a, caller, call)) :
    (caller ≠ backend.master ∧ move = .outside (.callBank a caller call)) ∨
      (caller = backend.master ∧ MasterCall pool a call) := by
  cases move with
  | arrive request => cases hcalled
  | advance i answers => cases hcalled
  | outside env =>
      cases env with
      | callBank bank caller' call' =>
          simp only [calledBank] at hcalled
          split at hcalled
          · cases hcalled
          · rename_i hcaller
            cases hcalled
            exact Or.inl ⟨hcaller, rfl⟩
      | callToken caller' call' => cases hcalled
      | execute k address =>
          simp only [calledBank, Option.bind_eq_bind, Option.bind_eq_some_iff] at hcalled
          obtain ⟨tx, htx, ⟨bank, call'⟩, hinvoked, heq⟩ := hcalled
          cases heq
          exact Or.inr ⟨rfl, masterCall_of_invokedBank h
            (List.mem_of_getElem? htx) hinvoked⟩
      | closeBlock => cases hcalled

theorem masterCall_of_called (h : Kept backend pool) {call : BankCall}
    (hcalled : calledBank backend pool move = some (a, backend.master, call)) :
    MasterCall pool a call := by
  rcases call_cases h hcalled with ⟨hcaller, -⟩ | ⟨-, hcall⟩
  · exact absurd rfl hcaller
  · exact hcall

/-- A game becomes matched when the bank accepts the match of its deposit. -/
theorem match_of_step (h : Kept backend pool) (hstep : pool.step move = .ok pool')
    (hbefore : (gameAt pool.shared.chain a felt).state ≠ stateMatched)
    (hafter : (gameAt pool'.shared.chain a felt).state = stateMatched) :
    acceptedCall backend pool move = some (a, backend.master, .matchDeposit felt) ∧
      (gameAt pool.shared.chain a felt).state = stateDeposited ∧
      gameAt pool'.shared.chain a felt =
        { gameAt pool.shared.chain a felt with state := stateMatched } := by
  rcases game_of_step hstep h.owner a felt with hsame | ⟨caller, call, haccepted, hgame⟩
  · rw [hsame] at hafter
    exact absurd hafter hbefore
  · generalize gameAt pool.shared.chain a felt = g at hgame
    generalize gameAt pool'.shared.chain a felt = g' at hgame hafter
    cases hgame with
    | deposited caller amount seed bet g hempty =>
        have hstates : stateDeposited = stateMatched := hafter
        exact absurd hstates (by decide)
    | settled seed g hmatched =>
        have hstates : stateSettled = stateMatched := hafter
        exact absurd hstates (by decide)
    | matched g hdeposited => exact ⟨haccepted, hdeposited, rfl⟩

theorem entry_of_settle (h : Kept backend pool) (hreads : ReadsHex backend.api.fromHex)
    {seed : Felt} (hcall : MasterCall pool a (.settle felt seed)) (hid : id ∈ pool.shared.issued)
    (hfelt : feltOf backend id = some felt) : pool.shared.commitments id = none ∧
      ∃ params c, pool.Said (.play id params) ⟨.removeCommitment id, some c⟩ ∧
        (backend.api.fromHex (lowerHex c.seedBlock)).toOption = some seed := by
  cases hcall with
  | @settled id' params c bank _ _ hbank hsent hremoved hfelt' hseed =>
      obtain ⟨hid', -, hnone⟩ := h.removed _ _ _ hremoved
      obtain rfl : id = id' :=
        eq_of_feltOf_eq hreads (h.issued id hid) (h.issued id' hid') hfelt hfelt'
      exact ⟨hnone, params, c, hremoved, hseed⟩

/-! ### While nothing is deployed -/

/-- The requests of a game: everything but the two deployments. -/
def Betting : ServerMove → Prop
  | .arrive .deployCoinflip => False
  | .arrive .deployBank => False
  | _ => True

instance : DecidablePred Betting
  | .arrive .deployCoinflip => isFalse fun h => h
  | .arrive .deployBank => isFalse fun h => h
  | .arrive (.commit _) => isTrue trivial
  | .arrive (.depositInfo _) => isTrue trivial
  | .arrive (.confirmDeposit _) => isTrue trivial
  | .arrive (.play _ _) => isTrue trivial
  | .advance _ _ => isTrue trivial
  | .outside _ => isTrue trivial

def NoDeployment (pool : Pool backend.system) : Prop :=
  ∀ t ∈ pool.tasks, ∀ contract, t.request ≠ deployRequest contract

theorem NoDeployment.fresh (h : Fresh backend pool) : NoDeployment pool :=
  fun t ht => absurd ht (h.notMem_tasks t)

theorem NoDeployment.step (h : NoDeployment pool) (hmove : Betting move)
    (hstep : pool.step move = .ok pool') : NoDeployment pool' := by
  intro t ht
  cases move with
  | arrive q =>
      obtain rfl := Pool.arrive_eq_ok_iff.mp hstep
      rcases List.mem_append.mp ht with hold | hnew
      · exact h t hold
      · obtain rfl := List.mem_singleton.mp hnew
        rintro contract rfl
        cases contract with
        | coinFlip => exact hmove
        | coinFlipBank => exact hmove
  | advance i answers =>
      obtain ⟨u, u', request, answer, hadvance⟩ := Pool.advances_of_step hstep
      rcases hadvance.eq_or_mem ht with rfl | hold
      · rw [hadvance.sameRequest]
        exact h u hadvance.mem
      · exact h t hold
  | outside env =>
      obtain ⟨shared, -, rfl⟩ := Pool.outside_eq_ok_iff.mp hstep
      exact h t ht

/-- So the contracts stay the ones that they are. -/
theorem NoDeployment.deployment (h : NoDeployment pool) (hstep : pool.step move = .ok pool')
    (contract : Contract) :
    pool'.shared.deployment contract = pool.shared.deployment contract := by
  rcases deployment_of_step hstep contract with hsame | ⟨q, d, hexchange, -⟩
  · exact hsame
  · obtain ⟨before, rfl, -⟩ := allowed_of_exchange hexchange
    obtain ⟨pool'', i, answers, t, t', -, hq, -, hadvance⟩ := Pool.advances_of_exchange hexchange
    exact absurd hq (h t hadvance.mem contract)

/-- The game of a session stays as it is, or a call to the bank changes it. -/
theorem sessionGame_of_step (h : Kept backend pool) (hdeploy : NoDeployment pool)
    (hstep : pool.step move = .ok pool') (id : String) :
    sessionGame backend pool'.shared id = sessionGame backend pool.shared id ∨
      ∃ a felt caller call g g', bankAddress backend pool.shared = some a ∧
        feltOf backend id = some felt ∧
        calledBank backend pool move = some (a, caller, call) ∧
        sessionGame backend pool.shared id = some g ∧
        sessionGame backend pool'.shared id = some g' ∧
        GameStep backend.master felt caller call g g' := by
  have haddress : bankAddress backend pool'.shared = bankAddress backend pool.shared :=
    congrArg (Option.bind · _) (hdeploy.deployment hstep .coinFlipBank)
  unfold sessionGame
  rw [haddress]
  cases ha : bankAddress backend pool.shared with
  | none => exact Or.inl rfl
  | some a =>
      cases hfelt : feltOf backend id with
      | none => exact Or.inl rfl
      | some felt =>
          rcases game_of_step hstep h.owner a felt with hsame | ⟨caller, call, hcalled, hgame⟩
          · exact Or.inl (congrArg some hsame)
          · exact Or.inr ⟨a, felt, caller, call, _, _, rfl, rfl, called_of_accepted hcalled, rfl, rfl,
              hgame⟩

/-- A matched session stays matched while its entry is in the map. -/
theorem matched_of_step (h : Kept backend pool) (hreads : ReadsHex backend.api.fromHex)
    (hdeploy : NoDeployment pool) (hstep : pool.step move = .ok pool') {c : BetCommitment}
    (hentry : pool.shared.commitments id = some c)
    (hmatched : StateIs backend pool.shared id stateMatched) :
    StateIs backend pool'.shared id stateMatched := by
  rcases sessionGame_of_step h hdeploy hstep id with
    hsame | ⟨a, felt, caller, call, g, g', ha, hfelt, hcalled, hg, hg', hgame⟩
  · rwa [StateIs, hsame]
  · have hstate : g.state = stateMatched := by
      rw [StateIs, hg] at hmatched
      exact Option.some.inj hmatched
    cases hgame with
    | deposited caller amount seed bet g hempty =>
        exact absurd (hempty.symm.trans hstate) (by decide)
    | matched g hdeposited => exact absurd (hdeposited.symm.trans hstate) (by decide)
    | settled seed g _ =>
        have hcall := masterCall_of_called h hcalled
        have hnone := (entry_of_settle h hreads hcall (h.entries id c hentry).1 hfelt).1
        rw [hentry] at hnone
        cases hnone

/-! ### A small server -/

section Sample

open SignedPayload

theorem readsHex_hexFelt : ReadsHex hexFelt := by
  intro s n _ hparse hn
  simp [hexFelt, hparse, hn]

def sampleApi : ServerApi where
  crypto := echoCrypto
  pedersen := fun a b => a + b
  fromHex := hexFelt
  parseStrings := fun _ => .ok []
  display := fun _ => ""

def sampleConfig : Config where
  rpcUrl := "http://node"
  accountAddress := "0x2"
  privateKey := "0x7"
  chainId := "SN_SEPOLIA"
  gatewayUrl := none
  outputDir := "out"
  sncastAccount := "master"
  snip36Bin := "snip36"
  proverUrl := none

def sample : Backend where
  api := sampleApi
  config := sampleConfig
  master := BankAccounting.ownerAddress
  account := by decide +kernel
  strk := (readAddress sampleApi strkToken).getD 0
  token := by decide +kernel

/-- Both contracts are there, and everybody lets the bank take tokens. -/
def sampleStart : Pool sample.system where
  shared := {
    coinflip := some ⟨"0x5", "0xc", 3⟩
    bank := some ⟨"0x1", "0xb", 4⟩
    commitments := fun _ => none
    issued := []
    readers := fun _ => 0
    sncastLocked := false
    file := ⟨none, none⟩
    chain := {
      height := 10
      token := { BankAccounting.freshWorld.token with allowance := fun _ _ => 1000 }
      banks := Function.update (fun _ => none) BankAccounting.bankAddress
        (some (deployed BankAccounting.ownerAddress))
      contracts := [BankAccounting.bankAddress]
      payments := []
      pending := []
      executed := []
      firstNonce := 0 } }
  tasks := []

theorem fresh_sampleStart : Fresh sample sampleStart := by
  refine ⟨rfl, fun _ => rfl, rfl, ?_, rfl, rfl, rfl⟩
  intro a storage ha
  change Function.update (fun _ => none) BankAccounting.bankAddress
    (some (deployed BankAccounting.ownerAddress)) a = some storage at ha
  rcases eq_or_ne a BankAccounting.bankAddress with rfl | hne
  · rw [Function.update_self] at ha
    exact ⟨(Option.some.inj ha).symm, List.mem_cons_self⟩
  · rw [Function.update_of_ne hne] at ha
    cases ha

def sampleSession : String := uuidString 5

/-- Everything goes well: each transaction is confirmed in the given block, and
each process and file does what is expected of it. -/
def smoothly (block : Nat) : (request : Ask) → Answer request
  | .readDeployment _ => none
  | .writeDeployment _ _ => ()
  | .holdDeployment _ => none
  | .dropDeployments => ()
  | .writeDeploymentsFile _ => ()
  | .insertSession _ => sampleSession
  | .getCommitment _ => none
  | .removeCommitment _ => none
  | .setBetAmount _ _ => ()
  | .setSeedBlock _ _ => ()
  | .lockSncast => ()
  | .unlockSncast => ()
  | .sncast _ => .ok ⟨"transaction_hash: 0xa", "", true⟩
  | .randomSalt => "00"
  | .deadlinePassed => false
  | .getReceipt _ => .ok (.obj [("finality_status", .str "ACCEPTED_ON_L2"),
      ("execution_status", .str "SUCCEEDED"), ("block_number", .num block)])
  | .sleep _ => ()
  | .blockNumber => .ok block
  | .getNonceAtBlock _ _ => .ok 0
  | .writeJson _ _ => .ok ()
  | .readFile _ => .ok ""
  | .readJson _ => none
  | .fileSize _ => 0
  | .runProver _ _ => .exited true
  | .post _ _ => .ok (.obj [("code", .str "TRANSACTION_RECEIVED")])
  | .send _ _ => ()
  | .sendJson _ _ => ()

/-- The player commits to heads with the nonce 1 and deposits 10. -/
def sampleBet : List ServerMove := [
  .arrive (.commit ⟨"0x1", "0x3"⟩),
  .advance 0 (smoothly 11),
  .outside (.callBank BankAccounting.bankAddress BankAccounting.playerAddress
    (.deposit 5 10 0 0))]

/-- The deposit is confirmed: the match is sent, included and waited for. -/
def sampleConfirm (task : Nat) : List ServerMove :=
  .arrive (.confirmDeposit ⟨sampleSession, "0xd"⟩) ::
    List.replicate 6 (.advance task (smoothly 11)) ++ [.outside (.execute 0 0)] ++
    List.replicate 5 (.advance task (smoothly 11))

end Sample

end Snip36.SessionGames
