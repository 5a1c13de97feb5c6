import Snip36.SessionGames

/-!
Whether the result that a play reports is the one that the bank pays out.
-/

namespace Snip36.ReportedResult

open BankLifecycle
open CoinFlipBank
open CoinFlipPlay
open CoinFlipRoutes
open CoinFlipServer
open CoinFlipState
open HandlerAsks
open Library.Hex
open Library.Interaction
open Library.Interaction.Program
open Library.Interleaving
open Library.Reverting
open Payload
open ServerInvariant
open ServerSteps
open SessionGames

/-! ### The contract of the flip -/

structure Message where
  toAddress : Felt
  payload : List Felt

/-- `CoinFlip.play`. -/
def play (pedersen : Felt → Felt → Felt) (seed player bet : Felt) : Message :=
  let hash := pedersen seed player
  let low := hash.val % 2 ^ 128
  let outcome : Felt := if low % 2 = 0 then 0 else 1
  let won : Felt := if outcome = bet then 1 else 0
  ⟨0x1, [player, seed, bet, outcome, won]⟩

/-- The file with the messages of a proved transaction. -/
def rawMessages (messages : List (Felt × Message)) : Json :=
  .obj [("l2_to_l1_messages", .arr (messages.map fun m => .obj [
    ("from_address", .str (feltHex m.1)),
    ("payload", .ofStrings (m.2.payload.map feltHex)),
    ("to_address", .str (feltHex m.2.toAddress))]))]

theorem payloadFields_rawMessages (contract : Felt) (message : Message)
    (later : List (Felt × Message)) :
    payloadFields (rawMessages ((contract, message) :: later)) =
      some (message.payload.map feltHex) := by
  have hstrings (strings : List String) :
      (strings.map Json.str).filterMap Json.asStr = strings := by
    induction strings with
    | nil => rfl
    | cons s strings ih =>
        rw [List.map_cons, List.filterMap_cons]
        simp only [Json.asStr]
        rw [ih]
  change some (((message.payload.map feltHex).map Json.str).filterMap Json.asStr) = _
  rw [hstrings]

def outcomeLabel (outcome : Felt) : String := if outcome = 0 then "heads" else "tails"

/-- The report about a message of `play` is its outcome and whether the bet was
on it. -/
theorem readSettlement_play {pedersen : Felt → Felt → Felt} {seed player bet : Felt}
    {messages : Option Json}
    (h : messages.bind payloadFields = some ((play pedersen seed player bet).payload.map feltHex)) :
    readSettlement messages = some ⟨outcomeLabel (coinOutcome pedersen seed player),
      coinOutcome pedersen seed player = bet⟩ := by
  have hwon : (feltHex (if coinOutcome pedersen seed player = bet then 1 else 0) = "0x1") ↔
      coinOutcome pedersen seed player = bet := by
    split
    · rename_i hbet
      exact iff_of_true (by decide) hbet
    · rename_i hbet
      exact iff_of_false (by decide) hbet
  have houtcome : (feltHex (coinOutcome pedersen seed player) = "0x0") ↔
      coinOutcome pedersen seed player = 0 := by
    rcases BankFairness.coinOutcome_eq_zero_or_one pedersen seed player with h | h
    · rw [h]
      decide
    · rw [h]
      decide
  have hfields : messages.bind payloadFields = some [feltHex player, feltHex seed, feltHex bet,
      feltHex (coinOutcome pedersen seed player),
      feltHex (if coinOutcome pedersen seed player = bet then 1 else 0)] := h
  rw [readSettlement, hfields]
  simp only [houtcome, hwon, outcomeLabel]

/-! ### What a report is about -/

/-- A play reads its messages and reports after it has taken its commitment, and
it reports what it has read. -/
def ReportAsked (backend : Backend) (sessionId : String) (params : PlayQuery)
    (history : History Ask Answer) : Ask → Prop
  | .readJson path => path = jsonPath backend.config sessionId ".raw_messages.json" ∧
      ∃ c, (⟨.removeCommitment sessionId, some c⟩ : Event Ask Answer) ∈ history
  | .sendJson _ data => ∃ c deployment messages txHash settleTxHash proofSize,
      (⟨.removeCommitment sessionId, some c⟩ : Event Ask Answer) ∈ history ∧
      (⟨.readJson (jsonPath backend.config sessionId ".raw_messages.json"), messages⟩ :
        Event Ask Answer) ∈ history ∧
      data = resultJson ⟨deployment, sessionId, c.seedBlock, params.player, params.side⟩
        ((readSettlement messages).getD ⟨"", false⟩) txHash settleTxHash proofSize
  | _ => True

variable (backend : Backend)

def Unreported : Ask → Prop
  | .readJson _ => False
  | .sendJson _ _ => False
  | _ => True

theorem unreported_of_isQuiet (request : Ask) (h : IsQuiet request) : Unreported request := by
  cases request with
  | readJson path => exact h.elim
  | sendJson event data => exact h.elim
  | _ => trivial

theorem reportAsked_of_unreported {sessionId : String} {params : PlayQuery}
    (history : History Ask Answer) (request : Ask) (h : Unreported request) :
    ReportAsked backend sessionId params history request := by
  cases request with
  | readJson path => exact h.elim
  | sendJson event data => exact h.elim
  | _ => trivial

theorem reportAsked_rest {sessionId : String} {params : PlayQuery} {c : BetCommitment}
    {deployment : Deployment} {messages : Option Json} {history : History Ask Answer}
    (hremoved : (⟨.removeCommitment sessionId, some c⟩ : Event Ask Answer) ∈ history)
    (hread : (⟨.readJson (jsonPath backend.config sessionId ".raw_messages.json"), messages⟩ :
      Event Ask Answer) ∈ history) {settlement : Settlement}
    (hsettlement : (readSettlement messages).getD ⟨"", false⟩ = settlement)
    (tx : PlayTransaction) (proofSize : Nat) :
    let task : PlayTask := ⟨deployment, sessionId, c.seedBlock, params.player, params.side⟩
    Throughout (ReportAsked backend sessionId params) (Returning fun _ _ => True) history ((do
      let txHash ← submit backend.api backend.config task tx
      verifyInclusion backend.api txHash
      let settleTxHash ← settleOnChain backend.api task
      await (.sendJson "result" (resultJson task settlement txHash settleTxHash proofSize))
      pure .streamed) : Handler Response) := by
  intro task
  rw [← hsettlement]
  have hunreported := @reportAsked_of_unreported backend sessionId params
  have hquiet := unreported_of_isQuiet
  have hsubmit := onlyAsks_submit backend.api backend.config task hquiet tx
    fun _ _ _ _ _ _ => trivial
  refine throughout_phase hsubmit (fun _ => hunreported _) fun said₁ txHash => ?_
  refine throughout_phase (onlyAsks_verifyInclusion _ hquiet txHash) (fun _ => hunreported _)
    fun said₂ _ => ?_
  refine throughout_phase (onlyAsks_settleOnChain _ task hquiet fun _ => trivial)
    (fun _ => hunreported _) fun said₃ settleTxHash => ?_
  refine ⟨⟨c, deployment, messages, txHash, settleTxHash, proofSize, ?_, ?_, rfl⟩,
    fun _ => returning_ok_iff.mpr trivial⟩
  · simp only [List.mem_append]
    exact Or.inl (Or.inl (Or.inl hremoved))
  · simp only [List.mem_append]
    exact Or.inl (Or.inl (Or.inl hread))

theorem reportAsked_play (sessionId : String) (params : PlayQuery) :
    Throughout (ReportAsked backend sessionId params) (Returning fun _ _ => True) []
      (playCoinflip backend.api backend.config sessionId params) := by
  have hunreported := @reportAsked_of_unreported backend sessionId params
  have hquiet := unreported_of_isQuiet
  refine throughout_playCoinflip _ _ trivial (fun _ => trivial) fun deployment c => ?_
  refine throughout_phase (onlyAsks_startLog _ hquiet) (fun _ => hunreported _) fun said₁ _ => ?_
  refine throughout_phase (onlyAsks_constructTransaction _ _ _ hquiet) (fun _ => hunreported _)
    fun said₂ tx => ?_
  refine throughout_phase (onlyAsks_prove _ _ hquiet) (fun _ => hunreported _)
    fun said₃ proofSize => ?_
  refine ⟨⟨rfl, c, by simp⟩, fun messages => ?_⟩
  dsimp only [Program.bind]
  cases hsettlement : readSettlement messages with
  | some settlement =>
      refine ⟨trivial, fun _ => ?_⟩
      apply reportAsked_rest backend (by simp) _ (by rw [hsettlement]; rfl)
      simp
  | none =>
      apply reportAsked_rest backend (by simp) _ (by rw [hsettlement]; rfl)
      simp

/-! ### Reports and payments -/

def reports {backend : Backend} (pool : Pool backend.system) : List (String × Json) :=
  pool.tasks.flatMap fun t =>
    match t.request with
    | .play id _ => t.history.filterMap fun event =>
        match event with
        | ⟨.sendJson _ data, _⟩ => some (id, data)
        | _ => none
    | _ => []

def reportedWon (data : Json) : Bool :=
  match data.get? "won" with
  | some (.bool won) => won
  | _ => false

/-- A report and a payment of the same session, whose game is `g`, agree. -/
structure PaidAsReported (backend : Backend) (data : Json) (p : BankPayment) (felt : Felt)
    (g : Game) : Prop where
  won : reportedWon data = true ↔
    p.payment.recipient = g.player ∧ p.payment.amount.toNat = 2 * g.amount.toNat
  outcome : ∃ seed, p.call = .settle felt seed ∧
    memberText data "outcome" = outcomeLabel (coinOutcome backend.api.pedersen seed g.player.key)

/-- Every report agrees with every payment of its session. -/
def ResultsPaid (backend : Backend) (pool : Pool backend.system) : Prop :=
  ∀ report ∈ reports pool, ∀ p ∈ pool.shared.chain.payments, ∀ felt,
    feltOf backend report.1 = some felt → p.payment.session = some felt →
    PaidAsReported backend report.2 p felt (gameAt pool.shared.chain p.bank felt)

/-- The payload of `play` for a commitment that was taken. -/
def emittedFields (backend : Backend) (c : BetCommitment) (params : PlayQuery) :
    Option (List String) := do
  let seed ← (backend.api.fromHex (lowerHex c.seedBlock)).toOption
  let player ← (backend.api.fromHex params.player).toOption
  let message := play backend.api.pedersen seed player (Felt.fromNat params.side.toNat)
  some (message.payload.map feltHex)

/-- A game has the player and the bet of a reveal. An owner who plays against
himself wins. -/
structure RevealFits (backend : Backend) (params : PlayQuery) (player : ContractAddress)
    (bet seed : Felt) : Prop where
  samePlayer : (backend.api.fromHex params.player).toOption = some player.key
  sameBet : bet = Felt.fromNat params.side.toNat
  ownerWins : player = backend.master → coinOutcome backend.api.pedersen seed player.key = bet

instance (backend : Backend) (params : PlayQuery) (player : ContractAddress) (bet seed : Felt) :
    Decidable (RevealFits backend params player bet seed) :=
  decidable_of_iff (_ ∧ _ ∧ _)
    ⟨fun h => ⟨h.1, h.2.1, h.2.2⟩, fun h => ⟨h.samePlayer, h.sameBet, h.ownerWins⟩⟩

structure Settling where
  bank : ContractAddress
  felt : Felt
  seed : Felt

structure MessagesRead where
  sessionId : String
  params : PlayQuery
  messages : Option Json

section Conditions

variable (backend : Backend) (pool : Pool backend.system) (move : ServerMove)

def settling : Option Settling :=
  match calledBank backend pool move with
  | some (a, _, .settle felt seed) =>
      if (gameAt pool.shared.chain a felt).state = stateMatched then some ⟨a, felt, seed⟩
      else none
  | _ => none

variable {backend}

def messagesRead : Option MessagesRead :=
  match pool.exchange move with
  | some (.play id params, ⟨.readJson _, messages⟩) => some ⟨id, params, messages⟩
  | _ => none

/-- The session and the reveal of a play that has taken a commitment. -/
def reveal (t : Task backend.system) : Option (String × PlayQuery) :=
  match t.request with
  | .play id params =>
      if (t.history.findSome? (takenEntry id)).isSome then some (id, params) else none
  | _ => none

variable (backend)

/-- The prover returns what `play` emits. -/
def MessagesEmitted : Prop :=
  ∀ m ∈ messagesRead pool move, ∀ c ∈ lastEntry pool m.sessionId,
    (emittedFields backend c m.params).isSome ∧
      m.messages.bind payloadFields = emittedFields backend c m.params

/-- A game that is settled has the player and the bet that were revealed. -/
def RevealsFit : Prop :=
  ∀ s ∈ settling backend pool move, ∀ t ∈ pool.tasks, ∀ r ∈ reveal t,
    feltOf backend r.1 = some s.felt →
    RevealFits backend r.2 (gameAt pool.shared.chain s.bank s.felt).player
      (gameAt pool.shared.chain s.bank s.felt).bet s.seed

instance : Decidable (MessagesEmitted backend pool move) :=
  inferInstanceAs (Decidable (∀ m ∈ messagesRead pool move, _))

instance : Decidable (RevealsFit backend pool move) :=
  inferInstanceAs (Decidable (∀ s ∈ settling backend pool move, _))

end Conditions

variable {backend} {pool pool' : Pool backend.system} {move : ServerMove}

theorem mem_reports {id : String} {data : Json} (h : (id, data) ∈ reports pool) :
    ∃ params event, pool.Said (.play id params) ⟨.sendJson event data, ()⟩ := by
  obtain ⟨t, ht, hreport⟩ := List.mem_flatMap.mp h
  split at hreport
  · rename_i id' params hrequest
    obtain ⟨event, hevent, hdata⟩ := List.mem_filterMap.mp hreport
    split at hdata
    · cases hdata
      exact ⟨params, _, t, ht, hrequest, hevent⟩
    · cases hdata
  · cases hreport

theorem reveal_of_said {id : String} {params : PlayQuery} {c : BetCommitment}
    (h : pool.Said (.play id params) ⟨.removeCommitment id, some c⟩) :
    ∃ t ∈ pool.tasks, reveal t = some (id, params) := by
  obtain ⟨t, ht, hrequest, hevent⟩ := h
  refine ⟨t, ht, ?_⟩
  have hsome : (t.history.findSome? (takenEntry id)).isSome := by
    rw [List.findSome?_isSome_iff]
    exact ⟨_, hevent, by rw [takenEntry_eq_some_iff.mpr rfl]; rfl⟩
  simp only [reveal, hrequest, hsome, if_true]

/-- Where a payment comes from, and who gets it. -/
structure PaymentOrigin (backend : Backend) (pool : Pool backend.system) (p : BankPayment)
    (felt seed : Felt) (id : String) (params : PlayQuery) (c : BetCommitment) : Prop where
  call : p.call = .settle felt seed
  session : p.payment.session = some felt
  ofSession : feltOf backend id = some felt
  removed : pool.Said (.play id params) ⟨.removeCommitment id, some c⟩
  ofSeed : (backend.api.fromHex (lowerHex c.seedBlock)).toOption = some seed
  settled : (gameAt pool.shared.chain p.bank felt).state = stateSettled
  fits : RevealFits backend params (gameAt pool.shared.chain p.bank felt).player
    (gameAt pool.shared.chain p.bank felt).bet seed
  amount : p.payment.amount.toNat = 2 * (gameAt pool.shared.chain p.bank felt).amount.toNat
  recipient : p.payment.recipient =
    if coinOutcome backend.api.pedersen seed (gameAt pool.shared.chain p.bank felt).player.key =
      (gameAt pool.shared.chain p.bank felt).bet then
      (gameAt pool.shared.chain p.bank felt).player
    else backend.master

theorem gameAt_of_settled (h : Kept backend pool) (hstep : pool.step move = .ok pool')
    {a : ContractAddress} {felt : Felt}
    (hsettled : (gameAt pool.shared.chain a felt).state = stateSettled) :
    gameAt pool'.shared.chain a felt = gameAt pool.shared.chain a felt := by
  rcases game_of_step hstep h.owner a felt with hsame | ⟨caller, call, -, hgame⟩
  · exact hsame
  · generalize gameAt pool.shared.chain a felt = g at hgame hsettled
    generalize gameAt pool'.shared.chain a felt = g' at hgame
    cases hgame with
    | deposited caller amount seed bet g hempty =>
        exact absurd (hempty.symm.trans hsettled) (by decide)
    | matched g hdeposited => exact absurd (hdeposited.symm.trans hsettled) (by decide)
    | settled seed g hmatched => exact absurd (hmatched.symm.trans hsettled) (by decide)

theorem PaymentOrigin.step {p : BankPayment} {felt seed : Felt} {id : String} {params : PlayQuery}
    {c : BetCommitment} (h : PaymentOrigin backend pool p felt seed id params c)
    (hkept : Kept backend pool) (hstep : pool.step move = .ok pool') :
    PaymentOrigin backend pool' p felt seed id params c := by
  have hsame := gameAt_of_settled hkept hstep h.settled
  refine ⟨h.call, h.session, h.ofSession, Pool.said_of_step hstep h.removed, h.ofSeed, ?_, ?_, ?_,
    ?_⟩
  · rw [hsame]
    exact h.settled
  · rw [hsame]
    exact h.fits
  · rw [hsame]
    exact h.amount
  · rw [hsame]
    exact h.recipient

theorem paymentOrigin_of_called (h : Kept backend pool) (hstep : pool.step move = .ok pool')
    (hfits : RevealsFit backend pool move) {a caller : ContractAddress} {call : BankCall}
    {storage : Storage} {w : World}
    (hmove : calledBank backend pool move = some (a, caller, call))
    (hcalled : BankCalled backend pool.shared.chain pool'.shared.chain a caller call storage w)
    {payment : Payment} (hpayment : payment ∈ payments backend.api.pedersen
      ⟨pool.shared.chain.token, storage⟩ (.bank caller call)) :
    ∃ felt seed id params c,
      PaymentOrigin backend pool' ⟨a, call, payment⟩ felt seed id params c := by
  have hstorage := h.banks a storage hcalled.found
  have hat (felt : Felt) : gameAt pool.shared.chain a felt = game storage felt := by
    rw [gameAt, hcalled.found]
    rfl
  have hat' (felt : Felt) : gameAt pool'.shared.chain a felt = game w.bank felt := by
    rw [gameAt, hcalled.banks, Function.update_self]
    rfl
  cases call with
  | deposit felt amount seed bet => exact absurd hpayment List.not_mem_nil
  | matchDeposit felt => exact absurd hpayment List.not_mem_nil
  | withdraw =>
      have hcall := hcalled.called
      rw [CoinFlipBank.callBank, withdraw_eq_error (hstorage.playerBalance caller)] at hcall
      cases hcall
  | settle felt seed =>
      obtain ⟨howner, hmatched, payout, token, hpayout, -, rfl⟩ := settle_eq_ok_iff.mp hcalled.called
      have hmaster : caller = backend.master := howner.trans hstorage.ownerKept
      simp only [payments, hpayout, Option.toList_some, List.map_cons, List.map_nil,
        List.mem_singleton] at hpayment
      subst hpayment
      rw [hmaster] at hmove
      cases masterCall_of_called h hmove with
      | @settled id params c bank _ _ _ _ hremoved hfelt hseed =>
          obtain ⟨t, ht, hreveal⟩ := reveal_of_said hremoved
          have hsettling : settling backend pool move = some ⟨a, felt, seed⟩ := by
            rw [settling, hmove]
            apply if_pos
            rw [hat]
            exact hmatched
          have hfit := hfits _ hsettling t ht _ hreveal hfelt
          rw [hat] at hfit
          refine ⟨felt, seed, id, params, c, rfl, rfl, hfelt, Pool.said_of_step hstep hremoved,
            hseed, ?_, ?_, ?_, ?_⟩
          · rw [hat', game_writeState, if_pos rfl]
          · rw [hat', game_writeState, if_pos rfl]
            exact hfit
          · rw [hat', game_writeState, if_pos rfl]
            exact toNat_payout hpayout
          · rw [hat', game_writeState, if_pos rfl, ← hstorage.ownerKept]
            rfl

/-- Payments have their origin, and the messages that a play has read are those
of `play`. -/
structure Reporting (backend : Backend) (pool : Pool backend.system) : Prop where
  kept : Kept backend pool
  read : ∀ id params path messages, pool.Said (.play id params) ⟨.readJson path, messages⟩ →
    ∃ c, pool.Said (.play id params) ⟨.removeCommitment id, some c⟩ ∧
      (emittedFields backend c params).isSome ∧
      messages.bind payloadFields = emittedFields backend c params
  paid : ∀ p ∈ pool.shared.chain.payments, ∃ felt seed id params c,
    PaymentOrigin backend pool p felt seed id params c

theorem Reporting.step (h : Reporting backend pool) (hemitted : MessagesEmitted backend pool move)
    (hfits : RevealsFit backend pool move) (hstep : pool.step move = .ok pool') :
    Reporting backend pool' := by
  refine ⟨h.kept.step hstep, ?_, ?_⟩
  · intro id params path messages hsaid
    rcases (Pool.said_iff_of_step hstep).mp hsaid with hold | hnow
    · obtain ⟨c, hremoved, hfields⟩ := h.read id params path messages hold
      exact ⟨c, Pool.said_of_step hstep hremoved, hfields⟩
    · obtain ⟨before, ⟨-, c, hremoved⟩, hbefore⟩ :=
        Pool.asked_of_exchange hnow (reportAsked_play backend id params)
      have hsaid := hbefore _ hremoved
      have hlast : lastEntry pool id = some c :=
        (lastEntry_eq_some_iff h.kept).mpr (Or.inr ⟨_, hsaid⟩)
      have hread : messagesRead pool move = some ⟨id, params, messages⟩ := by
        rw [messagesRead, hnow]
      exact ⟨c, Pool.said_of_step hstep hsaid, hemitted _ hread c hlast⟩
  · have hold (p : BankPayment) (hp : p ∈ pool.shared.chain.payments) :
        ∃ felt seed id params c, PaymentOrigin backend pool' p felt seed id params c := by
      obtain ⟨felt, seed, id, params, c, horigin⟩ := h.paid p hp
      exact ⟨felt, seed, id, params, c, horigin.step h.kept hstep⟩
    rcases bank_of_step hstep with ⟨-, -, hpayments⟩ |
      ⟨a, caller, call, storage, w, hmove, hcalled⟩ | ⟨a, classHash, word, salt, owner, hdeployed⟩
    · rwa [hpayments]
    · intro p hp
      rw [hcalled.payments] at hp
      rcases List.mem_append.mp hp with hbefore | hnew
      · exact hold p hbefore
      · obtain ⟨payment, hpayment, rfl⟩ := List.mem_map.mp hnew
        exact paymentOrigin_of_called h.kept hstep hfits hmove hcalled hpayment
    · rwa [hdeployed.payments]

theorem Reporting.run (hfresh : Fresh backend pool) {moves : List ServerMove}
    (hmoves : AllMeet Pool.step
      (fun pool move => MessagesEmitted backend pool move ∧ RevealsFit backend pool move)
      pool moves) : Reporting backend (after pool moves) := by
  apply run_keeps_while (fun _ _ _ hmeets h hstep => h.step hmeets.1 hmeets.2 hstep) _ hmoves
  refine ⟨.fresh hfresh, ?_, ?_⟩
  · exact fun id params path messages hsaid => absurd hsaid (hfresh.not_said _ _)
  · rw [hfresh.payments]
    exact fun p hp => absurd hp List.not_mem_nil

theorem memberText_resultJson_outcome (task : PlayTask) (settlement : Settlement)
    (txHash settleTxHash : String) (proofSize : Nat) :
    memberText (resultJson task settlement txHash settleTxHash proofSize) "outcome" =
      settlement.outcomeLabel := rfl

theorem reportedWon_resultJson (task : PlayTask) (settlement : Settlement)
    (txHash settleTxHash : String) (proofSize : Nat) :
    reportedWon (resultJson task settlement txHash settleTxHash proofSize) = settlement.won := rfl

/-- In a run in which the prover returns what `play` emits and games are settled
with the player and the bet that were revealed. -/
theorem results_paid (hreads : ReadsHex backend.api.fromHex) (hfresh : Fresh backend pool)
    (moves : List ServerMove)
    (hmoves : AllMeet Pool.step
      (fun pool move => MessagesEmitted backend pool move ∧ RevealsFit backend pool move)
      pool moves) : ResultsPaid backend (after pool moves) := by
  rintro ⟨id, data⟩ hreport p hp felt hfelt hsession
  have h : Reporting backend (after pool moves) := .run hfresh hmoves
  obtain ⟨felt', seed, id', params, c, horigin⟩ := h.paid p hp
  obtain rfl : felt' = felt := Option.some.inj (horigin.session.symm.trans hsession)
  -- the report is by the play that the payment comes from
  obtain ⟨params', event, hsaid⟩ := mem_reports hreport
  obtain ⟨before, ⟨c', deployment, messages, txHash, settleTxHash, proofSize, hremoved, hread,
    rfl⟩, hbefore⟩ := hsaid.asked (reportAsked_play backend id params')
  have hsaid' := hbefore _ hremoved
  obtain rfl : id = id' := eq_of_feltOf_eq hreads
    (h.kept.issued _ (h.kept.removed _ _ _ hsaid').1)
    (h.kept.issued _ (h.kept.removed _ _ _ horigin.removed).1) hfelt horigin.ofSession
  obtain ⟨hrequest, rfl⟩ := h.kept.taken id _ _ _ _ hsaid' horigin.removed
  cases hrequest
  obtain ⟨c'', hremoved'', hsome, hfields⟩ := h.read id params _ messages (hbefore _ hread)
  obtain rfl : c' = c'' := (h.kept.taken id _ _ _ _ hsaid' hremoved'').2
  have hfields' : emittedFields backend c' params = some ((play backend.api.pedersen seed
      (gameAt (after pool moves).shared.chain p.bank felt').player.key
      (Felt.fromNat params.side.toNat)).payload.map feltHex) := by
    simp only [emittedFields, horigin.ofSeed, horigin.fits.samePlayer, Option.bind_eq_bind,
      Option.bind_some]
  have hsettlement := readSettlement_play (hfields.trans hfields')
  have hrecipient := horigin.recipient
  rw [← horigin.fits.sameBet] at hsettlement
  rw [hsettlement, Option.getD_some]
  refine ⟨?_, seed, horigin.call, memberText_resultJson_outcome ..⟩
  rw [reportedWon_resultJson, decide_eq_true_eq]
  constructor
  · intro hwon
    rw [if_pos hwon] at hrecipient
    exact ⟨hrecipient, horigin.amount⟩
  · rintro ⟨hplayer, -⟩
    by_contra hlost
    rw [if_neg hlost] at hrecipient
    exact hlost (horigin.fits.ownerWins (hplayer.symm.trans hrecipient))

/-- The prover returns the message of `play` for the sample player. -/
def proving (bet : Felt) : (request : Ask) → Answer request
  | .readJson _ => some (rawMessages [(5, play sampleApi.pedersen 11 3 bet)])
  | request => smoothly 11 request

/-- A bet on one side that is deposited as one on another, played to its end. -/
def playedBet (commitment : String) (side : U8) (deposited : Felt) : List ServerMove := [
  .arrive (.commit ⟨commitment, "0x3"⟩),
  .advance 0 (smoothly 11),
  .outside (.callBank BankAccounting.bankAddress BankAccounting.playerAddress
    (.deposit 5 10 0 deposited))] ++ sampleConfirm 1 ++
  .arrive (.play sampleSession ⟨"0x3", side, "0x1"⟩) ::
    List.replicate 31 (.advance 2 (proving (Felt.fromNat side.toNat))) ++
  .outside (.execute 1 0) ::
    List.replicate 5 (.advance 2 (proving (Felt.fromNat side.toNat)))

theorem results_paid_playedBet :
    ResultsPaid sample (after sampleStart (playedBet "0x1" 0 0)) := by
  apply results_paid readsHex_hexFelt fresh_sampleStart
  decide +kernel

/-- A bet on tails that is deposited with the placeholder is reported as lost, and
the bank pays it. -/
theorem lost_bet_is_paid :
    ¬ ∀ (backend : Backend) (pool : Pool backend.system) (moves : List ServerMove),
      ReadsHex backend.api.fromHex → Fresh backend pool →
      AllMeet Pool.step (MessagesEmitted backend) pool moves →
      ResultsPaid backend (after pool moves) := by
  intro hclaim
  have hpaid := hclaim sample sampleStart (playedBet "0x2" 1 0) readsHex_hexFelt
    fresh_sampleStart (by decide +kernel)
  have hreport : ∃ report ∈ reports (after sampleStart (playedBet "0x2" 1 0)),
      report.1 = sampleSession ∧ reportedWon report.2 = false := by decide +kernel
  have hpayment : ∃ p ∈ (after sampleStart (playedBet "0x2" 1 0)).shared.chain.payments,
      p.payment.session = some 5 ∧ p.payment.amount = 20 ∧
      p.payment.recipient = BankAccounting.playerAddress ∧
      (gameAt (after sampleStart (playedBet "0x2" 1 0)).shared.chain p.bank 5).player =
        BankAccounting.playerAddress ∧
      (gameAt (after sampleStart (playedBet "0x2" 1 0)).shared.chain p.bank 5).amount = 10 := by
    decide +kernel
  obtain ⟨report, hmem, hsession, hlost⟩ := hreport
  obtain ⟨p, hp, hfelt, htwice, hrecipient, hplayer, hamount⟩ := hpayment
  have hagrees := hpaid report hmem p hp 5 (by rw [hsession]; decide +kernel) hfelt
  have hwon := hagrees.won.mpr ⟨by rw [hrecipient, hplayer], by rw [htwice, hamount]; decide⟩
  rw [hlost] at hwon
  cases hwon

end Snip36.ReportedResult
