import Snip36.OneTimeDeployment
import Snip36.RevealVerification

/-!
The page of the coin flip: it makes sure that there is a contract, commits to a
bet and, when it has been told its session, reveals the bet. Meanwhile the server
serves everybody else.
-/

namespace Snip36.FlipPage

open CoinFlipPlay
open CoinFlipRoutes
open CoinFlipServer
open CoinFlipState
open HandlerAsks
open Library.Hex
open Library.Interaction
open Library.Interaction.Program
open Library.Interleaving
open Library.Reverting
open OneTimeDeployment
open Payload
open RevealVerification
open RouteFailures
open ServerInvariant
open ServerSteps
open SessionGames

/-! ### The page -/

/-- A bet of the player, with the bytes that were drawn for its nonce. -/
structure Flip where
  address : String
  bet : U8
  nonceBytes : List U8
  isSide : bet = 0 ∨ bet = 1
  drawn : nonceBytes.length = 31

/-- What the page waits for. -/
inductive Page where
  | idle
  | undeployed
  | deploying (task : Nat)
  | ready
  | committing (task : Nat)
  | playing (sessionId : String) (task : Nat)
  | failed
  deriving DecidableEq

structure CoinFlipStatusResponse where
  deployed : Bool
  contractAddress : Option String

def coinflipStatus (shared : Shared) : CoinFlipStatusResponse :=
  match shared.coinflip with
  | some d => ⟨true, some d.contractAddress⟩
  | none => ⟨false, none⟩

namespace Flip

variable (flip : Flip)

def nonce : String := hexBytes (flip.nonceBytes.map BitVec.toNat)

variable (computePedersenHash : String → String → String)

def commitment : String := computePedersenHash (lowerHex flip.bet.toNat) flip.nonce

def commitRequest : CommitRequest := ⟨flip.commitment computePedersenHash, flip.address⟩

def playQuery : PlayQuery := ⟨flip.address, flip.bet, flip.nonce⟩

end Flip

/-- The server and one page. -/
structure World (backend : Backend) where
  pool : Pool backend.system
  page : Page

inductive WorldMove where
  | server (move : ServerMove)
  | page

section Steps

variable {backend : Backend} (flip : Flip) (computePedersenHash : String → String → String)

def outcomeOf (pool : Pool backend.system) (task : Nat) : Option (Outcome Failure Response) :=
  pool.tasks[task]?.bind Task.outcome?

/-- The page sends a request and goes on to wait for the answer. -/
def send (pool : Pool backend.system) (request : Request) (page : Nat → Page) : World backend :=
  ⟨{ pool with tasks := pool.tasks ++ [.start backend.system request] }, page pool.tasks.length⟩

/-- `handleFlip`. -/
def pageStep (world : World backend) : Except Unit (World backend) :=
  match world.page with
  | .idle =>
      if (coinflipStatus world.pool.shared).deployed then .ok ⟨world.pool, .ready⟩
      else .ok ⟨world.pool, .undeployed⟩
  | .undeployed => .ok (send world.pool .deployCoinflip .deploying)
  | .deploying task =>
      match outcomeOf world.pool task with
      | none => .error ()
      | some (.ok _) => .ok ⟨world.pool, .ready⟩
      | some _ => .ok ⟨world.pool, .failed⟩
  | .ready =>
      .ok (send world.pool (.commit (flip.commitRequest computePedersenHash)) .committing)
  | .committing task =>
      match outcomeOf world.pool task with
      | none => .error ()
      | some (.ok (.committed sessionId _)) =>
          .ok (send world.pool (.play sessionId flip.playQuery) (.playing sessionId))
      | some _ => .ok ⟨world.pool, .failed⟩
  | .playing _ _ => .error ()
  | .failed => .error ()

def worldStep (world : World backend) : WorldMove → Except Unit (World backend)
  | .server move => (world.pool.step move).map fun pool => ⟨pool, world.page⟩
  | .page => pageStep flip computePedersenHash world

/-- The page is opened on a running server. -/
def play (pool : Pool backend.system) (moves : List WorldMove) : World backend :=
  run (worldStep flip computePedersenHash) ⟨pool, .idle⟩ moves

end Steps

/-! ### The reveal -/

/-- The library of the page hashes as the server does. It prints no digit for zero. -/
def HashesAlike (pedersen : Felt → Felt → Felt)
    (computePedersenHash : String → String → String) : Prop :=
  ∀ a b x y, parseHex a = some x → parseHex b = some y → x < starkPrime → y < starkPrime →
    pedersen (Felt.fromNat x) (Felt.fromNat y) ≠ 0 →
    computePedersenHash a b = feltHex (pedersen (Felt.fromNat x) (Felt.fromNat y))

namespace Flip

variable (flip : Flip)

def nonceValue : Nat := Nat.ofDigits 256 (flip.nonceBytes.map BitVec.toNat).reverse

/-- What the page commits to, unless it is zero. -/
def Hashed (pedersen : Felt → Felt → Felt) : Felt :=
  pedersen (Felt.fromNat flip.bet.toNat) (Felt.fromNat flip.nonceValue)

theorem byte_lt {bytes : List U8} : ∀ b ∈ bytes.map BitVec.toNat, b < 256 := by
  intro b hb
  obtain ⟨byte, -, rfl⟩ := List.mem_map.mp hb
  exact byte.isLt

theorem parseHex_nonce : parseHex flip.nonce = some flip.nonceValue := by
  have hne : flip.nonceBytes.map BitVec.toNat ≠ [] := by
    intro hnil
    have hlength := flip.drawn
    rw [List.map_eq_nil_iff.mp hnil] at hlength
    cases hlength
  exact parseHex_hexBytes hne byte_lt

theorem length_nonce : flip.nonce.length ≤ 66 := by
  have hlength : flip.nonce.length = 2 * (flip.nonceBytes.map BitVec.toNat).length + 2 :=
    length_hexBytes byte_lt
  rw [List.length_map, flip.drawn] at hlength
  omega

theorem nonceValue_lt : flip.nonceValue < starkPrime := by
  have hdigits : ∀ b ∈ (flip.nonceBytes.map BitVec.toNat).reverse, b < 256 :=
    fun b hb => byte_lt b (List.mem_reverse.mp hb)
  have hlt := Nat.ofDigits_lt_base_pow_length (by decide : 1 < 256) hdigits
  rw [List.length_reverse, List.length_map, flip.drawn] at hlt
  exact lt_starkPrime (hlt.trans (by decide))

theorem side_playQuery : flip.playQuery.side = flip.bet := by
  rcases flip.isSide with hbet | hbet
  · simp [playQuery, PlayQuery.side, hbet]
  · simp [playQuery, PlayQuery.side, hbet]

/-- The entry that the commitment of the page makes. -/
def IsEntry (computePedersenHash : String → String → String) (c : BetCommitment) : Prop :=
  c.player = flip.address ∧ c.commitment = flip.commitment computePedersenHash

/-- The page opens its own commitment. -/
theorem verifyReveal_playQuery {api : ServerApi} (hreads : ReadsHex api.fromHex)
    {computePedersenHash : String → String → String}
    (hhash : HashesAlike api.pedersen computePedersenHash) (hne : flip.Hashed api.pedersen ≠ 0)
    {c : BetCommitment} (hc : flip.IsEntry computePedersenHash c) :
    verifyReveal api c flip.playQuery = .ok () := by
  obtain ⟨hplayer, hcommitment⟩ := hc
  have hbet : flip.bet.toNat < starkPrime := lt_starkPrime (flip.bet.isLt.trans (by decide))
  have hnonce : feltFromHex api.fromHex flip.nonce = .ok (Felt.fromNat flip.nonceValue) := by
    rw [feltFromHex, hreads _ _ flip.length_nonce flip.parseHex_nonce flip.nonceValue_lt]
    rfl
  refine (verifyReveal_eq_ok_iff _).mpr ⟨hplayer.symm, _, hnonce, ?_⟩
  rw [side_playQuery, hcommitment, commitment, hhash _ _ _ _ (parseHex_lowerHex _)
    flip.parseHex_nonce hbet flip.nonceValue_lt hne]

end Flip

/-! ### What the server remembers for the page -/

section Server

variable {backend : Backend} {pool pool' : Pool backend.system} {move : ServerMove}
  {flip : Flip} {computePedersenHash : String → String → String} {id : String}

/-- A contract that a handler has found or stored is there. -/
structure Told (pool : Pool backend.system) : Prop where
  found : ∀ q contract d, pool.Said q ⟨.readDeployment contract, some d⟩ →
    (pool.shared.deployment contract).isSome
  written : ∀ q contract d, pool.Said q ⟨.writeDeployment contract d, ()⟩ →
    (pool.shared.deployment contract).isSome

theorem Told.fresh (h : Fresh backend pool) : Told pool :=
  ⟨fun _ _ _ hsaid => absurd hsaid (h.not_said _ _), fun _ _ _ hsaid => absurd hsaid (h.not_said _ _)⟩

theorem Told.step (h : Told pool) (hstep : pool.step move = .ok pool') : Told pool' := by
  constructor
  · intro q contract d hsaid
    rcases (Pool.said_iff_of_step hstep).mp hsaid with hold | hnow
    · exact isSome_of_step hstep (h.found q contract d hold)
    · obtain ⟨offered, hserved⟩ := served_of_exchange hstep hnow
      obtain ⟨hd, hshared⟩ := Prod.mk.inj (Option.some.inj hserved)
      rw [← hshared, hd]
      rfl
  · intro q contract d hsaid
    rcases (Pool.said_iff_of_step hstep).mp hsaid with hold | hnow
    · exact isSome_of_step hstep (h.written q contract d hold)
    · obtain ⟨offered, hserved⟩ := served_of_exchange hstep hnow
      rw [← (serve_writeDeployment_eq_some_iff.mp hserved).2]
      cases contract <;> rfl

/-- A deployment that has been answered has left its contract. -/
theorem Told.deployed (h : Told pool) {t : Task backend.system} (ht : t ∈ pool.tasks)
    {contract : Contract} (hrequest : t.request = deployRequest contract) {response : Response}
    (houtcome : t.outcome? = some (.ok response)) :
    (pool.shared.deployment contract).isSome := by
  have hreturns : Returning (DeployReturns contract) t.history (.ok response) :=
    Task.ends_of_outcome (hrequest ▸ deployAsked_handler backend contract) houtcome
  obtain ⟨d, -, hread | hwrite⟩ := hreturns response rfl
  · exact h.found t.request contract d ⟨t, ht, rfl, hread⟩
  · exact h.written t.request contract d ⟨t, ht, rfl, hwrite⟩

/-- The commitment of the page is stored under the id. -/
def Stored (flip : Flip) (computePedersenHash : String → String → String) (id : String)
    (shared : Shared) : Prop :=
  ∃ c, shared.commitments id = some c ∧ flip.IsEntry computePedersenHash c

/-- It stays until it is taken out. -/
theorem Stored.step (h : Stored flip computePedersenHash id pool.shared)
    (hkept : Kept backend pool) (hstep : pool.step move = .ok pool')
    (hremoval : ∀ q entry, pool.exchange move ≠ some (q, ⟨.removeCommitment id, entry⟩)) :
    Stored flip computePedersenHash id pool'.shared := by
  obtain ⟨c, hc, hentry⟩ := h
  rcases entry_of_step hstep id with hsame | ⟨q, event, hexchange, hchange⟩
  · exact ⟨c, hsame.trans hc, hentry⟩
  · rw [hc] at hchange
    generalize hafter : pool'.shared.commitments id = after at hchange
    cases hchange with
    | insert entry before hid hnew => exact absurd (hkept.entries id c hc).1 hnew
    | remove before => exact absurd hexchange (hremoval q _)
    | quote amount c => exact ⟨_, hafter, hentry⟩
    | seed block c => exact ⟨_, hafter, hentry⟩

/-- Nobody has asked to play the session. Whatever the page has committed to it is
there. -/
structure Unplayed (flip : Flip) (computePedersenHash : String → String → String) (id : String)
    (pool : Pool backend.system) : Prop where
  secret : ∀ t ∈ pool.tasks, ∀ params, t.request ≠ .play id params
  stored : ∀ entry, pool.Said (.commit (flip.commitRequest computePedersenHash))
    ⟨.insertSession entry, id⟩ → Stored flip computePedersenHash id pool.shared

theorem Unplayed.fresh (h : Fresh backend pool) : Unplayed flip computePedersenHash id pool :=
  ⟨fun t ht => absurd ht (h.notMem_tasks t), fun _ hsaid => absurd hsaid (h.not_said _ _)⟩

theorem Unplayed.step (h : Unplayed flip computePedersenHash id pool) (hkept : Kept backend pool)
    (hstep : pool.step move = .ok pool') (hmove : ∀ params, move ≠ .arrive (.play id params)) :
    Unplayed flip computePedersenHash id pool' := by
  constructor
  · intro t ht params hrequest
    obtain ⟨i, hi⟩ := List.getElem?_of_mem ht
    rcases Pool.request_of_step hstep hi with ⟨s, hs, hsame⟩ | harrive
    · exact h.secret s (List.mem_of_getElem? hs) params (hsame.trans hrequest)
    · exact hmove params (harrive.trans (congrArg _ hrequest))
  · intro entry hsaid
    rcases (Pool.said_iff_of_step hstep).mp hsaid with hold | hnow
    · apply (h.stored entry hold).step hkept hstep
      intro q taken hexchange
      obtain ⟨said, ⟨⟨params, rfl⟩, -⟩, -⟩ := allowed_of_exchange hexchange
      obtain ⟨_, i, answers, t, t', -, hrequest, -, hadvance⟩ := Pool.advances_of_exchange hexchange
      exact h.secret t hadvance.mem params hrequest
    · obtain ⟨offered, hserved⟩ := served_of_exchange hstep hnow
      obtain ⟨said, ⟨req, hreq, rfl⟩, -⟩ := allowed_of_exchange hnow
      cases hreq
      simp only [serve] at hserved
      split at hserved
      · obtain ⟨hid, hshared⟩ := Prod.mk.inj (Option.some.inj hserved)
        rw [← hshared, hid]
        exact ⟨_, Function.update_self .., rfl, rfl⟩
      · cases hserved

/-! ### The play of the page -/

def RemovesSecond (history : History Ask Answer) : Ask → Prop
  | .removeCommitment _ => history.length = 1
  | _ => True

theorem removesSecond_play (api : ServerApi) (config : Config) (sessionId : String)
    (params : PlayQuery) : Throughout RemovesSecond (Returning fun _ _ => True) []
      (playCoinflip api config sessionId params) := by
  apply throughout_playCoinflip
  · trivial
  · exact fun found => rfl
  · intro deployment c
    apply throughout_of_onlyAsks (onlyAsks_runPlay _ _ _)
    · intro said request _ hrequest
      cases request with
      | removeCommitment id => exact hrequest.elim
      | _ => trivial
    · exact fun _ _ _ _ _ => trivial

/-- Why a play is answered with an error. -/
def RejectedFor (api : ServerApi) (sessionId : String) (params : PlayQuery)
    (history : History Ask Answer) (outcome : Outcome Failure Response) : Prop :=
  ∀ status detail, outcome = .err (.response status detail) →
    (⟨.readDeployment .coinFlip, none⟩ : Event Ask Answer) ∈ history ∨
      (⟨.removeCommitment sessionId, none⟩ : Event Ask Answer) ∈ history ∨
      ∃ c, (⟨.removeCommitment sessionId, some c⟩ : Event Ask Answer) ∈ history ∧
        verifyReveal api c params ≠ .ok ()

theorem rejectedFor_play (api : ServerApi) (config : Config) (sessionId : String)
    (params : PlayQuery) : Throughout (fun _ _ => True) (RejectedFor api sessionId params) []
      (playCoinflip api config sessionId params) := by
  refine ⟨trivial, fun found => ?_⟩
  cases found with
  | none => exact fun _ _ _ => Or.inl (by simp)
  | some deployment =>
      refine ⟨trivial, fun taken => ?_⟩
      cases taken with
      | none => exact fun _ _ _ => Or.inr (Or.inl (by simp))
      | some c =>
          dsimp only [orFail, Program.bind, Program.pure_bind]
          cases hverify : verifyReveal api c params with
          | error failure =>
              exact fun _ _ _ => Or.inr (Or.inr ⟨c, by simp, by simp [hverify]⟩)
          | ok u =>
              apply (throughout_of_onlyFails (onlyFails_runPlay api config _)).mono
              · exact fun _ _ _ hasks => hasks
              · intro later outcome _ hends status detail houtcome
                exact (hends _ houtcome).elim

/-- The request of the page is handled: as long as the commitment has not been
taken out it is there, and what has been found is what the page has made. -/
structure Goes (flip : Flip) (computePedersenHash : String → String → String) (id : String)
    (shared : Shared) (t : Task backend.system) : Prop where
  request : t.request = .play id flip.playQuery
  waiting : t.history.length ≤ 1 → Stored flip computePedersenHash id shared
  found : ∀ d, (⟨.readDeployment .coinFlip, d⟩ : Event Ask Answer) ∈ t.history → d.isSome
  taken : ∀ entry, (⟨.removeCommitment id, entry⟩ : Event Ask Answer) ∈ t.history →
    ∃ c, entry = some c ∧ flip.IsEntry computePedersenHash c

/-- The page alone has asked to play the session. -/
structure Played (flip : Flip) (computePedersenHash : String → String → String) (id : String)
    (pool : Pool backend.system) (i : Nat) : Prop where
  only : ∀ j t params, pool.tasks[j]? = some t → t.request = .play id params → j = i
  goes : ∃ t, pool.tasks[i]? = some t ∧ Goes flip computePedersenHash id pool.shared t

theorem Goes.advance {t t' : Task backend.system} {answers : (request : Ask) → Answer request}
    {i : Nat} {request : Ask} {answer : Answer request}
    (h : Goes flip computePedersenHash id pool.shared t) (hkept : Kept backend pool)
    (hdeployed : (pool.shared.deployment .coinFlip).isSome)
    (hstep : pool.step (.advance i answers) = .ok pool')
    (hadvance : Pool.Advances pool pool' answers i t t' request answer) :
    Goes flip computePedersenHash id pool'.shared t' := by
  have hsecond : RemovesSecond t.history request := by
    apply hadvance.asked
    rw [h.request]
    exact removesSecond_play _ _ _ _
  refine ⟨hadvance.sameRequest.trans h.request, fun hlength => ?_, fun d hd => ?_,
    fun entry hentry => ?_⟩
  · rw [hadvance.history, List.length_append, List.length_singleton] at hlength
    apply (h.waiting (by omega)).step hkept hstep
    intro q entry hexchange
    -- the first request is not the removal
    rw [hadvance.exchange] at hexchange
    obtain ⟨-, hevent⟩ := Prod.mk.inj (Option.some.inj hexchange)
    cases hevent
    have hone : t.history.length = 1 := hsecond
    omega
  · rw [hadvance.history] at hd
    rcases List.mem_append.mp hd with hold | hnow
    · exact h.found d hold
    · cases List.mem_singleton.mp hnow
      obtain ⟨hsome, -⟩ := Prod.mk.inj (Option.some.inj hadvance.served)
      rwa [← hsome]
  · rw [hadvance.history] at hentry
    rcases List.mem_append.mp hentry with hold | hnow
    · exact h.taken entry hold
    · cases List.mem_singleton.mp hnow
      have hone : t.history.length = 1 := hsecond
      obtain ⟨c, hc, hmade⟩ := h.waiting hone.le
      exact ⟨c, (entry_of_removal hadvance.exchange).symm.trans hc, hmade⟩

theorem Played.step {i : Nat} (h : Played flip computePedersenHash id pool i)
    (hkept : Kept backend pool) (hdeployed : (pool.shared.deployment .coinFlip).isSome)
    (hstep : pool.step move = .ok pool') (hmove : ∀ params, move ≠ .arrive (.play id params)) :
    Played flip computePedersenHash id pool' i := by
  constructor
  · intro j t params ht hrequest
    rcases Pool.request_of_step hstep ht with ⟨s, hs, hsame⟩ | harrive
    · exact h.only j s params hs (hsame.trans hrequest)
    · exact absurd (harrive.trans (congrArg _ hrequest)) (hmove params)
  · obtain ⟨t, ht, hgoes⟩ := h.goes
    rcases Pool.found_of_step hstep ht with
      ⟨hother, hsame⟩ | ⟨answers, t', request, answer, rfl, ht', hadvance⟩
    · refine ⟨t, hsame, { hgoes with waiting := fun hlength => ?_ }⟩
      apply (hgoes.waiting hlength).step hkept hstep
      intro q entry hexchange
      obtain ⟨said, ⟨⟨params, rfl⟩, -⟩, -⟩ := allowed_of_exchange hexchange
      obtain ⟨_, j, answers, u, _, hadvances, hrequest, -, hadvance⟩ :=
        Pool.advances_of_exchange hexchange
      obtain rfl := h.only j u params hadvance.found hrequest
      exact hother answers hadvances
    · exact ⟨t', ht', hgoes.advance hkept hdeployed hstep hadvance⟩

end Server

/-! ### The page beside the server -/

section Page

variable {backend : Backend} {world world' : World backend} {flip : Flip}
  {computePedersenHash : String → String → String} {id : String}

def AtWork (pool : Pool backend.system) (task : Nat) (request : Request) : Prop :=
  ∃ t, pool.tasks[task]? = some t ∧ t.request = request

/-- What is known of a session wherever the page is. -/
def Holds (flip : Flip) (computePedersenHash : String → String → String) (id : String)
    (pool : Pool backend.system) : Page → Prop
  | .idle => Unplayed flip computePedersenHash id pool
  | .undeployed => Unplayed flip computePedersenHash id pool
  | .deploying task => Unplayed flip computePedersenHash id pool ∧ AtWork pool task .deployCoinflip
  | .ready => Unplayed flip computePedersenHash id pool ∧
      (pool.shared.deployment .coinFlip).isSome
  | .committing task => Unplayed flip computePedersenHash id pool ∧
      (pool.shared.deployment .coinFlip).isSome ∧
      AtWork pool task (.commit (flip.commitRequest computePedersenHash))
  | .playing sessionId task =>
      if sessionId = id then
        (pool.shared.deployment .coinFlip).isSome ∧ Played flip computePedersenHash id pool task
      else Unplayed flip computePedersenHash id pool
  | .failed => Unplayed flip computePedersenHash id pool

structure PageKept (flip : Flip) (computePedersenHash : String → String → String) (id : String)
    (world : World backend) : Prop where
  kept : Kept backend world.pool
  told : Told world.pool
  page : Holds flip computePedersenHash id world.pool world.page

theorem AtWork.step {pool pool' : Pool backend.system} {move : ServerMove} {task : Nat}
    {request : Request} (h : AtWork pool task request) (hstep : pool.step move = .ok pool') :
    AtWork pool' task request := by
  obtain ⟨t, ht, hrequest⟩ := h
  rcases Pool.found_of_step hstep ht with ⟨-, hsame⟩ | ⟨_, t', _, _, -, ht', hadvance⟩
  · exact ⟨t, hsame, hrequest⟩
  · exact ⟨t', ht', hadvance.sameRequest.trans hrequest⟩

theorem PageKept.server (h : PageKept flip computePedersenHash id world) {move : ServerMove}
    {pool' : Pool backend.system} (hstep : world.pool.step move = .ok pool')
    (hmove : ∀ params, move ≠ .arrive (.play id params)) :
    PageKept flip computePedersenHash id ⟨pool', world.page⟩ := by
  obtain ⟨pool, page⟩ := world
  obtain ⟨hkept, htold, hpage⟩ := h
  have hunplayed (h : Unplayed flip computePedersenHash id pool) :
      Unplayed flip computePedersenHash id pool' := h.step hkept hstep hmove
  refine ⟨hkept.step hstep, htold.step hstep, ?_⟩
  cases page with
  | idle => exact hunplayed hpage
  | undeployed => exact hunplayed hpage
  | deploying task => exact ⟨hunplayed hpage.1, hpage.2.step hstep⟩
  | ready => exact ⟨hunplayed hpage.1, isSome_of_step hstep hpage.2⟩
  | committing task =>
      exact ⟨hunplayed hpage.1, isSome_of_step hstep hpage.2.1, hpage.2.2.step hstep⟩
  | playing sessionId task =>
      simp only [Holds] at hpage ⊢
      split at hpage
      · next hid =>
        rw [if_pos hid]
        exact ⟨isSome_of_step hstep hpage.1, hpage.2.step hkept hpage.1 hstep hmove⟩
      · next hid =>
        rw [if_neg hid]
        exact hunplayed hpage
  | failed => exact hunplayed hpage

theorem atWork_send (pool : Pool backend.system) (request : Request) (page : Nat → Page) :
    AtWork (send pool request page).pool pool.tasks.length request :=
  ⟨_, List.getElem?_concat_length, rfl⟩

/-- The session that the page is told is the one that its commitment was stored for. -/
theorem stored_of_committed {pool : Pool backend.system} {task : Nat}
    (hunplayed : Unplayed flip computePedersenHash id pool)
    (hwork : AtWork pool task (.commit (flip.commitRequest computePedersenHash))) {seedBlock : Nat}
    (houtcome : outcomeOf pool task = some (.ok (.committed id seedBlock))) :
    Stored flip computePedersenHash id pool.shared := by
  obtain ⟨t, ht, hrequest⟩ := hwork
  rw [outcomeOf, ht] at houtcome
  have hcommit : Throughout (fun _ _ => True) (Returning fun history response =>
      ∃ sessionId entry, response = .committed sessionId 0 ∧
        (⟨.insertSession entry, sessionId⟩ : Event Ask Answer) ∈ history) []
      (backend.system.handler t.request) := by
    rw [hrequest]
    exact ⟨trivial, fun sessionId => returning_ok_iff.mpr
      ⟨sessionId, newCommitment _, rfl, List.mem_singleton_self _⟩⟩
  obtain ⟨sessionId, entry, hresponse, hevent⟩ := Task.ends_of_outcome hcommit houtcome _ rfl
  cases hresponse
  exact hunplayed.stored entry ⟨t, List.mem_of_getElem? ht, hrequest, hevent⟩

theorem played_send {pool : Pool backend.system} (hsecret : ∀ t ∈ pool.tasks, ∀ params,
      t.request ≠ .play id params) (hstored : Stored flip computePedersenHash id pool.shared) :
    Played flip computePedersenHash id
      (send pool (.play id flip.playQuery) (.playing id)).pool pool.tasks.length := by
  constructor
  · intro j t params ht hrequest
    rcases Nat.lt_or_ge j pool.tasks.length with hj | hj
    · have hold := (List.getElem?_append_left hj).symm.trans ht
      exact absurd hrequest (hsecret t (List.mem_of_getElem? hold) params)
    · have hj' := (List.getElem?_eq_some_iff.mp ht).1
      simp only [send, List.length_append, List.length_singleton] at hj'
      omega
  · exact ⟨_, List.getElem?_concat_length, rfl, fun _ => hstored, fun d hd => absurd hd List.not_mem_nil,
      fun entry hentry => absurd hentry List.not_mem_nil⟩

theorem PageKept.acts (h : PageKept flip computePedersenHash id world)
    (hstep : pageStep flip computePedersenHash world = .ok world') :
    PageKept flip computePedersenHash id world' := by
  obtain ⟨pool, page⟩ := world
  obtain ⟨hkept, htold, hpage⟩ := h
  have harrive (request : Request) (page : Nat → Page)
      (hrequest : ∀ params, request ≠ .play id params)
      (hunplayed : Unplayed flip computePedersenHash id pool) :
      Kept backend (send pool request page).pool ∧ Told (send pool request page).pool ∧
        Unplayed flip computePedersenHash id (send pool request page).pool := by
    have hstep : pool.step (.arrive request) = .ok (send pool request page).pool := rfl
    refine ⟨hkept.step hstep, htold.step hstep, hunplayed.step hkept hstep fun params heq => ?_⟩
    cases heq
    exact hrequest params rfl
  cases page with
  | idle =>
      simp only [pageStep] at hstep
      split at hstep
      · next hstatus =>
        cases hstep
        refine ⟨hkept, htold, hpage, ?_⟩
        change pool.shared.coinflip.isSome
        cases hd : pool.shared.coinflip with
        | none => simp [coinflipStatus, hd] at hstatus
        | some d => rfl
      · cases hstep
        exact ⟨hkept, htold, hpage⟩
  | undeployed =>
      cases hstep
      obtain ⟨hkept', htold', hunplayed⟩ := harrive .deployCoinflip .deploying nofun hpage
      exact ⟨hkept', htold', hunplayed, atWork_send _ _ _⟩
  | deploying task =>
      obtain ⟨hunplayed, t, ht, hrequest⟩ := hpage
      simp only [pageStep] at hstep
      split at hstep
      · cases hstep
      · next response houtcome =>
        cases hstep
        rw [outcomeOf, ht] at houtcome
        have hdeployed : (pool.shared.deployment .coinFlip).isSome :=
          htold.deployed (List.mem_of_getElem? ht) hrequest houtcome
        exact ⟨hkept, htold, hunplayed, hdeployed⟩
      · cases hstep
        exact ⟨hkept, htold, hunplayed⟩
  | ready =>
      cases hstep
      obtain ⟨hkept', htold', hunplayed⟩ :=
        harrive (.commit (flip.commitRequest computePedersenHash)) .committing nofun hpage.1
      exact ⟨hkept', htold', hunplayed, hpage.2, atWork_send _ _ _⟩
  | committing task =>
      obtain ⟨hunplayed, hdeployed, hwork⟩ := hpage
      simp only [pageStep] at hstep
      split at hstep
      · cases hstep
      · next sessionId seedBlock houtcome =>
        cases hstep
        have hstart : pool.step (.arrive (.play sessionId flip.playQuery)) =
          .ok (send pool (.play sessionId flip.playQuery) (.playing sessionId)).pool := rfl
        refine ⟨hkept.step hstart, htold.step hstart, ?_⟩
        change if sessionId = id then _ else _
        split
        · next hid =>
          subst hid
          exact ⟨hdeployed,
            played_send hunplayed.secret (stored_of_committed hunplayed hwork houtcome)⟩
        · next hid =>
          apply hunplayed.step hkept hstart
          intro params heq
          cases heq
          exact hid rfl
      · cases hstep
        exact ⟨hkept, htold, hunplayed⟩
  | playing sessionId task => cases hstep
  | failed => cases hstep

theorem PageKept.step (h : PageKept flip computePedersenHash id world) {move : WorldMove}
    (hmove : ∀ params, move ≠ .server (.arrive (.play id params)))
    (hstep : worldStep flip computePedersenHash world move = .ok world') :
    PageKept flip computePedersenHash id world' := by
  cases move with
  | server move =>
      simp only [worldStep] at hstep
      cases hpool : world.pool.step move with
      | error e =>
          rw [hpool] at hstep
          cases hstep
      | ok pool' =>
          rw [hpool] at hstep
          cases hstep
          exact h.server hpool fun params heq => hmove params (congrArg _ heq)
  | page => exact h.acts hstep

end Page

/-- Whatever else happens, the page that keeps its session to itself is never
refused: its play finds the contract and the commitment, and its reveal opens the
commitment. -/
theorem reveal_accepted {backend : Backend} (hreads : ReadsHex backend.api.fromHex)
    {computePedersenHash : String → String → String}
    (hhash : HashesAlike backend.api.pedersen computePedersenHash) {flip : Flip}
    (hne : flip.Hashed backend.api.pedersen ≠ 0) {pool : Pool backend.system}
    (hfresh : Fresh backend pool) {moves : List WorldMove} {sessionId : String} {task : Nat}
    (hpage : (play flip computePedersenHash pool moves).page = .playing sessionId task)
    (hsecret : ∀ params, .server (.arrive (.play sessionId params)) ∉ moves) :
    ∃ t, (play flip computePedersenHash pool moves).pool.tasks[task]? = some t ∧
      t.request = .play sessionId flip.playQuery ∧
      (∀ entry, (⟨.removeCommitment sessionId, entry⟩ : Event Ask Answer) ∈ t.history →
        ∃ c, entry = some c ∧ flip.IsEntry computePedersenHash c ∧
          verifyReveal backend.api c flip.playQuery = .ok ()) ∧
      ∀ status detail, t.outcome? ≠ some (.err (.response status detail)) := by
  have hkept : PageKept flip computePedersenHash sessionId
      (play flip computePedersenHash pool moves) := by
    have hothers : ∀ move ∈ moves, ∀ params, move ≠ .server (.arrive (.play sessionId params)) := by
      rintro move hmem params rfl
      exact hsecret params hmem
    exact run_keeps (fun world move world' hmove h hstep => h.step hmove hstep)
      ⟨.fresh hfresh, .fresh hfresh, .fresh hfresh⟩ hothers
  have hplayed := hkept.page
  rw [hpage, Holds, if_pos rfl] at hplayed
  obtain ⟨t, ht, hgoes⟩ := hplayed.2.goes
  refine ⟨t, ht, hgoes.request, fun entry hentry => ?_, fun status detail houtcome => ?_⟩
  · obtain ⟨c, hc, hmade⟩ := hgoes.taken entry hentry
    exact ⟨c, hc, hmade, flip.verifyReveal_playQuery hreads hhash hne hmade⟩
  · have hends : RejectedFor backend.api sessionId flip.playQuery t.history
        (.err (.response status detail)) := by
      apply Task.ends_of_outcome _ houtcome
      · exact fun _ _ => True
      · rw [hgoes.request]
        exact rejectedFor_play _ _ _ _
    rcases hends status detail rfl with hnone | hnone | ⟨c, htaken, hrefused⟩
    · cases hgoes.found _ hnone
    · obtain ⟨c, hc, -⟩ := hgoes.taken _ hnone
      cases hc
    · obtain ⟨c', hc, hmade⟩ := hgoes.taken _ htaken
      cases hc
      exact hrefused (flip.verifyReveal_playQuery hreads hhash hne hmade)

/-! ### One flip -/

section Sample

def sampleFlip : Flip where
  address := "0x3"
  bet := 1
  nonceBytes := List.replicate 30 0 ++ [5]
  isSide := Or.inr rfl
  drawn := rfl

/-- The sum, without leading zeros, and so without any digit for zero. -/
def sampleHash (a b : String) : String :=
  match parseHex a, parseHex b with
  | some x, some y =>
      if Felt.fromNat x + Felt.fromNat y = 0 then "0x" else feltHex (Felt.fromNat x + Felt.fromNat y)
  | _, _ => "not a number"

theorem hashesAlike_sample : HashesAlike sample.api.pedersen sampleHash := by
  intro a b x y ha hb _ _ hne
  simp only [sampleHash, ha, hb]
  exact if_neg hne

/-- Somebody else plays another session meanwhile. -/
def sampleMoves : List WorldMove :=
  [.page, .server (.arrive (.play "guess" ⟨"0x4", 0, "0x1"⟩)), .page,
    .server (.advance 1 (smoothly 11)), .server (.advance 0 (smoothly 11)), .page,
    .server (.advance 0 (smoothly 11)), .server (.advance 2 (smoothly 11)),
    .server (.advance 2 (smoothly 11)), .server (.advance 2 (smoothly 11))]

theorem reveal_accepted_sample :
    ∃ t, (play sampleFlip sampleHash sampleStart sampleMoves).pool.tasks[2]? = some t ∧
      t.request = .play sampleSession sampleFlip.playQuery ∧
      (∀ entry, (⟨.removeCommitment sampleSession, entry⟩ : Event Ask Answer) ∈ t.history →
        ∃ c, entry = some c ∧ sampleFlip.IsEntry sampleHash c ∧
          verifyReveal sample.api c sampleFlip.playQuery = .ok ()) ∧
      ∀ status detail, t.outcome? ≠ some (.err (.response status detail)) :=
  reveal_accepted readsHex_hexFelt hashesAlike_sample (by decide +kernel) fresh_sampleStart
    (by decide +kernel) fun params => by
      simp only [sampleMoves, List.mem_cons, List.not_mem_nil, reduceCtorEq, false_or, or_false,
        WorldMove.server.injEq, Move.arrive.injEq, Request.play.injEq, not_and]
      intro hguess
      exact absurd hguess (by decide +kernel)

end Sample

end Snip36.FlipPage
