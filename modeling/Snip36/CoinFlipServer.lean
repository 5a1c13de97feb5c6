import Snip36.BankLifecycle
import Snip36.CoinFlipPlay
import Snip36.Library.Mutex

/-!
The coin flip server as a system: its requests, the state that their handlers
share, the chain with the banks, and the transactions of the master account that
are on their way to it. Answers of the node, the gateway, the processes and the
files are arbitrary.
-/

namespace Snip36.CoinFlipServer

open BankLifecycle
open CoinFlipBank
open CoinFlipPlay
open CoinFlipRoutes
open CoinFlipState
open Library.Erc20
open Library.Hex
open Library.Interaction
open Library.Interleaving
open Library.Mutex

/-! ### The chain -/

/-- What the master account sends: through `sncast`, or to the gateway. -/
inductive MasterTx where
  | sncast (command : SncastCommand)
  | proofBearing (payload : Json)

/-- A transfer that a bank has made, and the call that made it. -/
structure BankPayment where
  bank : ContractAddress
  call : BankCall
  payment : Payment

/-- `pending` transactions of the master account may be included later or never;
`executed` lists the included ones with their blocks. -/
structure Chain where
  height : Nat
  token : Token ContractAddress 256
  banks : ContractAddress → Option Storage
  contracts : List ContractAddress
  payments : List BankPayment
  pending : List MasterTx
  executed : List (Nat × MasterTx)
  firstNonce : Nat

namespace Chain

/-- Each included transaction takes one nonce. -/
def masterNonce (chain : Chain) : Nat := chain.firstNonce + chain.executed.length

/-- The nonce after a closed block. -/
def nonceAt (chain : Chain) (block : Nat) : Nat :=
  chain.firstNonce + (chain.executed.filter fun tx => tx.1 ≤ block).length

def callBank (pedersen : Felt → Felt → Felt) (chain : Chain)
    (bank caller : ContractAddress) (call : BankCall) : Chain :=
  match chain.banks bank with
  | none => chain
  | some storage =>
      match CoinFlipBank.callBank pedersen bank caller ⟨chain.token, storage⟩ call with
      | .error _ => chain
      | .ok w => { chain with
          token := w.token
          banks := Function.update chain.banks bank (some w.bank)
          payments := chain.payments ++
            (BankLifecycle.payments pedersen ⟨chain.token, storage⟩ (.bank caller call)).map
              (BankPayment.mk bank call) }

def callToken (chain : Chain) (caller : ContractAddress) (call : Call ContractAddress 256) :
    Chain :=
  match chain.token.call caller call with
  | none => chain
  | some token => { chain with token }

end Chain

/-- `felt252` words that make up a `u256`. -/
def u256Of (low high : Felt) : Option U256 :=
  if low.val < 2 ^ 128 ∧ high.val < 2 ^ 128 then
    some (BitVec.ofNat 256 (low.val + high.val * 2 ^ 128))
  else none

def bankCallOf (function : String) (args : List Felt) : Option BankCall :=
  if function = "deposit" then
    match args with
    | [sessionId, low, high, seed, bet] =>
        (u256Of low high).map fun amount => .deposit sessionId amount seed bet
    | _ => none
  else if function = "match_deposit" then
    match args with
    | [sessionId] => some (.matchDeposit sessionId)
    | _ => none
  else if function = "settle" then
    match args with
    | [sessionId, seed] => some (.settle sessionId seed)
    | _ => none
  else if function = "withdraw" then
    match args with
    | [] => some .withdraw
    | _ => none
  else none

def readAddressFelt (felt : Felt) : Option ContractAddress := (PatriciaKey.tryFrom felt).toOption

/-- The entry points of the token that the server uses. -/
def tokenCallOf (function : String) (args : List Felt) : Option (Call ContractAddress 256) :=
  match args with
  | [account, low, high] => do
      let a ← readAddressFelt account
      let amount ← u256Of low high
      if function = "approve" then some (.approve a amount)
      else if function = "transfer" then some (.transfer a amount)
      else none
  | _ => none

/-- How a word of hex digits is read on the way to the chain. -/
def readAddress (api : ServerApi) (word : String) : Option ContractAddress :=
  (api.fromHex word).toOption.bind readAddressFelt

def readWords (api : ServerApi) (words : List String) : Option (List Felt) :=
  words.mapM fun word => (api.fromHex word).toOption

/-- The server's functions, its configuration, the address of its account and of
the token. -/
structure Backend where
  api : ServerApi
  config : Config
  master : ContractAddress
  account : readAddress api config.accountAddress = some master
  strk : ContractAddress
  token : readAddress api strkToken = some strk

namespace Backend

variable (backend : Backend)

def invoke (chain : Chain) (contractAddress function : String) (calldata : List String) : Chain :=
  match readAddress backend.api contractAddress, readWords backend.api calldata with
  | some contract, some args =>
      if contract = backend.strk then
        match tokenCallOf function args with
        | some call => chain.callToken backend.master call
        | none => chain
      else
        match bankCallOf function args with
        | some call => chain.callBank backend.api.pedersen contract backend.master call
        | none => chain
  | _, _ => chain

/-- A deploy transaction. The bank is the contract with a constructor argument,
its owner. -/
def deploy (chain : Chain) (address : ContractAddress) (constructorCalldata : Option String) :
    Chain :=
  { chain with
    contracts := address :: chain.contracts
    banks :=
      match constructorCalldata.bind (readAddress backend.api) with
      | some owner => Function.update chain.banks address (some (deployed owner))
      | none => chain.banks }

/-- A pending transaction is included in the block that is open. A deployment
gets an address that nothing has. -/
def execute (chain : Chain) (k : Nat) (address : ContractAddress) : Option Chain :=
  match chain.pending[k]? with
  | none => none
  | some tx =>
      let included := { chain with
        pending := chain.pending.eraseIdx k
        executed := chain.executed ++ [(chain.height + 1, tx)] }
      match tx with
      | .proofBearing _ => some included
      | .sncast (.declare _) => some included
      | .sncast (.deploy _ constructorCalldata _) =>
          if address ∈ chain.contracts ∨ (chain.banks address).isSome then none
          else some (backend.deploy included address constructorCalldata)
      | .sncast (.invoke contractAddress function calldata) =>
          some (backend.invoke included contractAddress function calldata)

end Backend

/-! ### The shared state -/

/-- `readers` counts the guards of a cell that tasks keep while others go on. A
writer never does. -/
structure Shared where
  coinflip : Option Deployment
  bank : Option Deployment
  commitments : String → Option BetCommitment
  issued : List String
  readers : Contract → Nat
  sncastLocked : Bool
  file : PersistedDeployments
  chain : Chain

namespace Shared

def deployment (shared : Shared) : Contract → Option Deployment
  | .coinFlip => shared.coinflip
  | .coinFlipBank => shared.bank

def writeDeployment (shared : Shared) (d : Deployment) : Contract → Shared
  | .coinFlip => { shared with coinflip := some d }
  | .coinFlipBank => { shared with bank := some d }

def holdDeployment (shared : Shared) (contract : Contract) : Shared :=
  { shared with readers := Function.update shared.readers contract (shared.readers contract + 1) }

/-- The guards of one task, which has one of each cell. -/
def dropDeployments (shared : Shared) : Shared :=
  { shared with readers := fun contract => shared.readers contract - 1 }

def insertCommitment (shared : Shared) (id : String) (entry : BetCommitment) : Shared :=
  { shared with
    commitments := Function.update shared.commitments id (some entry)
    issued := id :: shared.issued }

def removeCommitment (shared : Shared) (id : String) : Shared :=
  { shared with commitments := Function.update shared.commitments id none }

/-- `get_mut`. -/
def updateCommitment (shared : Shared) (id : String) (f : BetCommitment → BetCommitment) :
    Shared :=
  { shared with
    commitments := Function.update shared.commitments id ((shared.commitments id).map f) }

def submit (shared : Shared) (tx : MasterTx) : Shared :=
  { shared with chain := { shared.chain with pending := shared.chain.pending ++ [tx] } }

end Shared

/-- The digits of a number in groups of 8, 4, 4, 4 and 12. -/
def uuidString (n : Nat) : String :=
  let digits := (List.range 32).map fun i => Nat.digitChar (n / 16 ^ (31 - i) % 16)
  String.ofList (digits.take 8 ++ '-' :: (digits.drop 8).take 4 ++ '-' :: (digits.drop 12).take 4 ++
    '-' :: (digits.drop 16).take 4 ++ '-' :: digits.drop 20)

/-- The number of a session, when its id is a UUID. -/
def uuidNumber (id : String) : Option Nat :=
  (parseHex (sessionFelt id)).filter fun n => n < 2 ^ 128 ∧ id = uuidString n

/-- Whether the gateway may have kept the transaction. -/
def mayBeTaken : Except PostError Json → Bool
  | .error _ => true
  | .ok body => memberText body "code" = "TRANSACTION_RECEIVED"

/-- `sncast` runs under the mutex only. -/
def sncastUse : Ask → LockUse
  | .lockSncast => .acquire
  | .unlockSncast => .release
  | .sncast _ => .guarded
  | _ => .free

/-- The answer to a request and what it does. A writer waits for the readers of its
cell. New ids of sessions are UUIDs that no session has had. -/
def serve (shared : Shared) : (request : Ask) → Answer request → Option (Answer request × Shared)
  | .readDeployment contract, _ => some (shared.deployment contract, shared)
  | .writeDeployment contract d, _ =>
      if shared.readers contract = 0 then some ((), shared.writeDeployment d contract) else none
  | .holdDeployment contract, _ =>
      some (shared.deployment contract, shared.holdDeployment contract)
  | .dropDeployments, _ => some ((), shared.dropDeployments)
  | .writeDeploymentsFile persisted, _ => some ((), { shared with file := persisted })
  | .insertSession entry, id =>
      if (uuidNumber id).isSome ∧ id ∉ shared.issued then
        some (id, shared.insertCommitment id (entry id))
      else none
  | .getCommitment id, _ => some (shared.commitments id, shared)
  | .removeCommitment id, _ => some (shared.commitments id, shared.removeCommitment id)
  | .setBetAmount id amount, _ =>
      some ((), shared.updateCommitment id fun c => { c with betAmount := some amount })
  | .setSeedBlock id block, _ =>
      some ((), shared.updateCommitment id fun c => { c with seedBlock := block })
  | .lockSncast, _ =>
      if shared.sncastLocked then none else some ((), { shared with sncastLocked := true })
  | .unlockSncast, _ => some ((), { shared with sncastLocked := false })
  | .sncast command, output => some (output, shared.submit (.sncast command))
  | .post _ payload, reply =>
      some (reply, if mayBeTaken reply then shared.submit (.proofBearing payload) else shared)
  | .randomSalt, answer => some (answer, shared)
  | .deadlinePassed, answer => some (answer, shared)
  | .getReceipt _, answer => some (answer, shared)
  | .sleep _, answer => some (answer, shared)
  | .blockNumber, answer => some (answer, shared)
  | .getNonceAtBlock _ _, answer => some (answer, shared)
  | .writeJson _ _, answer => some (answer, shared)
  | .readFile _, answer => some (answer, shared)
  | .readJson _, answer => some (answer, shared)
  | .fileSize _, answer => some (answer, shared)
  | .runProver _ _, answer => some (answer, shared)
  | .send _ _, answer => some (answer, shared)
  | .sendJson _ _, answer => some (answer, shared)

/-! ### The system -/

inductive Request where
  | deployCoinflip
  | deployBank
  | commit (req : CommitRequest)
  | depositInfo (req : DepositInfoRequest)
  | confirmDeposit (req : ConfirmDepositRequest)
  | play (sessionId : String) (params : PlayQuery)

/-- What happens outside of the server. Only the server has the key of its
account. -/
inductive Env where
  | callBank (bank caller : ContractAddress) (call : BankCall)
  | callToken (caller : ContractAddress) (call : Call ContractAddress 256)
  | execute (k : Nat) (address : ContractAddress)
  | closeBlock

namespace Backend

variable (backend : Backend)

def handler : Request → Handler Response
  | .deployCoinflip => deployCoinflip backend.api
  | .deployBank => deployBank backend.api backend.config
  | .commit req => commitBet req
  | .depositInfo req => depositInfo req
  | .confirmDeposit req => confirmDeposit backend.api req
  | .play sessionId params => playCoinflip backend.api backend.config sessionId params

def outside (shared : Shared) : Env → Option Shared
  | .callBank bank caller call =>
      if caller = backend.master then none
      else some { shared with
        chain := shared.chain.callBank backend.api.pedersen bank caller call }
  | .callToken caller call =>
      if caller = backend.master then none
      else some { shared with chain := shared.chain.callToken caller call }
  | .execute k address =>
      (backend.execute shared.chain k address).map fun chain => { shared with chain }
  | .closeBlock => some { shared with
      chain := { shared.chain with height := shared.chain.height + 1 } }

def system : System Ask Answer Failure Response Shared Request Env where
  handler := backend.handler
  serve := serve
  outside := backend.outside

end Backend

abbrev ServerMove := Move Ask Answer Request Env

/-- A server that has just been started, and banks that have not been used. -/
structure Fresh (backend : Backend) (pool : Pool backend.system) : Prop where
  tasks : pool.tasks = []
  commitments : ∀ id, pool.shared.commitments id = none
  issued : pool.shared.issued = []
  banks : ∀ a storage, pool.shared.chain.banks a = some storage →
    storage = deployed backend.master ∧ a ∈ pool.shared.chain.contracts
  payments : pool.shared.chain.payments = []
  pending : pool.shared.chain.pending = []
  executed : pool.shared.chain.executed = []

namespace Fresh

variable {backend : Backend} {pool : Pool backend.system}

theorem notMem_tasks (h : Fresh backend pool) (t : Task backend.system) : t ∉ pool.tasks := by
  rw [h.tasks]
  exact List.not_mem_nil

theorem notMem_issued (h : Fresh backend pool) (id : String) : id ∉ pool.shared.issued := by
  rw [h.issued]
  exact List.not_mem_nil

theorem not_said (h : Fresh backend pool) (q : Request) (event : Event Ask Answer) :
    ¬pool.Said q event := by
  rintro ⟨t, ht, -⟩
  exact h.notMem_tasks t ht

end Fresh

/-- The pool after a run. A move that is not possible changes nothing. -/
def after {backend : Backend} (pool : Pool backend.system) (moves : List ServerMove) :
    Pool backend.system :=
  Library.Reverting.run Pool.step pool moves

end Snip36.CoinFlipServer
