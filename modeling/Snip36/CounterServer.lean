import Snip36.CounterRoutes
import Snip36.Library.KeyedLog
import Snip36.Library.Mutex
import Snip36.SignedPayload

/-!
The counter routes as a server: sessions and files that all requests share, the
mutex around `sncast`, and a node that is honest about blocks.
-/

namespace Snip36.CounterServer

open CoinFlipState (Config Failure)
open CounterRoutes
open CounterState
open Library.Interaction
open Library.Interleaving
open Library.KeyedLog
open Library.Mutex
open StarknetRpc
open TxPolling

/-- The block that is open is the first that a new transaction can be in. -/
structure Shared where
  sessions : String → Session
  files : String → Option String
  sncastLocked : Bool
  openBlock : Nat

/-- The server's functions and its configuration, and the block that each
transaction is included in. -/
structure Backend where
  api : CounterApi
  config : Config
  inclusion : String → Nat

inductive Request where
  | deployCounter (sessionId : String)
  | proveBlock (sessionId : String) (params : ProveBlockQuery)

inductive Env where
  | closeBlock

/-- The text that a write leaves in its file, unless it leaves the file alone. -/
def leftBy (text : String) : Except FailedWrite Unit → Option String
  | .ok _ => some text
  | .error e => e.left

namespace Shared

def updateSession (shared : Shared) (id : String) (f : Session → Session) : Shared :=
  { shared with sessions := Function.update shared.sessions id (f (shared.sessions id)) }

/-- A write puts the text into the file, or what it leaves when it fails. -/
def write (shared : Shared) (path text : String) (result : Except FailedWrite Unit) : Shared :=
  { shared with files := put shared.files ((leftBy text result).map (path, ·)) }

/-- A read gives the text of a file that is there, or fails. -/
def read (shared : Shared) (path : String) :
    Except String String → Option (Except String String × Shared)
  | .ok _ => (shared.files path).map fun text => (.ok text, shared)
  | .error e => some (.error e, shared)

end Shared

/-- `sncast` runs under the mutex only. -/
def sncastUse : Ask → LockUse
  | .lockSncast => .acquire
  | .unlockSncast => .release
  | .sncast _ => .guarded
  | _ => .free

namespace Backend

variable (backend : Backend)

/-- A block number that can be read off a receipt is the right one. -/
def honest (txHash : String) : Except RpcError Json → Bool
  | .ok receipt =>
      match receiptBlockNumber receipt with
      | some block => block = backend.inclusion txHash
      | none => true
  | .error _ => true

def servePoll : (request : PollAsk) → PollAnswer request → Option (PollAnswer request)
  | .getReceipt txHash, receipt => if backend.honest txHash receipt then some receipt else none
  | .deadlinePassed, answer => some answer
  | .blockNumber, answer => some answer
  | .sleep _, answer => some answer

/-- A transaction that the node takes is included in the open block or later. -/
def serve (shared : Shared) :
    (request : Ask) → Answer request → Option (Answer request × Shared)
  | .lockSncast, _ =>
      if shared.sncastLocked then none else some ((), { shared with sncastLocked := true })
  | .unlockSncast, _ => some ((), { shared with sncastLocked := false })
  | .poll request, offered =>
      (backend.servePoll request offered).map fun answer => (answer, shared)
  | .getSession id, _ => some (shared.sessions id, shared)
  | .updateSession id f, _ => some ((), shared.updateSession id f)
  | .writeFile path text, result => some (result, shared.write path text result)
  | .proverWrites path text, result => some (result, shared.write path text result)
  | .readFile path, offered => shared.read path offered
  | .proverReads path, offered => shared.read path offered
  | .fileExists path, _ => some ((shared.files path).isSome, shared)
  | .fileSize path, _ => some (((shared.files path).map String.utf8ByteSize).getD 0, shared)
  | .addInvokeTransaction _, .ok txHash =>
      if shared.openBlock ≤ backend.inclusion txHash then some (.ok txHash, shared) else none
  | .addInvokeTransaction _, .error e => some (.error e, shared)
  | .sncast _, answer => some (answer, shared)
  | .randomSalt, answer => some (answer, shared)
  | .getNonceAtBlock _ _, answer => some (answer, shared)
  | .createDir _, answer => some (answer, shared)
  | .startProver _ _, answer => some (answer, shared)
  | .proverAsks _, answer => some (answer, shared)
  | .proverExited _, answer => some (answer, shared)
  | .sleep _, answer => some (answer, shared)
  | .call _ _, answer => some (answer, shared)
  | .send _ _, answer => some (answer, shared)
  | .sendJson _ _, answer => some (answer, shared)

def handler : Request → Handler Response
  | .deployCounter sessionId => deployCounter backend.api sessionId
  | .proveBlock sessionId params => proveBlock backend.api backend.config sessionId params

def system : System Ask Answer Failure Response Shared Request Env where
  handler := backend.handler
  serve := backend.serve
  outside := fun shared _ => some { shared with openBlock := shared.openBlock + 1 }

end Backend

abbrev ServerMove := Move Ask Answer Request Env

/-- The pool after a run. A move that is not possible changes nothing. -/
def after {backend : Backend} (pool : Pool backend.system) (moves : List ServerMove) :
    Pool backend.system :=
  Library.Reverting.run Pool.step pool moves

/-! ### What an exchange does to the files -/

/-- The file that an exchange has written, and its new text. -/
def stored : Event Ask Answer → Option (String × String)
  | ⟨.writeFile path text, .ok _⟩ => some (path, text)
  | ⟨.proverWrites path text, .ok _⟩ => some (path, text)
  | _ => none

/-- The file that an exchange has changed, also by a write that has failed. -/
def touched : Event Ask Answer → Option (String × String)
  | ⟨.writeFile path text, result⟩ => (leftBy text result).map (path, ·)
  | ⟨.proverWrites path text, result⟩ => (leftBy text result).map (path, ·)
  | _ => none

theorem touched_of_stored {event : Event Ask Answer} {file : String × String}
    (h : stored event = some file) : touched event = some file := by
  obtain ⟨request, answer⟩ := event
  cases request with
  | writeFile path text =>
      cases answer with
      | ok _ => exact h
      | error e => cases h
  | proverWrites path text =>
      cases answer with
      | ok _ => exact h
      | error e => cases h
  | _ => cases h

/-- The file that an exchange has read, and what it was. -/
def fetched : Event Ask Answer → Option (String × String)
  | ⟨.readFile path, .ok text⟩ => some (path, text)
  | ⟨.proverReads path, .ok text⟩ => some (path, text)
  | _ => none

section Serve

variable {backend : Backend} {shared shared' : Shared} {request : Ask}
  {offered answer : Answer request}

/-- What a request does to the state of the server. -/
inductive ServeStep (shared : Shared) : Event Ask Answer → Shared → Prop
  | written (path text : String) (result : Except FailedWrite Unit) :
      ServeStep shared ⟨.writeFile path text, result⟩ (shared.write path text result)
  | proverWritten (path text : String) (result : Except FailedWrite Unit) :
      ServeStep shared ⟨.proverWrites path text, result⟩ (shared.write path text result)
  | updated (id : String) (f : Session → Session) :
      ServeStep shared ⟨.updateSession id f, ()⟩ (shared.updateSession id f)
  | answered (event : Event Ask Answer) (hnone : touched event = none) :
      ServeStep shared event
        { shared with sncastLocked := (sncastUse event.request).next shared.sncastLocked }

theorem read_cases {path : String} {offered answer : Except String String}
    (h : shared.read path offered = some (answer, shared')) :
    shared' = shared ∧ ∀ text, answer = .ok text → shared.files path = some text := by
  cases offered with
  | error e =>
      cases h
      exact ⟨rfl, nofun⟩
  | ok _ =>
      obtain ⟨text, hfile, heq⟩ := Option.map_eq_some_iff.mp h
      cases heq
      refine ⟨rfl, ?_⟩
      rintro _ ⟨⟩
      exact hfile

theorem serve_cases (h : backend.serve shared request offered = some (answer, shared')) :
    ServeStep shared ⟨request, answer⟩ shared' := by
  have hsame (hnone : touched ⟨request, answer⟩ = none) :
      ServeStep shared ⟨request, answer⟩
        { shared with sncastLocked := (sncastUse request).next shared.sncastLocked } :=
    .answered _ hnone
  cases request with
  | writeFile path text =>
      cases h
      exact .written path text _
  | proverWrites path text =>
      cases h
      exact .proverWritten path text _
  | updateSession id f =>
      cases h
      exact .updated id f
  | readFile path =>
      obtain ⟨rfl, -⟩ := read_cases h
      exact hsame rfl
  | proverReads path =>
      obtain ⟨rfl, -⟩ := read_cases h
      exact hsame rfl
  | lockSncast =>
      simp only [Backend.serve, Option.ite_none_left_eq_some] at h
      cases h.2
      exact .answered _ rfl
  | unlockSncast =>
      cases h
      exact .answered _ rfl
  | poll request =>
      obtain ⟨_, -, heq⟩ := Option.map_eq_some_iff.mp h
      cases heq
      exact hsame rfl
  | addInvokeTransaction payload =>
      cases offered with
      | ok txHash =>
          simp only [Backend.serve, Option.ite_none_right_eq_some] at h
          cases h.2
          exact hsame rfl
      | error e =>
          cases h
          exact hsame rfl
  | _ =>
      cases h
      exact hsame rfl

theorem serve_files (h : backend.serve shared request offered = some (answer, shared')) :
    shared'.files = put shared.files (touched ⟨request, answer⟩) := by
  cases serve_cases h with
  | written path text result => rfl
  | proverWritten path text result => rfl
  | updated id f => rfl
  | answered _ hnone =>
      rw [hnone]
      rfl

/-- A file is read as it is. -/
theorem file_of_fetched (h : backend.serve shared request offered = some (answer, shared'))
    {path text : String} (hfetched : fetched ⟨request, answer⟩ = some (path, text)) :
    shared.files path = some text := by
  cases request with
  | readFile p =>
      cases answer with
      | ok t =>
          cases hfetched
          exact (read_cases h).2 text rfl
      | error e => cases hfetched
  | proverReads p =>
      cases answer with
      | ok t =>
          cases hfetched
          exact (read_cases h).2 text rfl
      | error e => cases hfetched
  | _ => cases hfetched

/-- A session changes by an update only. -/
theorem serve_sessions (h : backend.serve shared request offered = some (answer, shared')) :
    shared'.openBlock = shared.openBlock ∧
      (shared'.sessions = shared.sessions ∨ ∃ id f, request = .updateSession id f ∧
        shared'.sessions = Function.update shared.sessions id (f (shared.sessions id))) := by
  cases serve_cases h with
  | written path text result => exact ⟨rfl, Or.inl rfl⟩
  | proverWritten path text result => exact ⟨rfl, Or.inl rfl⟩
  | updated id f => exact ⟨rfl, Or.inr ⟨id, f, rfl, rfl⟩⟩
  | answered _ hnone => exact ⟨rfl, Or.inl rfl⟩

theorem openBlock_le_inclusion {payload : Json} {offered : Except RpcError String} {txHash : String}
    (h : backend.serve shared (.addInvokeTransaction payload) offered =
      some (.ok txHash, shared')) : shared.openBlock ≤ backend.inclusion txHash := by
  cases offered with
  | error e => cases h
  | ok tx =>
      simp only [Backend.serve, Option.ite_none_right_eq_some] at h
      obtain ⟨hle, heq⟩ := h
      cases heq
      exact hle

theorem block_of_receipt {txHash : String} {offered : Except RpcError Json} {receipt : Json}
    (h : backend.serve shared (.poll (.getReceipt txHash)) offered = some (.ok receipt, shared'))
    {block : Nat} (hblock : receiptBlockNumber receipt = some block) :
    block = backend.inclusion txHash := by
  obtain ⟨reply, hreply, heq⟩ := Option.map_eq_some_iff.mp h
  cases heq
  simp only [Backend.servePoll, Option.ite_none_right_eq_some] at hreply
  obtain ⟨hhonest, heq⟩ := hreply
  cases heq
  simpa [Backend.honest, hblock] using hhonest

end Serve

/-! ### A small server -/

section Sample

open SignedPayload

/-- What the sample prover makes of a transaction. -/
def sampleProduce (output text : String) : Program Ask Answer Unit Unit := do
  let proved ← Program.ask (Ask.proverWrites output ("proof of " ++ text))
  let listed ← Program.ask (Ask.proverWrites (withExtension output "proof_facts") "[]")
  match proved, listed with
  | .ok _, .ok _ => pure ()
  | _, _ => .done (.err ())

/-- It takes the arguments that the route gives. -/
def sampleProver : List String → Program Ask Answer Unit Unit
  | [_, _, _, _, _, tx, _, _, _, output, _, _] => do
      match ← (Program.ask (Ask.proverReads tx) : Program Ask Answer Unit _) with
      | .ok text => sampleProduce output text
      | .error _ => .done (.err ())
  | _ => .done (.err ())

theorem sampleProver_asks (args : List String) : (sampleProver args).OnlyAsks IsProver := by
  unfold sampleProver
  split
  · refine ⟨trivial, fun answer => ?_⟩
    cases answer with
    | error e => trivial
    | ok text =>
        refine ⟨trivial, fun proved => ⟨trivial, fun listed => ?_⟩⟩
        cases proved with
        | error e => trivial
        | ok _ =>
            cases listed with
            | error e => trivial
            | ok _ => trivial
  · trivial

/-- The text of a transaction is its calldata here. -/
def sampleApi : CounterApi where
  crypto := echoCrypto
  pedersen := fun a b => a + b
  fromHex := hexFelt
  parseStrings := fun _ => .ok []
  display := fun _ => ""
  parseHex := ToolOutput.parseHexFor
  pretty := fun json =>
    String.intercalate " " ((json.field (Json.elements Json.asStr) "calldata").getD [])
  prover := sampleProver
  prover_asks := sampleProver_asks
  overflowChecks := true

def sample : Backend where
  api := sampleApi
  config := {
    rpcUrl := "http://node"
    accountAddress := "0x2"
    privateKey := "0x7"
    chainId := "SN_SEPOLIA"
    gatewayUrl := none
    outputDir := "out"
    sncastAccount := "master"
    snip36Bin := "snip36"
    proverUrl := none }
  inclusion := fun txHash => if txHash = "0xa" then 11 else 12

/-- A counter was deployed in block 3. -/
def sampleStart : Pool sample.system where
  shared := {
    sessions := fun _ => ⟨some "0x5", some "0xc", some 3, some 3⟩
    files := fun _ => none
    sncastLocked := false
    openBlock := 10 }
  tasks := []

/-- Everything goes well, and a transaction is accepted under the given hash. -/
def smoothly (txHash : String) (blockNumber : Json) : (request : Ask) → Answer request
  | .lockSncast => ()
  | .unlockSncast => ()
  | .sncast _ => .error ""
  | .randomSalt => "00"
  | .poll .deadlinePassed => false
  | .poll (.getReceipt _) => .ok (.obj [("finality_status", .str "ACCEPTED_ON_L2"),
      ("execution_status", .str "SUCCEEDED"), ("block_number", blockNumber)])
  | .poll .blockNumber => .ok 12
  | .poll (.sleep _) => ()
  | .getSession _ => Session.default
  | .updateSession _ _ => ()
  | .getNonceAtBlock _ _ => .ok 0
  | .createDir _ => .ok ()
  | .writeFile _ _ => .ok ()
  | .readFile _ => .ok ""
  | .fileExists _ => true
  | .fileSize _ => 0
  | .startProver _ _ => .ok ()
  | .proverReads _ => .ok ""
  | .proverAsks _ => ""
  | .proverWrites _ _ => .ok ()
  | .proverExited _ => ()
  | .addInvokeTransaction _ => .ok txHash
  | .sleep _ => ()
  | .call _ _ => .ok ["0x1"]
  | .send _ _ => ()
  | .sendJson _ _ => ()

end Sample

end Snip36.CounterServer
