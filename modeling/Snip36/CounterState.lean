import Snip36.CoinFlipState
import Snip36.TxPolling

/-!
The state of the counter routes and everything that their handlers ask for:
sessions, the mutex around `sncast`, processes, files, the node and the stream to
the client.
-/

namespace Snip36.CounterState

open CoinFlipState
open Library.Interaction
open StarknetRpc
open TxPolling
open ToolOutput

/-- The fields of a session that these handlers use. -/
structure Session where
  contractAddress : Option String
  classHash : Option String
  deployBlock : Option Nat
  lastReferenceBlock : Option Nat
  deriving DecidableEq

def Session.default : Session := ⟨none, none, none, none⟩

/-- What a process has printed, and its exit status as it is displayed. -/
structure ToolRun extends Output where
  status : String
  deriving DecidableEq

/-- A write that fails may have opened the file, and then it leaves another text
there. -/
structure FailedWrite where
  message : String
  left : Option String
  deriving DecidableEq

/-- What a handler asks for. The steps of the prover that it has started are among
its own: it does nothing until that process has ended. -/
inductive Ask where
  | lockSncast
  | unlockSncast
  | sncast (command : SncastCommand)
  | randomSalt
  | poll (request : PollAsk)
  | getSession (sessionId : String)
  | updateSession (sessionId : String) (f : Session → Session)
  | getNonceAtBlock (account : String) (block : Nat)
  | createDir (path : String)
  | writeFile (path text : String)
  | readFile (path : String)
  | fileExists (path : String)
  | fileSize (path : String)
  | startProver (binary : String) (args : List String)
  | proverReads (path : String)
  | proverAsks (question : String)
  | proverWrites (path text : String)
  | proverExited (success : Bool)
  | addInvokeTransaction (payload : Json)
  | sleep (seconds : Nat)
  | call (contractAddress selector : String)
  | send (event data : String)
  | sendJson (event : String) (data : Json)

abbrev Answer : Ask → Type
  | .lockSncast => Unit
  | .unlockSncast => Unit
  | .sncast _ => Except String ToolRun
  | .randomSalt => String
  | .poll request => PollAnswer request
  | .getSession _ => Session
  | .updateSession _ _ => Unit
  | .getNonceAtBlock _ _ => Except RpcError Nat
  | .createDir _ => Except String Unit
  | .writeFile _ _ => Except FailedWrite Unit
  | .readFile _ => Except String String
  | .fileExists _ => Bool
  | .fileSize _ => Nat
  | .startProver _ _ => Except String Unit
  | .proverReads _ => Except String String
  | .proverAsks _ => String
  | .proverWrites _ _ => Except FailedWrite Unit
  | .proverExited _ => Unit
  | .addInvokeTransaction _ => Except RpcError String
  | .sleep _ => Unit
  | .call _ _ => Except RpcError (List String)
  | .send _ _ => Unit
  | .sendJson _ _ => Unit

/-- The steps of the prover. -/
def IsProver : Ask → Prop
  | .proverReads _ => True
  | .proverAsks _ => True
  | .proverWrites _ _ => True
  | _ => False

/-- The functions of other packages and the prover, which is given its arguments
and ends well or not. With overflow checks arithmetic panics instead of wrapping. -/
structure CounterApi extends ServerApi where
  parseHex : String → String → Option String
  pretty : Json → String
  prover : List String → Program Ask Answer Unit Unit
  prover_asks : ∀ args, (prover args).OnlyAsks IsProver
  overflowChecks : Bool

inductive Response where
  | deployed (classHash contractAddress txHash : String) (blockNumber : Option Nat)
  | streamed
  deriving DecidableEq

/-- A handler. The stream of a proof goes on after its response; here the response
is given when the stream ends. -/
abbrev Handler := Program Ask Answer Failure

abbrev await (request : Ask) : Handler (Answer request) := Program.ask request

end Snip36.CounterState
