import Snip36.Library.Interleaving
import Snip36.Payload
import Snip36.StarknetRpc
import Snip36.ToolOutput

/-!
The state of the coin flip routes and everything that their handlers ask for:
cells of that state, the mutex around `sncast`, processes, the node, the
gateway, files and the stream to the client.
-/

namespace Snip36.CoinFlipState

open Library.Interaction
open StarknetRpc
open ToolOutput

/-- The two contracts that the routes deploy. -/
inductive Contract where
  | coinFlip
  | coinFlipBank
  deriving DecidableEq

/-- `CoinFlipDeployment` and `BankDeployment`, which have the same fields. -/
structure Deployment where
  contractAddress : String
  classHash : String
  deployBlock : Nat
  deriving DecidableEq

structure PersistedDeployments where
  coinflip : Option Deployment
  bank : Option Deployment
  deriving DecidableEq

def PersistedDeployments.deployment (persisted : PersistedDeployments) :
    Contract → Option Deployment
  | .coinFlip => persisted.coinflip
  | .coinFlipBank => persisted.bank

/-- `seedBlock` is a placeholder until the deposit is confirmed, and `betAmount`
is missing until the stake is quoted. -/
structure BetCommitment where
  commitment : String
  seedBlock : Nat
  player : String
  betAmount : Option String
  sessionFelt : String
  deriving DecidableEq

structure Config where
  rpcUrl : String
  accountAddress : String
  privateKey : String
  chainId : String
  gatewayUrl : Option String
  outputDir : String
  sncastAccount : String
  snip36Bin : String
  proverUrl : Option String

/-- The pure functions of other packages that the handlers call: the curve
library, the hash of the coin, the readers of field elements and of the proof
facts, and how JSON is printed. -/
structure ServerApi where
  crypto : Payload.StarknetCrypto
  pedersen : Felt → Felt → Felt
  fromHex : String → Except String Felt
  parseStrings : String → Except String (List String)
  display : Json → String

inductive SncastCommand where
  | declare (contractName : String)
  | deploy (classHash : String) (constructorCalldata : Option String) (salt : String)
  | invoke (contractAddress function : String) (calldata : List String)
  deriving DecidableEq

inductive ProverExit where
  | notSpawned (message : String)
  | exited (success : Bool)
  deriving DecidableEq

/-- A failed exchange with the gateway. -/
inductive PostError where
  | request (message : String)
  | body (message : String)

/-- What a handler asks for. Each request is one access to the state or one call
of something else; between two of them other handlers may run. `holdDeployment`
reads a cell and keeps its guard, `dropDeployments` drops the guards of the task. -/
inductive Ask where
  | readDeployment (contract : Contract)
  | writeDeployment (contract : Contract) (deployment : Deployment)
  | holdDeployment (contract : Contract)
  | dropDeployments
  | writeDeploymentsFile (persisted : PersistedDeployments)
  | insertSession (entry : String → BetCommitment)
  | getCommitment (sessionId : String)
  | removeCommitment (sessionId : String)
  | setBetAmount (sessionId amount : String)
  | setSeedBlock (sessionId : String) (block : Nat)
  | lockSncast
  | unlockSncast
  | sncast (command : SncastCommand)
  | randomSalt
  | deadlinePassed
  | getReceipt (txHash : String)
  | sleep (seconds : Nat)
  | blockNumber
  | getNonceAtBlock (account : String) (block : Nat)
  | writeJson (path : String) (contents : Json)
  | readFile (path : String)
  | readJson (path : String)
  | fileSize (path : String)
  | runProver (binary : String) (args : List String)
  | post (url : String) (payload : Json)
  | send (event data : String)
  | sendJson (event : String) (data : Json)

abbrev Answer : Ask → Type
  | .readDeployment _ => Option Deployment
  | .writeDeployment _ _ => Unit
  | .holdDeployment _ => Option Deployment
  | .dropDeployments => Unit
  | .writeDeploymentsFile _ => Unit
  | .insertSession _ => String
  | .getCommitment _ => Option BetCommitment
  | .removeCommitment _ => Option BetCommitment
  | .setBetAmount _ _ => Unit
  | .setSeedBlock _ _ => Unit
  | .lockSncast => Unit
  | .unlockSncast => Unit
  | .sncast _ => Except String Output
  | .randomSalt => String
  | .deadlinePassed => Bool
  | .getReceipt _ => Except RpcError Json
  | .sleep _ => Unit
  | .blockNumber => Except RpcError Nat
  | .getNonceAtBlock _ _ => Except RpcError Nat
  | .writeJson _ _ => Except String Unit
  | .readFile _ => Except String String
  | .readJson _ => Option Json
  | .fileSize _ => Nat
  | .runProver _ _ => ProverExit
  | .post _ _ => Except PostError Json
  | .send _ _ => Unit
  | .sendJson _ _ => Unit

/-- How a handler fails: with an error response, or with an error event on the
stream that it has opened. -/
inductive Failure where
  | response (status : Nat) (detail : String)
  | stream (message : String)
  deriving DecidableEq

inductive Response where
  | deployed (contractAddress classHash : String) (deployBlock : Nat)
  | committed (sessionId : String) (seedBlock : Nat)
  | depositInfo (bankAddress strkAddress sessionFelt betAmountLow betAmountHigh seed bet : String)
  | confirmed (isMatched : Bool) (matchTxHash : String)
  | streamed
  deriving DecidableEq

/-- A handler. The stream of a play goes on after its response; here the
response is given when the stream ends. -/
abbrev Handler := Program Ask Answer Failure

abbrev await (request : Ask) : Handler (Answer request) := Program.ask request

end Snip36.CoinFlipState
