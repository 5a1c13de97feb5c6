import Snip36.Library.Interaction
import Snip36.StarknetRpc

/-!
The two loops of the RPC client that poll until a deadline: for the receipt of a
transaction, and for a block after a given one.
-/

namespace Snip36.TxPolling

open Library.Interaction
open StarknetRpc

inductive PollAsk where
  | deadlinePassed
  | getReceipt (txHash : String)
  | blockNumber
  | sleep (seconds : Nat)

abbrev PollAnswer : PollAsk → Type
  | .deadlinePassed => Bool
  | .getReceipt _ => Except RpcError Json
  | .blockNumber => Except RpcError Nat
  | .sleep _ => Unit

abbrev Polling (ε β : Type) := Program PollAsk PollAnswer ε β

abbrev poll {ε : Type} (request : PollAsk) : Polling ε (PollAnswer request) :=
  Program.ask request

/-- Failed requests are nothing to go by. -/
def judged (display : Json → String) : Except RpcError Json → Option (Except RpcError Json)
  | .ok receipt => judgeReceipt display receipt
  | .error _ => none

section Loops

variable {ε : Type} (display : Json → String) (txHash : String)
  (blockNumber timeoutSecs pollIntervalSecs : Nat)

/-- The loop of `wait_for_tx`, which naps between two polls. After as many naps as
fit in the time, the time is over. -/
def pollReceipt : Nat → Polling ε (Except RpcError Json)
  | 0 => pure (.error (.txTimeout txHash timeoutSecs))
  | naps + 1 => do
      if ← poll .deadlinePassed then
        pure (.error (.txTimeout txHash timeoutSecs))
      else
        match judged display (← poll (.getReceipt txHash)) with
        | some verdict => pure verdict
        | none => do
            poll (.sleep pollIntervalSecs)
            pollReceipt naps

def naps : Nat := (timeoutSecs + pollIntervalSecs - 1) / pollIntervalSecs

def waitForTx : Polling ε (Except RpcError Json) :=
  pollReceipt display txHash timeoutSecs pollIntervalSecs (naps timeoutSecs pollIntervalSecs)

def pollBlock : Nat → Polling ε (Except RpcError Nat)
  | 0 => pure (.error (.blockTimeout blockNumber timeoutSecs))
  | naps + 1 => do
      if ← poll .deadlinePassed then
        pure (.error (.blockTimeout blockNumber timeoutSecs))
      else
        match ← poll .blockNumber with
        | .ok current =>
            if blockNumber < current then pure (.ok current)
            else do
              poll (.sleep pollIntervalSecs)
              pollBlock naps
        | .error _ => do
            poll (.sleep pollIntervalSecs)
            pollBlock naps

def waitForBlockAfter : Polling ε (Except RpcError Nat) :=
  pollBlock blockNumber timeoutSecs pollIntervalSecs (naps timeoutSecs pollIntervalSecs)

end Loops

end Snip36.TxPolling
