import Snip36.Json

/-!
What the client of the JSON-RPC node makes of a receipt, and its errors.
-/

namespace Snip36.StarknetRpc

open Library.Hex

inductive RpcError where
  | http (message : String)
  | jsonRpc (message : String)
  | unexpected (message : String)
  | txTimeout (txHash : String) (timeout : Nat)
  | txRejected (receipt : String)
  | blockTimeout (blockNumber timeout : Nat)
  deriving DecidableEq

def RpcError.toString : RpcError → String
  | .http message => s!"HTTP request failed: {message}"
  | .jsonRpc message => s!"JSON-RPC error: {message}"
  | .unexpected message => s!"unexpected response: {message}"
  | .txTimeout txHash timeout => s!"transaction {txHash} not confirmed within {timeout}s"
  | .txRejected receipt => s!"transaction rejected: {receipt}"
  | .blockTimeout blockNumber timeout => s!"no new block after {blockNumber} within {timeout}s"

/-- `Value::as_u64`. -/
def asU64 : Json → Option Nat
  | .num n => if n < 2 ^ 64 then some n else none
  | _ => none

/-- `trim_start_matches("0x")`. -/
def trimHexPrefix : List Char → List Char
  | '0' :: 'x' :: rest => trimHexPrefix rest
  | digits => digits

/-- `u64::from_str_radix(_, 16)`. -/
def u64FromHexDigits (digits : List Char) : Option Nat :=
  let unsigned := match digits with
    | '+' :: rest => rest
    | _ => digits
  if unsigned = [] then none else (readDigits 0 unsigned).filter (· < 2 ^ 64)

/-- One look of `wait_for_tx` at a receipt: nothing yet, or how the wait ends. -/
def judgeReceipt (display : Json → String) (receipt : Json) : Option (Except RpcError Json) :=
  let status := ((receipt.get? "finality_status").bind Json.asStr).getD ""
  let executionStatus := (receipt.get? "execution_status").bind Json.asStr
  let hasBlock := (receipt.get? "block_number").isSome
  if status = "REJECTED" ∨ executionStatus = some "REVERTED" then
    some (.error (.txRejected (display receipt)))
  else if (status = "ACCEPTED_ON_L2" ∨ status = "ACCEPTED_ON_L1") ∧ hasBlock ∧
      (executionStatus = none ∨ executionStatus = some "SUCCEEDED") then
    some (.ok receipt)
  else none

/-- `receipt_block_number`. -/
def receiptBlockNumber (receipt : Json) : Option Nat :=
  match receipt.get? "block_number" with
  | none => none
  | some blockNumber =>
      match asU64 blockNumber with
      | some n => some n
      | none =>
          match blockNumber with
          | .str s => u64FromHexDigits (trimHexPrefix s.toList)
          | _ => none

end Snip36.StarknetRpc
