import Snip36.RouteFailures
import Snip36.TxPolling

/-!
The handlers of the coin flip routes that change something: deployment, commit,
deposit, confirmation and play.
-/

namespace Snip36.CoinFlipRoutes

open Library.Fallible
open Library.Hex
open Library.Interaction
open CoinFlipState
open Payload
open RouteFailures
open Signing
open StarknetRpc
open ToolOutput

/-! ### Errors on the stream -/

section Failing

variable {α : Type}

/-- An error event ends the stream. -/
def streamError (message : String) : Handler α := do
  await (.send "error" message)
  .done (.err (.stream message))

def orStreamError (message : String → String) : Except String α → Handler α
  | .ok a => pure a
  | .error e => streamError (message e)

end Failing

/-! ### The node and `sncast` -/

def pollInclusion : Program.Inclusion TxPolling.PollAsk TxPolling.PollAnswer Ask Answer where
  request
    | .deadlinePassed => .deadlinePassed
    | .getReceipt txHash => .getReceipt txHash
    | .blockNumber => .blockNumber
    | .sleep seconds => .sleep seconds
  answer
    | .deadlinePassed, answer => answer
    | .getReceipt _, answer => answer
    | .blockNumber, answer => answer
    | .sleep _, answer => answer

def waitForTx (api : ServerApi) (txHash : String) (timeoutSecs pollIntervalSecs : Nat) :
    Handler (Except RpcError Json) :=
  (TxPolling.waitForTx api.display txHash timeoutSecs pollIntervalSecs).translate pollInclusion

/-- The scope of the guard of the `sncast` mutex. -/
def withSncastLock {α : Type} (body : Handler α) : Handler α :=
  Program.bracket (await .lockSncast) (await .unlockSncast) body

structure InvokeResult where
  output : Output
  txHash : Option String
  blockNumber : Option Nat

/-- The block of a transaction that is confirmed in time. -/
def confirmedBlock (api : ServerApi) : Option String → Handler (Option Nat)
  | none => pure none
  | some tx => do
      match ← waitForTx api tx 120 3 with
      | .ok receipt => pure (receiptBlockNumber receipt)
      | .error _ => pure none

def sncastInvoke (api : ServerApi) (contractAddress function : String)
    (calldata : List String) : Handler (Except String InvokeResult) :=
  withSncastLock do
    match ← await (.sncast (.invoke contractAddress function calldata)) with
    | .error e => pure (.error e)
    | .ok output => do
        let txHash := parseHexFor "transaction_hash" output.combined
        let blockNumber ← confirmedBlock api txHash
        pure (.ok ⟨output, txHash, blockNumber⟩)

def strkToken : String := "0x04718f5a0fc34cc1af16a1cdee98ffb20c31f5cd61d6ab07201858f4287c938d"

/-! ### Deployment -/

/-- What differs between the two deployments. -/
structure DeployPlan where
  contractName : String
  constructorCalldata : Option String
  checksStatus : Bool
  noAddress : String
  noTxHash : String

def waitIfSome (api : ServerApi) : Option String → Handler Unit
  | none => pure ()
  | some tx => do
      let _ ← waitForTx api tx 120 3
      pure ()

def declareAndDeploy (api : ServerApi) (plan : DeployPlan) : Handler Deployment :=
  withSncastLock do
    let declareOutput ← orFailWith 500 id (← await (.sncast (.declare plan.contractName)))
    let declareCombined := declareOutput.combined
    let classHash ← orFail 500 (plan.contractName ++ " declare failed: " ++ declareCombined)
      (extractLongHex declareCombined)
    waitIfSome api (parseHexFor "transaction_hash" declareCombined)
    let salt := "0x" ++ (← await .randomSalt)
    let deployOutput ← orFailWith 500 id
      (← await (.sncast (.deploy classHash plan.constructorCalldata salt)))
    let deployCombined := deployOutput.combined
    ensure (plan.checksStatus → deployOutput.success) 500
      (plan.contractName ++ " deploy failed: " ++ deployCombined)
    let contractAddress ← orFail 500 (plan.noAddress ++ ": " ++ deployCombined)
      (parseHexFor "contract_address" deployCombined)
    let txHash ← orFail 500 (plan.noTxHash ++ ": " ++ deployCombined)
      (parseHexFor "transaction_hash" deployCombined)
    let waited ← waitForTx api txHash 120 3
    let receipt ← orFailWith 504 id (waited.mapError RpcError.toString)
    pure ⟨contractAddress, classHash, (receiptBlockNumber receipt).getD 0⟩

/-- One statement reads both cells. The guard of the first cell is a temporary of
it, so that this cell stays locked until the second one has been read. -/
def saveDeployments : Handler Unit := do
  let coinflip ← await (.holdDeployment .coinFlip)
  let bank ← await (.holdDeployment .coinFlipBank)
  await .dropDeployments
  await (.writeDeploymentsFile ⟨coinflip, bank⟩)

def Deployment.response (deployment : Deployment) : Response :=
  .deployed deployment.contractAddress deployment.classHash deployment.deployBlock

/-- Return the deployment that is there, or make one, prepare it and store it. -/
def deployRoute (api : ServerApi) (contract : Contract) (plan : DeployPlan)
    (prepare : Deployment → Handler Unit) : Handler Response := do
  match ← await (.readDeployment contract) with
  | some deployment => pure (Deployment.response deployment)
  | none => do
      let deployment ← declareAndDeploy api plan
      prepare deployment
      await (.writeDeployment contract deployment)
      saveDeployments
      pure (Deployment.response deployment)

def coinFlipPlan : DeployPlan where
  contractName := "CoinFlip"
  constructorCalldata := none
  checksStatus := true
  noAddress := "No contract_address in deploy output"
  noTxHash := "No transaction_hash in deploy output"

def deployCoinflip (api : ServerApi) : Handler Response :=
  deployRoute api .coinFlip coinFlipPlan fun _ => pure ()

def bankPlan (config : Config) : DeployPlan where
  contractName := "CoinFlipBank"
  constructorCalldata := some config.accountAddress
  checksStatus := false
  noAddress := "CoinFlipBank deploy failed"
  noTxHash := "No tx_hash in deploy output"

def maxApproval : String := "0xffffffffffffffffffffffffffffffff"

/-- Ten tokens of 18 decimals. -/
def fundAmount : Nat := 10 * 10 ^ 18

/-- The bank may spend the tokens of the master account and starts with some. -/
def fundBank (api : ServerApi) (deployment : Deployment) : Handler Unit := do
  let approved ← sncastInvoke api strkToken "approve"
    [deployment.contractAddress, maxApproval, "0x0"]
  let _ ← orFailWith 500 id approved
  let funded ← sncastInvoke api strkToken "transfer"
    [deployment.contractAddress, lowerHex fundAmount, "0x0"]
  let _ ← orFailWith 500 id funded
  pure ()

def deployBank (api : ServerApi) (config : Config) : Handler Response :=
  deployRoute api .coinFlipBank (bankPlan config) (fundBank api)

/-! ### A session up to its match -/

structure CommitRequest where
  commitment : String
  player : String

/-- The id of a session, written as a field element. -/
def sessionFelt (sessionId : String) : String :=
  "0x" ++ String.ofList (sessionId.toList.filter (· ≠ '-'))

def newCommitment (req : CommitRequest) (sessionId : String) : BetCommitment where
  commitment := req.commitment
  seedBlock := 0 -- set in `confirmDeposit`
  player := req.player
  betAmount := none
  sessionFelt := sessionFelt sessionId

def commitBet (req : CommitRequest) : Handler Response := do
  let sessionId ← await (.insertSession (newCommitment req))
  pure (.committed sessionId 0)

/-- `amountWei` is what the cast of the requested amount to an integer gives. -/
structure DepositInfoRequest where
  sessionId : String
  amountWei : U128

def depositInfo (req : DepositInfoRequest) : Handler Response := do
  let bank ← orFail 400 "Bank not deployed" (← await (.readDeployment .coinFlipBank))
  let commitment ← orFail 400 "No commitment for this session"
    (← await (.getCommitment req.sessionId))
  let amountLow := lowerHex req.amountWei.toNat
  let seed := lowerHex commitment.seedBlock
  await (.setBetAmount req.sessionId amountLow)
  pure (.depositInfo bank.contractAddress strkToken commitment.sessionFelt amountLow "0x0" seed
    "0x0")

structure ConfirmDepositRequest where
  sessionId : String
  txHash : String

/-- The block that the match is confirmed in or, when that is not known, the
latest one. -/
def matchBlock : Option Nat → Handler Nat
  | some block => pure block
  | none => do
      match ← await .blockNumber with
      | .ok block => pure block
      | .error _ => pure 0

def confirmDeposit (api : ServerApi) (req : ConfirmDepositRequest) : Handler Response := do
  let waited ← waitForTx api req.txHash 120 3
  let _ ← orFailWith 504 ("Deposit tx not confirmed: " ++ ·) (waited.mapError RpcError.toString)
  let bank ← orFail 400 "Bank not deployed" (← await (.readDeployment .coinFlipBank))
  let commitment ← orFail 400 "No commitment for this session"
    (← await (.getCommitment req.sessionId))
  let invoked ← sncastInvoke api bank.contractAddress "match_deposit" [commitment.sessionFelt]
  let matchResult ← orFailWith 500 id invoked
  let matchTx ← orFail 500 "Bank match: no tx hash in output" matchResult.txHash
  let confirmedBlock ← matchBlock matchResult.blockNumber
  let coinflip ← await (.readDeployment .coinFlip)
  let deployBlock := (coinflip.map Deployment.deployBlock).getD 0
  let seedBlock := max confirmedBlock deployBlock
  await (.setSeedBlock req.sessionId seedBlock)
  pure (.confirmed true matchTx)

end Snip36.CoinFlipRoutes
