import Snip36.CoinFlipPlay
import Snip36.CounterState

/-!
The handlers of the counter routes that touch the reference block of a session:
the deployment, and the cycle that proves some increments and submits them.
-/

namespace Snip36.CounterRoutes

open CoinFlipPlay (configChainIdFelt defaultBounds maxAttempts readFelts shortened trim)
open CoinFlipRoutes (strkToken)
open CoinFlipState (Config Failure)
open CounterState
open Library.Hex
open Library.Interaction
open Payload
open RouteFailures
open Signing
open StarknetRpc
open ToolOutput

/-! ### Errors on the stream -/

section Failing

variable {α : Type}

/-- An error event ends the stream. -/
def streamError (message : String) : Handler α := do
  await (.send "error" message)
  .done (.err (.stream message))

def orStreamError (message : String → String) : Except String α → Handler α
  | .ok a => pure a
  | .error e => streamError (message e)

end Failing

/-! ### The node and `sncast` -/

def pollInclusion : Program.Inclusion TxPolling.PollAsk TxPolling.PollAnswer Ask Answer where
  request := .poll
  answer := fun _ answer => answer

def waitForTx (api : CounterApi) (txHash : String) (timeoutSecs pollIntervalSecs : Nat) :
    Handler (Except RpcError Json) :=
  (TxPolling.waitForTx api.display txHash timeoutSecs pollIntervalSecs).translate pollInclusion

def waitForBlockAfter (blockNumber timeoutSecs pollIntervalSecs : Nat) :
    Handler (Except RpcError Nat) :=
  (TxPolling.waitForBlockAfter blockNumber timeoutSecs pollIntervalSecs).translate pollInclusion

/-- The scope of the guard of the `sncast` mutex. -/
def withSncastLock {α : Type} (body : Handler α) : Handler α :=
  Program.bracket (await .lockSncast) (await .unlockSncast) body

/-! ### Deployment -/

def waitIfKnown : Option Nat → Handler Unit
  | none => pure ()
  | some block => do
      let _ ← waitForBlockAfter block 120 2
      pure ()

/-- A deployed contract is proved against the block of its deployment at first. -/
def deployedSession (contractAddress classHash : String) (blockNumber : Option Nat) : Session where
  contractAddress := some contractAddress
  classHash := some classHash
  deployBlock := blockNumber
  lastReferenceBlock := blockNumber

/-- The lock is held to the end. -/
def deployCounter (api : CounterApi) (sessionId : String) :
    Handler Response :=
  withSncastLock do
    let declareOutput ← orFailWith 500 id (← await (.sncast (.declare "Counter")))
    let declareCombined := declareOutput.combined
    let classHash ← orFail 500 ("Declare failed: " ++ declareCombined)
      (extractLongHex declareCombined)
    let salt := "0x" ++ (← await .randomSalt)
    let deployOutput ← orFailWith 500 id
      (← await (.sncast (.deploy classHash none salt)))
    let deployCombined := deployOutput.combined
    if deployOutput.success then do
      let contractAddress ← orFail 500 ("Deploy failed: " ++ deployCombined)
        (api.parseHex "contract_address" deployCombined)
      let txHash ← orFail 500
        ("Deploy succeeded but no transaction_hash in output: " ++ deployCombined)
        (api.parseHex "transaction_hash" deployCombined)
      let waited ← waitForTx api txHash 120 2
      let receipt ← orFailWith 504 id (waited.mapError RpcError.toString)
      let blockNumber := receiptBlockNumber receipt
      waitIfKnown blockNumber
      await (.updateSession sessionId fun _ =>
        deployedSession contractAddress classHash blockNumber)
      pure (.deployed classHash contractAddress txHash blockNumber)
    else
      fail 500 ("Counter deploy failed (exit " ++ deployOutput.status ++ "): " ++ deployCombined)

/-! ### A cycle of proving and submitting -/

structure ProveBlockQuery where
  incrementAmount : U64
  incrementsPerBlock : U32

/-- What the task of a cycle takes over from its request and the session. -/
structure ProveTask where
  sessionId : String
  contractAddress : String
  referenceBlock : Nat
  incrementAmount : U64
  incrementsPerBlock : U32

def incrementSelector : String :=
  "0x7a44dde9fea32737a5cf3f9683b3235138654aa2d189f6fe44af37a61dc60d"

def getCounterSelector : String :=
  "0x3370263ab53343580e77063a719a5865004caff7f367ec136a6cdd34b6786ca"

/-- A product of 64 bits: with overflow checks a longer one panics, else it wraps. -/
def mulU64 (overflowChecks : Bool) (a b : U64) : Outcome Failure U64 :=
  if overflowChecks ∧ 2 ^ 64 ≤ a.toNat * b.toNat then
    .panicked "attempt to multiply with overflow"
  else .ok (a * b)

/-- The words of one call of `increment`. -/
def ProveTask.callWords (task : ProveTask) : List String :=
  [task.contractAddress, incrementSelector, "0x1", lowerHex task.incrementAmount.toNat]

/-- As many calls as there are increments in a block, after their number. -/
def ProveTask.calldata (task : ProveTask) : List String :=
  lowerHex task.incrementsPerBlock.toNat ::
    (List.replicate task.incrementsPerBlock.toNat task.callWords).flatten

/-- `Path::join` with one name. -/
def joinPath (dir name : String) : String :=
  if name.toList.head? = some '/' then name
  else if dir = "" ∨ dir.toList.getLast? = some '/' then dir ++ name
  else dir ++ "/" ++ name

/-- `Path::with_extension`. A name that starts with its only dot has no extension. -/
def withExtension (path extension : String) : String :=
  let name := path.toList.reverse.takeWhile (· ≠ '/')
  let dir := path.toList.reverse.dropWhile (· ≠ '/')
  let stem :=
    match name.dropWhile (· ≠ '.') with
    | _ :: c :: before => c :: before
    | _ => name
  String.ofList (dir.reverse ++ stem.reverse) ++ "." ++ extension

structure ProveTransaction where
  sender : Felt
  privateKey : Felt
  calldata : List Felt
  chainId : Felt
  nonce : Nat

def readProofFacts (api : CounterApi) (facts : String) : Except String (List Felt) := do
  let factsHex ← ((api.parseStrings facts).mapError ("invalid JSON: " ++ ·)).mapError
    ("Invalid proof_facts: " ++ ·)
  (readFelts api.toServerApi factsHex).mapError ("Failed to parse proof_facts: " ++ ·)

def ProveTransaction.submitParams (tx : ProveTransaction) (proof : String)
    (proofFacts : List Felt) : SubmitParams where
  senderAddress := tx.sender
  privateKey := tx.privateKey
  calldata := tx.calldata
  proofBase64 := trim proof
  proofFacts := proofFacts
  nonce := Felt.fromNat tx.nonce
  chainId := tx.chainId
  resourceBounds := defaultBounds

section Cycle

variable (api : CounterApi) (config : Config)

def playgroundDir : String := joinPath config.outputDir "playground"

def txPath (sessionId : String) : String := joinPath (playgroundDir config) (sessionId ++ "_tx.json")

def proofPath (sessionId : String) : String := joinPath (playgroundDir config) (sessionId ++ ".proof")

def factsPath (sessionId : String) : String :=
  withExtension (proofPath config sessionId) "proof_facts"

def messagesPath (sessionId : String) : String :=
  withExtension (proofPath config sessionId) "raw_messages.json"

def txJson (task : ProveTask) (nonce : Nat) (sig : Signature) : Json :=
  .obj [
    ("type", .str "INVOKE"),
    ("version", .str "0x3"),
    ("sender_address", .str config.accountAddress),
    ("calldata", .ofStrings task.calldata),
    ("nonce", .str (lowerHex nonce)),
    ("resource_bounds", toRpcJson defaultBounds),
    ("tip", .str "0x0"),
    ("paymaster_data", .arr []),
    ("account_deployment_data", .arr []),
    ("nonce_data_availability_mode", .str "L1"),
    ("fee_data_availability_mode", .str "L1"),
    ("signature", .ofStrings [feltHex sig.r, feltHex sig.s])]

def announceCycle (task : ProveTask) : Handler U64 := do
  let expectedIncrement ← .done (mulU64 api.overflowChecks task.incrementAmount
    (task.incrementsPerBlock.setWidth 64))
  await (.send "log" ("Starting SNIP-36 cycle: " ++
    toString task.incrementsPerBlock.toNat ++ " calls x increment(" ++
    toString task.incrementAmount.toNat ++ ") = +" ++ toString expectedIncrement.toNat ++
    " per block"))
  pure expectedIncrement

/-- The nonce is that of the reference block, as the transaction is proved there. -/
def signTransaction (task : ProveTask) :
    Handler (ProveTransaction × Signature) := do
  let calldata ← orStreamError ("Failed to parse calldata: " ++ ·)
    (readFelts api.toServerApi task.calldata)
  let sender ← orStreamError ("Invalid account address: " ++ ·)
    (feltFromHex api.fromHex config.accountAddress)
  let privateKey ← orStreamError ("Invalid private key: " ++ ·)
    (feltFromHex api.fromHex config.privateKey)
  let chainId ← orStreamError ("Invalid chain_id: " ++ ·) (configChainIdFelt config)
  let answered ← await (.getNonceAtBlock config.accountAddress task.referenceBlock)
  let nonce ← orStreamError
    (("Failed to get nonce at block " ++ toString task.referenceBlock ++ ": ") ++ ·)
    (answered.mapError RpcError.toString)
  let standardTxHash := computeInvokeV3TxHash api.crypto.poseidonHashMany sender calldata chainId
    (Felt.fromNat nonce) 0 defaultBounds [] [] 0 0 []
  let sig ← orStreamError ("Signing failed: " ++ ·)
    ((sign api.crypto privateKey standardTxHash).mapError SignError.toString)
  pure (⟨sender, privateKey, calldata, chainId, nonce⟩, sig)

/-- The first phase: sign the transaction and write it down for the prover. -/
def constructTransaction (task : ProveTask) : Handler ProveTransaction := do
  await (.send "phase" "constructing")
  let (tx, sig) ← signTransaction api config task
  let created ← await (.createDir (playgroundDir config))
  orStreamError ("Failed to create output dir: " ++ ·) created
  let written ← await (.writeFile (txPath config task.sessionId)
    (api.pretty (txJson config task tx.nonce sig)))
  orStreamError ("Failed to write tx JSON: " ++ ·) (written.mapError FailedWrite.message)
  await (.send "log" ("Transaction constructed (nonce: " ++ toString tx.nonce ++
    ", ref block: " ++ toString task.referenceBlock ++ ")"))
  pure tx

def proveArgs (task : ProveTask) : List String :=
  ["prove", "virtual-os", "--block-number", toString task.referenceBlock, "--tx-json",
    txPath config task.sessionId, "--rpc-url", config.rpcUrl, "--output",
    proofPath config task.sessionId, "--strk-fee-token", strkToken]

def succeeded : Outcome Unit Unit → Bool
  | .ok _ => true
  | .err _ => false
  | .panicked _ => false

/-- From the start of the prover to its exit, without the lines that it prints. -/
def runProver (task : ProveTask) : Handler Bool := do
  let started ← await (.startProver config.snip36Bin (proveArgs config task))
  orStreamError (("Failed to spawn prover (" ++ config.snip36Bin ++ "): ") ++ ·) started
  let outcome ← (api.prover (proveArgs config task)).attempt
  await (.proverExited (succeeded outcome))
  pure (succeeded outcome)

/-- Whether the prover has ended well and left a proof. -/
def proofFound (task : ProveTask) (ended : Bool) : Handler Bool :=
  if ended then await (.fileExists (proofPath config task.sessionId)) else pure false

def announceMessages (task : ProveTask) : Handler Unit := do
  if ← await (.fileExists (messagesPath config task.sessionId)) then
    await (.send "log" ("L2->L1 messages saved: " ++ messagesPath config task.sessionId))

/-- The second phase. It gives the size of the proof. -/
def prove (task : ProveTask) : Handler Nat := do
  await (.send "phase" "proving")
  await (.send "log" ("Proving against block " ++ toString task.referenceBlock ++ "..."))
  let ended ← runProver api config task
  if ← proofFound config task ended then do
    let proofSize ← await (.fileSize (proofPath config task.sessionId))
    await (.send "log" ("Proof generated (" ++ toString proofSize ++ " bytes)"))
    announceMessages config task
    pure proofSize
  else streamError "Proof generation failed"

/-- Hand the payload over until the node takes it. Only an error of the node is
worth another attempt. -/
def addTransaction (payload : Json) : Nat → Handler String
  | 0 => streamError "RPC did not accept after all retries"
  | left + 1 => do
      let attempt := toString (maxAttempts - left) ++ "/" ++ toString maxAttempts
      match ← await (.addInvokeTransaction payload) with
      | .ok acceptedTxHash => do
          await (.send "log" ("RPC accepted (attempt " ++ attempt ++ "): " ++
            acceptedTxHash))
          pure acceptedTxHash
      | .error (.jsonRpc msg) =>
          if 0 < left then do
            await (.send "log" ("RPC error (attempt " ++ attempt ++
              "), waiting 10s... (" ++ msg ++ ")"))
            await (.sleep 10)
            addTransaction payload left
          else streamError ("RPC submission failed: " ++ (RpcError.jsonRpc msg).toString)
      | .error e => streamError ("RPC submission failed: " ++ e.toString)

/-- Read back what the prover has left. -/
def readProof (task : ProveTask) : Handler (String × List Felt) := do
  let proofText ← await (.readFile (proofPath config task.sessionId))
  let proof ← orStreamError ("Failed to read proof: " ++ ·) proofText
  let factsText ← await (.readFile (factsPath config task.sessionId))
  let facts ← orStreamError ("Failed to read proof_facts: " ++ ·) factsText
  let proofFacts ← orStreamError id (readProofFacts api facts)
  pure (proof, proofFacts)

/-- The third phase: sign again, with the proof facts and the same nonce, and
submit. It gives the hash that the node has answered with. -/
def submit (task : ProveTask) (tx : ProveTransaction) : Handler String := do
  await (.send "phase" "submitting")
  let (proof, proofFacts) ← readProof api config task
  let (localTxHash, invokeTx) ← orStreamError ("SNIP-36 signing failed: " ++ ·)
    ((signAndBuildPayload api.crypto (tx.submitParams proof proofFacts)).mapError
      SignError.toString)
  await (.send "log" ("Submitting tx " ++ shortened (feltHex localTxHash) ++
    " via RPC..."))
  addTransaction invokeTx maxAttempts

def setReferenceBlock (blockNumber : Nat) (session : Session) : Session :=
  { session with lastReferenceBlock := some blockNumber }

/-- The fourth phase. The block of the transaction is the next reference block. -/
def verifyInclusion (task : ProveTask) (rpcTxHash : String) : Handler Unit := do
  await (.send "phase" "verifying")
  await (.send "log" "Waiting for tx inclusion...")
  let waited ← waitForTx api rpcTxHash 180 5
  let receipt ← orStreamError ("Tx not confirmed: " ++ ·) (waited.mapError RpcError.toString)
  let bn := (receiptBlockNumber receipt).getD 0
  await (.send "log" ("Tx included in block " ++ toString bn))
  await (.updateSession task.sessionId (setReferenceBlock bn))

/-- A counter that cannot be read counts as zero. -/
def counterValue : Except RpcError (List String) → Nat
  | .ok result => (result.head?.bind fun s => u64FromHexDigits (trimHexPrefix s.toList)).getD 0
  | .error _ => 0

def completeJson (rpcTxHash : String) (counterValue proofSize expectedIncrement : Nat) : Json :=
  .obj [
    ("tx_hash", .str rpcTxHash),
    ("counter_value", .num counterValue),
    ("proof_size", .num proofSize),
    ("increment", .num expectedIncrement)]

def report (task : ProveTask) (rpcTxHash : String) (proofSize : Nat) (expectedIncrement : U64) :
    Handler Response := do
  let value := counterValue
    (← await (.call task.contractAddress getCounterSelector))
  await (.send "log" ("Counter value: " ++ toString value))
  await (.sendJson "complete"
    (completeJson rpcTxHash value proofSize expectedIncrement.toNat))
  pure .streamed

/-- The task that is spawned for an accepted request. -/
def runCycle (task : ProveTask) : Handler Response := do
  let expectedIncrement ← announceCycle api task
  let tx ← constructTransaction api config task
  let proofSize ← prove api config task
  let rpcTxHash ← submit api config task tx
  verifyInclusion api task rpcTxHash
  report task rpcTxHash proofSize expectedIncrement

def proveBlock (sessionId : String) (params : ProveBlockQuery) :
    Handler Response := do
  let session ← await (.getSession sessionId)
  let contractAddress ← orFail 400 "No counter contract deployed" session.contractAddress
  let referenceBlock ← orFail 400 "Deploy block not tracked"
    (session.lastReferenceBlock.or session.deployBlock)
  runCycle api config ⟨sessionId, contractAddress, referenceBlock, params.incrementAmount,
    params.incrementsPerBlock⟩

end Cycle

end Snip36.CounterRoutes
