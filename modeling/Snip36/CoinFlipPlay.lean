import Snip36.CoinFlipRoutes

/-!
The play route: the reveal is checked against the commitment, and then a task
proves the flip, submits the proof, settles with the bank and reports.
-/

namespace Snip36.CoinFlipPlay

open Library.Fallible
open Library.Hex
open Library.Interaction
open CoinFlipRoutes
open CoinFlipState
open Payload
open RouteFailures
open Signing
open StarknetRpc

structure PlayQuery where
  player : String
  bet : U8
  nonce : String

/-- Any bet above one counts as one. -/
def PlayQuery.side (params : PlayQuery) : U8 := if params.bet ≤ 1 then params.bet else 1

/-- The checks of a reveal against the commitment that was taken for it. -/
def verifyReveal (api : ServerApi) (commitment : BetCommitment) (params : PlayQuery) :
    Except Failure Unit := do
  if params.player ≠ commitment.player then
    throw (.response 400 "Player address does not match commitment.")
  let nonceFelt ← (feltFromHex api.fromHex params.nonce).mapError fun e =>
    .response 400 ("Invalid nonce: " ++ e)
  let computed := api.pedersen (Felt.fromNat params.side.toNat) nonceFelt
  if feltHex computed ≠ commitment.commitment then
    throw (.response 400 ("Commitment mismatch: pedersen(" ++ toString params.side.toNat ++
      ", nonce) = " ++ feltHex computed ++ ", expected " ++ commitment.commitment))

def sideName (bet : U8) : String := if bet = 0 then "heads" else "tails"

/-- What the task of a play takes over from its request. -/
structure PlayTask where
  deployment : Deployment
  sessionId : String
  seedBlock : Nat
  player : String
  bet : U8

def PlayTask.seed (task : PlayTask) : String := lowerHex task.seedBlock

def playSelector : String := "0x21c4a0db2b08b026c4e31bf76d5dd9b92aa54c0978df57474355786073775e8"

/-- One call to `play(seed, player, bet)`. -/
def PlayTask.calldata (task : PlayTask) : List String :=
  ["0x1", task.deployment.contractAddress, playSelector, "0x3", task.seed, task.player,
    lowerHex task.bet.toNat]

/-- `&s[..n]` for a string of at least `n` bytes, which panics when byte `n` is
inside a character. -/
def bytePrefix : Nat → List Char → Option (List Char)
  | _, [] => some []
  | n, c :: cs =>
      if n = 0 then some []
      else if c.utf8Size ≤ n then (bytePrefix (n - c.utf8Size) cs).map (c :: ·)
      else none

def startLog (task : PlayTask) : Handler Unit :=
  match bytePrefix 18 task.player.toList with
  | none => .done (.panicked "end byte index 18 is not a char boundary")
  | some shown => await (.send "log" ("CoinFlip: player=" ++ String.ofList shown ++ " bet=" ++
      toString task.bet.toNat ++ " (" ++ sideName task.bet ++ ")"))

/-- `Config::chain_id_felt`. -/
def configChainIdFelt (config : Config) : Except String Felt :=
  let bytes := asBytes config.chainId
  if bytes.length > 31 then
    .error ("invalid chain_id: chain_id '" ++ config.chainId ++ "' is " ++
      toString bytes.length ++ " bytes, max is 31")
  else .ok (feltFromBytesBeSlice (List.replicate (32 - bytes.length) 0 ++ bytes))

structure PlayTransaction where
  sender : Felt
  privateKey : Felt
  calldata : List Felt
  chainId : Felt
  nonce : Nat

def readFelts (api : ServerApi) (strings : List String) : Except String (List Felt) :=
  collect (feltFromHex api.fromHex) strings

section Task

variable (api : ServerApi) (config : Config)

def jsonPath (sessionId suffix : String) : String :=
  config.outputDir ++ "/coinflip/" ++ sessionId ++ suffix

/-- The first phase: sign the transaction with the nonce at the seed block and
write it down for the prover. -/
def constructTransaction (task : PlayTask) : Handler PlayTransaction := do
  await (.send "phase" "constructing")
  let calldata ← orStreamError ("Failed to parse calldata: " ++ ·) (readFelts api task.calldata)
  let sender ← orStreamError ("Invalid sender address: " ++ ·)
    (feltFromHex api.fromHex config.accountAddress)
  let privateKey ← orStreamError ("Invalid private key: " ++ ·)
    (feltFromHex api.fromHex config.privateKey)
  let chainId ← orStreamError ("Invalid chain_id: " ++ ·) (configChainIdFelt config)
  let answered ← await (.getNonceAtBlock config.accountAddress task.seedBlock)
  let nonce ← orStreamError ("Failed to get nonce: " ++ ·) (answered.mapError RpcError.toString)
  let standardTxHash := computeInvokeV3TxHash api.crypto.poseidonHashMany sender calldata chainId
    (Felt.fromNat nonce) 0 zeroFee [] [] 0 0 []
  let sig ← orStreamError ("Signing failed: " ++ ·)
    ((sign api.crypto privateKey standardTxHash).mapError SignError.toString)
  let txJson : Json := .obj [
    ("type", .str "INVOKE"),
    ("version", .str "0x3"),
    ("sender_address", .str config.accountAddress),
    ("calldata", .ofStrings task.calldata),
    ("nonce", .str (lowerHex nonce)),
    ("resource_bounds", toRpcJson zeroFee),
    ("tip", .str "0x0"),
    ("paymaster_data", .arr []),
    ("account_deployment_data", .arr []),
    ("nonce_data_availability_mode", .str "L1"),
    ("fee_data_availability_mode", .str "L1"),
    ("signature", .ofStrings [feltHex sig.r, feltHex sig.s])]
  let written ← await (.writeJson (jsonPath config task.sessionId "_tx.json") txJson)
  orStreamError ("Failed to write tx JSON: " ++ ·) written
  await (.send "log" ("Transaction constructed (nonce: " ++ toString nonce ++ ", seed: " ++
    task.seed ++ ")"))
  pure ⟨sender, privateKey, calldata, chainId, nonce⟩

def proveArgs (task : PlayTask) : List String :=
  ["prove", "virtual-os", "--block-number", toString task.seedBlock, "--tx-json",
    jsonPath config task.sessionId "_tx.json", "--rpc-url", config.rpcUrl, "--output",
    jsonPath config task.sessionId ".proof", "--strk-fee-token", strkToken] ++
    match config.proverUrl with
    | some url => if url = "" then [] else ["--prover-url", url]
    | none => []

/-- The second phase, without the lines that the prover prints. It gives the size
of the proof. -/
def prove (task : PlayTask) : Handler Nat := do
  await (.send "phase" "proving")
  await (.send "log" ("Proving against block " ++ toString task.seedBlock ++ "..."))
  match ← await (.runProver config.snip36Bin (proveArgs config task)) with
  | .notSpawned e => streamError ("Failed to spawn prover (" ++ config.snip36Bin ++ "): " ++ e)
  | .exited false => streamError "Proof generation failed"
  | .exited true => do
      let proofSize ← await (.fileSize (jsonPath config task.sessionId ".proof"))
      await (.send "log" ("Proof generated (" ++ toString proofSize ++ " bytes)"))
      pure proofSize

structure Settlement where
  outcomeLabel : String
  won : Bool
  deriving DecidableEq

def asArray : Json → Option (List Json)
  | .arr items => some items
  | _ => none

/-- The string entries of the payload of the first message. -/
def payloadFields (messages : Json) : Option (List String) := do
  let msgs ← (messages.get? "l2_to_l1_messages").bind asArray
  let first ← msgs.head?
  let payload ← (first.get? "payload").bind asArray
  pure (payload.filterMap Json.asStr)

/-- The payload is `[player, seed, bet, outcome, won]`. -/
def readSettlement (messages : Option Json) : Option Settlement :=
  match messages.bind payloadFields with
  | some (_ :: _ :: _ :: outcome :: won :: _) =>
      some ⟨if outcome = "0x0" then "heads" else "tails", won = "0x1"⟩
  | _ => none

def parseSettlement (task : PlayTask) : Handler Settlement := do
  let messages ← await (.readJson (jsonPath config task.sessionId ".raw_messages.json"))
  match readSettlement messages with
  | some settlement => do
      await (.send "log" ("Settlement: outcome=" ++ settlement.outcomeLabel ++ " won=" ++
        toString settlement.won))
      pure settlement
  | none => pure ⟨"", false⟩

/-- `char::is_whitespace`. -/
def isWhitespace (c : Char) : Bool :=
  let n := c.toNat
  (9 ≤ n ∧ n ≤ 13) ∨ n ∈ [0x20, 0x85, 0xa0, 0x1680, 0x2028, 0x2029, 0x202f, 0x205f, 0x3000] ∨
    (0x2000 ≤ n ∧ n ≤ 0x200a)

/-- `trim_end_matches`. -/
def dropEnd (p : Char → Bool) (s : List Char) : List Char := (s.reverse.dropWhile p).reverse

/-- `str::trim`. -/
def trim (s : String) : String :=
  String.ofList (dropEnd isWhitespace (s.toList.dropWhile isWhitespace))

def memberText (body : Json) (key : String) : String :=
  ((body.get? key).bind Json.asStr).getD ""

/-- `str::contains`. -/
def containsText (text part : String) : Bool := text.toList.tails.any part.toList.isPrefixOf

def maxAttempts : Nat := 20

/-- Post the payload until the gateway takes it. Only a seed block that is too
young for the proof is worth another attempt. -/
def postPayload (url : String) (payload : Json) : Nat → Handler Unit
  | 0 => streamError "Not accepted after all retries"
  | left + 1 => do
      let attempt := toString (maxAttempts - left) ++ "/" ++ toString maxAttempts
      match ← await (.post url payload) with
      | .error (.request e) => streamError ("Request failed: " ++ e)
      | .error (.body e) => streamError ("Failed to read response: " ++ e)
      | .ok body =>
          if memberText body "code" = "TRANSACTION_RECEIVED" then
            await (.send "log" ("Accepted (attempt " ++ attempt ++ ")"))
          else if (containsText (memberText body "message") "too recent" ∨
              containsText (memberText body "message") "stored block hash: 0") ∧ 0 < left then do
            await (.send "log" ("Not ready (attempt " ++ attempt ++ "), waiting 10s..."))
            await (.sleep 10)
            postPayload url payload left
          else streamError ("Rejected: " ++ api.display body)

/-- `ResourceBounds::default`. -/
def defaultBounds : ResourceBounds where
  l1Gas := ⟨0x10000, 0x38d7ea4c68000⟩
  l2Gas := ⟨0x7000000, 0x1dcd65000⟩
  l1DataGas := ⟨0x1b0, 0x38d7ea4c68000⟩

def submitUrl : String :=
  String.ofList (dropEnd (· = '/') (config.gatewayUrl.getD "").toList) ++
    "/gateway/add_transaction"

def shortened (text : String) : String := String.ofList (text.toList.take 18)

/-- The third phase: sign again, with the proof facts and the same nonce, and
submit. It gives the hash of the submitted transaction. -/
def submit (task : PlayTask) (tx : PlayTransaction) : Handler String := do
  await (.send "phase" "submitting")
  let proofText ← await (.readFile (jsonPath config task.sessionId ".proof"))
  let proof ← orStreamError ("Failed to read proof: " ++ ·) proofText
  let factsText ← await (.readFile (jsonPath config task.sessionId ".proof_facts"))
  let facts ← orStreamError ("Failed to read proof_facts: " ++ ·) factsText
  let factsHex ← orStreamError ("Invalid proof_facts: " ++ ·)
    ((api.parseStrings facts).mapError ("invalid JSON: " ++ ·))
  let proofFacts ← orStreamError ("Failed to parse proof_facts: " ++ ·) (readFelts api factsHex)
  let params : SubmitParams := {
    senderAddress := tx.sender
    privateKey := tx.privateKey
    calldata := tx.calldata
    proofBase64 := trim proof
    proofFacts := proofFacts
    nonce := Felt.fromNat tx.nonce
    chainId := tx.chainId
    resourceBounds := defaultBounds }
  let (gwTxHash, payload) ← orStreamError ("SNIP-36 signing failed: " ++ ·)
    ((signAndBuildPayload api.crypto params).mapError SignError.toString)
  let gwTxHashHex := feltHex gwTxHash
  await (.send "log" ("Submitting tx " ++ shortened gwTxHashHex ++ "..."))
  postPayload api (submitUrl config) payload maxAttempts
  pure gwTxHashHex

/-- The fourth phase. -/
def verifyInclusion (txHash : String) : Handler Unit := do
  await (.send "phase" "verifying")
  await (.send "log" "Waiting for tx inclusion...")
  let waited ← waitForTx api txHash 180 5
  let receipt ← orStreamError ("Tx not confirmed: " ++ ·) (waited.mapError RpcError.toString)
  await (.send "log" ("Tx included in block " ++ toString ((receiptBlockNumber receipt).getD 0)))

/-- What the settlement of the bank comes to in the report: its hash, when
`sncast` has printed one. -/
def settleWith (task : PlayTask) (bank : Deployment) : Handler String := do
  await (.send "phase" "settling")
  await (.send "log" "Settling on-chain...")
  match ← sncastInvoke api bank.contractAddress "settle"
      [sessionFelt task.sessionId, task.seed] with
  | .ok result =>
      match result.txHash with
      | some tx => do
          await (.send "log" ("Settlement tx: " ++ shortened tx))
          await (.send "log" "Settlement confirmed")
          pure tx
      | none => do
          await (.send "log" "Settlement: no tx hash in output")
          pure ""
  | .error e => do
      await (.send "log" ("Settlement failed (non-critical): " ++ e))
      pure ""

/-- The fifth phase, without a bank nothing. -/
def settleOnChain (task : PlayTask) : Handler String := do
  match ← await (.readDeployment .coinFlipBank) with
  | none => pure ""
  | some bank => settleWith api task bank

def resultJson (task : PlayTask) (settlement : Settlement) (txHash settleTxHash : String)
    (proofSize : Nat) : Json :=
  .obj [
    ("outcome", .str settlement.outcomeLabel),
    ("bet", .str (sideName task.bet)),
    ("won", .bool settlement.won),
    ("tx_hash", .str txHash),
    ("settle_tx_hash", .str settleTxHash),
    ("proof_size", .num proofSize),
    ("seed", .str task.seed),
    ("player", .str task.player)]

/-- The task that is spawned for an accepted play. -/
def runPlay (task : PlayTask) : Handler Response := do
  startLog task
  let tx ← constructTransaction api config task
  let proofSize ← prove config task
  let settlement ← parseSettlement config task
  let txHash ← submit api config task tx
  verifyInclusion api txHash
  let settleTxHash ← settleOnChain api task
  await (.sendJson "result" (resultJson task settlement txHash settleTxHash proofSize))
  pure .streamed

/-- The commitment is taken out of the map before it is looked at. -/
def playCoinflip (sessionId : String) (params : PlayQuery) : Handler Response := do
  let deployment ← orFail 400
    "CoinFlip contract not deployed. Call POST /api/coinflip/deploy first."
    (← await (.readDeployment .coinFlip))
  let commitment ← orFail 400
    "No commitment found for this session. Call POST /api/coinflip/commit first."
    (← await (.removeCommitment sessionId))
  match verifyReveal api commitment params with
  | .error failure => .done (.err failure)
  | .ok _ =>
      runPlay api config ⟨deployment, sessionId, commitment.seedBlock, params.player, params.side⟩

end Task

end Snip36.CoinFlipPlay
