import Snip36.Rpc
import Snip36.StarknetRpc

/-!
How the two JSON-RPC clients read the body of a reply: one looks members up in
an untyped value, the other decodes into one of two records, whichever fits
first.
-/

namespace Snip36.RpcReplies

open Library
open Library.Fallible
open Rpc
open StarknetRpc

/-! ### Replies -/

/-- What comes back for a request. The body is what its text says, if it is JSON. -/
structure HttpResponse where
  status : Nat
  statusText : String
  body : Except String Json

/-- Whoever is asked, or an error of the transport. -/
abbrev Endpoint := Json → Except String HttpResponse

/-- The values of the members with this name, in order. -/
def occurrences (key : String) (members : List (String × Json)) : List Json :=
  (members.filter fun e => e.1 = key).map Prod.snd

/-- Decoding an object as a `Value` keeps the last member of every name. -/
def toValue : Json → Json
  | .obj members => .obj (IndexMap.ofList members).entries
  | json => json

/-! ### The untyped client -/

def callRaw (endpoint : Endpoint) (payload : Json) : Except RpcError Json := do
  let resp ← (endpoint payload).mapError .http
  let body ← resp.body.mapError .http
  pure (toValue body)

def call (display : Json → String) (endpoint : Endpoint) (method : String) (params : Json) :
    Except RpcError Json := do
  let payload := .obj
    [("jsonrpc", .str "2.0"), ("method", .str method), ("params", params), ("id", .num 1)]
  let resp ← callRaw endpoint payload
  match resp.get? "error" with
  | some error => .error (.jsonRpc (display error))
  | none =>
      match resp.get? "result" with
      | some result => .ok result
      | none => .error (.unexpected (display resp))

/-! ### The typed client -/

/-- A field of a record that may be missing or null; no name may occur twice. -/
def optionalField {α : Type} (decode : Json → Option α) : List Json → Option (Option α)
  | [] => some none
  | [.null] => some none
  | [value] => (decode value).map some
  | _ => none

def requiredField {α : Type} (decode : Json → Option α) : List Json → Option α
  | [value] => decode value
  | _ => none

def asU32 : Json → Option Nat
  | .num n => if n < 2 ^ 32 then some n else none
  | _ => none

def asI32 : Json → Option Int
  | .num n => if n < 2 ^ 31 then some n else none
  | .negNum n => if n < 2 ^ 31 then some (-(n + 1)) else none
  | _ => none

structure RpcSpecError where
  code : Int
  message : String
  data : Option Json

def RpcSpecError.ofFields (code message data : List Json) : Option RpcSpecError := do
  let code ← requiredField asI32 code
  let message ← requiredField Json.asStr message
  let data ← optionalField some data
  pure ⟨code, message, data⟩

/-- A record is an object with its fields, or the list of their values. -/
def RpcSpecError.deserialize : Json → Option RpcSpecError
  | .obj members =>
      RpcSpecError.ofFields (occurrences "code" members) (occurrences "message" members)
        (occurrences "data" members)
  | .arr [code, message, data] => RpcSpecError.ofFields [code] [message] [data]
  | _ => none

structure RpcSuccessResponse where
  jsonrpc : Option String
  result : Json
  id : Nat

def RpcSuccessResponse.ofFields (jsonrpc result id : List Json) : Option RpcSuccessResponse := do
  let jsonrpc ← optionalField Json.asStr jsonrpc
  let result ← requiredField some result
  let id ← requiredField asU32 id
  pure ⟨jsonrpc, result, id⟩

def RpcSuccessResponse.deserialize : Json → Option RpcSuccessResponse
  | .obj members =>
      RpcSuccessResponse.ofFields (occurrences "jsonrpc" members) (occurrences "result" members)
        (occurrences "id" members)
  | .arr [jsonrpc, result, id] => RpcSuccessResponse.ofFields [jsonrpc] [result] [id]
  | _ => none

structure RpcErrorResponse where
  jsonrpc : Option String
  error : RpcSpecError
  id : Nat

def RpcErrorResponse.ofFields (jsonrpc error id : List Json) : Option RpcErrorResponse := do
  let jsonrpc ← optionalField Json.asStr jsonrpc
  let error ← requiredField RpcSpecError.deserialize error
  let id ← requiredField asU32 id
  pure ⟨jsonrpc, error, id⟩

def RpcErrorResponse.deserialize : Json → Option RpcErrorResponse
  | .obj members =>
      RpcErrorResponse.ofFields (occurrences "jsonrpc" members) (occurrences "error" members)
        (occurrences "id" members)
  | .arr [jsonrpc, error, id] => RpcErrorResponse.ofFields [jsonrpc] [error] [id]
  | _ => none

inductive RpcResponse where
  | success (response : RpcSuccessResponse)
  | error (response : RpcErrorResponse)

/-- Untagged: the first alternative that fits is taken. -/
def RpcResponse.deserialize (body : Json) : Option RpcResponse :=
  match RpcSuccessResponse.deserialize body with
  | some ok => some (.success ok)
  | none => (RpcErrorResponse.deserialize body).map .error

def rpcErrorContractAddressNotFound : Int := 20
def rpcErrorBlockNotFound : Int := 24
def rpcClassHashNotFound : Int := 28
def rpcTransactionExecutionError : Int := 41
def rpcErrorInvalidParams : Int := -32602

def reexecutionErrorOf (display : Json → String) (method : String) (params : Json)
    (error : RpcSpecError) : ReexecutionError :=
  if error.code = rpcErrorBlockNotFound then .blockNotFound
  else if error.code = rpcErrorContractAddressNotFound then .contractAddressNotFound
  else if error.code = rpcClassHashNotFound then .classHashNotFound
  else if error.code = rpcTransactionExecutionError then .transactionExecution error.message
  else if error.code = rpcErrorInvalidParams then
    let data := (error.data.map fun d => s!" data={display d}").getD ""
    .invalidParams s!"{method}: {error.message}{data} params={display params}"
  else .unexpectedRpc error.code error.message

/-- `decodeFailure` is the text of the HTTP client for a body of another shape. -/
def sendRpcRequestAsync (display : Json → String) (decodeFailure jsonRpcVersion : String)
    (endpoint : Endpoint) (method : String) (params : Json) : Except ReexecutionError Json := do
  let requestBody := .obj
    [("jsonrpc", .str jsonRpcVersion), ("id", .num 0), ("method", .str method),
      ("params", params)]
  let response ← (endpoint requestBody).mapError .rpcRequest
  if ¬ (200 ≤ response.status ∧ response.status < 300) then
    .error (.rpcStatus response.statusText)
  else
    let body ← response.body.mapError .rpcParse
    match RpcResponse.deserialize body with
    | none => .error (.rpcParse decodeFailure)
    | some (.success ok) => .ok ok.result
    | some (.error err) => .error (reexecutionErrorOf display method params err.error)

/-! ### What a reply says -/

/-- A server that answers every request with these members and its id. -/
def echoing (status : Nat) (statusText : String) (front back : List (String × Json)) : Endpoint :=
  fun request =>
    .ok ⟨status, statusText, .ok (.obj (front ++ ("id", (request.get? "id").getD .null) :: back))⟩

/-- The member that a decoded object has under this name. -/
def member (key : String) (members : List (String × Json)) : Option Json :=
  (occurrences key members).getLast?

/-- By the protocol: a result, and no error or the error null. -/
def Succeeds (members : List (String × Json)) (value : Json) : Prop :=
  member "result" members = some value ∧
    (member "error" members = none ∨ member "error" members = some .null)

theorem occurrences_append (key : String) (front back : List (String × Json)) :
    occurrences key (front ++ back) = occurrences key front ++ occurrences key back := by
  simp [occurrences]

theorem occurrences_cons (key : String) (e : String × Json) (members : List (String × Json)) :
    occurrences key (e :: members) =
      if e.1 = key then e.2 :: occurrences key members else occurrences key members := by
  by_cases h : e.1 = key <;> simp [occurrences, h]

theorem get?_toValue (key : String) (members : List (String × Json)) :
    (toValue (.obj members)).get? key = member key members := by
  change (IndexMap.ofList members).get? key = _
  induction members using List.reverseRecOn with
  | nil => rfl
  | append_singleton front e ih =>
      rw [IndexMap.ofList, IndexMap.extend_append, IndexMap.extend_cons, IndexMap.extend_nil,
        IndexMap.get?_insert, ← IndexMap.ofList, ih, member, member, occurrences_append,
        occurrences_cons]
      by_cases h : key = e.1
      · simp [h, occurrences]
      · simp [h, Ne.symm h, occurrences]

section Echo

variable {front back : List (String × Json)} {key : String} {id : Json}

theorem occurrences_echo (hkey : key ≠ "id") :
    occurrences key (front ++ ("id", id) :: back) = occurrences key (front ++ back) := by
  simp [occurrences_append, occurrences_cons, hkey.symm]

theorem member_echo (hkey : key ≠ "id") :
    member key (front ++ ("id", id) :: back) = member key (front ++ back) := by
  rw [member, occurrences_echo hkey, member]

theorem occurrences_id_echo (hid : ∀ e ∈ front ++ back, e.1 ≠ "id") :
    occurrences "id" (front ++ ("id", id) :: back) = [id] := by
  have hnone : ∀ members : List (String × Json), (∀ e ∈ members, e.1 ≠ "id") →
      occurrences "id" members = [] := by
    intro members hmembers
    simpa [occurrences] using fun key value hmem => hmembers (key, value) hmem
  rw [List.forall_mem_append] at hid
  rw [occurrences_append, occurrences_cons, hnone front hid.1, hnone back hid.2]
  rfl

end Echo

/-! ### Both clients on one reply -/

section Clients

variable {display : Json → String} {decodeFailure jsonRpcVersion method : String} {params : Json}
  {status : Nat} {statusText : String} {front back : List (String × Json)} {value : Json}

theorem callRaw_echoing (payload : Json) :
    callRaw (echoing status statusText front back) payload =
      .ok (toValue (.obj (front ++ ("id", (payload.get? "id").getD .null) :: back))) := rfl

/-- Any error member, even a null one, is an error to the untyped client. -/
theorem call_eq_ok_iff :
    call display (echoing status statusText front back) method params = .ok value ↔
      member "result" (front ++ back) = some value ∧ member "error" (front ++ back) = none := by
  simp only [call, callRaw_echoing, bind_eq_ok_iff, Except.ok.injEq, exists_eq_left',
    get?_toValue]
  rw [member_echo (show "error" ≠ "id" by decide), member_echo (show "result" ≠ "id" by decide)]
  cases member "error" (front ++ back) with
  | some error => simp
  | none =>
      cases member "result" (front ++ back) with
      | some result => simp
      | none => simp

/-- The members fit the record of a success: one result, and a version that is
missing, null or a text. -/
def FitsSuccess (members : List (String × Json)) (value : Json) : Prop :=
  occurrences "result" members = [value] ∧
    (optionalField Json.asStr (occurrences "jsonrpc" members)).isSome

theorem requiredField_eq_some_iff {α : Type} {decode : Json → Option α} {values : List Json}
    {a : α} :
    requiredField decode values = some a ↔ ∃ value, values = [value] ∧ decode value = some a := by
  match values with
  | [] => simp [requiredField]
  | [value] => simp [requiredField]
  | _ :: _ :: _ => simp [requiredField]

theorem ofFields_eq_some_iff {jsonrpc result id : List Json} {response : RpcSuccessResponse} :
    RpcSuccessResponse.ofFields jsonrpc result id = some response ↔
      optionalField Json.asStr jsonrpc = some response.jsonrpc ∧ result = [response.result] ∧
        requiredField asU32 id = some response.id := by
  simp only [RpcSuccessResponse.ofFields, Option.bind_eq_bind, Option.bind_eq_some_iff,
    requiredField_eq_some_iff, Option.some.injEq, Option.pure_def]
  constructor
  · rintro ⟨version, hversion, _, ⟨result, rfl, rfl⟩, id, hid, rfl⟩
    exact ⟨hversion, rfl, hid⟩
  · rintro ⟨hversion, rfl, hid⟩
    exact ⟨_, hversion, _, ⟨_, rfl, rfl⟩, _, hid, rfl⟩

theorem deserialize_success_iff {response : RpcSuccessResponse} (hid : ∀ e ∈ front ++ back,
    e.1 ≠ "id") :
    RpcSuccessResponse.deserialize (.obj (front ++ ("id", .num 0) :: back)) = some response ↔
      optionalField Json.asStr (occurrences "jsonrpc" (front ++ back)) = some response.jsonrpc ∧
        occurrences "result" (front ++ back) = [response.result] ∧ response.id = 0 := by
  rw [RpcSuccessResponse.deserialize, ofFields_eq_some_iff, occurrences_id_echo hid,
    occurrences_echo (show "jsonrpc" ≠ "id" by decide),
    occurrences_echo (show "result" ≠ "id" by decide)]
  simp [requiredField, asU32, eq_comm]

/-- A success is whatever fits its record, whether there is an error or not. -/
theorem sendRpcRequestAsync_eq_ok_iff (hstatus : 200 ≤ status ∧ status < 300)
    (hid : ∀ e ∈ front ++ back, e.1 ≠ "id") :
    sendRpcRequestAsync display decodeFailure jsonRpcVersion
        (echoing status statusText front back) method params = .ok value ↔
      FitsSuccess (front ++ back) value := by
  have hrequest : (Json.obj [("jsonrpc", .str jsonRpcVersion), ("id", .num 0),
      ("method", .str method), ("params", params)]).get? "id" = some (.num 0) := by
    simp [Json.get?_obj_cons]
  simp only [sendRpcRequestAsync, echoing, hrequest, Option.getD_some, bind_eq_ok_iff,
    mapError_eq_ok_iff, Except.ok.injEq, exists_eq_left', hstatus, and_self, not_true_eq_false,
    if_false]
  have hdecode : ∀ response,
      RpcSuccessResponse.deserialize (.obj (front ++ ("id", .num 0) :: back)) = some response ↔
        optionalField Json.asStr (occurrences "jsonrpc" (front ++ back)) = some response.jsonrpc ∧
          occurrences "result" (front ++ back) = [response.result] ∧ response.id = 0 :=
    fun _ => deserialize_success_iff hid
  rw [RpcResponse.deserialize, FitsSuccess, Option.isSome_iff_exists]
  cases h : RpcSuccessResponse.deserialize (.obj (front ++ ("id", .num 0) :: back)) with
  | some ok =>
      obtain ⟨hversion, hresult, -⟩ := (hdecode ok).mp h
      simp [hversion, hresult]
  | none =>
      have hunfit : ¬ (occurrences "result" (front ++ back) = [value] ∧
          ∃ version, optionalField Json.asStr (occurrences "jsonrpc" (front ++ back)) =
            some version) := by
        rintro ⟨hresult, version, hversion⟩
        have hfits := (hdecode ⟨version, value, 0⟩).mpr ⟨hversion, hresult, rfl⟩
        rw [h] at hfits
        cases hfits
      cases RpcErrorResponse.deserialize (.obj (front ++ ("id", .num 0) :: back)) with
      | some err => simpa using hunfit
      | none => simpa using hunfit

end Clients

/-! ### Where they agree -/

/-- Both clients take a reply for a success exactly if it is one, and give its
result. -/
structure ReadAlike (display : Json → String) (decodeFailure jsonRpcVersion method : String)
    (params : Json) (endpoint : Endpoint) (members : List (String × Json)) : Prop where
  alike : ∀ value, call display endpoint method params = .ok value ↔
    sendRpcRequestAsync display decodeFailure jsonRpcVersion endpoint method params = .ok value
  callFollows : ∀ value, call display endpoint method params = .ok value ↔ Succeeds members value
  sendFollows : ∀ value,
    sendRpcRequestAsync display decodeFailure jsonRpcVersion endpoint method params = .ok value ↔
      Succeeds members value

/-- There is no result; or there is a result and no error member, and the reply
fits the record of a success; or there is an error that is not null next to the
result, and the reply does not fit. -/
def Plain (members : List (String × Json)) : Prop :=
  match member "result" members, member "error" members with
  | none, _ => True
  | some result, none => FitsSuccess members result
  | some result, some error => error ≠ .null ∧ ¬ FitsSuccess members result

theorem FitsSuccess.member {members : List (String × Json)} {value : Json}
    (h : FitsSuccess members value) : member "result" members = some value := by
  rw [RpcReplies.member, h.1]
  rfl

/-- The conditions on the members under which each client follows the protocol. -/
theorem follow_iff_plain {members : List (String × Json)} :
    ((∀ value, member "result" members = some value ∧ member "error" members = none ↔
        Succeeds members value) ∧
      ∀ value, FitsSuccess members value ↔ Succeeds members value) ↔ Plain members := by
  have hfits : ∀ value, FitsSuccess members value → member "result" members = some value :=
    fun _ => FitsSuccess.member
  simp only [Succeeds, Plain]
  cases hresult : member "result" members with
  | none =>
      have hnone : ∀ value, ¬ FitsSuccess members value := by
        intro value h
        rw [hfits value h] at hresult
        cases hresult
      simp [hnone]
  | some result =>
      have honly : ∀ value, FitsSuccess members value ↔
          result = value ∧ FitsSuccess members result := by
        intro value
        constructor
        · intro h
          have heq := (hfits value h).symm.trans hresult
          cases heq
          exact ⟨rfl, h⟩
        · rintro ⟨rfl, h⟩
          exact h
      cases member "error" members with
      | none =>
          constructor
          · rintro ⟨-, hsend⟩
            exact (hsend result).mpr ⟨rfl, Or.inl rfl⟩
          · intro h
            refine ⟨by simp, fun value => ?_⟩
            rw [honly]
            simp [h]
      | some error =>
          constructor
          · rintro ⟨hcall, hsend⟩
            have hnull : error ≠ .null := by
              rintro rfl
              have habsent := ((hcall result).mpr ⟨rfl, Or.inr rfl⟩).2
              cases habsent
            refine ⟨hnull, fun h => ?_⟩
            rcases ((hsend result).mp h).2 with habsent | hpresent
            · cases habsent
            · exact hnull (Option.some.inj hpresent)
          · rintro ⟨hnull, hunfit⟩
            refine ⟨by simp [hnull], fun value => ?_⟩
            rw [honly]
            simp [hnull, hunfit]

section Clients

variable {display : Json → String} {decodeFailure jsonRpcVersion method : String} {params : Json}
  {status : Nat} {statusText : String} {front back : List (String × Json)}

/-- The two clients read replies alike exactly if these are plain. -/
theorem replies_read_alike_iff (hstatus : 200 ≤ status ∧ status < 300)
    (hid : ∀ e ∈ front ++ back, e.1 ≠ "id") :
    ReadAlike display decodeFailure jsonRpcVersion method params
      (echoing status statusText front back) (front ++ back) ↔ Plain (front ++ back) := by
  rw [← follow_iff_plain]
  constructor
  · rintro ⟨-, hcall, hsend⟩
    constructor
    · intro value
      rw [← hcall, call_eq_ok_iff]
    · intro value
      rw [← hsend, sendRpcRequestAsync_eq_ok_iff hstatus hid]
  · rintro ⟨hcall, hsend⟩
    have hcall' : ∀ value, call display (echoing status statusText front back) method params =
        .ok value ↔ Succeeds (front ++ back) value := fun value =>
      call_eq_ok_iff.trans (hcall value)
    have hsend' : ∀ value, sendRpcRequestAsync display decodeFailure jsonRpcVersion
        (echoing status statusText front back) method params = .ok value ↔
          Succeeds (front ++ back) value := fun value =>
      (sendRpcRequestAsync_eq_ok_iff hstatus hid).trans (hsend value)
    exact ⟨fun value => (hcall' value).trans (hsend' value).symm, hcall', hsend'⟩

/-- A success of the usual form. -/
theorem usual_reply_read_alike :
    ReadAlike (fun _ => "null") "error decoding response body" "2.0" "starknet_blockNumber"
      (.obj []) (echoing 200 "200 OK" [("jsonrpc", .str "2.0"), ("result", .num 5)] [])
      ([("jsonrpc", .str "2.0"), ("result", .num 5)] ++ []) :=
  (replies_read_alike_iff (by decide) (by decide)).mpr ⟨rfl, rfl⟩

/-- A null error next to a result is an error to one client, and an error next
to a null result is a success to the other. -/
theorem replies_misread :
    ¬ ∃ display : Json → String,
      ReadAlike display "error decoding response body" "2.0" "starknet_blockNumber" (.obj [])
          (echoing 200 "200 OK" [("result", .num 5), ("error", .null)] [])
          ([("result", .num 5), ("error", .null)] ++ []) ∨
        ReadAlike display "error decoding response body" "2.0" "starknet_blockNumber" (.obj [])
          (echoing 200 "200 OK" [("result", .null),
            ("error", .obj [("code", .num 24), ("message", .str "Block not found")])] [])
          ([("result", .null),
            ("error", .obj [("code", .num 24), ("message", .str "Block not found")])] ++ []) := by
  rintro ⟨display, h | h⟩
  · have hok := (h.callFollows (.num 5)).mpr ⟨rfl, Or.inr rfl⟩
    have habsent := (call_eq_ok_iff.mp hok).2
    cases habsent
  · have hsucceeds := (h.sendFollows .null).mp
      ((sendRpcRequestAsync_eq_ok_iff (by decide) (by decide)).mpr ⟨rfl, rfl⟩)
    rcases hsucceeds.2 with habsent | hnull
    · cases habsent
    · cases hnull

end Clients

end Snip36.RpcReplies
