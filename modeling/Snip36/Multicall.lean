import Snip36.CounterRoutes
import Snip36.Library.LengthPrefix
import Snip36.SessionGames

/-!
The calldata of an account: the calls that it is to make, each with its own
calldata. Three places write it by hand.
-/

namespace Snip36.Multicall

open CounterRoutes
open Library.Fallible
open Library.Hex
open Library.LengthPrefix
open Payload
open SessionGames
open SignedPayload

/-- `to`, the selector and the calldata of one call. -/
structure Call (ω : Type) where
  toAddress : ω
  selector : ω
  calldata : List ω
  deriving DecidableEq

/-! ### Writing -/

def pushCall (calldata : List String) (call : Call String) : List String :=
  calldata ++ [call.toAddress, call.selector, lowerHex call.calldata.length] ++ call.calldata

def encodeAccountCalls (calls : List (Call String)) : List String :=
  calls.foldl pushCall [lowerHex calls.length]

def sendMessageSelector : String :=
  "0x12ead94ae9d3f9d2bdb6b847cf255f1f398193a1f88884a0ae8e18f24a037b6"

/-- The address, then the payload as a span. -/
def innerCalldata (toAddress : String) (payloadStrs : List String) : List String :=
  [toAddress] ++ [lowerHex payloadStrs.length] ++ payloadStrs

/-- The calldata of the flow that sends one message. -/
def sendMessageCalldata (contractAddress toAddress : String) (payloadStrs : List String) :
    List String :=
  let inner := innerCalldata toAddress payloadStrs
  ["0x1"] ++ [contractAddress] ++ [sendMessageSelector] ++ [lowerHex inner.length] ++ inner

/-- One call of `increment`. -/
def incrementCall (contractAddress : String) (amount : U64) : Call String where
  toAddress := contractAddress
  selector := incrementSelector
  calldata := [lowerHex amount.toNat]

/-! ### Reading -/

section Read

variable {ω : Type} (number : ω → Option Nat)

def readCall : Reader ω (Call ω) := fun words => do
  let (toAddress, words) ← word words
  let (selector, words) ← word words
  let (calldata, words) ← array number word words
  pure (⟨toAddress, selector, calldata⟩, words)

/-- `Array<Call>`, with nothing after it. -/
def decodeCalls (words : List ω) : Option (List (Call ω)) :=
  complete (array number (readCall number)) words

/-- The parameters of `send_message`. -/
def decodeMessage (words : List ω) : Option (ω × List ω) :=
  complete
    (fun words => do
      let (toAddress, words) ← word words
      let (payload, words) ← array number word words
      pure ((toAddress, payload), words))
    words

variable {number}

theorem takes_call {call : Call ω} {w : ω} (hnumber : number w = some call.calldata.length) :
    Takes (readCall number) ([call.toAddress, call.selector, w] ++ call.calldata) call := by
  intro rest
  have hcalldata := takes_words hnumber rest
  rw [List.cons_append] at hcalldata
  simp [readCall, word, hcalldata]

theorem decodeMessage_eq {toAddress w : ω} {payload : List ω}
    (hnumber : number w = some payload.length) :
    decodeMessage number (toAddress :: w :: payload) = some (toAddress, payload) := by
  apply Takes.complete
  intro rest
  have hpayload := takes_words hnumber rest
  rw [List.cons_append] at hpayload
  simp [word, hpayload]

end Read

/-! ### What is written is read back -/

/-- The words of a call. -/
def callWords (call : Call String) : List String :=
  [call.toAddress, call.selector, lowerHex call.calldata.length] ++ call.calldata

theorem encodeAccountCalls_eq (calls : List (Call String)) :
    encodeAccountCalls calls = lowerHex calls.length :: (calls.map callWords).flatten := by
  have hloop : ∀ words, calls.foldl pushCall words = words ++ (calls.map callWords).flatten := by
    induction calls with
    | nil => simp
    | cons call rest ih =>
        intro words
        rw [List.foldl_cons, ih]
        simp [pushCall, callWords]
  rw [encodeAccountCalls, hloop, List.singleton_append]

theorem decodeCalls_encodeAccountCalls (calls : List (Call String)) :
    decodeCalls parseHex (encodeAccountCalls calls) = some calls := by
  rw [encodeAccountCalls_eq]
  apply Takes.complete
  apply takes_array (parseHex_lowerHex _)
  rw [List.forall₂_map_left_iff, List.forall₂_same]
  intro call _
  exact takes_call (parseHex_lowerHex _)

theorem lowerHex_one : lowerHex 1 = "0x1" := by decide

/-- The route writes the same words. -/
theorem calldata_eq_encodeAccountCalls (task : ProveTask) :
    task.calldata = encodeAccountCalls (List.replicate task.incrementsPerBlock.toNat
      (incrementCall task.contractAddress task.incrementAmount)) := by
  rw [encodeAccountCalls_eq, List.length_replicate, List.map_replicate]
  simp [ProveTask.calldata, ProveTask.callWords, callWords, incrementCall, lowerHex_one]

theorem sendMessageCalldata_eq (contractAddress toAddress : String) (payloadStrs : List String) :
    sendMessageCalldata contractAddress toAddress payloadStrs =
      encodeAccountCalls [⟨contractAddress, sendMessageSelector,
        innerCalldata toAddress payloadStrs⟩] := by
  simp [sendMessageCalldata, encodeAccountCalls_eq, callWords, lowerHex_one]

/-! ### As field elements -/

section Felts

variable {fromHex : String → Except String Felt}

/-- A felt as a length. -/
def lengthOf (felt : Felt) : Option Nat := some felt.val

def IsRead (fromHex : String → Except String Felt) (felt : Felt) (s : String) : Prop :=
  feltFromHex fromHex s = .ok felt

structure CallIsRead (fromHex : String → Except String Felt) (feltCall : Call Felt)
    (call : Call String) : Prop where
  toAddress : IsRead fromHex feltCall.toAddress call.toAddress
  selector : IsRead fromHex feltCall.selector call.selector
  calldata : List.Forall₂ (IsRead fromHex) feltCall.calldata call.calldata

/-- A vector is no longer than a machine word can say. -/
structure Fits (calls : List (Call String)) : Prop where
  count : calls.length < 2 ^ 64
  lengths : ∀ call ∈ calls, call.calldata.length < 2 ^ 64

theorem lengthOf_of_isRead (hhex : ReadsHex fromHex) {n : Nat} (hn : n < 2 ^ 64) {felt : Felt}
    (h : IsRead fromHex felt (lowerHex n)) : lengthOf felt = some n := by
  have hprime : n < starkPrime := hn.trans (by decide)
  have hread := hhex.lowerHex hprime
  simp only [IsRead, feltFromHex, hread] at h
  cases h
  rw [lengthOf, Felt.val_fromNat hprime]

theorem exists_takes_call (hhex : ReadsHex fromHex) {call : Call String}
    (hfits : call.calldata.length < 2 ^ 64) {felts : List Felt}
    (h : List.Forall₂ (IsRead fromHex) felts (callWords call)) :
    ∃ feltCall, Takes (readCall lengthOf) felts feltCall ∧ CallIsRead fromHex feltCall call := by
  obtain ⟨toAddress, _, hto, hrest, rfl⟩ := List.forall₂_cons_right_iff.mp h
  obtain ⟨selector, _, hselector, hlast, rfl⟩ := List.forall₂_cons_right_iff.mp hrest
  obtain ⟨length, calldata, hlength, hcalldata, rfl⟩ := List.forall₂_cons_right_iff.mp hlast
  let feltCall : Call Felt := ⟨toAddress, selector, calldata⟩
  have hnumber : lengthOf length = some feltCall.calldata.length := by
    rw [lengthOf_of_isRead hhex hfits hlength, hcalldata.length_eq]
    rfl
  exact ⟨feltCall, takes_call hnumber, hto, hselector, hcalldata⟩

theorem exists_takes_calls (hhex : ReadsHex fromHex) {calls : List (Call String)}
    (hfits : ∀ call ∈ calls, call.calldata.length < 2 ^ 64) {chunks : List (List Felt)}
    (h : List.Forall₂ (List.Forall₂ (IsRead fromHex)) chunks (calls.map callWords)) :
    ∃ feltCalls, List.Forall₂ (Takes (readCall lengthOf)) chunks feltCalls ∧
      List.Forall₂ (CallIsRead fromHex) feltCalls calls := by
  induction calls generalizing chunks with
  | nil =>
      cases h
      exact ⟨[], .nil, .nil⟩
  | cons call rest ih =>
      rw [List.forall_mem_cons] at hfits
      rcases h with _ | ⟨hfirst, hrest⟩
      obtain ⟨feltCall, htakes, hread⟩ := exists_takes_call hhex hfits.1 hfirst
      obtain ⟨feltCalls, hothers, hreads⟩ := ih hfits.2 hrest
      exact ⟨feltCall :: feltCalls, .cons htakes hothers, .cons hread hreads⟩

/-- The account sees the calls that were written. -/
theorem exists_decodeCalls_felts (hhex : ReadsHex fromHex) {calls : List (Call String)}
    (hfits : Fits calls) {felts : List Felt}
    (h : collect (feltFromHex fromHex) (encodeAccountCalls calls) = .ok felts) :
    ∃ feltCalls, decodeCalls lengthOf felts = some feltCalls ∧
      List.Forall₂ (CallIsRead fromHex) feltCalls calls := by
  have hall := (collect_eq_ok_iff.mp h).flip
  rw [encodeAccountCalls_eq] at hall
  rcases hall with _ | ⟨hcount, hrest⟩
  obtain ⟨chunks, rfl, hchunks⟩ := exists_chunks hrest
  obtain ⟨feltCalls, htakes, hreads⟩ := exists_takes_calls hhex hfits.lengths hchunks
  refine ⟨feltCalls, Takes.complete (takes_array ?_ htakes), hreads⟩
  rw [lengthOf_of_isRead hhex hfits.count hcount, hreads.length_eq]

end Felts

/-! ### All three -/

/-- Calls that are written can be read back, with nothing left over: as texts
for any calls, and as field elements by the account. The route and the flow that
sends messages write calls in the same way. -/
theorem multicall_round_trips {fromHex : String → Except String Felt} (hhex : ReadsHex fromHex) :
    (∀ calls, decodeCalls parseHex (encodeAccountCalls calls) = some calls) ∧
    (∀ calls felts, Fits calls →
      collect (feltFromHex fromHex) (encodeAccountCalls calls) = .ok felts →
      ∃ feltCalls, decodeCalls lengthOf felts = some feltCalls ∧
        List.Forall₂ (CallIsRead fromHex) feltCalls calls) ∧
    (∀ task : ProveTask, task.calldata =
      encodeAccountCalls (List.replicate task.incrementsPerBlock.toNat
        (incrementCall task.contractAddress task.incrementAmount))) ∧
    ∀ contractAddress toAddress payloadStrs, ∃ inner,
      decodeCalls parseHex (sendMessageCalldata contractAddress toAddress payloadStrs) =
          some [⟨contractAddress, sendMessageSelector, inner⟩] ∧
        decodeMessage parseHex inner = some (toAddress, payloadStrs) := by
  refine ⟨decodeCalls_encodeAccountCalls, fun calls felts hfits h => ?_,
    calldata_eq_encodeAccountCalls, fun contractAddress toAddress payloadStrs => ?_⟩
  · exact exists_decodeCalls_felts hhex hfits h
  · refine ⟨innerCalldata toAddress payloadStrs, ?_, ?_⟩
    · rw [sendMessageCalldata_eq, decodeCalls_encodeAccountCalls]
    · exact decodeMessage_eq (parseHex_lowerHex _)

theorem multicall_round_trips_two :
    decodeCalls parseHex (encodeAccountCalls [⟨"0xa", "0xb", ["0x1"]⟩, ⟨"0xc", "0xd", []⟩]) =
        some [⟨"0xa", "0xb", ["0x1"]⟩, ⟨"0xc", "0xd", []⟩] ∧
      ∃ feltCalls, decodeCalls lengthOf [2, 10, 11, 1, 1, 12, 13, 0] = some feltCalls ∧
        List.Forall₂ (CallIsRead hexFelt) feltCalls
          [⟨"0xa", "0xb", ["0x1"]⟩, ⟨"0xc", "0xd", []⟩] := by
  obtain ⟨htexts, hfelts, -⟩ := multicall_round_trips readsHex_hexFelt
  exact ⟨htexts _, hfelts _ _ ⟨by decide, by decide⟩ (by decide +kernel)⟩

end Snip36.Multicall
