import Snip36.CoinFlipPlay
import Snip36.Library.Base64
import Snip36.Library.Chunks
import Snip36.SignedPayload

/-!
The encodings of a proof: base64 of its bytes, and the older form, a list of
field elements whose low 32 bits are packed.
-/

namespace Snip36.ProofEncoding

open CoinFlipPlay
open Library.Chunks
open Library.Fallible
open Library.Words
open SignedPayload (hexFelt)

/-- What the program uses of the base64 crate. -/
structure Base64Api where
  encode : List U8 → String
  decode : String → Except String (List U8)

inductive ProofError
  | base64Decode (e : String)
  | invalidFelt (e : String)
  | invalidJson (e : String)

def ProofError.toString : ProofError → String
  | .base64Decode e => "base64 decode error: " ++ e
  | .invalidFelt e => "invalid felt value: " ++ e
  | .invalidJson e => "invalid JSON: " ++ e

def parseProofFactsJson (parseStrings : String → Except String (List String)) (jsonStr : String) :
    Except ProofError (List String) :=
  (parseStrings jsonStr).mapError .invalidJson

/-- The routes of the servers write this text themselves. -/
theorem toString_parseProofFactsJson (parseStrings : String → Except String (List String))
    (jsonStr : String) :
    (parseProofFactsJson parseStrings jsonStr).mapError ProofError.toString =
      (parseStrings jsonStr).mapError ("invalid JSON: " ++ ·) := by
  rw [parseProofFactsJson]
  cases parseStrings jsonStr with
  | error e => rfl
  | ok facts => rfl

/-- `u32::from_be_bytes`. -/
def u32FromBeBytes (bytes : List U8) : U32 := BitVec.ofNat 32 (ofBeBytes bytes)

/-- `u32::to_be_bytes`. -/
def u32ToBeBytes (value : U32) : List U8 := toBeBytes 4 value.toNat

/-- The last four of the 32 bytes of a field element. -/
def u32Val (felt : Felt) : U32 :=
  let bytes := felt.toBytesBe
  u32FromBeBytes [bytes.getD 28 0, bytes.getD 29 0, bytes.getD 30 0, bytes.getD 31 0]

section

variable (base64 : Base64Api) (fromHex : String → Except String Felt)

def decodeProofBase64 (b64 : String) : Except ProofError (List U8) :=
  (base64.decode (trim b64)).mapError .base64Decode

def encodeProofBase64 (bytes : List U8) : String := base64.encode bytes

/-- The loop of `cairo_serde_to_base64` over what is left, after `packed`. -/
def packFelts (packed : List U8) : List String → Except ProofError (List U8)
  | [] => .ok packed
  | feltHex :: rest => do
      let felt ← (fromHex feltHex).mapError fun e =>
        ProofError.invalidFelt (feltHex ++ ": " ++ e)
      packFelts (packed ++ u32ToBeBytes (u32Val felt)) rest

def cairoSerdeToBase64 (felts : List String) : Except ProofError String := do
  let packed ← packFelts fromHex [] felts
  pure (encodeProofBase64 base64 packed)

end

/-! ### What is packed -/

theorem toNat_u32Val (felt : Felt) : (u32Val felt).toNat = felt.val % 2 ^ 32 := by
  have hlast : [felt.toBytesBe.getD 28 0, felt.toBytesBe.getD 29 0, felt.toBytesBe.getD 30 0,
      felt.toBytesBe.getD 31 0] = toBeBytes 4 felt.val := by
    simp [Felt.toBytesBe, toBeBytes, List.getD, List.range_succ]
  simp only [u32Val, u32FromBeBytes, hlast, ofBeBytes_toBeBytes, BitVec.toNat_ofNat]
  omega

theorem length_u32ToBeBytes (value : U32) : (u32ToBeBytes value).length = 4 :=
  length_toBeBytes _ _

theorem ofBeBytes_u32ToBeBytes (value : U32) : ofBeBytes (u32ToBeBytes value) = value.toNat := by
  rw [u32ToBeBytes, ofBeBytes_toBeBytes]
  exact Nat.mod_eq_of_lt value.isLt

def packedBytes (values : List Felt) : List U8 :=
  values.flatMap fun value => u32ToBeBytes (u32Val value)

theorem length_packedBytes (values : List Felt) :
    (packedBytes values).length = 4 * values.length :=
  length_flatMap (fun _ => length_u32ToBeBytes _) values

theorem chunks_packedBytes (values : List Felt) :
    (chunks 4 (packedBytes values)).map ofBeBytes =
      values.map fun value => value.val % 2 ^ 32 := by
  rw [packedBytes, chunks_flatMap (by decide) (fun _ => length_u32ToBeBytes _), List.map_map]
  apply List.map_congr_left
  intro value _
  rw [Function.comp_apply, ofBeBytes_u32ToBeBytes, toNat_u32Val]

/-! ### The loop -/

section

variable {fromHex : String → Except String Felt} {felts : List String}

/-- The field elements that a list of strings writes. -/
def Denotes (fromHex : String → Except String Felt) (felts : List String) (values : List Felt) :
    Prop :=
  List.Forall₂ (fun feltHex value => fromHex feltHex = .ok value) felts values

theorem Denotes.unique {values values' : List Felt} (h : Denotes fromHex felts values)
    (h' : Denotes fromHex felts values') : values = values' := by
  have hcollect := (collect_eq_ok_iff.mpr h).symm.trans (collect_eq_ok_iff.mpr h')
  exact Except.ok.inj hcollect

theorem Denotes.reads {values : List Felt} (h : Denotes fromHex felts values) {feltHex : String}
    (hmem : feltHex ∈ felts) : ∃ value, fromHex feltHex = .ok value := by
  induction h with
  | nil => cases hmem
  | cons hread _ ih =>
      rcases List.mem_cons.mp hmem with rfl | hrest
      · exact ⟨_, hread⟩
      · exact ih hrest

theorem packFelts_of_denotes {values : List Felt} (h : Denotes fromHex felts values)
    (packed : List U8) : packFelts fromHex packed felts = .ok (packed ++ packedBytes values) := by
  induction h generalizing packed with
  | nil => simp [packFelts, packedBytes]
  | cons hread _ ih =>
      simp [packFelts, hread, ih, Except.mapError, Bind.bind, Except.bind, packedBytes]

/-- An error is about the first string that is no field element. -/
theorem denotes_or_error (fromHex : String → Except String Felt) (felts : List String)
    (packed : List U8) :
    (∃ values, Denotes fromHex felts values) ∨
      ∃ before feltHex after values cause, felts = before ++ feltHex :: after ∧
        Denotes fromHex before values ∧ fromHex feltHex = .error cause ∧
        packFelts fromHex packed felts = .error (.invalidFelt (feltHex ++ ": " ++ cause)) := by
  induction felts generalizing packed with
  | nil => exact Or.inl ⟨[], .nil⟩
  | cons feltHex rest ih =>
      cases hread : fromHex feltHex with
      | error cause =>
          refine Or.inr ⟨[], feltHex, rest, [], cause, rfl, .nil, hread, ?_⟩
          simp [packFelts, hread, Except.mapError, Bind.bind, Except.bind]
      | ok value =>
          rcases ih (packed ++ u32ToBeBytes (u32Val value)) with
            ⟨values, hvalues⟩ | ⟨before, first, after, values, cause, rfl, hbefore, hfirst, herror⟩
          · exact Or.inl ⟨value :: values, .cons hread hvalues⟩
          · refine Or.inr ⟨feltHex :: before, first, after, value :: values, cause, rfl,
              .cons hread hbefore, hfirst, ?_⟩
            simpa [packFelts, hread, Except.mapError, Bind.bind, Except.bind] using herror

end

/-! ### The crate -/

/-- Decoding undoes encoding, which writes digits and padding only. -/
structure Base64Api.Lawful (base64 : Base64Api) : Prop where
  decode_encode : ∀ bytes, base64.decode (base64.encode bytes) = .ok bytes
  mem_encode : ∀ bytes, ∀ c ∈ (base64.encode bytes).toList,
    c ∈ Library.Base64.alphabet ∨ c = '='

def standardBase64 : Base64Api where
  encode := fun bytes => String.ofList (Library.Base64.encode bytes)
  decode := fun s => (Library.Base64.decode s.toList).elim (.error "Invalid byte") .ok

theorem lawful_standardBase64 : standardBase64.Lawful where
  decode_encode := fun bytes => by
    simp [standardBase64, Library.Base64.decode_encode]
  mem_encode := fun bytes c hc => by
    rw [standardBase64, String.toList_ofList] at hc
    exact Library.Base64.mem_encode hc

/-! ### Round trip -/

theorem trim_eq_self {s : String} (h : ∀ c ∈ s.toList, isWhitespace c = false) : trim s = s := by
  have hdrop : ∀ {chars : List Char}, (∀ c ∈ chars, isWhitespace c = false) →
      chars.dropWhile isWhitespace = chars := by
    intro chars hchars
    cases chars with
    | nil => rfl
    | cons c rest => simp [hchars c List.mem_cons_self]
  have hreverse : ∀ c ∈ s.toList.reverse, isWhitespace c = false := by
    intro c hc
    exact h c (List.mem_reverse.mp hc)
  rw [trim, dropEnd, hdrop h, hdrop hreverse, List.reverse_reverse, String.ofList_toList]

section

variable {base64 : Base64Api} {fromHex : String → Except String Felt} {felts : List String}

theorem isWhitespace_eq_false_of_mem_alphabet {c : Char}
    (h : c ∈ Library.Base64.alphabet ∨ c = '=') : isWhitespace c = false := by
  rcases h with hdigit | rfl
  · have hall : (Library.Base64.alphabet.all fun c => !isWhitespace c) = true := by decide
    simpa using List.all_eq_true.mp hall c hdigit
  · decide

/-- What was encoded is decoded, for any bytes. -/
theorem decodeProofBase64_encodeProofBase64 (hbase64 : base64.Lawful) (bytes : List U8) :
    decodeProofBase64 base64 (encodeProofBase64 base64 bytes) = .ok bytes := by
  have htrim : trim (base64.encode bytes) = base64.encode bytes := by
    apply trim_eq_self
    intro c hc
    exact isWhitespace_eq_false_of_mem_alphabet (hbase64.mem_encode bytes c hc)
  rw [decodeProofBase64, encodeProofBase64, htrim, hbase64.decode_encode]
  rfl

theorem cairoSerdeToBase64_of_denotes {values : List Felt} (h : Denotes fromHex felts values) :
    cairoSerdeToBase64 base64 fromHex felts =
      .ok (encodeProofBase64 base64 (packedBytes values)) := by
  rw [cairoSerdeToBase64, packFelts_of_denotes h, List.nil_append]
  rfl

theorem cairoSerdeToBase64_error_iff :
    (∃ e, cairoSerdeToBase64 base64 fromHex felts = .error e) ↔
      ∃ feltHex ∈ felts, ∃ cause, fromHex feltHex = .error cause := by
  constructor
  · rintro ⟨e, he⟩
    rcases denotes_or_error fromHex felts [] with
      ⟨values, hvalues⟩ | ⟨before, feltHex, after, values, cause, hfelts, -, hfirst, -⟩
    · rw [cairoSerdeToBase64_of_denotes hvalues] at he
      cases he
    · exact ⟨feltHex, by simp [hfelts], cause, hfirst⟩
  · rintro ⟨feltHex, hmem, cause, hcause⟩
    rcases denotes_or_error fromHex felts [] with
      ⟨values, hvalues⟩ | ⟨before, first, after, values, cause', -, -, -, herror⟩
    · obtain ⟨value, hvalue⟩ := hvalues.reads hmem
      rw [hcause] at hvalue
      cases hvalue
    · refine ⟨.invalidFelt (first ++ ": " ++ cause'), ?_⟩
      rw [cairoSerdeToBase64, herror]
      rfl

theorem denotes_of_cairoSerdeToBase64 {packed : String}
    (h : cairoSerdeToBase64 base64 fromHex felts = .ok packed) :
    ∃ values, Denotes fromHex felts values ∧
      packed = encodeProofBase64 base64 (packedBytes values) := by
  rcases denotes_or_error fromHex felts [] with
    ⟨values, hvalues⟩ | ⟨before, first, after, values, cause, -, -, -, herror⟩
  · rw [cairoSerdeToBase64_of_denotes hvalues] at h
    exact ⟨values, hvalues, (Except.ok.inj h).symm⟩
  · rw [cairoSerdeToBase64, herror] at h
    cases h

/-- Reading a packed proof back: one field element for each four bytes. The
program has no such reader. -/
def unpackProof (base64 : Base64Api) (b64 : String) : Except ProofError (List Felt) := do
  let bytes ← decodeProofBase64 base64 b64
  pure ((chunks 4 bytes).map fun group => Felt.fromNat (ofBeBytes group))

theorem unpackProof_encodeProofBase64 (hbase64 : base64.Lawful) {values : List Felt}
    (hvalues : ∀ value ∈ values, value.val < 2 ^ 32) :
    unpackProof base64 (encodeProofBase64 base64 (packedBytes values)) = .ok values := by
  have hread : ∀ value ∈ values, Felt.fromNat (value.val % 2 ^ 32) = value := by
    intro value hvalue
    rw [Nat.mod_eq_of_lt (hvalues value hvalue)]
    exact Fin.ofNat_val_eq_self value
  have hgroups : ((chunks 4 (packedBytes values)).map fun group =>
      Felt.fromNat (ofBeBytes group)) = values := by
    calc ((chunks 4 (packedBytes values)).map fun group => Felt.fromNat (ofBeBytes group))
        = ((chunks 4 (packedBytes values)).map ofBeBytes).map Felt.fromNat := by
          rw [List.map_map]
          rfl
      _ = values.map fun value => Felt.fromNat (value.val % 2 ^ 32) := by
          rw [chunks_packedBytes, List.map_map]
          rfl
      _ = values := by
          rw [List.map_congr_left hread, List.map_id']
  rw [unpackProof, decodeProofBase64_encodeProofBase64 hbase64]
  exact congrArg _ hgroups

/-- Packing loses nothing below `2 ^ 32`, and otherwise exactly the higher bits. -/
theorem cairoSerdeToBase64_roundTrips (hbase64 : base64.Lawful) :
    (∀ felts, (∃ e, cairoSerdeToBase64 base64 fromHex felts = .error e) ↔
      ∃ feltHex ∈ felts, ∃ cause, fromHex feltHex = .error cause) ∧
    (∀ felts packed, cairoSerdeToBase64 base64 fromHex felts = .ok packed →
      ∃ values bytes, Denotes fromHex felts values ∧
        decodeProofBase64 base64 packed = .ok bytes ∧
        bytes.length = 4 * felts.length ∧
        (chunks 4 bytes).map ofBeBytes = values.map (fun value => value.val % 2 ^ 32) ∧
        ((∀ value ∈ values, value.val < 2 ^ 32) → unpackProof base64 packed = .ok values)) ∧
    (∀ felts felts' values values' packed packed', Denotes fromHex felts values →
      Denotes fromHex felts' values' → (∀ value ∈ values, value.val < 2 ^ 32) →
      (∀ value ∈ values', value.val < 2 ^ 32) → values ≠ values' →
      cairoSerdeToBase64 base64 fromHex felts = .ok packed →
      cairoSerdeToBase64 base64 fromHex felts' = .ok packed' → packed ≠ packed') := by
  refine ⟨fun felts => cairoSerdeToBase64_error_iff, ?_, ?_⟩
  · intro felts packed hpacked
    obtain ⟨values, hvalues, rfl⟩ := denotes_of_cairoSerdeToBase64 hpacked
    refine ⟨values, packedBytes values, hvalues, decodeProofBase64_encodeProofBase64 hbase64 _,
      ?_, chunks_packedBytes values, unpackProof_encodeProofBase64 hbase64⟩
    rw [length_packedBytes, hvalues.length_eq]
  · rintro felts felts' values values' packed packed' hvalues hvalues' hsmall hsmall' hne
      hpacked hpacked' rfl
    obtain ⟨read, hread, rfl⟩ := denotes_of_cairoSerdeToBase64 hpacked
    obtain ⟨read', hread', heq⟩ := denotes_of_cairoSerdeToBase64 hpacked'
    obtain rfl := hread.unique hvalues
    obtain rfl := hread'.unique hvalues'
    have hunpack := unpackProof_encodeProofBase64 hbase64 hsmall
    rw [heq, unpackProof_encodeProofBase64 hbase64 hsmall'] at hunpack
    exact hne (Except.ok.inj hunpack).symm

end


theorem cairoSerdeToBase64_roundTrips_sample :
    (∃ e, cairoSerdeToBase64 standardBase64 hexFelt ["0x1", "proof"] = .error e) ∧
    cairoSerdeToBase64 standardBase64 hexFelt ["0x1", "0xff", "0x100000000"] =
      .ok "AAAAAQAAAP8AAAAA" ∧
    (∃ bytes, decodeProofBase64 standardBase64 "AAAAAQAAAP8AAAAA" = .ok bytes ∧
      bytes.length = 12 ∧ (chunks 4 bytes).map ofBeBytes = [1, 255, 0]) ∧
    cairoSerdeToBase64 standardBase64 hexFelt ["0x1", "0xff"] = .ok "AAAAAQAAAP8=" ∧
    unpackProof standardBase64 "AAAAAQAAAP8=" = .ok [1, 255] ∧
    cairoSerdeToBase64 standardBase64 hexFelt ["0x1"] = .ok "AAAAAQ==" ∧
    "AAAAAQAAAP8=" ≠ "AAAAAQ==" := by
  obtain ⟨hfails, hpacks, hdistinct⟩ :=
    @cairoSerdeToBase64_roundTrips standardBase64 hexFelt lawful_standardBase64
  have hthree : Denotes hexFelt ["0x1", "0xff", "0x100000000"] [1, 255, 0x100000000] :=
    .cons rfl (.cons rfl (.cons rfl .nil))
  have htwo : Denotes hexFelt ["0x1", "0xff"] [1, 255] := .cons rfl (.cons rfl .nil)
  have hone : Denotes hexFelt ["0x1"] [1] := .cons rfl .nil
  have hsmall : ∀ value ∈ ([1, 255] : List Felt), value.val < 2 ^ 32 := by
    rw [List.forall_mem_cons, List.forall_mem_singleton]
    exact ⟨by decide, by decide⟩
  have hsmall' : ∀ value ∈ ([1] : List Felt), value.val < 2 ^ 32 := by
    rw [List.forall_mem_singleton]
    decide
  refine ⟨(hfails _).mpr ⟨"proof", by simp, "not hexadecimal", rfl⟩, rfl, ?_, rfl, ?_, rfl, ?_⟩
  · obtain ⟨values, bytes, hvalues, hdecoded, hlength, hgroups, -⟩ :=
      hpacks ["0x1", "0xff", "0x100000000"] "AAAAAQAAAP8AAAAA" rfl
    obtain rfl := hvalues.unique hthree
    exact ⟨bytes, hdecoded, hlength, hgroups⟩
  · obtain ⟨values, bytes, hvalues, -, -, -, hrecovered⟩ :=
      hpacks ["0x1", "0xff"] "AAAAAQAAAP8=" rfl
    obtain rfl := hvalues.unique htwo
    exact hrecovered hsmall
  · exact hdistinct _ _ _ _ _ _ htwo hone hsmall hsmall' (by decide) rfl rfl

end Snip36.ProofEncoding
