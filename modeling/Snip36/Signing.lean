import Snip36.FieldTypes
import Snip36.Library.Words

/-!
The hash that an account signs for an invoke transaction of version 3. The
SNIP-36 extension appends the hash of the proof facts when there are any.
-/

namespace Snip36.Signing

open Library.Words

/-- `as_bytes`: the UTF-8 bytes of a string. -/
def asBytes (s : String) : List UInt8 := s.toUTF8.data.toList

/-- `Felt::from_bytes_be_slice`. -/
def feltFromBytesBeSlice (bytes : List UInt8) : Felt := Felt.fromNat (fromBeBytes bytes)

/-- `Felt::pow_felt`. -/
def powFelt (base exponent : Felt) : Felt := Felt.fromNat (base.val ^ exponent.val)

def invokePrefix : Felt := feltFromBytesBeSlice (asBytes "invoke")

def chainIdFelt (chainId : String) : Felt := feltFromBytesBeSlice (asBytes chainId)

/-- Names are cut after seven bytes and right-aligned in a word of eight. -/
def resourceNameFelt (name : String) : U64 :=
  let bytes := asBytes name
  let len := min bytes.length 7
  let buf := List.replicate (8 - len) 0 ++ bytes.take len
  BitVec.ofNat 64 (fromBeBytes buf)

example : resourceNameFelt "L1_GAS" = 0x004c315f474153 := by decide
example : resourceNameFelt "L1_DATA" = 0x4c315f44415441 := by decide

theorem toNat_resourceNameFelt_lt (name : String) :
    (resourceNameFelt name).toNat < 2 ^ 56 := by
  have hlen : ((asBytes name).take (min (asBytes name).length 7)).length ≤ 7 := by
    simp only [List.length_take]
    omega
  have hbound := fromBeBytes_lt ((asBytes name).take (min (asBytes name).length 7))
  have hpow : 2 ^ (8 * ((asBytes name).take (min (asBytes name).length 7)).length) ≤
      2 ^ 56 := Nat.pow_le_pow_right (by decide) (by omega)
  simp only [resourceNameFelt, fromBeBytes_replicate_zero_append, BitVec.toNat_ofNat]
  omega

/-- The name, the amount and the price of one resource in one field element. -/
def concatResource (maxAmount : U64) (maxPrice : U128) (resourceName : String) : Felt :=
  let name : U128 := (resourceNameFelt resourceName).setWidth 128
  let high : U128 := (name <<< 64) ||| maxAmount.setWidth 128
  let low : U128 := maxPrice
  let highFelt := Felt.fromNat high.toNat
  let shift := powFelt (Felt.fromNat (2 ^ 64)) 2
  highFelt * shift + Felt.fromNat low.toNat

/-- The three fields occupy 248 bits, so the field element does not wrap. -/
theorem val_concatResource (maxAmount : U64) (maxPrice : U128) (resourceName : String) :
    (concatResource maxAmount maxPrice resourceName).val =
      ((resourceNameFelt resourceName).toNat * 2 ^ 64 + maxAmount.toNat) * 2 ^ 128 +
        maxPrice.toNat := by
  have hname := toNat_resourceNameFelt_lt resourceName
  have hamount := maxAmount.isLt
  have hprice := maxPrice.isLt
  have hhigh : ((((resourceNameFelt resourceName).setWidth 128) <<< 64) |||
        maxAmount.setWidth 128 : U128).toNat =
      (resourceNameFelt resourceName).toNat * 2 ^ 64 + maxAmount.toNat :=
    toNat_pack (by decide) (by omega) hamount
  have hshift : (powFelt (Felt.fromNat (2 ^ 64)) 2).val = 2 ^ 128 := by decide
  have hfelt : (Felt.fromNat ((resourceNameFelt resourceName).toNat * 2 ^ 64 +
      maxAmount.toNat)).val = (resourceNameFelt resourceName).toNat * 2 ^ 64 +
      maxAmount.toNat := Felt.val_fromNat (lt_starkPrime (by omega))
  have hlow : (Felt.fromNat maxPrice.toNat).val = maxPrice.toNat :=
    Felt.val_fromNat (lt_starkPrime (by omega))
  have hbound : ((resourceNameFelt resourceName).toNat * 2 ^ 64 + maxAmount.toNat) * 2 ^ 128 +
      maxPrice.toNat < starkPrime := lt_starkPrime (by omega)
  simp only [concatResource, hhigh, Fin.val_add, Fin.val_mul, hshift, hfelt, hlow]
  rw [Nat.mod_add_mod, Nat.mod_eq_of_lt hbound]

theorem concatResource_inj {maxAmount maxAmount' : U64} {maxPrice maxPrice' : U128}
    {resourceName : String}
    (h : concatResource maxAmount maxPrice resourceName =
      concatResource maxAmount' maxPrice' resourceName) :
    maxAmount = maxAmount' ∧ maxPrice = maxPrice' := by
  have hval := congrArg Fin.val h
  rw [val_concatResource, val_concatResource] at hval
  obtain ⟨hhigh, hprice⟩ := positional_inj maxPrice.isLt maxPrice'.isLt hval
  obtain ⟨-, hamount⟩ := positional_inj maxAmount.isLt maxAmount'.isLt hhigh
  exact ⟨BitVec.eq_of_toNat_eq hamount, BitVec.eq_of_toNat_eq hprice⟩

/-- The list under the hash of the tip and the three resource bounds. -/
def tipResourceBoundsElements (tip : Felt) (bounds : ResourceBounds) : List Felt :=
  let l1 := concatResource bounds.l1Gas.maxAmount bounds.l1Gas.maxPricePerUnit "L1_GAS"
  let l2 := concatResource bounds.l2Gas.maxAmount bounds.l2Gas.maxPricePerUnit "L2_GAS"
  let l1Data :=
    concatResource bounds.l1DataGas.maxAmount bounds.l1DataGas.maxPricePerUnit "L1_DATA"
  [tip, l1, l2, l1Data]

theorem tipResourceBoundsElements_inj {tip tip' : Felt} {bounds bounds' : ResourceBounds}
    (h : tipResourceBoundsElements tip bounds = tipResourceBoundsElements tip' bounds') :
    tip = tip' ∧ bounds = bounds' := by
  obtain ⟨⟨a, p⟩, ⟨b, q⟩, ⟨c, r⟩⟩ := bounds
  obtain ⟨⟨a', p'⟩, ⟨b', q'⟩, ⟨c', r'⟩⟩ := bounds'
  simp only [tipResourceBoundsElements, List.cons.injEq, and_true] at h
  obtain ⟨htip, hl1, hl2, hl1Data⟩ := h
  obtain ⟨rfl, rfl⟩ := concatResource_inj hl1
  obtain ⟨rfl, rfl⟩ := concatResource_inj hl2
  obtain ⟨rfl, rfl⟩ := concatResource_inj hl1Data
  exact ⟨htip, rfl⟩

/-- The data availability modes of the nonce and of the fee in one word. -/
def daMode (nonceDaMode feeDaMode : U32) : Felt :=
  let packed : U64 := (nonceDaMode.setWidth 64 <<< 32) ||| feeDaMode.setWidth 64
  Felt.fromNat packed.toNat

theorem val_daMode (nonceDaMode feeDaMode : U32) :
    (daMode nonceDaMode feeDaMode).val = nonceDaMode.toNat * 2 ^ 32 + feeDaMode.toNat := by
  have hnonce := nonceDaMode.isLt
  have hfee := feeDaMode.isLt
  have hpacked : ((nonceDaMode.setWidth 64 <<< 32) ||| feeDaMode.setWidth 64 : U64).toNat =
      nonceDaMode.toNat * 2 ^ 32 + feeDaMode.toNat :=
    toNat_pack (by decide) (by omega) hfee
  simp only [daMode, hpacked]
  apply Felt.val_fromNat
  apply lt_starkPrime
  omega

theorem daMode_inj {nonceDaMode nonceDaMode' feeDaMode feeDaMode' : U32}
    (h : daMode nonceDaMode feeDaMode = daMode nonceDaMode' feeDaMode') :
    nonceDaMode = nonceDaMode' ∧ feeDaMode = feeDaMode' := by
  have hval := congrArg Fin.val h
  rw [val_daMode, val_daMode] at hval
  obtain ⟨hnonce, hfee⟩ := positional_inj feeDaMode.isLt feeDaMode'.isLt hval
  exact ⟨BitVec.eq_of_toNat_eq hnonce, BitVec.eq_of_toNat_eq hfee⟩

section Hash

variable (poseidonHashMany : List Felt → Felt)

def computeTipResourceBoundsHash (tip : Felt) (bounds : ResourceBounds) : Felt :=
  poseidonHashMany (tipResourceBoundsElements tip bounds)

/-- The list under the transaction hash. -/
def invokeV3Elements (senderAddress : Felt) (calldata : List Felt) (chainId nonce tip : Felt)
    (resourceBounds : ResourceBounds) (paymasterData accountDeploymentData : List Felt)
    (nonceDaMode feeDaMode : U32) (proofFacts : List Felt) : List Felt :=
  let tipRbHash := computeTipResourceBoundsHash poseidonHashMany tip resourceBounds
  let paymasterDataHash := poseidonHashMany paymasterData
  let accountDeploymentDataHash := poseidonHashMany accountDeploymentData
  let calldataHash := poseidonHashMany calldata
  let version : Felt := 3
  let elements := [invokePrefix, version, senderAddress, tipRbHash, paymasterDataHash,
    chainId, nonce, daMode nonceDaMode feeDaMode, accountDeploymentDataHash, calldataHash]
  if proofFacts.isEmpty then elements else elements ++ [poseidonHashMany proofFacts]

def computeInvokeV3TxHash (senderAddress : Felt) (calldata : List Felt)
    (chainId nonce tip : Felt) (resourceBounds : ResourceBounds)
    (paymasterData accountDeploymentData : List Felt) (nonceDaMode feeDaMode : U32)
    (proofFacts : List Felt) : Felt :=
  poseidonHashMany (invokeV3Elements poseidonHashMany senderAddress calldata chainId nonce
    tip resourceBounds paymasterData accountDeploymentData nonceDaMode feeDaMode proofFacts)

end Hash

end Snip36.Signing
