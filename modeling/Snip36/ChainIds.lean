import Snip36.CoinFlipPlay

/-!
The two encodings of a chain id as a field element. The configuration takes at
most 31 bytes, and a signer takes any string.
-/

namespace Snip36.ChainIds

open CoinFlipPlay (configChainIdFelt)
open CoinFlipState (Config)
open Library.Words
open Signing

/-- The string starts with another byte than NUL, or is empty. -/
def NoLeadingNul (s : String) : Prop := (asBytes s).head? ≠ some 0

instance {s : String} : Decidable (NoLeadingNul s) := inferInstanceAs (Decidable (_ ≠ _))

/-- The number that a chain id writes. -/
def idNumber (s : String) : Nat := fromBeBytes (asBytes s)

theorem asBytes_injective : Function.Injective asBytes := by
  intro s t h
  apply String.toByteArray_inj.mp
  apply ByteArray.ext
  apply Array.ext'
  exact h

/-- Without leading zeros the number determines the string. -/
theorem idNumber_inj {s t : String} (hs : NoLeadingNul s) (ht : NoLeadingNul t)
    (h : idNumber s = idNumber t) : s = t :=
  asBytes_injective (fromBeBytes_inj hs ht h)

theorem chainIdFelt_eq_iff {s t : String} :
    chainIdFelt s = chainIdFelt t ↔ idNumber s ≡ idNumber t [MOD starkPrime] := by
  rw [← Fin.val_inj]
  rfl

/-- The longest ids of the configuration lie below the prime. -/
theorem idNumber_lt {s : String} (hs : (asBytes s).length ≤ 31) : idNumber s < starkPrime := by
  have hbound := fromBeBytes_lt (asBytes s)
  have hpow : 2 ^ (8 * (asBytes s).length) ≤ 2 ^ 248 :=
    Nat.pow_le_pow_right (by decide) (by omega)
  exact lt_starkPrime (by rw [idNumber]; omega)

theorem chainIdFelt_of_config {config : Config} {felt : Felt}
    (h : configChainIdFelt config = .ok felt) : chainIdFelt config.chainId = felt := by
  rw [configChainIdFelt] at h
  split at h
  · cases h
  · rw [feltFromBytesBeSlice, fromBeBytes_replicate_zero_append] at h
    cases h
    rfl

/-- Any two different ids with the property have different felts. -/
def KeptApart (P : String → Prop) : Prop :=
  ∀ s t, NoLeadingNul s → NoLeadingNul t → P s → P t → s ≠ t → chainIdFelt s ≠ chainIdFelt t

/-- Numbers below the prime are their own residues. -/
theorem keptApart_below : KeptApart fun s => idNumber s < starkPrime := by
  intro s t hs ht hbelow hbelow' hne hfelt
  have hnumber : idNumber s = idNumber t :=
    Nat.ModEq.eq_of_lt_of_lt (chainIdFelt_eq_iff.mp hfelt) hbelow hbelow'
  exact hne (idNumber_inj hs ht hnumber)

/-- The id of 32 bytes that writes the prime and some more. -/
def primePlus (more : Char) : String :=
  String.ofList ('\x08' :: List.replicate 6 '\x00' ++ '\x11' :: List.replicate 23 '\x00' ++ [more])

/-- The encodings agree. Ids whose numbers are below a limit are kept apart exactly
if it is not above the prime, and ids up to some length exactly if the configuration
takes that length. -/
theorem chain_ids_differ_iff (limit : Nat) :
    (∀ config felt, configChainIdFelt config = .ok felt → chainIdFelt config.chainId = felt) ∧
      (KeptApart (fun s => idNumber s < limit) ↔ limit ≤ starkPrime) ∧
      (KeptApart (fun s => (asBytes s).length ≤ limit) ↔ limit ≤ 31) := by
  refine ⟨fun _ _ => chainIdFelt_of_config, ⟨fun hapart => ?_, fun hlimit => ?_⟩,
    ⟨fun hapart => ?_, fun hlimit => ?_⟩⟩
  · -- the prime itself counts as nothing, which the empty id writes
    by_contra hlarge
    have hprime : idNumber (primePlus '\x01') = starkPrime := by decide +kernel
    have hempty : idNumber "" = 0 := by decide
    exact hapart "" (primePlus '\x01') (by decide) (by decide +kernel) (by omega) (by omega)
      (by decide +kernel) (by decide +kernel)
  · intro s t hs ht hbelow hbelow'
    exact keptApart_below s t hs ht (Nat.lt_of_lt_of_le hbelow hlimit)
      (Nat.lt_of_lt_of_le hbelow' hlimit)
  · by_contra hlong
    have hone : (asBytes "\x01").length = 1 := by decide
    have hlength : (asBytes (primePlus '\x02')).length = 32 := by decide +kernel
    exact hapart "\x01" (primePlus '\x02') (by decide) (by decide +kernel) (by omega) (by omega)
      (by decide +kernel) (by decide +kernel)
  · intro s t hs ht hshort hshort'
    exact keptApart_below s t hs ht (idNumber_lt (Nat.le_trans hshort hlimit))
      (idNumber_lt (Nat.le_trans hshort' hlimit))

theorem sn_main_differs_from_sn_sepolia : chainIdFelt "SN_MAIN" ≠ chainIdFelt "SN_SEPOLIA" :=
  (chain_ids_differ_iff 31).2.2.mpr (by decide) _ _ (by decide) (by decide) (by decide) (by decide)
    (by decide)

/-- An id that is too long for the configuration is signed as the main network. -/
theorem long_id_is_sn_main :
    let long := "rqsqnrqplhtfvjmqlnnriflfbifxfchbermsyourjdkxgljkxinqfkhlmulrupmi"
    long ≠ "SN_MAIN" ∧ NoLeadingNul long ∧ NoLeadingNul "SN_MAIN" ∧
      31 < (asBytes long).length ∧ chainIdFelt long = chainIdFelt "SN_MAIN" := by
  refine ⟨by decide, by decide, by decide, by decide, by decide⟩

end Snip36.ChainIds
