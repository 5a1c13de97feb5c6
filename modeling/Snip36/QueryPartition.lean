import Mathlib.Data.List.Chain
import Snip36.StorageProofProvider

/-!
How exactly a query is cut into requests. The items of a query come in three
kinds, one after the other, and a piece of them keeps that order, so that
collecting a piece loses nothing and flattening gives the piece again.
-/

namespace Snip36.QueryPartition

open FactsDb (ProofProviderError)
open Library.Chunks
open Library.Interaction
open Rpc
open StorageProofProvider
open StorageQuery

/-! ### The order of the items -/

/-- The place of a kind of item. -/
def rank : QueryItem → Nat
  | .classHash _ => 0
  | .contractAddress _ => 1
  | .storageKey _ _ => 2

def InOrder (items : List QueryItem) : Prop := items.Pairwise fun a b => rank a ≤ rank b

/-- The items of three lists, one kind after the other. -/
def arranged (classHashes : List Felt) (contractAddresses : List ContractAddress)
    (keys : List (Felt × Felt)) : List QueryItem :=
  classHashes.map .classHash ++ contractAddresses.map .contractAddress ++
    keys.map fun pair => .storageKey pair.1 pair.2

theorem flattenQuery_eq_arranged (query : RpcStorageProofsQuery) :
    flattenQuery query = arranged query.classHashes query.contractAddresses
      (requestedKeys query.contractStorageKeys) := by
  simp [flattenQuery, arranged, requestedKeys, List.map_flatMap, Function.comp_def]

theorem inOrder_of_rank {items : List QueryItem} {n : Nat} (h : ∀ item ∈ items, rank item = n) :
    InOrder items := by
  apply List.pairwise_of_forall_mem_list
  intro a ha b hb
  rw [h a ha, h b hb]

theorem inOrder_arranged (classHashes : List Felt) (contractAddresses : List ContractAddress)
    (keys : List (Felt × Felt)) : InOrder (arranged classHashes contractAddresses keys) := by
  rw [arranged, InOrder, List.pairwise_append, List.pairwise_append]
  refine ⟨⟨inOrder_of_rank (n := 0) ?_, inOrder_of_rank (n := 1) ?_, ?_⟩,
    inOrder_of_rank (n := 2) ?_, ?_⟩
  · simp [rank]
  · simp [rank]
  · simp [rank]
  · intro item hitem
    obtain ⟨pair, -, rfl⟩ := List.mem_map.mp hitem
    rfl
  · simp only [List.mem_append, List.mem_map]
    rintro _ (⟨hash, -, rfl⟩ | ⟨address, -, rfl⟩) _ ⟨pair, -, rfl⟩
    · simp [rank]
    · simp [rank]

theorem classHashesOf_eq_nil {items : List QueryItem} (h : ∀ item ∈ items, 1 ≤ rank item) :
    classHashesOf items = [] := by
  rw [classHashesOf, List.filterMap_eq_nil_iff]
  intro item hitem
  have hrank := h item hitem
  cases item with
  | classHash hash => cases hrank
  | contractAddress address => rfl
  | storageKey address key => rfl

theorem contractAddressesOf_eq_nil {items : List QueryItem} (h : ∀ item ∈ items, 2 ≤ rank item) :
    contractAddressesOf items = [] := by
  rw [contractAddressesOf, List.filterMap_eq_nil_iff]
  intro item hitem
  have hrank := h item hitem
  cases item with
  | classHash hash => cases hrank
  | contractAddress address => simp [rank] at hrank
  | storageKey address key => rfl

theorem arranged_of_inOrder {items : List QueryItem} (h : InOrder items) :
    arranged (classHashesOf items) (contractAddressesOf items) (storageKeysOf items) = items := by
  induction items with
  | nil => rfl
  | cons item rest ih =>
      obtain ⟨hfirst, hrest⟩ := List.pairwise_cons.mp h
      have hsame := ih hrest
      cases item with
      | classHash hash => exact congrArg (QueryItem.classHash hash :: ·) hsame
      | contractAddress address =>
          have hclasses := classHashesOf_eq_nil hfirst
          rw [hclasses] at hsame
          change arranged (classHashesOf rest) (address :: contractAddressesOf rest)
            (storageKeysOf rest) = _
          rw [hclasses]
          exact congrArg (QueryItem.contractAddress address :: ·) hsame
      | storageKey address key =>
          have hclasses := classHashesOf_eq_nil fun item hitem =>
            (by decide : 1 ≤ 2).trans (hfirst item hitem)
          have haddresses := contractAddressesOf_eq_nil hfirst
          rw [hclasses, haddresses] at hsame
          change arranged (classHashesOf rest) (contractAddressesOf rest)
            ((address, key) :: storageKeysOf rest) = _
          rw [hclasses, haddresses]
          exact congrArg (QueryItem.storageKey address key :: ·) hsame

/-- Items in order are collected without loss. -/
theorem flattenQuery_collectQuery {items : List QueryItem} (h : InOrder items) :
    flattenQuery (collectQuery items) = items := by
  rw [flattenQuery_eq_arranged, classHashes_collectQuery, contractAddresses_collectQuery,
    requestedKeys_collectQuery, arranged_of_inOrder h]

theorem inOrder_of_mem_chunks {query : RpcStorageProofsQuery} {maxKeys : Nat}
    (hmax : 0 < maxKeys) {piece : List QueryItem}
    (h : piece ∈ chunks maxKeys (flattenQuery query)) : InOrder piece := by
  have hsub := List.sublist_flatten_of_mem h
  rw [flatten_chunks hmax, flattenQuery_eq_arranged] at hsub
  exact (inOrder_arranged _ _ _).sublist hsub

theorem countTotalKeys_collectQuery {items : List QueryItem} (h : InOrder items) :
    countTotalKeys (collectQuery items) = items.length := by
  rw [← length_flattenQuery, flattenQuery_collectQuery h]

/-! ### The entries of a collected query -/

/-- Neighbouring entries are for different contracts. -/
def Alternating (entries : List ContractStorageKeys) : Prop :=
  entries.IsChain fun a b => a.contractAddress ≠ b.contractAddress

theorem Alternating.push {entries : List ContractStorageKeys} (h : Alternating entries)
    (address key : Felt) : Alternating (pushStorageKey entries address key) := by
  rcases List.eq_nil_or_concat entries with rfl | ⟨front, last, rfl⟩
  · exact List.isChain_singleton _
  · rw [List.concat_eq_append, Alternating, List.isChain_append] at h
    obtain ⟨hfront, -, hjoin⟩ := h
    simp only [pushStorageKey, List.concat_eq_append, List.getLast?_append,
      List.getLast?_singleton, Option.some_or, List.dropLast_concat]
    split
    · refine List.isChain_append.mpr ⟨hfront, List.isChain_singleton _, ?_⟩
      intro before hbefore _ hlast
      cases hlast
      exact hjoin before hbefore last rfl
    · next hne =>
      have hjoined := List.isChain_append.mpr ⟨hfront, List.isChain_singleton _, hjoin⟩
      refine List.isChain_append.mpr ⟨hjoined, List.isChain_singleton _, ?_⟩
      intro before hbefore _ hnew
      rw [List.getLast?_concat] at hbefore
      cases hbefore
      cases hnew
      exact hne

theorem alternating_foldl (items : List QueryItem) {query : RpcStorageProofsQuery}
    (h : Alternating query.contractStorageKeys) :
    Alternating (items.foldl collectStep query).contractStorageKeys := by
  induction items generalizing query with
  | nil => exact h
  | cons item rest ih =>
      apply ih
      cases item with
      | classHash hash => exact h
      | contractAddress address => exact h
      | storageKey address key => exact h.push address key

/-! ### The partition -/

/-- The pieces of a query with at most `maxKeys` keys each. -/
structure ExactPartition (query : RpcStorageProofsQuery) (maxKeys : Nat)
    (pieces : List RpcStorageProofsQuery) : Prop where
  sizes : ∀ piece ∈ pieces, 1 ≤ countTotalKeys piece ∧ countTotalKeys piece ≤ maxKeys
  full : ∀ piece ∈ pieces.dropLast, countTotalKeys piece = maxKeys
  items : pieces.flatMap flattenQuery = flattenQuery query
  nonempty : ∀ piece ∈ pieces, ∀ csk ∈ piece.contractStorageKeys, csk.storageKeys ≠ []
  alternating : ∀ piece ∈ pieces, Alternating piece.contractStorageKeys
  addresses : ∀ piece ∈ pieces, ∀ csk ∈ piece.contractStorageKeys,
    csk.contractAddress ∈ query.contractStorageKeys.map ContractStorageKeys.contractAddress
  empty : pieces = [] ↔ countTotalKeys query = 0

theorem exactPartition_chunks (query : RpcStorageProofsQuery) {maxKeys : Nat}
    (hmax : 0 < maxKeys) :
    ExactPartition query maxKeys ((chunks maxKeys (flattenQuery query)).map collectQuery) where
  sizes := by
    intro piece hpiece
    obtain ⟨items, hitems, rfl⟩ := List.mem_map.mp hpiece
    rw [countTotalKeys_collectQuery (inOrder_of_mem_chunks hmax hitems)]
    exact length_of_mem_chunksFrom hmax hitems
  full := by
    intro piece hpiece
    rw [← List.map_dropLast] at hpiece
    obtain ⟨items, hitems, rfl⟩ := List.mem_map.mp hpiece
    rw [countTotalKeys_collectQuery (inOrder_of_mem_chunks hmax (List.mem_of_mem_dropLast hitems))]
    exact length_of_mem_dropLast_chunksFrom hitems
  items := by
    have hsame : (chunks maxKeys (flattenQuery query)).flatMap (fun items =>
        flattenQuery (collectQuery items)) = (chunks maxKeys (flattenQuery query)).flatMap id :=
      List.flatMap_congr fun items hitems =>
        flattenQuery_collectQuery (inOrder_of_mem_chunks hmax hitems)
    rw [List.flatMap_map, hsame, List.flatMap_id, flatten_chunks hmax]
  nonempty := by
    intro piece hpiece csk hcsk
    obtain ⟨items, -, rfl⟩ := List.mem_map.mp hpiece
    exact storageKeys_ne_nil_of_mem_collectQuery hcsk
  alternating := by
    intro piece hpiece
    obtain ⟨items, -, rfl⟩ := List.mem_map.mp hpiece
    exact alternating_foldl items List.isChain_nil
  addresses := fun piece hpiece csk hcsk =>
    contractAddress_mem_of_piece (flatten_chunks hmax _) hpiece hcsk
  empty := by
    rw [List.map_eq_nil_iff, chunks_eq_nil_iff hmax, ← List.length_eq_zero_iff,
      length_flattenQuery]

/-- A request for a storage proof of so many keys at most. -/
def WithinLimit (blockNumber : Nat) (request : Request) : Prop :=
  ∃ query, request = proofRequest blockNumber query ∧ countTotalKeys query ≤ maxKeysPerRequest

theorem onlyAsks_fetchProofs (blockNumber : Nat) (query : RpcStorageProofsQuery) :
    Program.OnlyAsks (WithinLimit blockNumber) (fetchProofs blockNumber query) := by
  have hsingle (piece : RpcStorageProofsQuery) (hpiece : countTotalKeys piece ≤ maxKeysPerRequest) :
      Program.OnlyAsks (WithinLimit blockNumber) (fetchSingleProof blockNumber piece) :=
    onlyAsks_askOrFail ⟨piece, rfl, hpiece⟩ _ _
  unfold fetchProofs
  split
  · next hfew => exact hsingle query hfew
  · next hmany =>
    have hpieces := exactPartition_chunks query (by decide : 0 < maxKeysPerRequest)
    rw [splitQuery_eq_requestsFor hmany, requestsFor, if_neg hmany]
    have hall := Program.onlyAsks_forEach_of_mem fun piece hpiece =>
      hsingle piece (hpieces.sizes piece hpiece).2
    exact hall.bind fun _ => Program.onlyAsks_done _

/-- Splitting a query, and what is sent for it. -/
theorem splitQuery_exact (query : RpcStorageProofsQuery) (maxKeys : Nat) (hmax : 1 ≤ maxKeys) :
    (∃ pieces, splitQuery (ε := ProofProviderError) query maxKeys = .ok pieces ∧
      ExactPartition query maxKeys pieces) ∧
    ∀ blockNumber, Program.OnlyAsks (WithinLimit blockNumber) (fetchProofs blockNumber query) :=
  ⟨⟨_, if_pos hmax, exactPartition_chunks query hmax⟩,
    fun blockNumber => onlyAsks_fetchProofs blockNumber query⟩

/-- A border inside of the first contract, and one contract twice. -/
theorem splitQuery_exact_two :
    (∃ pieces,
      splitQuery (ε := ProofProviderError) ⟨[7], [], [⟨1, [2, 3]⟩, ⟨1, [4]⟩]⟩ 2 = .ok pieces ∧
      ExactPartition ⟨[7], [], [⟨1, [2, 3]⟩, ⟨1, [4]⟩]⟩ 2 pieces) ∧
    ∀ blockNumber, Program.OnlyAsks (WithinLimit blockNumber)
      (fetchProofs blockNumber ⟨[7], [], [⟨1, [2, 3]⟩, ⟨1, [4]⟩]⟩) :=
  splitQuery_exact _ 2 (by decide)

end Snip36.QueryPartition
