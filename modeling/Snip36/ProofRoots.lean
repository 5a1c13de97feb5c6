import Snip36.StorageProofProvider

/-!
Which roots a merged proof carries. The chunks of a query are fetched one after
the other, each answer names its own roots, and the merge takes the roots of
the first answer without looking at the others.
-/

namespace Snip36.ProofRoots

open Library
open Library.Interaction
open Rpc
open StorageQuery
open StorageMerge
open FactsDb
open StorageProofProvider

/-- The same nodes and leaves, said to be proved against other roots. -/
def withRoots (roots : GlobalRoots) (proof : RpcStorageProof) : RpcStorageProof :=
  { proof with globalRoots := roots }

/-- The answers differ in nothing but the roots they name. -/
def SameButRoots (first second : RpcStorageProof) : Prop :=
  second = withRoots second.globalRoots first

theorem map_withRoots_of_sameButRoots {answers answers' : List RpcStorageProof}
    (h : List.Forall₂ SameButRoots answers answers') (roots : GlobalRoots) :
    answers'.map (withRoots roots) = answers.map (withRoots roots) := by
  induction h with
  | nil => rfl
  | cons hab _ ih =>
      rw [List.map_cons, List.map_cons, ih, hab]
      rfl

theorem absorb_map_withRoots (positions : IndexMap Felt Nat) (acc : RpcStorageProof)
    (queries : List RpcStorageProofsQuery) (answers : List RpcStorageProof)
    (roots : GlobalRoots) :
    absorb positions acc (queries.zip (answers.map (withRoots roots))) =
      absorb positions acc (queries.zip answers) := by
  simp [absorb, chunkStorageMaps, List.zip_map_right, List.flatMap_map, withRoots]

theorem located_map_withRoots {positions : IndexMap Felt Nat}
    {queries : List RpcStorageProofsQuery} {answers : List RpcStorageProof}
    {roots : GlobalRoots} :
    Located positions (chunkStorageMaps (queries.zip (answers.map (withRoots roots)))) ↔
      Located positions (chunkStorageMaps (queries.zip answers)) := by
  simp [chunkStorageMaps, List.zip_map_right, List.flatMap_map, withRoots]

/-- Whether a merge succeeds, and everything in its result but the roots, is
the same whatever roots the answers name. -/
theorem mergeStorageProofs_of_sameButRoots {ε : Type} {answers answers' : List RpcStorageProof}
    {queries : List RpcStorageProofsQuery} {query : RpcStorageProofsQuery}
    {proof first' : RpcStorageProof}
    (h : mergeStorageProofs (ε := ε) answers queries query = .ok proof)
    (hsame : List.Forall₂ SameButRoots answers answers')
    (hfirst' : answers'.head? = some first') :
    mergeStorageProofs (ε := ε) answers' queries query =
      .ok (withRoots first'.globalRoots proof) := by
  obtain ⟨hlen, hlocated, first, hfirst, rfl⟩ := mergeStorageProofs_eq_ok_iff.mp h
  have hmap := map_withRoots_of_sameButRoots hsame ⟨0, 0⟩
  rw [mergeStorageProofs_eq_ok_iff]
  refine ⟨hsame.length_eq.symm.trans hlen, ?_, first', hfirst', ?_⟩
  · rw [← located_map_withRoots, hmap, located_map_withRoots]
    exact hlocated
  · rw [mergedProof, mergedProof, ← absorb_map_withRoots _ _ _ answers', hmap,
      absorb_map_withRoots]
    rfl

/-! ### A node that reorganises after the first request -/

def rootedProof (roots : GlobalRoots) : RpcStorageProof :=
  ⟨.empty, ⟨.empty, []⟩, [], roots⟩

def reorganisingNode : Node := fun history request =>
  match request with
  | .getStorageProof .. =>
      .ok (rootedProof (if history.length = 0 then ⟨1, 1⟩ else ⟨2, 2⟩))
  | .getBlockWithTxHashes _ => .error .blockNotFound
  | .simulateTransactions .. => .error .blockNotFound
  | .getClass .. => .error .classHashNotFound
  | .getCompiledCasm _ => .error .classHashNotFound

def manyClassesQuery : RpcStorageProofsQuery :=
  ⟨(List.range 101).map Felt.fromNat, [], []⟩

theorem countTotalKeys_manyClassesQuery : countTotalKeys manyClassesQuery = 101 := by
  simp [countTotalKeys, manyClassesQuery]

theorem exists_returns_reorganising :
    ∃ after, Program.Returns reorganisingNode
        (Program.forEach (fetchSingleProof 0) (requestsFor manyClassesQuery)) []
        [rootedProof ⟨1, 1⟩, rootedProof ⟨2, 2⟩] after ∧
      Program.Returns reorganisingNode (fetchProofs 0 manyClassesQuery) []
        (mergedProof ⟨1, 1⟩ manyClassesQuery ((requestsFor manyClassesQuery).zip
          [rootedProof ⟨1, 1⟩, rootedProof ⟨2, 2⟩])) after := by
  have hcount : ¬ countTotalKeys manyClassesQuery ≤ maxKeysPerRequest := by
    rw [countTotalKeys_manyClassesQuery]
    decide
  have hrequests : requestsFor manyClassesQuery =
      (Chunks.chunks maxKeysPerRequest (flattenQuery manyClassesQuery)).map collectQuery := by
    rw [requestsFor, if_neg hcount]
  have hpieces : (Chunks.chunks maxKeysPerRequest (flattenQuery manyClassesQuery)).flatten =
      flattenQuery manyClassesQuery := Chunks.flatten_chunks (by decide) _
  have htwo : (Chunks.chunks maxKeysPerRequest (flattenQuery manyClassesQuery)).length = 2 := by
    decide +kernel
  obtain ⟨first, second, hpair⟩ : ∃ first second,
      requestsFor manyClassesQuery = [first, second] := by
    rw [← List.length_eq_two, hrequests, List.length_map, htwo]
  have hanswers : ∃ after, Program.Returns reorganisingNode
      (Program.forEach (fetchSingleProof 0) (requestsFor manyClassesQuery)) []
      [rootedProof ⟨1, 1⟩, rootedProof ⟨2, 2⟩] after := by
    simp only [hpair, Program.returns_forEach_cons_iff, Program.returns_forEach_nil_iff,
      returns_fetchSingleProof_iff]
    exact ⟨_, _, _, _, rfl, ⟨rfl, rfl⟩, _, _, _, rfl, ⟨rfl, rfl⟩, rfl, rfl⟩
  obtain ⟨after, hafter⟩ := hanswers
  have hlen : [rootedProof ⟨1, 1⟩, rootedProof ⟨2, 2⟩].length =
      (Chunks.chunks maxKeysPerRequest (flattenQuery manyClassesQuery)).length := htwo.symm
  have hmerge := mergeStorageProofs_of_pieces (ε := ProofProviderError) hpieces hlen rfl
  rw [← hrequests] at hmerge
  refine ⟨after, hafter, returns_fetchProofs_iff.mpr ⟨_, hafter, ?_⟩⟩
  rw [assemble, if_neg hcount]
  exact hmerge

/-! ### The roots of a merged proof -/

/-- The merged proof names the roots of the first chunk's answer, and nothing
else in it depends on any roots. So all answers name its roots exactly if the
node answered all chunks against one state. -/
theorem fetchProofs_roots {node : Node} {before after : Conversation} {blockNumber : Nat}
    {query : RpcStorageProofsQuery} {proof : RpcStorageProof}
    (hcount : maxKeysPerRequest < countTotalKeys query)
    (h : Program.Returns node (fetchProofs blockNumber query) before proof after) :
    ∃ first rest,
      Program.Returns node (Program.forEach (fetchSingleProof blockNumber) (requestsFor query))
        before (first :: rest) after ∧
      proof.globalRoots = first.globalRoots ∧
      ((∀ answer ∈ first :: rest, answer.globalRoots = proof.globalRoots) ↔
        ∀ answer ∈ rest, answer.globalRoots = first.globalRoots) ∧
      ∀ answers' first', List.Forall₂ SameButRoots (first :: rest) answers' →
        answers'.head? = some first' →
        mergeStorageProofs (ε := ProofProviderError) answers' (requestsFor query) query =
          .ok (withRoots first'.globalRoots proof) := by
  obtain ⟨answers, hanswers, hassemble⟩ := returns_fetchProofs_iff.mp h
  rw [assemble, if_neg (by omega)] at hassemble
  obtain ⟨-, -, first, hfirst, hproof⟩ := mergeStorageProofs_eq_ok_iff.mp hassemble
  obtain ⟨rest, rfl⟩ : ∃ rest, answers = first :: rest := by
    cases answers with
    | nil => simp at hfirst
    | cons a rest =>
        obtain rfl : a = first := by simpa using hfirst
        exact ⟨rest, rfl⟩
  have hroots : proof.globalRoots = first.globalRoots := by
    rw [hproof]
    rfl
  refine ⟨first, rest, hanswers, hroots, ?_, ?_⟩
  · rw [hroots, List.forall_mem_cons]
    exact ⟨fun hall => hall.2, fun hrest => ⟨rfl, hrest⟩⟩
  · intro answers' first' hsame hfirst'
    exact mergeStorageProofs_of_sameButRoots hassemble hsame hfirst'

theorem fetchProofs_roots_reorganising :
    ∃ proof after first rest,
      Program.Returns reorganisingNode (fetchProofs 0 manyClassesQuery) [] proof after ∧
      Program.Returns reorganisingNode
        (Program.forEach (fetchSingleProof 0) (requestsFor manyClassesQuery)) []
        (first :: rest) after ∧
      proof.globalRoots = first.globalRoots ∧
      ((∀ answer ∈ first :: rest, answer.globalRoots = proof.globalRoots) ↔
        ∀ answer ∈ rest, answer.globalRoots = first.globalRoots) := by
  obtain ⟨after, -, hproof⟩ := exists_returns_reorganising
  have hcount : maxKeysPerRequest < countTotalKeys manyClassesQuery := by
    rw [countTotalKeys_manyClassesQuery]
    decide
  obtain ⟨first, rest, hanswers, hroots, hiff, -⟩ := fetchProofs_roots hcount hproof
  exact ⟨_, after, first, rest, hproof, hanswers, hroots, hiff⟩

theorem merged_proof_from_two_states :
    maxKeysPerRequest < countTotalKeys manyClassesQuery ∧
      ∃ answers proof after,
        Program.Returns reorganisingNode
          (Program.forEach (fetchSingleProof 0) (requestsFor manyClassesQuery)) [] answers after ∧
        Program.Returns reorganisingNode (fetchProofs 0 manyClassesQuery) [] proof after ∧
        ∃ answer ∈ answers, answer.globalRoots ≠ proof.globalRoots := by
  obtain ⟨after, hanswers, hproof⟩ := exists_returns_reorganising
  refine ⟨by rw [countTotalKeys_manyClassesQuery]; decide, _, _, after, hanswers, hproof,
    rootedProof ⟨2, 2⟩, by simp, ?_⟩
  have hroots : (⟨2, 2⟩ : GlobalRoots) ≠ ⟨1, 1⟩ := by decide
  exact hroots

end Snip36.ProofRoots
