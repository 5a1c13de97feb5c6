import Mathlib.Data.List.Basic

namespace Snip36.Library.Chunks

variable {α β : Type}

/-- Cut at most `fuel` consecutive pieces of `size` elements off a list. -/
def chunksFrom (size : Nat) : Nat → List α → List (List α)
  | 0, _ => []
  | _ + 1, [] => []
  | fuel + 1, a :: rest =>
      (a :: rest).take size :: chunksFrom size fuel ((a :: rest).drop size)

/-- Consecutive pieces of `size` elements; only the last one may be shorter.
A size of zero is meaningless, as it is for the slices of the host language. -/
def chunks (size : Nat) (items : List α) : List (List α) :=
  chunksFrom size items.length items

theorem flatten_chunksFrom {size : Nat} (hsize : 0 < size) (fuel : Nat) (items : List α)
    (hfuel : items.length ≤ fuel) : (chunksFrom size fuel items).flatten = items := by
  induction fuel generalizing items with
  | zero =>
      have hnil : items = [] := List.eq_nil_of_length_eq_zero (by omega)
      subst hnil
      rfl
  | succ fuel ih =>
      cases items with
      | nil => rfl
      | cons a rest =>
          have hrest : ((a :: rest).drop size).length ≤ fuel := by
            simp only [List.length_drop, List.length_cons] at hfuel ⊢
            omega
          rw [chunksFrom, List.flatten_cons, ih _ hrest, List.take_append_drop]

/-- Cutting loses, repeats and reorders nothing. -/
theorem flatten_chunks {size : Nat} (hsize : 0 < size) (items : List α) :
    (chunks size items).flatten = items :=
  flatten_chunksFrom hsize _ _ (Nat.le_refl _)

theorem chunks_eq_nil_iff {size : Nat} (hsize : 0 < size) {items : List α} :
    chunks size items = [] ↔ items = [] := by
  constructor
  · intro h
    rw [← flatten_chunks hsize items, h, List.flatten_nil]
  · rintro rfl
    rfl

/-- A piece is not empty and not longer than it should be. -/
theorem length_of_mem_chunksFrom {size : Nat} (hsize : 0 < size) {fuel : Nat} {items piece : List α}
    (h : piece ∈ chunksFrom size fuel items) : 0 < piece.length ∧ piece.length ≤ size := by
  induction fuel generalizing items with
  | zero => cases h
  | succ fuel ih =>
      cases items with
      | nil => cases h
      | cons a rest =>
          rcases List.mem_cons.mp h with rfl | hlater
          · simp only [List.length_take, List.length_cons]
            omega
          · exact ih hlater

/-- Only the last piece may be shorter. -/
theorem length_of_mem_dropLast_chunksFrom {size fuel : Nat} {items piece : List α}
    (h : piece ∈ (chunksFrom size fuel items).dropLast) : piece.length = size := by
  induction fuel generalizing items with
  | zero => cases h
  | succ fuel ih =>
      cases items with
      | nil => cases h
      | cons a rest =>
          rw [chunksFrom] at h
          cases hlater : chunksFrom size fuel ((a :: rest).drop size) with
          | nil =>
              rw [hlater] at h
              cases h
          | cons next others =>
              rw [hlater, List.dropLast_cons_cons, ← hlater] at h
              rcases List.mem_cons.mp h with rfl | hmem
              · have hne : (a :: rest).drop size ≠ [] := by
                  intro hnil
                  rw [hnil] at hlater
                  cases fuel with
                  | zero => cases hlater
                  | succ fuel => cases hlater
                have hlong : size < (a :: rest).length := by
                  by_contra hshort
                  exact hne (List.drop_eq_nil_of_le (Nat.le_of_not_lt hshort))
                rw [List.length_take, Nat.min_eq_left (Nat.le_of_lt hlong)]
              · exact ih hmem

/-- Equally long pieces that were joined are cut apart again. -/
theorem chunksFrom_flatMap {size : Nat} (hsize : 0 < size) {piece : β → List α}
    (hpiece : ∀ b, (piece b).length = size) (items : List β) (fuel : Nat)
    (hfuel : items.length ≤ fuel) :
    chunksFrom size fuel (items.flatMap piece) = items.map piece := by
  induction items generalizing fuel with
  | nil => cases fuel <;> rfl
  | cons b rest ih =>
      cases fuel with
      | zero => cases hfuel
      | succ fuel =>
          have hrest : rest.length ≤ fuel := Nat.le_of_succ_le_succ hfuel
          rw [List.flatMap_cons, List.map_cons, ← ih fuel hrest]
          cases hb : piece b with
          | nil =>
              have hlength := hpiece b
              rw [hb, List.length_nil] at hlength
              omega
          | cons a others =>
              rw [List.cons_append, chunksFrom, ← List.cons_append, ← hb,
                List.take_left' (hpiece b), List.drop_left' (hpiece b)]

theorem length_flatMap {size : Nat} {piece : β → List α} (hpiece : ∀ b, (piece b).length = size)
    (items : List β) : (items.flatMap piece).length = size * items.length := by
  rw [List.length_flatMap, List.map_congr_left fun b _ => hpiece b, List.map_const',
    List.sum_replicate_nat, Nat.mul_comm]

theorem chunks_flatMap {size : Nat} (hsize : 0 < size) {piece : β → List α}
    (hpiece : ∀ b, (piece b).length = size) (items : List β) :
    chunks size (items.flatMap piece) = items.map piece := by
  apply chunksFrom_flatMap hsize hpiece
  rw [length_flatMap hpiece]
  exact Nat.le_mul_of_pos_left _ hsize

end Snip36.Library.Chunks
