import Mathlib.Data.List.Forall2
import Mathlib.Data.List.TakeWhile

/-!
Regular expressions that are sequences of single elements and greedy
repetitions, as a backtracking engine runs them: the leftmost place that fits,
and there the longest repetitions first.
-/

namespace Snip36.Library.Patterns

variable {α : Type}

/-- One element of a class, or as many of them as possible. -/
inductive Piece (α : Type) where
  | one (p : α → Bool)
  | many (p : α → Bool)

/-- What a piece can stand for. -/
inductive Piece.Fits : Piece α → List α → Prop where
  | one {p : α → Bool} {a : α} (h : p a = true) : Fits (.one p) [a]
  | many {p : α → Bool} {chunk : List α} (h : ∀ a ∈ chunk, p a = true) : Fits (.many p) chunk

/-- The longest run first, then shorter ones, until the rest is accepted. -/
def greedy {β : Type} (p : α → Bool) (accept : List α → Option β) :
    List α → Option (List α × β)
  | [] => (accept []).map ([], ·)
  | a :: text =>
      let stop := (accept (a :: text)).map ([], ·)
      if p a then ((greedy p accept text).map fun found => (a :: found.1, found.2)).or stop
      else stop

/-- What each piece takes at the start of a text. -/
def matchHere : List (Piece α) → List α → Option (List (List α))
  | [], _ => some []
  | .one _ :: _, [] => none
  | .one p :: pieces, a :: text =>
      if p a then (matchHere pieces text).map ([a] :: ·) else none
  | .many p :: pieces, text =>
      (greedy p (matchHere pieces) text).map fun found => found.1 :: found.2

theorem matchHere_one_cons (p : α → Bool) (pieces : List (Piece α)) (a : α) (text : List α) :
    matchHere (.one p :: pieces) (a :: text) =
      if p a then (matchHere pieces text).map ([a] :: ·) else none := rfl

/-- What each piece takes at the leftmost place that fits. -/
def captures (pieces : List (Piece α)) : List α → Option (List (List α))
  | [] => matchHere pieces []
  | a :: text => (matchHere pieces (a :: text)).or (captures pieces text)

def isMatch (pieces : List (Piece α)) (text : List α) : Bool := (captures pieces text).isSome

/-! ### What is found fits -/

section Greedy

variable {β : Type} {p : α → Bool} {accept : List α → Option β}

theorem greedy_eq_some {text chunk : List α} {b : β}
    (h : greedy p accept text = some (chunk, b)) :
    (∀ a ∈ chunk, p a = true) ∧ ∃ rest, text = chunk ++ rest ∧ accept rest = some b := by
  induction text generalizing chunk with
  | nil =>
      obtain ⟨_, hb, heq⟩ := Option.map_eq_some_iff.mp h
      cases heq
      exact ⟨by simp, [], rfl, hb⟩
  | cons a text ih =>
      have hstop : (accept (a :: text)).map (([] : List α), ·) = some (chunk, b) →
          (∀ a ∈ chunk, p a = true) ∧
            ∃ rest, a :: text = chunk ++ rest ∧ accept rest = some b := by
        intro hfound
        obtain ⟨_, hb, heq⟩ := Option.map_eq_some_iff.mp hfound
        cases heq
        exact ⟨by simp, a :: text, rfl, hb⟩
      rw [greedy] at h
      split at h
      · next ha =>
        rcases Option.or_eq_some_iff.mp h with hfound | ⟨-, hfound⟩
        · obtain ⟨⟨more, _⟩, hmore, heq⟩ := Option.map_eq_some_iff.mp hfound
          cases heq
          obtain ⟨hall, rest, rfl, hb⟩ := ih hmore
          exact ⟨List.forall_mem_cons.mpr ⟨ha, hall⟩, rest, rfl, hb⟩
        · exact hstop hfound
      · exact hstop h

theorem isSome_greedy {chunk rest : List α} (hchunk : ∀ a ∈ chunk, p a = true)
    (h : (accept rest).isSome) : (greedy p accept (chunk ++ rest)).isSome := by
  induction chunk with
  | nil =>
      cases rest with
      | nil => simpa [greedy] using h
      | cons a rest =>
          rw [List.nil_append, greedy]
          split <;> simp [h]
  | cons a chunk ih =>
      obtain ⟨ha, hmore⟩ := List.forall_mem_cons.mp hchunk
      simp [greedy, ha, ih hmore]

/-- Where a shorter run helps only if the longest does, the longest is taken. -/
theorem greedy_eq (h : ∀ a text, p a = true → accept text = none → accept (a :: text) = none)
    (text : List α) :
    greedy p accept text =
      (accept (text.dropWhile p)).map (text.takeWhile p, ·) := by
  induction text with
  | nil => rfl
  | cons a text ih =>
      by_cases ha : p a = true
      · simp only [greedy, ha, if_true, ih, List.dropWhile_cons_of_pos, List.takeWhile_cons_of_pos]
        cases haccept : accept (text.dropWhile p) with
        | some b => rfl
        | none =>
            have hrun : ∀ run : List α, (∀ a ∈ run, p a = true) →
                accept (run ++ text.dropWhile p) = none := by
              intro run hrun
              induction run with
              | nil => exact haccept
              | cons b run ihrun =>
                  obtain ⟨hb, hmore⟩ := List.forall_mem_cons.mp hrun
                  exact h b _ hb (ihrun hmore)
            have hwhole := hrun (a :: text.takeWhile p)
              (List.forall_mem_cons.mpr ⟨ha, fun b hb => List.mem_takeWhile_imp hb⟩)
            rw [List.cons_append, List.takeWhile_append_dropWhile] at hwhole
            simp [hwhole]
      · simp [greedy, ha]

end Greedy

theorem matchHere_eq_some {pieces : List (Piece α)} {text : List α} {chunks : List (List α)}
    (h : matchHere pieces text = some chunks) :
    List.Forall₂ Piece.Fits pieces chunks ∧ ∃ rest, text = chunks.flatten ++ rest := by
  induction pieces generalizing text chunks with
  | nil =>
      cases h
      exact ⟨.nil, text, rfl⟩
  | cons piece pieces ih =>
      cases piece with
      | one p =>
          cases text with
          | nil => cases h
          | cons a text =>
              obtain ⟨ha, hfound⟩ := Option.ite_none_right_eq_some.mp h
              obtain ⟨more, hmore, rfl⟩ := Option.map_eq_some_iff.mp hfound
              obtain ⟨hfits, rest, rfl⟩ := ih hmore
              exact ⟨.cons (.one ha) hfits, rest, by simp⟩
      | many p =>
          obtain ⟨⟨chunk, more⟩, hfound, rfl⟩ := Option.map_eq_some_iff.mp h
          obtain ⟨hall, rest, rfl, hmore⟩ := greedy_eq_some hfound
          obtain ⟨hfits, rest, rfl⟩ := ih hmore
          exact ⟨.cons (.many hall) hfits, rest, by simp⟩

theorem isSome_matchHere {pieces : List (Piece α)} {chunks : List (List α)}
    (h : List.Forall₂ Piece.Fits pieces chunks) (rest : List α) :
    (matchHere pieces (chunks.flatten ++ rest)).isSome := by
  induction h with
  | nil => rfl
  | @cons piece chunk pieces chunks hpiece _ ih =>
      rw [List.flatten_cons, List.append_assoc]
      cases hpiece with
      | one ha => simpa [matchHere, ha] using ih
      | many hall =>
          rw [matchHere, Option.isSome_map]
          exact isSome_greedy hall ih

/-- The search finds a place exactly if there is one. -/
theorem isMatch_iff {pieces : List (Piece α)} {text : List α} :
    isMatch pieces text = true ↔ ∃ front chunks back,
      text = front ++ (chunks.flatten ++ back) ∧ List.Forall₂ Piece.Fits pieces chunks := by
  constructor
  · intro h
    induction text with
    | nil =>
        obtain ⟨chunks, hchunks⟩ := Option.isSome_iff_exists.mp h
        obtain ⟨hfits, back, hback⟩ := matchHere_eq_some hchunks
        exact ⟨[], chunks, back, hback, hfits⟩
    | cons a text ih =>
        rw [isMatch, captures, Option.isSome_or, Bool.or_eq_true] at h
        rcases h with hhere | hlater
        · obtain ⟨chunks, hchunks⟩ := Option.isSome_iff_exists.mp hhere
          obtain ⟨hfits, back, hback⟩ := matchHere_eq_some hchunks
          exact ⟨[], chunks, back, hback, hfits⟩
        · obtain ⟨front, chunks, back, rfl, hfits⟩ := ih hlater
          exact ⟨a :: front, chunks, back, rfl, hfits⟩
  · rintro ⟨front, chunks, back, rfl, hfits⟩
    have hhere := isSome_matchHere hfits back
    induction front with
    | nil =>
        rw [List.nil_append]
        cases htext : chunks.flatten ++ back with
        | nil =>
            rw [htext] at hhere
            exact hhere
        | cons a text =>
            rw [htext] at hhere
            simp [isMatch, captures, hhere]
    | cons a front ih =>
        rw [isMatch] at ih
        simp [isMatch, captures, ih]

/-- A search for a first element passes over what cannot be that element. -/
theorem captures_one_append {p : α → Bool} {front : List α} (hfront : ∀ a ∈ front, p a = false)
    (pieces : List (Piece α)) (text : List α) :
    captures (.one p :: pieces) (front ++ text) = captures (.one p :: pieces) text := by
  induction front with
  | nil => rfl
  | cons a front ih =>
      obtain ⟨ha, hmore⟩ := List.forall_mem_cons.mp hfront
      simp [captures, matchHere, ha, ih hmore]

end Snip36.Library.Patterns
