import Mathlib.Data.List.Forall2

/-!
Readers take a value off the front of a list of words. An array is written as
its length followed by its items.
-/

namespace Snip36.Library.LengthPrefix

variable {ω ω' α : Type}

abbrev Reader (ω α : Type) := List ω → Option (α × List ω)

def word : Reader ω ω
  | [] => none
  | w :: rest => some (w, rest)

def many (read : Reader ω α) : Nat → Reader ω (List α)
  | 0, words => some ([], words)
  | n + 1, words => do
      let (a, words) ← read words
      let (as, words) ← many read n words
      pure (a :: as, words)

/-- `number` is what a word says as a length. -/
def array (number : ω → Option Nat) (read : Reader ω α) : Reader ω (List α) := fun words => do
  let (w, words) ← word words
  let n ← number w
  many read n words

/-- Nothing may be left over. -/
def complete (read : Reader ω α) (words : List ω) : Option α :=
  match read words with
  | some (a, []) => some a
  | _ => none

/-- Whatever follows, these words are taken off, and are read as this value. -/
def Takes (read : Reader ω α) (words : List ω) (a : α) : Prop :=
  ∀ rest, read (words ++ rest) = some (a, rest)

theorem takes_word (w : ω) : Takes word [w] w := fun _ => rfl

theorem takes_many {read : Reader ω α} {chunks : List (List ω)} {as : List α}
    (h : List.Forall₂ (Takes read) chunks as) :
    Takes (many read as.length) chunks.flatten as := by
  intro rest
  induction h with
  | nil => rfl
  | cons hfirst _ ih =>
      rw [List.flatten_cons, List.append_assoc, List.length_cons, many, hfirst]
      simp [ih]

theorem takes_array {number : ω → Option Nat} {read : Reader ω α} {w : ω}
    {chunks : List (List ω)} {as : List α} (hnumber : number w = some as.length)
    (h : List.Forall₂ (Takes read) chunks as) :
    Takes (array number read) (w :: chunks.flatten) as := by
  intro rest
  have hmany := takes_many h rest
  simpa [array, word, hnumber] using hmany

/-- An array of words is its length and the words themselves. -/
theorem takes_words {number : ω → Option Nat} {w : ω} {words : List ω}
    (hnumber : number w = some words.length) :
    Takes (array number word) (w :: words) words := by
  have hflatten : (words.map fun w => [w]).flatten = words := by
    rw [← List.flatMap_def, List.flatMap_singleton']
  have hchunks : List.Forall₂ (Takes word) (words.map fun w => [w]) words := by
    rw [List.forall₂_map_left_iff, List.forall₂_same]
    exact fun w _ => takes_word w
  have htakes := takes_array hnumber hchunks
  rwa [hflatten] at htakes

theorem Takes.complete {read : Reader ω α} {words : List ω} {a : α} (h : Takes read words a) :
    complete read words = some a := by
  have hread := h []
  rw [List.append_nil] at hread
  rw [LengthPrefix.complete, hread]

/-! ### The same words in another form -/

/-- What stands in relation to chunks in a row is itself chunks in a row. -/
theorem exists_chunks {R : ω → ω' → Prop} {chunks : List (List ω')} {words : List ω}
    (h : List.Forall₂ R words chunks.flatten) :
    ∃ chunks', words = chunks'.flatten ∧ List.Forall₂ (List.Forall₂ R) chunks' chunks := by
  induction chunks generalizing words with
  | nil =>
      cases h
      exact ⟨[], rfl, .nil⟩
  | cons chunk rest ih =>
      rw [List.flatten_cons] at h
      obtain ⟨chunks', hwords, hrest⟩ := ih (List.forall₂_drop_append _ _ _ h)
      refine ⟨words.take chunk.length :: chunks', ?_, ?_⟩
      · rw [List.flatten_cons, ← hwords, List.take_append_drop]
      · exact .cons (List.forall₂_take_append _ _ _ h) hrest

end Snip36.Library.LengthPrefix
