import Mathlib.Data.List.Induction
import Mathlib.Logic.Function.Basic

/-!
Logs whose entries may write at a key: the map that a log leaves, and what holds
between each entry and those before it.
-/

namespace Snip36.Library.KeyedLog

variable {α κ β : Type}

section Latest

variable [DecidableEq κ]

/-- A map after one write, if there is one. -/
def put (m : κ → Option β) : Option (κ × β) → κ → Option β
  | some (k, b) => Function.update m k (some b)
  | none => m

@[simp] theorem put_none (m : κ → Option β) : put m none = m := rfl

@[simp] theorem put_self (m : κ → Option β) (k : κ) (b : β) : put m (some (k, b)) k = some b := by
  simp [put]

theorem put_of_ne {m : κ → Option β} {k k' : κ} (h : k ≠ k') (b : β) :
    put m (some (k', b)) k = m k :=
  Function.update_of_ne h _ _

variable (writes : α → Option (κ × β))

/-- What the last entry at each key has written. -/
def latest (log : List α) : κ → Option β :=
  log.foldl (fun m a => put m (writes a)) fun _ => none

theorem latest_concat (log : List α) (a : α) :
    latest writes (log ++ [a]) = put (latest writes log) (writes a) := by
  rw [latest, List.foldl_append]
  rfl

variable {writes}

theorem latest_append_of_none {log later : List α} (h : ∀ a ∈ later, writes a = none) :
    latest writes (log ++ later) = latest writes log := by
  induction later using List.reverseRecOn with
  | nil => rw [List.append_nil]
  | append_singleton later a ih =>
      rw [← List.append_assoc, latest_concat, h a (by simp), put_none]
      exact ih fun b hb => h b (List.mem_append_left _ hb)

theorem exists_of_latest {log : List α} {k : κ} {b : β} (h : latest writes log k = some b) :
    ∃ a ∈ log, writes a = some (k, b) := by
  induction log using List.reverseRecOn with
  | nil => cases h
  | append_singleton log a ih =>
      rw [latest_concat] at h
      have hearlier : latest writes log k = some b →
          ∃ a' ∈ log ++ [a], writes a' = some (k, b) := by
        intro hlog
        obtain ⟨a', ha', hwrites⟩ := ih hlog
        exact ⟨a', List.mem_append_left _ ha', hwrites⟩
      cases hwrites : writes a with
      | none =>
          rw [hwrites] at h
          exact hearlier h
      | some entry =>
          obtain ⟨k', b'⟩ := entry
          rw [hwrites] at h
          rcases eq_or_ne k k' with rfl | hne
          · rw [put_self, Option.some.injEq] at h
            exact ⟨a, by simp, h ▸ hwrites⟩
          · rw [put_of_ne hne] at h
            exact hearlier h

end Latest

section EachAfter

/-- `P` holds between the entries before one and that one. -/
def EachAfter (P : List α → α → Prop) (log : List α) : Prop :=
  ∀ before a later, log = before ++ a :: later → P before a

variable {P : List α → α → Prop}

theorem eachAfter_nil : EachAfter P [] := by
  intro before a later hsplit
  simp at hsplit

theorem eachAfter_concat {log : List α} {a : α} :
    EachAfter P (log ++ [a]) ↔ EachAfter P log ∧ P log a := by
  constructor
  · intro h
    refine ⟨fun before b later hsplit => ?_, h log a [] rfl⟩
    exact h before b (later ++ [a]) (by simp [hsplit])
  · rintro ⟨hlog, hlast⟩ before b later hsplit
    rcases List.eq_nil_or_concat later with rfl | ⟨later', last, rfl⟩
    · obtain ⟨rfl, hb⟩ := List.append_inj' hsplit rfl
      obtain rfl := List.singleton_inj.mp hb
      exact hlast
    · rw [List.concat_eq_append, ← List.cons_append, ← List.append_assoc] at hsplit
      exact hlog before b later' (List.append_inj_left' hsplit rfl)

/-- Read at a place of the log. -/
theorem EachAfter.at {log : List α} (h : EachAfter P log) {k : Nat} {a : α}
    (ha : log[k]? = some a) : P (log.take k) a := by
  obtain ⟨hk, rfl⟩ := List.getElem?_eq_some_iff.mp ha
  exact h _ _ (log.drop (k + 1)) (by simp)

end EachAfter

end Snip36.Library.KeyedLog
