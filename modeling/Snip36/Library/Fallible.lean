import Mathlib.Data.List.Forall2

/-! Taking fallible computations and loops over them apart. -/

namespace Snip36.Library.Fallible

variable {ε δ α β γ : Type}

theorem bind_eq_ok_iff {x : Except ε α} {f : α → Except ε β} {value : β} :
    x >>= f = .ok value ↔ ∃ a, x = .ok a ∧ f a = .ok value := by
  cases x with
  | error e => exact ⟨nofun, nofun⟩
  | ok a => simp [Bind.bind, Except.bind]

@[simp] theorem pure_eq_ok_iff {a value : α} :
    (pure a : Except ε α) = .ok value ↔ a = value := by
  simp [pure, Except.pure]

@[simp] theorem mapError_eq_ok_iff {f : ε → δ} {x : Except ε α} {value : α} :
    x.mapError f = .ok value ↔ x = .ok value := by
  cases x <;> simp [Except.mapError]

/-- `.map(f).collect::<Result<Vec<_>, _>>()`: the results in order, or the
first error. -/
def collect (f : α → Except ε β) : List α → Except ε (List β)
  | [] => .ok []
  | a :: rest => do
      let b ← f a
      let bs ← collect f rest
      pure (b :: bs)

theorem collect_eq_ok_iff {f : α → Except ε β} {items : List α} {values : List β} :
    collect f items = .ok values ↔ List.Forall₂ (fun a b => f a = .ok b) items values := by
  induction items generalizing values with
  | nil => simp [collect, eq_comm]
  | cons a rest ih =>
      simp only [collect, bind_eq_ok_iff, pure_eq_ok_iff, ih, List.forall₂_cons_left_iff]
      constructor
      · rintro ⟨b, hb, bs, hbs, rfl⟩
        exact ⟨b, bs, hb, hbs, rfl⟩
      · rintro ⟨b, bs, hb, hbs, rfl⟩
        exact ⟨b, hb, bs, hbs, rfl⟩

theorem collect_eq_ok_map {f : α → Except ε β} {result : α → β} {items : List α}
    (h : ∀ a ∈ items, f a = .ok (result a)) : collect f items = .ok (items.map result) := by
  rw [collect_eq_ok_iff, List.forall₂_map_right_iff, List.forall₂_same]
  exact h

end Snip36.Library.Fallible
