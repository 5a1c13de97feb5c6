import Mathlib.Data.List.Basic

/-!
Machines whose calls either take effect or leave the state as it was: runs, and
the induction rule for what a run keeps and adds up.
-/

namespace Snip36.Library.Reverting

variable {State Call ε : Type} (step : State → Call → Except ε State)

/-- One call. A call that fails is reverted. -/
def exec (s : State) (call : Call) : State :=
  match step s call with
  | .ok s' => s'
  | .error _ => s

def run (s : State) (calls : List Call) : State := calls.foldl (exec step) s

/-- What the calls that took effect add up to. -/
def gained (gain : Call → Nat) (s : State) : List Call → Nat
  | [] => 0
  | call :: calls =>
      (match step s call with
        | .ok _ => gain call
        | .error _ => 0) + gained gain (exec step s call) calls

/-- What the calls that took effect have written, in order. -/
def logged {β : Type} (entries : State → Call → List β) (s : State) : List Call → List β
  | [] => []
  | call :: calls =>
      (match step s call with
        | .ok _ => entries s call
        | .error _ => []) ++ logged entries (exec step s call) calls

@[simp] theorem run_nil (s : State) : run step s [] = s := rfl

@[simp] theorem run_cons (s : State) (call : Call) (calls : List Call) :
    run step s (call :: calls) = run step (exec step s call) calls := rfl

/-- Every call meets a condition on the state that it finds. -/
def AllMeet (Meets : State → Call → Prop) (s : State) : List Call → Prop
  | [] => True
  | call :: calls => Meets s call ∧ AllMeet Meets (exec step s call) calls

instance decidableAllMeet (Meets : State → Call → Prop) [∀ s call, Decidable (Meets s call)] :
    ∀ s calls, Decidable (AllMeet step Meets s calls)
  | _, [] => isTrue trivial
  | s, call :: calls =>
      have := decidableAllMeet Meets (exec step s call) calls
      inferInstanceAs (Decidable (Meets s call ∧ AllMeet step Meets (exec step s call) calls))

theorem run_append (s : State) (calls later : List Call) :
    run step s (calls ++ later) = run step (run step s calls) later := List.foldl_append

variable {step} {Allowed : Call → Prop}

theorem exec_of_ok {s s' : State} {call : Call} (h : step s call = .ok s') :
    exec step s call = s' := by
  simp [exec, h]

theorem exec_of_error {s : State} {call : Call} {e : ε} (h : step s call = .error e) :
    exec step s call = s := by
  simp [exec, h]

/-- An account `P` of a state and of what was gained so far, kept by each call
that takes effect, is kept by every run. -/
theorem run_gained (gain : Call → Nat) {P : Nat → State → Prop}
    (hstep : ∀ n s call s', Allowed call → P n s → step s call = .ok s' →
      P (n + gain call) s')
    {n : Nat} {s : State} (hs : P n s) {calls : List Call}
    (hcalls : ∀ call ∈ calls, Allowed call) :
    P (n + gained step gain s calls) (run step s calls) := by
  induction calls generalizing n s with
  | nil => simpa [gained] using hs
  | cons call calls ih =>
      have hrest : ∀ call ∈ calls, Allowed call := fun c hc =>
        hcalls c (List.mem_cons_of_mem _ hc)
      cases heffect : step s call with
      | ok s' =>
          have hs' := hstep n s call s' (hcalls call List.mem_cons_self) hs heffect
          rw [run_cons, gained, exec_of_ok heffect, heffect, ← Nat.add_assoc]
          exact ih hs' hrest
      | error e =>
          rw [run_cons, gained, exec_of_error heffect, heffect, Nat.zero_add]
          exact ih hs hrest

theorem run_keeps {P : State → Prop}
    (hstep : ∀ s call s', Allowed call → P s → step s call = .ok s' → P s')
    {s : State} (hs : P s) {calls : List Call} (hcalls : ∀ call ∈ calls, Allowed call) :
    P (run step s calls) :=
  run_gained (fun _ => 0) (P := fun _ => P) (n := 0)
    (fun _ s call s' => hstep s call s') hs hcalls

theorem run_keeps_while {Meets : State → Call → Prop} {P : State → Prop}
    (hstep : ∀ s call s', Meets s call → P s → step s call = .ok s' → P s')
    {s : State} (hs : P s) {calls : List Call} (hmeet : AllMeet step Meets s calls) :
    P (run step s calls) := by
  induction calls generalizing s with
  | nil => exact hs
  | cons call calls ih =>
      obtain ⟨hcall, hrest⟩ := hmeet
      cases heffect : step s call with
      | ok s' =>
          rw [exec_of_ok heffect] at hrest
          rw [run_cons, exec_of_ok heffect]
          exact ih (hstep s call s' hcall hs heffect) hrest
      | error e =>
          rw [exec_of_error heffect] at hrest
          rw [run_cons, exec_of_error heffect]
          exact ih hs hrest

theorem allMeet_append {Meets : State → Call → Prop} {s : State} {calls later : List Call} :
    AllMeet step Meets s (calls ++ later) ↔
      AllMeet step Meets s calls ∧ AllMeet step Meets (run step s calls) later := by
  induction calls generalizing s with
  | nil => simp [AllMeet]
  | cons call calls ih => simp [AllMeet, ih, and_assoc]

theorem run_logged_while {β : Type} {Meets : State → Call → Prop}
    (entries : State → Call → List β) {P : List β → State → Prop}
    (hstep : ∀ log s call s', Meets s call → P log s → step s call = .ok s' →
      P (log ++ entries s call) s')
    {log : List β} {s : State} (hs : P log s) {calls : List Call}
    (hmeet : AllMeet step Meets s calls) :
    P (log ++ logged step entries s calls) (run step s calls) := by
  induction calls generalizing log s with
  | nil => simpa [logged] using hs
  | cons call calls ih =>
      obtain ⟨hcall, hrest⟩ := hmeet
      cases heffect : step s call with
      | ok s' =>
          rw [exec_of_ok heffect] at hrest
          rw [run_cons, logged, exec_of_ok heffect, heffect, ← List.append_assoc]
          exact ih (hstep log s call s' hcall hs heffect) hrest
      | error e =>
          rw [exec_of_error heffect] at hrest
          rw [run_cons, logged, exec_of_error heffect, heffect, List.nil_append]
          exact ih hs hrest

theorem allMeet_of_forall {Meets : State → Call → Prop} (h : ∀ s call, Meets s call) (s : State)
    (calls : List Call) : AllMeet step Meets s calls := by
  induction calls generalizing s with
  | nil => trivial
  | cons call calls ih => exact ⟨h s call, ih _⟩

/-- The same for what the calls have written. -/
theorem run_logged {β : Type} (entries : State → Call → List β) {P : List β → State → Prop}
    (hstep : ∀ log s call s', P log s → step s call = .ok s' → P (log ++ entries s call) s')
    {log : List β} {s : State} (hs : P log s) (calls : List Call) :
    P (log ++ logged step entries s calls) (run step s calls) :=
  run_logged_while entries (fun log s call s' _ => hstep log s call s') hs
    (allMeet_of_forall (fun _ _ => trivial) s calls)

/-! ### Two machines side by side -/

section Related

variable {State' ε' : Type} {step' : State' → Call → Except ε' State'} {R : State → State' → Prop}

/-- Both calls take effect and lead to related states, or both fail. -/
def SameFate (R : State → State' → Prop) : Except ε State → Except ε' State' → Prop
  | .ok s, .ok t => R s t
  | .error _, .error _ => True
  | _, _ => False

theorem SameFate.exec {s : State} {t : State'} {call : Call}
    (h : SameFate R (step s call) (step' t call)) (hst : R s t) :
    R (exec step s call) (exec step' t call) := by
  unfold Reverting.exec
  cases hs : step s call with
  | ok s' =>
      cases ht : step' t call with
      | ok t' =>
          rw [hs, ht] at h
          exact h
      | error e =>
          rw [hs, ht] at h
          exact h.elim
  | error e =>
      cases ht : step' t call with
      | ok t' =>
          rw [hs, ht] at h
          exact h.elim
      | error e' => exact hst

theorem run_related (hstep : ∀ s t call, R s t → SameFate R (step s call) (step' t call))
    {s : State} {t : State'} (hst : R s t) (calls : List Call) :
    R (run step s calls) (run step' t calls) := by
  induction calls generalizing s t with
  | nil => exact hst
  | cons call calls ih => exact ih ((hstep s t call hst).exec hst)

/-- What is read off related states is written in both runs. -/
theorem logged_related {β : Type} {entries : State → Call → List β}
    {entries' : State' → Call → List β}
    (hstep : ∀ s t call, R s t → SameFate R (step s call) (step' t call))
    (hentries : ∀ s t call, R s t → entries s call = entries' t call)
    {s : State} {t : State'} (hst : R s t) (calls : List Call) :
    logged step entries s calls = logged step' entries' t calls := by
  induction calls generalizing s t with
  | nil => rfl
  | cons call calls ih =>
      have hfate := hstep s t call hst
      rw [logged, logged, ih (hfate.exec hst), hentries s t call hst]
      cases hs : step s call with
      | ok s' =>
          cases ht : step' t call with
          | ok t' => rfl
          | error e =>
              rw [hs, ht] at hfate
              exact hfate.elim
      | error e =>
          cases ht : step' t call with
          | ok t' =>
              rw [hs, ht] at hfate
              exact hfate.elim
          | error e' => rfl

end Related

end Snip36.Library.Reverting
