import Snip36.Library.Interleaving

/-!
Programs that share one lock. What a program does with the lock can be read off
its requests. If every program takes the lock only when it does not hold it, does
what is guarded only while it holds it and ends without it, then at any time at
most one program holds it.
-/

namespace Snip36.Library.Mutex

open Interaction
open Interaction.Program
open Interleaving
open Reverting

variable {Req : Type} {Ans : Req → Type} {ε ε' β γ : Type}

/-! ### One program -/

/-- What a request has to do with the lock. -/
inductive LockUse where
  | acquire
  | release
  | guarded
  | free
  deriving DecidableEq

namespace LockUse

/-- Whether the lock is held after a request of this kind. -/
def next : LockUse → Bool → Bool
  | .acquire, _ => true
  | .release, _ => false
  | .guarded, held => held
  | .free, held => held

/-- Whether the request may be made by a program that holds the lock, or not. -/
def Fits : LockUse → Bool → Prop
  | .acquire, held => held = false
  | .release, held => held = true
  | .guarded, held => held = true
  | .free, _ => True

end LockUse

variable {use : Req → LockUse}

/-- Whether the lock is held after some exchanges. -/
def holds (use : Req → LockUse) (held : Bool) : History Req Ans → Bool
  | [] => held
  | event :: rest => holds use ((use event.request).next held) rest

theorem holds_append (held : Bool) (first second : History Req Ans) :
    holds use held (first ++ second) = holds use (holds use held first) second := by
  induction first generalizing held with
  | nil => rfl
  | cons event rest ih => exact ih _

/-- A lock that was held and is not held any more has been released. -/
theorem exists_release {history : History Req Ans} (h : holds use true history = false) :
    ∃ event ∈ history, use event.request = .release := by
  induction history with
  | nil => cases h
  | cons event rest ih =>
      by_cases hrelease : use event.request = .release
      · exact ⟨event, List.mem_cons_self, hrelease⟩
      · have hrest : holds use true rest = false := by
          cases huse : use event.request with
          | release => exact absurd huse hrelease
          | acquire => simpa [holds, huse, LockUse.next] using h
          | guarded => simpa [holds, huse, LockUse.next] using h
          | free => simpa [holds, huse, LockUse.next] using h
        obtain ⟨released, hmem, huse⟩ := ih hrest
        exact ⟨released, List.mem_cons_of_mem _ hmem, huse⟩

/-- A program that starts with the lock or without it, uses it as it should and
ends, however it ends, with it or without it. -/
def Disciplined (use : Req → LockUse) : Bool → Bool → Program Req Ans ε β → Prop
  | held, final, .done _ => held = final
  | held, final, .call request next => (use request).Fits held ∧
      ∀ answer, Disciplined use ((use request).next held) final (next answer)

theorem Disciplined.bind {held final : Bool} {first : Program Req Ans ε β}
    {f : β → Program Req Ans ε γ} (h : Disciplined use held final first)
    (hf : ∀ a, Disciplined use final final (f a)) : Disciplined use held final (first >>= f) := by
  induction first generalizing held with
  | done outcome =>
      obtain rfl : held = final := h
      cases outcome with
      | ok value => exact hf value
      | err error => rfl
      | panicked message => rfl
  | call request next ih => exact ⟨h.1, fun answer => ih answer (h.2 answer)⟩

/-- Nothing comes after a failed part, unless its outcome was asked for. -/
theorem Disciplined.attempt_bind {held middle final : Bool} {first : Program Req Ans ε β}
    {f : Outcome ε β → Program Req Ans ε' γ} (h : Disciplined use held middle first)
    (hf : ∀ outcome, Disciplined use middle final (f outcome)) :
    Disciplined use held final (first.attempt >>= f) := by
  induction first generalizing held with
  | done outcome =>
      obtain rfl : held = middle := h
      exact hf outcome
  | call request next ih => exact ⟨h.1, fun answer => ih answer (h.2 answer)⟩

/-- Requests that have nothing to do with the lock. -/
def IsFree (use : Req → LockUse) (request : Req) : Prop := use request = .free

/-- Without the lock, everything is allowed that has nothing to do with it. -/
theorem disciplined_of_free {held : Bool} {program : Program Req Ans ε β}
    (h : OnlyAsks (IsFree use) program) : Disciplined use held held program := by
  induction program with
  | done outcome => rfl
  | call request next ih =>
      have hfree : use request = .free := h.1
      refine ⟨?_, fun answer => ?_⟩
      · rw [hfree]
        trivial
      · rw [hfree]
        exact ih answer (h.2 answer)

/-- The requests that are allowed with the lock and leave it alone. -/
def Inside (use : Req → LockUse) (request : Req) : Prop :=
  use request = .guarded ∨ use request = .free

theorem disciplined_of_inside {program : Program Req Ans ε β}
    (h : OnlyAsks (Inside use) program) : Disciplined use true true program := by
  induction program with
  | done outcome => rfl
  | call request next ih =>
      obtain ⟨hrequest, hnext⟩ := h
      rcases hrequest with huse | huse
      · refine ⟨?_, fun answer => ?_⟩
        · rw [huse]
          rfl
        · rw [huse]
          exact ih answer (hnext answer)
      · refine ⟨?_, fun answer => ?_⟩
        · rw [huse]
          trivial
        · rw [huse]
          exact ih answer (hnext answer)

theorem follows_disciplined {final : Bool} {program rest : Program Req Ans ε β}
    {history : History Req Ans} (hfollows : Follows program history rest)
    (h : Disciplined use false final program) :
    Disciplined use (holds use false history) final rest := by
  induction hfollows with
  | start => exact h
  | answered _ answer ih =>
      rw [holds_append]
      exact ih.2 answer

/-! ### Many programs -/

variable {Shared Request Env : Type} {sys : System Req Ans ε β Shared Request Env}
  {locked : Shared → Bool} {pool pool' : Pool sys}

/-- A system with a lock: the programs are disciplined, and the shared state tells
whether the lock is taken. -/
structure Locking (sys : System Req Ans ε β Shared Request Env) (use : Req → LockUse)
    (locked : Shared → Bool) : Prop where
  handler : ∀ request, Disciplined use false false (sys.handler request)
  acquire : ∀ {shared shared' request offered answer},
    sys.serve shared request offered = some (answer, shared') → use request = .acquire →
    locked shared = false
  next : ∀ {shared shared' request offered answer},
    sys.serve shared request offered = some (answer, shared') →
    locked shared' = (use request).next (locked shared)
  outside : ∀ {shared shared' env},
    sys.outside shared env = some shared' → locked shared' = locked shared

def HeldBy (use : Req → LockUse) (pool : Pool sys) (i : Nat) : Prop :=
  ∃ t, pool.tasks[i]? = some t ∧ holds use false t.history = true

/-- The lock is taken when one of the tasks holds it, and no other does then. -/
structure Exclusive (use : Req → LockUse) (locked : Shared → Bool) (pool : Pool sys) : Prop where
  locked_iff : locked pool.shared = true ↔ ∃ i, HeldBy use pool i
  unique : ∀ i j, HeldBy use pool i → HeldBy use pool j → i = j

theorem exclusive_of_no_tasks (htasks : pool.tasks = []) (hfree : locked pool.shared = false) :
    Exclusive use locked pool := by
  have hnone (i : Nat) : ¬HeldBy use pool i := by
    rintro ⟨t, ht, -⟩
    rw [htasks] at ht
    cases ht
  refine ⟨?_, fun i j hi => absurd hi (hnone i)⟩
  rw [hfree]
  exact ⟨nofun, fun ⟨i, hi⟩ => absurd hi (hnone i)⟩

theorem heldBy_arrive {request : Request} {i : Nat} :
    HeldBy use { pool with tasks := pool.tasks ++ [.start sys request] } i ↔ HeldBy use pool i := by
  constructor
  · rintro ⟨t, ht, hheld⟩
    rcases Pool.found_of_arrive ht with hold | hnew
    · exact ⟨t, hold, hheld⟩
    · rw [hnew] at hheld
      cases hheld
  · rintro ⟨t, ht, hheld⟩
    refine ⟨t, ?_, hheld⟩
    have hlt := (List.getElem?_eq_some_iff.mp ht).1
    exact (List.getElem?_append_left hlt).trans ht

section Advances

variable {answers : (request : Req) → Ans request} {i : Nat} {t t' : Task sys} {request : Req}
  {answer : Ans request}

/-- Only the task that goes on may take the lock or give it back. -/
theorem heldBy_advance (use : Req → LockUse)
    (h : Pool.Advances pool pool' answers i t t' request answer) (j : Nat) :
    HeldBy use pool' j ↔
      if j = i then (use request).next (holds use false t.history) = true
      else HeldBy use pool j := by
  have hlt := (List.getElem?_eq_some_iff.mp h.found).1
  unfold HeldBy
  rw [h.tasks]
  split
  · rename_i heq
    subst heq
    rw [List.getElem?_set_self hlt]
    simp [h.history, holds_append, holds]
  · rename_i hne
    rw [List.getElem?_set_ne (Ne.symm hne)]

theorem fits_of_advances (hlocking : Locking sys use locked)
    (h : Pool.Advances pool pool' answers i t t' request answer) :
    (use request).Fits (holds use false t.history) := by
  obtain ⟨next, hnext⟩ := h.asks
  have hrest := follows_disciplined t.follows (hlocking.handler t.request)
  rw [hnext] at hrest
  exact hrest.1

theorem heldBy_iff (use : Req → LockUse)
    (h : Pool.Advances pool pool' answers i t t' request answer) :
    HeldBy use pool i ↔ holds use false t.history = true := by
  simp [HeldBy, h.found]

/-- While a task holds the lock, no other one has to do with it. -/
theorem Exclusive.eq_of_heldBy (hlocking : Locking sys use locked)
    (hpool : Exclusive use locked pool)
    (h : Pool.Advances pool pool' answers i t t' request answer) (huse : use request ≠ .free)
    {j : Nat} (hheld : HeldBy use pool j) : j = i := by
  have hfits := fits_of_advances hlocking h
  cases hkind : use request with
  | free => exact absurd hkind huse
  | acquire =>
      have htaken := hpool.locked_iff.mpr ⟨j, hheld⟩
      rw [hlocking.acquire h.served hkind] at htaken
      cases htaken
  | release =>
      rw [hkind] at hfits
      exact hpool.unique j i hheld ((heldBy_iff use h).mpr hfits)
  | guarded =>
      rw [hkind] at hfits
      exact hpool.unique j i hheld ((heldBy_iff use h).mpr hfits)

theorem Exclusive.advance (hlocking : Locking sys use locked) (hpool : Exclusive use locked pool)
    (h : Pool.Advances pool pool' answers i t t' request answer) : Exclusive use locked pool' := by
  have hfits := fits_of_advances hlocking h
  have hlocked := hlocking.next h.served
  have hheld := heldBy_iff use h
  have hafter := heldBy_advance use h
  -- a request that leaves the lock alone changes neither side
  have hsame (hnext : ∀ held, (use request).next held = held) : Exclusive use locked pool' := by
    have heq (j : Nat) : HeldBy use pool' j ↔ HeldBy use pool j := by
      rw [hafter, hnext, ← hheld]
      split
      · rename_i heq
        rw [heq]
      · rfl
    refine ⟨?_, fun j k hj hk => hpool.unique j k ((heq j).mp hj) ((heq k).mp hk)⟩
    rw [hlocked, hnext, hpool.locked_iff]
    exact exists_congr fun j => (heq j).symm
  cases huse : use request with
  | guarded => exact hsame fun held => by rw [huse]; rfl
  | free => exact hsame fun held => by rw [huse]; rfl
  | acquire =>
      have hnone (j : Nat) : ¬HeldBy use pool j := by
        intro hj
        have htaken := hpool.locked_iff.mpr ⟨j, hj⟩
        rw [hlocking.acquire h.served huse] at htaken
        cases htaken
      have heq (j : Nat) : HeldBy use pool' j ↔ j = i := by
        rw [hafter, huse]
        split
        · simp [LockUse.next, *]
        · simp [*]
      refine ⟨?_, fun j k hj hk => ((heq j).mp hj).trans ((heq k).mp hk).symm⟩
      rw [hlocked, huse]
      exact ⟨fun _ => ⟨i, (heq i).mpr rfl⟩, fun _ => rfl⟩
  | release =>
      rw [huse] at hfits
      have heq (j : Nat) : ¬HeldBy use pool' j := by
        rw [hafter, huse]
        split
        · simp [LockUse.next]
        · rename_i hne
          exact fun hj => hne (hpool.unique j i hj (hheld.mpr hfits))
      refine ⟨?_, fun j k hj => absurd hj (heq j)⟩
      rw [hlocked, huse]
      exact ⟨nofun, fun ⟨j, hj⟩ => absurd hj (heq j)⟩

end Advances

variable {move : Move Req Ans Request Env}

theorem Exclusive.step (hlocking : Locking sys use locked) (hpool : Exclusive use locked pool)
    (h : pool.step move = .ok pool') : Exclusive use locked pool' := by
  cases move with
  | arrive request =>
      obtain rfl := Pool.arrive_eq_ok_iff.mp h
      refine ⟨hpool.locked_iff.trans (exists_congr fun i => heldBy_arrive.symm), ?_⟩
      exact fun i j hi hj => hpool.unique i j (heldBy_arrive.mp hi) (heldBy_arrive.mp hj)
  | advance i answers =>
      obtain ⟨t, t', request, answer, hadvance⟩ := Pool.advances_of_step h
      exact hpool.advance hlocking hadvance
  | outside env =>
      obtain ⟨shared, houtside, rfl⟩ := Pool.outside_eq_ok_iff.mp h
      exact ⟨(Bool.eq_iff_iff.mp (hlocking.outside houtside)).trans hpool.locked_iff, hpool.unique⟩

theorem Exclusive.run (hlocking : Locking sys use locked) (hpool : Exclusive use locked pool)
    (moves : List (Move Req Ans Request Env)) :
    Exclusive use locked (Reverting.run Pool.step pool moves) :=
  run_keeps (fun _ _ _ _ hpool h => hpool.step hlocking h) hpool fun _ _ => trivial

/-! ### What was said while the lock was held -/

/-- The exchanges of a run, with the tasks that had them. -/
def turns (pool : Pool sys) (moves : List (Move Req Ans Request Env)) :
    List (Nat × Event Req Ans) :=
  logged Pool.step (fun pool move => (pool.turn move).toList) pool moves

/-- What one task has said of what all have said. -/
def ofTask (i : Nat) (log : List (Nat × Event Req Ans)) : History Req Ans :=
  (log.filter fun said => said.1 = i).map Prod.snd

theorem ofTask_append (i : Nat) (log later : List (Nat × Event Req Ans)) :
    ofTask i (log ++ later) = ofTask i log ++ ofTask i later := by
  simp [ofTask]

theorem ofTask_cons_self (i : Nat) (event : Event Req Ans) (log : List (Nat × Event Req Ans)) :
    ofTask i ((i, event) :: log) = event :: ofTask i log := by
  simp [ofTask]

theorem mem_ofTask {i : Nat} {log : List (Nat × Event Req Ans)} {event : Event Req Ans} :
    event ∈ ofTask i log ↔ (i, event) ∈ log := by
  simp [ofTask]

/-- The histories of the tasks are what the log says. -/
def Recorded (log : List (Nat × Event Req Ans)) (pool : Pool sys) : Prop :=
  ∀ i, ofTask i log = (pool.tasks[i]?.map Task.history).getD []

theorem heldBy_iff_of_recorded {log : List (Nat × Event Req Ans)} (h : Recorded log pool)
    (i : Nat) : HeldBy use pool i ↔ holds use false (ofTask i log) = true := by
  rw [h i]
  cases hfound : pool.tasks[i]? with
  | none => simp [HeldBy, hfound, holds]
  | some t => simp [HeldBy, hfound]

theorem Recorded.step {log : List (Nat × Event Req Ans)} (hlog : Recorded log pool)
    (h : pool.step move = .ok pool') : Recorded (log ++ (pool.turn move).toList) pool' := by
  cases move with
  | arrive request =>
      obtain rfl := Pool.arrive_eq_ok_iff.mp h
      intro i
      rw [Pool.turn, Option.toList_none, List.append_nil, hlog i]
      rcases Nat.lt_trichotomy i pool.tasks.length with hlt | rfl | hgt
      · rw [List.getElem?_append_left hlt]
      · simp [Task.start]
      · rw [List.getElem?_eq_none (Nat.le_of_lt hgt), List.getElem?_eq_none]
        rw [List.length_append, List.length_singleton]
        exact hgt
  | advance k answers =>
      obtain ⟨t, t', request, answer, hadvance⟩ := Pool.advances_of_step h
      intro i
      rw [hadvance.turn, Option.toList_some, ofTask_append, hlog i, hadvance.tasks]
      rcases eq_or_ne i k with rfl | hne
      · rw [List.getElem?_set_self (List.getElem?_eq_some_iff.mp hadvance.found).1, hadvance.found]
        simp [ofTask, hadvance.history]
      · rw [List.getElem?_set_ne hne.symm]
        simp [ofTask, hne.symm]
  | outside env =>
      obtain ⟨shared, -, rfl⟩ := Pool.outside_eq_ok_iff.mp h
      intro i
      rw [Pool.turn, Option.toList_none, List.append_nil, hlog i]

/-- In the log, every exchange fits what its task has said before. -/
def Fitting (use : Req → LockUse) (log : List (Nat × Event Req Ans)) : Prop :=
  ∀ before i event after, log = before ++ (i, event) :: after →
    (use event.request).Fits (holds use false (ofTask i before))

theorem Fitting.step (hlocking : Locking sys use locked) {log : List (Nat × Event Req Ans)}
    (hrecorded : Recorded log pool) (hlog : Fitting use log) (h : pool.step move = .ok pool') :
    Fitting use (log ++ (pool.turn move).toList) := by
  cases move with
  | arrive request => simpa [Pool.turn] using hlog
  | outside env => simpa [Pool.turn] using hlog
  | advance k answers =>
      obtain ⟨t, t', request, answer, hadvance⟩ := Pool.advances_of_step h
      rw [hadvance.turn, Option.toList_some]
      intro before i event after hsplit
      rcases List.eq_nil_or_concat after with rfl | ⟨after', last, rfl⟩
      · obtain ⟨rfl, hsaid⟩ := List.append_inj' hsplit rfl
        cases List.singleton_inj.mp hsaid
        rw [hrecorded k, hadvance.found]
        exact fits_of_advances hlocking hadvance
      · rw [List.concat_eq_append, ← List.cons_append, ← List.append_assoc] at hsplit
        exact hlog before i event after' (List.append_inj_left' hsplit rfl)

/-- From when a task has taken the lock, or has done something with it, another one
has to do with it only when the first one has given it back. -/
def Separated (use : Req → LockUse) (log : List (Nat × Event Req Ans)) : Prop :=
  ∀ before i event middle j event' after,
    log = before ++ (i, event) :: (middle ++ (j, event') :: after) → j ≠ i →
    use event.request = .acquire ∨ use event.request = .guarded → use event'.request ≠ .free →
    ∃ released, (i, released) ∈ middle ∧ use released.request = .release

theorem release_of_free {before middle : List (Nat × Event Req Ans)} {i : Nat}
    {event : Event Req Ans} (hfitting : Fitting use (before ++ (i, event) :: middle))
    (huse : use event.request = .acquire ∨ use event.request = .guarded)
    (hfree : holds use false (ofTask i (before ++ (i, event) :: middle)) = false) :
    ∃ released, (i, released) ∈ middle ∧ use released.request = .release := by
  have hfits := hfitting before i event middle rfl
  have hheld : (use event.request).next (holds use false (ofTask i before)) = true := by
    rcases huse with huse | huse
    · rw [huse]
      rfl
    · rw [huse] at hfits ⊢
      exact hfits
  have hsince : holds use true (ofTask i middle) = false := by
    rwa [ofTask_append, holds_append, ofTask_cons_self, holds, hheld] at hfree
  obtain ⟨released, hreleased, hrelease⟩ := exists_release hsince
  exact ⟨released, mem_ofTask.mp hreleased, hrelease⟩

theorem Separated.step (hlocking : Locking sys use locked) {log : List (Nat × Event Req Ans)}
    (hrecorded : Recorded log pool) (hpool : Exclusive use locked pool)
    (hfitting : Fitting use log) (hlog : Separated use log) (h : pool.step move = .ok pool') :
    Separated use (log ++ (pool.turn move).toList) := by
  cases move with
  | arrive request => simpa [Pool.turn] using hlog
  | outside env => simpa [Pool.turn] using hlog
  | advance k answers =>
      obtain ⟨t, t', request, answer, hadvance⟩ := Pool.advances_of_step h
      rw [hadvance.turn, Option.toList_some]
      intro before i event middle j event' after hsplit hne huse huse'
      rcases List.eq_nil_or_concat after with rfl | ⟨after', last, rfl⟩
      · -- the new exchange is the second of the two
        rw [← List.cons_append, ← List.append_assoc] at hsplit
        obtain ⟨rfl, hsaid⟩ := List.append_inj' hsplit rfl
        cases List.singleton_inj.mp hsaid
        apply release_of_free hfitting huse
        rw [← Bool.not_eq_true, ← heldBy_iff_of_recorded hrecorded]
        exact fun hheld => hne (hpool.eq_of_heldBy hlocking hadvance huse' hheld).symm
      · have hlast : log ++ [(k, ⟨request, answer⟩)] =
            (before ++ (i, event) :: (middle ++ (j, event') :: after')) ++ [last] := by
          rw [hsplit]
          simp
        exact hlog before i event middle j event' after' (List.append_inj_left' hlast rfl) hne
          huse huse'

/-- So it is in every run. -/
theorem separated_turns (hlocking : Locking sys use locked) (htasks : pool.tasks = [])
    (hfree : locked pool.shared = false) (moves : List (Move Req Ans Request Env)) :
    Separated use (turns pool moves) := by
  have hstart : Recorded [] pool ∧ Exclusive use locked pool ∧
      Fitting use ([] : List (Nat × Event Req Ans)) ∧
      Separated use ([] : List (Nat × Event Req Ans)) := by
    refine ⟨fun i => ?_, exclusive_of_no_tasks htasks hfree, ?_, ?_⟩
    · rw [htasks]
      rfl
    · intro before i event after hsplit
      simp at hsplit
    · intro before i event middle j event' after hsplit
      simp at hsplit
  have hrun := run_logged (fun pool move => (Pool.turn pool move).toList)
    (P := fun log pool => Recorded log pool ∧ Exclusive use locked pool ∧ Fitting use log ∧
      Separated use log)
    (fun log pool move pool' h hstep => ⟨h.1.step hstep, h.2.1.step hlocking hstep,
      h.2.2.1.step hlocking h.1 hstep, h.2.2.2.step hlocking h.1 h.2.1 h.2.2.1 hstep⟩) hstart moves
  exact hrun.2.2.2

end Snip36.Library.Mutex
