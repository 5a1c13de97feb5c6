import Mathlib.Logic.Hydra
import Snip36.Library.Mutex

/-!
How concurrent programs come to rest. Each of them is a well-founded tree, so that
in an endless run with finitely many requests they are answered finitely often; a
lock that is used with discipline does not keep them from their end.
-/

namespace Snip36.Library.Rest

open Interaction
open Interaction.Program
open Interleaving
open Mutex
open Relation
open Reverting

variable {Req : Type} {Ans : Req → Type} {ε β : Type}

/-! ### Every answer leaves less to do -/

/-- The first program is left of the second one after one answer. -/
inductive RestOf : Program Req Ans ε β → Program Req Ans ε β → Prop
  | answered (request : Req) (next : Ans request → Program Req Ans ε β) (answer : Ans request) :
      RestOf (next answer) (.call request next)

theorem wellFounded_restOf : WellFounded (@RestOf Req Ans ε β) := by
  constructor
  intro program
  induction program with
  | done outcome =>
      constructor
      intro rest h
      cases h
  | call request next ih =>
      constructor
      intro rest h
      cases h
      exact ih _

variable {Shared Request Env : Type} {sys : System Req Ans ε β Shared Request Env}
  {pool pool' : Pool sys} {moves : Nat → Move Req Ans Request Env}

def programs (pool : Pool sys) : Multiset (Program Req Ans ε β) :=
  Multiset.ofList (pool.tasks.map Task.program)

theorem set_add_singleton {α : Type} {l : List α} {i : Nat} {a : α} (h : l[i]? = some a) (b : α) :
    Multiset.ofList (l.set i b) + {a} = Multiset.ofList l + {b} := by
  obtain ⟨hi, rfl⟩ := List.getElem?_eq_some_iff.mp h
  have hset : Multiset.ofList (l.set i b) = b ::ₘ Multiset.ofList (l.eraseIdx i) :=
    Multiset.coe_eq_coe.mpr (List.set_perm_cons_eraseIdx hi b)
  have hl : l[i] ::ₘ Multiset.ofList (l.eraseIdx i) = Multiset.ofList l :=
    Multiset.coe_eq_coe.mpr (List.getElem_cons_eraseIdx_perm hi)
  rw [hset, ← hl, Multiset.cons_add, Multiset.add_comm _ {l[i]}, Multiset.singleton_add,
    Multiset.add_comm _ {b}, Multiset.singleton_add, Multiset.cons_swap]

theorem cutExpand_of_step {i : Nat} {answers : (request : Req) → Ans request}
    (h : pool.step (.advance i answers) = .ok pool') :
    CutExpand RestOf (programs pool') (programs pool) := by
  simp only [Pool.step] at h
  split at h
  · cases h
  · rename_i request resume hnext
    obtain ⟨t, hfound, hnext⟩ := Option.bind_eq_some_iff.mp hnext
    split at h
    · cases h
    · rename_i answer shared hserved
      cases h
      unfold Task.next? at hnext
      split at hnext
      · cases hnext
      · rename_i request' next hprogram
        cases hnext
        refine ⟨{next answer}, .call request next, ?_, ?_⟩
        · intro rest hrest
          rw [Multiset.mem_singleton.mp hrest]
          exact .answered request next answer
        · have hprograms : (pool.tasks.map Task.program)[i]? = some (.call request next) := by
            rw [List.getElem?_map, hfound, Option.map_some, hprogram]
          rw [programs, List.map_set]
          exact set_add_singleton hprograms (next answer)

/-! ### Endless runs -/

/-- The pool before the move `n`. -/
def poolAt (pool : Pool sys) (moves : Nat → Move Req Ans Request Env) : Nat → Pool sys
  | 0 => pool
  | n + 1 => exec Pool.step (poolAt pool moves n) (moves n)

theorem poolAt_eq_run (n : Nat) :
    poolAt pool moves n = run Pool.step pool ((List.range n).map moves) := by
  induction n with
  | zero => rfl
  | succ n ih => rw [List.range_succ, List.map_append, run_append, ← ih]; rfl

/-- From some move on no request arrives. -/
def FinitelyManyRequests (moves : Nat → Move Req Ans Request Env) : Prop :=
  ∃ n, ∀ m ≥ n, ∀ request, moves m ≠ .arrive request

/-- A task of the pool goes on in the move `n`. -/
def GoesOn (pool : Pool sys) (moves : Nat → Move Req Ans Request Env) (n : Nat) : Prop :=
  ((poolAt pool moves n).exchange (moves n)).isSome

/-- A move that is not a request leaves the programs as they are, or one of them
goes on. -/
theorem programs_succ (pool : Pool sys) {n : Nat} (harrive : ∀ request, moves n ≠ .arrive request) :
    (¬GoesOn pool moves n ∧ programs (poolAt pool moves (n + 1)) = programs (poolAt pool moves n)) ∨
      CutExpand RestOf (programs (poolAt pool moves (n + 1))) (programs (poolAt pool moves n)) := by
  rw [GoesOn, poolAt]
  cases hstep : (poolAt pool moves n).step (moves n) with
  | error e =>
      rw [exec_of_error hstep]
      refine Or.inl ⟨?_, rfl⟩
      intro hgoes
      obtain ⟨⟨q, event⟩, hexchange⟩ := Option.isSome_iff_exists.mp hgoes
      obtain ⟨_, _, _, _, _, -, -, hok, -⟩ := Pool.advances_of_exchange hexchange
      rw [hstep] at hok
      cases hok
  | ok pool' =>
      rw [exec_of_ok hstep]
      cases hmove : moves n with
      | arrive request => exact absurd hmove (harrive request)
      | advance i answers =>
          rw [hmove] at hstep
          exact Or.inr (cutExpand_of_step hstep)
      | outside env =>
          rw [hmove] at hstep
          obtain ⟨shared, -, rfl⟩ := Pool.outside_eq_ok_iff.mp hstep
          exact Or.inl ⟨by simp [Pool.exchange], rfl⟩

theorem programs_later (pool : Pool sys) {n : Nat}
    (harrive : ∀ m ≥ n, ∀ request, moves m ≠ .arrive request)
    {m : Nat} (hm : n ≤ m) : ReflTransGen (CutExpand RestOf)
      (programs (poolAt pool moves m)) (programs (poolAt pool moves n)) := by
  induction m, hm using Nat.le_induction with
  | base => exact .refl
  | succ m hm ih =>
      rcases programs_succ pool (harrive m hm) with ⟨-, hsame⟩ | hless
      · rw [hsame]
        exact ih
      · exact .head hless ih

/-- With finitely many requests, the tasks go on finitely often. -/
theorem exists_quiet (pool : Pool sys) (hrequests : FinitelyManyRequests moves) :
    ∃ n, ∀ m ≥ n, ¬GoesOn pool moves m := by
  obtain ⟨start, hstart⟩ := hrequests
  -- by induction on what is left of the programs
  have hquiet (left : Multiset (Program Req Ans ε β)) : ∀ n ≥ start,
      programs (poolAt pool moves n) = left → ∃ n, ∀ m ≥ n, ¬GoesOn pool moves m := by
    induction left using (wellFounded_restOf.cutExpand.transGen).induction with
    | _ left ih =>
        intro n hn hleft
        by_cases hgoes : ∃ m ≥ n, GoesOn pool moves m
        · obtain ⟨m, hm, hgoes⟩ := hgoes
          have hlater := programs_later pool (fun k hk => hstart k (Nat.le_trans hn hk)) hm
          rcases programs_succ pool (hstart m (Nat.le_trans hn hm)) with ⟨hnot, -⟩ | hless
          · exact absurd hgoes hnot
          · rw [hleft] at hlater
            exact ih _ (.head' hless hlater) (m + 1) (by omega) rfl
        · exact ⟨n, fun m hm hgoes' => hgoes ⟨m, hm, hgoes'⟩⟩
  exact hquiet _ start (Nat.le_refl start) rfl

/-- What is done again and again as long as something holds does not hold in the end. -/
theorem exists_never {may : Pool sys → Prop} (hrequests : FinitelyManyRequests moves)
    (hdiligent : ∀ n, may (poolAt pool moves n) → ∃ m ≥ n, GoesOn pool moves m) :
    ∃ n, ∀ m ≥ n, ¬may (poolAt pool moves m) := by
  obtain ⟨n, hquiet⟩ := exists_quiet pool hrequests
  refine ⟨n, fun m hm hmay => ?_⟩
  obtain ⟨k, hk, hgoes⟩ := hdiligent m hmay
  exact hquiet k (Nat.le_trans hm hk) hgoes

/-! ### What the tasks ask for -/

def Asks (t : Task sys) (request : Req) : Prop := ∃ next, t.program = .call request next

theorem exists_asks {t : Task sys} (h : t.outcome? = none) : ∃ request, Asks t request := by
  unfold Task.outcome? at h
  split at h
  · cases h
  · rename_i request next hprogram
    exact ⟨request, next, hprogram⟩

theorem outcome?_of_asks {t : Task sys} {request : Req} (h : Asks t request) :
    t.outcome? = none := by
  obtain ⟨next, hprogram⟩ := h
  simp [Task.outcome?, hprogram]

/-- The task makes its exchange when it is answered what it asks for. -/
theorem exists_exchange_of_asks (hanswers : Nonempty ((request : Req) → Ans request))
    {t : Task sys} (ht : t ∈ pool.tasks) {request : Req} (hasks : Asks t request)
    (hserved : ∃ offered, (sys.serve pool.shared request offered).isSome) :
    ∃ i answers, pool.tasks[i]? = some t ∧ (pool.exchange (.advance i answers)).isSome := by
  classical
  obtain ⟨i, hi⟩ := List.getElem?_of_mem ht
  obtain ⟨next, hprogram⟩ := hasks
  obtain ⟨offered, hserved⟩ := hserved
  obtain ⟨answers⟩ := hanswers
  refine ⟨i, Function.update answers request offered, hi, ?_⟩
  simp [Pool.exchange, hi, hprogram, hserved]

variable {use : Req → LockUse} {locked : Shared → Bool}

/-- The task that holds the lock has not ended, and does not ask for the lock. -/
theorem exists_holder (hlocking : Locking sys use locked) (hpool : Exclusive use locked pool)
    (hlocked : locked pool.shared = true) :
    ∃ t ∈ pool.tasks, ∃ request, Asks t request ∧ use request ≠ .acquire := by
  obtain ⟨i, t, ht, hheld⟩ := hpool.locked_iff.mp hlocked
  have hrest := follows_disciplined t.follows (hlocking.handler t.request)
  rw [hheld] at hrest
  cases hprogram : t.program with
  | done outcome =>
      rw [hprogram] at hrest
      cases hrest
  | call request next =>
      rw [hprogram] at hrest
      refine ⟨t, List.mem_of_getElem? ht, request, ⟨next, hprogram⟩, fun hacquire => ?_⟩
      have hfits := hrest.1
      rw [hacquire] at hfits
      cases hfits

/-! ### No task is stuck -/

/-- Some task can get an answer. -/
def CanGoOn (pool : Pool sys) : Prop :=
  ∃ i answers, ((pool.exchange (.advance i answers)).isSome)

/-- Whatever is asked can be answered, but for the lock when it is taken. -/
def Serves (sys : System Req Ans ε β Shared Request Env) (use : Req → LockUse)
    (locked : Shared → Bool) (shared : Shared) : Prop :=
  ∀ request, (use request = .acquire → locked shared = false) →
    ∃ offered, (sys.serve shared request offered).isSome

/-- When no task can go on, all have come to their end and the lock is free: the
one that holds the lock could go on. -/
theorem ended_of_stuck (hanswers : Nonempty ((request : Req) → Ans request))
    (hlocking : Locking sys use locked) (hpool : Exclusive use locked pool)
    (hserves : Serves sys use locked pool.shared) (hstuck : ¬CanGoOn pool) :
    locked pool.shared = false ∧ ∀ t ∈ pool.tasks, t.outcome?.isSome := by
  have hwaits {t : Task sys} (ht : t ∈ pool.tasks) {request : Req} (hasks : Asks t request) :
      ¬(use request = .acquire → locked pool.shared = false) := by
    intro hserved
    obtain ⟨i, answers, -, hgoes⟩ :=
      exists_exchange_of_asks hanswers ht hasks (hserves request hserved)
    exact hstuck ⟨i, answers, hgoes⟩
  have hfree : locked pool.shared = false := by
    rw [← Bool.not_eq_true]
    intro hlocked
    obtain ⟨t, ht, request, hasks, huse⟩ := exists_holder hlocking hpool hlocked
    exact hwaits ht hasks fun hacquire => absurd hacquire huse
  refine ⟨hfree, fun t ht => ?_⟩
  rw [Option.isSome_iff_ne_none]
  intro hnone
  obtain ⟨request, hasks⟩ := exists_asks hnone
  exact hwaits ht hasks fun _ => hfree

/-- The tasks are not left waiting for ever while one of them can go on. -/
def Diligent (pool : Pool sys) (moves : Nat → Move Req Ans Request Env) : Prop :=
  ∀ n, CanGoOn (poolAt pool moves n) → ∃ m ≥ n, GoesOn pool moves m

/-- So all requests are answered in the end, and the lock is given back. -/
theorem exists_rest (hanswers : Nonempty ((request : Req) → Ans request))
    (hlocking : Locking sys use locked) (htasks : pool.tasks = [])
    (hfree : locked pool.shared = false)
    (hserves : ∀ n, Serves sys use locked (poolAt pool moves n).shared)
    (hrequests : FinitelyManyRequests moves) (hdiligent : Diligent pool moves) :
    ∃ n, ∀ m ≥ n, locked (poolAt pool moves m).shared = false ∧
      ∀ t ∈ (poolAt pool moves m).tasks, t.outcome?.isSome := by
  obtain ⟨n, hnever⟩ := exists_never hrequests hdiligent
  refine ⟨n, fun m hm => ended_of_stuck hanswers hlocking ?_ (hserves m) (hnever m hm)⟩
  rw [poolAt_eq_run]
  exact (exclusive_of_no_tasks htasks hfree).run hlocking _

/-! ### Runs that are at an end -/

/-- Some moves, and then the same one for ever. -/
def endless (first : List (Move Req Ans Request Env)) (last : Move Req Ans Request Env) (n : Nat) :
    Move Req Ans Request Env :=
  first[n]?.getD last

section Endless

variable {first : List (Move Req Ans Request Env)} {last : Move Req Ans Request Env}

theorem poolAt_endless {n : Nat} (hn : n ≤ first.length) :
    poolAt pool (endless first last) n = run Pool.step pool (first.take n) := by
  induction n with
  | zero => rfl
  | succ n ih =>
      have hmove : first[n]? = some first[n] := List.getElem?_eq_getElem hn
      rw [poolAt, ih (Nat.le_of_succ_le hn), endless, hmove, List.take_succ_eq_append_getElem hn,
        run_append]
      rfl

/-- Tasks that have ended do not go on. -/
theorem step_of_ended (hended : ∀ t ∈ pool.tasks, t.outcome?.isSome) (i : Nat)
    (answers : (request : Req) → Ans request) : pool.step (.advance i answers) = .error () := by
  cases hstep : pool.step (.advance i answers) with
  | error e => rfl
  | ok pool' =>
      obtain ⟨t, t', request, answer, hadvance⟩ := Pool.advances_of_step hstep
      have hsome := hended t hadvance.mem
      rw [outcome?_of_asks hadvance.asks] at hsome
      cases hsome

theorem not_canGoOn_of_ended (hended : ∀ t ∈ pool.tasks, t.outcome?.isSome) : ¬CanGoOn pool := by
  rintro ⟨i, answers, hgoes⟩
  obtain ⟨⟨q, event⟩, hexchange⟩ := Option.isSome_iff_exists.mp hgoes
  obtain ⟨_, _, _, _, _, -, -, hok, -⟩ := Pool.advances_of_exchange hexchange
  rw [step_of_ended hended] at hok
  cases hok

variable {i : Nat} {answers : (request : Req) → Ans request}

theorem poolAt_of_ended (hended : ∀ t ∈ (run Pool.step pool first).tasks, t.outcome?.isSome)
    {n : Nat} (hn : first.length ≤ n) :
    poolAt pool (endless first (.advance i answers)) n = run Pool.step pool first := by
  induction n, hn using Nat.le_induction with
  | base => rw [poolAt_endless (Nat.le_refl _), List.take_length]
  | succ n hn ih =>
      rw [poolAt, ih, endless, List.getElem?_eq_none hn]
      exact exec_of_error (step_of_ended hended i answers)

/-- In a run that has brought all tasks to their end nobody was left waiting. -/
theorem diligent_of_ended (hended : ∀ t ∈ (run Pool.step pool first).tasks, t.outcome?.isSome)
    (hgoes : GoesOn pool (endless first (.advance i answers)) (first.length - 1)) :
    Diligent pool (endless first (.advance i answers)) := by
  intro n hgo
  refine ⟨first.length - 1, ?_, hgoes⟩
  by_contra hlate
  rw [poolAt_of_ended hended (by omega)] at hgo
  exact not_canGoOn_of_ended hended hgo

/-- What holds all along the moves holds ever after. -/
theorem forall_poolAt_endless {P : Pool sys → Prop}
    (hended : ∀ t ∈ (run Pool.step pool first).tasks, t.outcome?.isSome)
    (hmeet : AllMeet Pool.step (fun pool _ => P pool) pool first)
    (hlast : P (run Pool.step pool first)) (n : Nat) :
    P (poolAt pool (endless first (.advance i answers)) n) := by
  rcases Nat.lt_or_ge n first.length with hn | hn
  · rw [poolAt_endless (Nat.le_of_lt hn)]
    rw [← List.take_append_drop n first, List.drop_eq_getElem_cons hn, allMeet_append] at hmeet
    exact hmeet.2.1
  · rw [poolAt_of_ended hended hn]
    exact hlast

theorem finitelyManyRequests_endless :
    FinitelyManyRequests (endless first (.advance i answers) : Nat → Move Req Ans Request Env) := by
  refine ⟨first.length, fun m hm request hmove => ?_⟩
  rw [endless, List.getElem?_eq_none hm] at hmove
  cases hmove

end Endless

end Snip36.Library.Rest
