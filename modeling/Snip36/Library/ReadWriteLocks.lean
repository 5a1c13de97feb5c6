import Mathlib.Data.Set.Finite.Lemmas
import Snip36.Library.Rest

/-!
Programs that share cells under read-write locks. A guard for reading may be kept
while other programs go on, and a writer waits for the guards of its cell. If
every program takes its guards in one order of the cells and does nothing else as
long as it keeps one, then some program can always go on, also when no reader
overtakes a waiting writer and when the programs share a mutex.
-/

namespace Snip36.Library.ReadWriteLocks

open Interaction
open Interaction.Program
open Interleaving
open Mutex
open Rest
open Reverting

variable {Req : Type} {Ans : Req → Type} {ε β γ Cell : Type}

/-! ### One program -/

/-- What a request has to do with the cells. A guard is dropped within `read`,
kept by `hold`, and given back by `drop` with all others. -/
inductive CellUse (Cell : Type) where
  | read (cell : Cell)
  | write (cell : Cell)
  | hold (cell : Cell)
  | drop (cells : List Cell)
  | free

namespace CellUse

/-- The guards that are kept after a request of this kind. -/
def next : CellUse Cell → List Cell → List Cell
  | .hold cell, kept => cell :: kept
  | .drop _, _ => []
  | .read _, kept => kept
  | .write _, kept => kept
  | .free, kept => kept

/-- Whether the request may be made by a program that keeps these guards. -/
def Fits (rank : Cell → Nat) : CellUse Cell → List Cell → Prop
  | .hold cell, kept => ∀ other ∈ kept, rank other < rank cell
  | .drop cells, kept => kept = cells
  | .read _, kept => kept = []
  | .write _, kept => kept = []
  | .free, kept => kept = []

/-- The request takes no guard that is kept and gives none back. -/
def Apart : CellUse Cell → Prop
  | .hold _ => False
  | .drop _ => False
  | _ => True

def Reads (cell : Cell) : CellUse Cell → Prop
  | .read other => other = cell
  | .hold other => other = cell
  | _ => False

/-- The number of guards of each cell after a request of this kind. -/
def counted [DecidableEq Cell] : CellUse Cell → (Cell → Nat) → Cell → Nat
  | .hold cell, readers => Function.update readers cell (readers cell + 1)
  | .drop cells, readers => fun cell => readers cell - cells.count cell
  | .read _, readers => readers
  | .write _, readers => readers
  | .free, readers => readers

/-- A reader of a cell may have to wait for its writer, and this one for those who
keep a guard of it and wait for cells of higher rank. -/
def waitRank (rank : Cell → Nat) : CellUse Cell → Nat
  | .read cell => 2 * rank cell + 1
  | .hold cell => 2 * rank cell + 1
  | .write cell => 2 * rank cell + 2
  | .drop _ => 1
  | .free => 1

theorem one_le_waitRank (rank : Cell → Nat) (use : CellUse Cell) : 1 ≤ use.waitRank rank := by
  cases use with
  | drop cells => exact Nat.le_refl 1
  | free => exact Nat.le_refl 1
  | _ => exact Nat.le_add_left 1 _

theorem waitRank_of_reads {rank : Cell → Nat} {cell : Cell} {use : CellUse Cell}
    (h : use.Reads cell) : use.waitRank rank = 2 * rank cell + 1 := by
  cases use with
  | read other => exact congrArg (fun cell => 2 * rank cell + 1) h
  | hold other => exact congrArg (fun cell => 2 * rank cell + 1) h
  | _ => exact h.elim

end CellUse

variable {use : Req → CellUse Cell} {rank : Cell → Nat}

/-- The guards that are kept after some exchanges. -/
def guards (use : Req → CellUse Cell) (kept : List Cell) : History Req Ans → List Cell
  | [] => kept
  | event :: rest => guards use ((use event.request).next kept) rest

theorem guards_append (kept : List Cell) (first second : History Req Ans) :
    guards use kept (first ++ second) = guards use (guards use kept first) second := by
  induction first generalizing kept with
  | nil => rfl
  | cons event rest ih => exact ih _

/-- A program that starts with some guards, takes others in the order of the cells
and ends, however it ends, without any. -/
def Ordered (use : Req → CellUse Cell) (rank : Cell → Nat) :
    List Cell → Program Req Ans ε β → Prop
  | kept, .done _ => kept = []
  | kept, .call request next => (use request).Fits rank kept ∧
      ∀ answer, Ordered use rank ((use request).next kept) (next answer)

theorem Ordered.bind {kept : List Cell} {first : Program Req Ans ε β}
    {f : β → Program Req Ans ε γ} (h : Ordered use rank kept first)
    (hf : ∀ a, Ordered use rank [] (f a)) : Ordered use rank kept (first >>= f) := by
  induction first generalizing kept with
  | done outcome =>
      obtain rfl : kept = [] := h
      cases outcome with
      | ok value => exact hf value
      | err error => rfl
      | panicked message => rfl
  | call request next ih => exact ⟨h.1, fun answer => ih answer (h.2 answer)⟩

theorem ordered_of_apart {program : Program Req Ans ε β}
    (h : OnlyAsks (fun request => (use request).Apart) program) :
    Ordered use rank [] program := by
  induction program with
  | done outcome => rfl
  | call request next ih =>
      obtain ⟨hrequest, hnext⟩ := h
      have hrest (answer : Ans request) : Ordered use rank [] (next answer) :=
        ih answer (hnext answer)
      rw [Ordered]
      cases huse : use request with
      | hold cell =>
          rw [huse] at hrequest
          exact hrequest.elim
      | drop cells =>
          rw [huse] at hrequest
          exact hrequest.elim
      | _ => exact ⟨rfl, hrest⟩

theorem follows_ordered {program rest : Program Req Ans ε β} {kept : List Cell}
    {history : History Req Ans} (hfollows : Follows program history rest)
    (h : Ordered use rank kept program) : Ordered use rank (guards use kept history) rest := by
  induction hfollows with
  | start => exact h
  | answered _ answer ih =>
      rw [guards_append]
      exact ih.2 answer

/-! ### What the tasks ask for -/

variable {Shared Request Env : Type} {sys : System Req Ans ε β Shared Request Env}
  {pool pool' : Pool sys} {moves : Nat → Move Req Ans Request Env} {lockUse : Req → LockUse}

/-- Some task can get an answer. If it reads a cell, it overtakes no writer of this
cell that waits. -/
def CanGoOnInTurn (use : Req → CellUse Cell) (pool : Pool sys) : Prop :=
  ∃ i t request answers, pool.tasks[i]? = some t ∧ Asks t request ∧
    (pool.exchange (.advance i answers)).isSome ∧
    ∀ cell, (use request).Reads cell →
      ∀ u ∈ pool.tasks, ∀ other, Asks u other → use other ≠ .write cell

theorem canGoOnInTurn_of_asks (hanswers : Nonempty ((request : Req) → Ans request)) {t : Task sys}
    (ht : t ∈ pool.tasks) {request : Req} (hasks : Asks t request)
    (hserved : ∃ offered, (sys.serve pool.shared request offered).isSome)
    (hturn : ∀ cell, (use request).Reads cell →
      ∀ u ∈ pool.tasks, ∀ other, Asks u other → use other ≠ .write cell) :
    CanGoOnInTurn use pool := by
  obtain ⟨i, answers, hi, hgoes⟩ := exists_exchange_of_asks hanswers ht hasks hserved
  exact ⟨i, t, request, answers, hi, hasks, hgoes, hturn⟩

theorem CanGoOnInTurn.canGoOn (h : CanGoOnInTurn use pool) : CanGoOn pool := by
  obtain ⟨i, t, request, answers, -, -, hgoes, -⟩ := h
  exact ⟨i, answers, hgoes⟩

/-- The tasks are not left waiting for ever while one of them can go on in its turn. -/
def DiligentInTurn (use : Req → CellUse Cell) (pool : Pool sys)
    (moves : Nat → Move Req Ans Request Env) : Prop :=
  ∀ n, CanGoOnInTurn use (poolAt pool moves n) → ∃ m ≥ n, GoesOn pool moves m

theorem diligentInTurn (h : Diligent pool moves) : DiligentInTurn use pool moves :=
  fun n hgo => h n hgo.canGoOn

/-- How far up a task waits. The mutex is below all cells. -/
def taskRank (lockUse : Req → LockUse) (use : Req → CellUse Cell) (rank : Cell → Nat)
    (t : Task sys) : Nat :=
  match t.program with
  | .done _ => 0
  | .call request _ => if lockUse request = .acquire then 0 else (use request).waitRank rank

theorem taskRank_of_asks {t : Task sys} {request : Req} (h : Asks t request) :
    taskRank lockUse use rank t =
      if lockUse request = .acquire then 0 else (use request).waitRank rank := by
  obtain ⟨next, hprogram⟩ := h
  simp [taskRank, hprogram]

section Waiting

variable {t : Task sys} {request : Req} {locked : Shared → Bool}

/-- Another task has not ended and waits further up, if it waits. -/
def HasHigher (lockUse : Req → LockUse) (use : Req → CellUse Cell) (rank : Cell → Nat)
    (pool : Pool sys) (t : Task sys) : Prop :=
  ∃ u ∈ pool.tasks, ¬u.outcome?.isSome ∧
    taskRank lockUse use rank t < taskRank lockUse use rank u

theorem hasHigher_of_asks {u : Task sys} (hu : u ∈ pool.tasks) {other : Req} (hother : Asks u other)
    (hless : taskRank lockUse use rank t < taskRank lockUse use rank u) :
    HasHigher lockUse use rank pool t :=
  ⟨u, hu, by simp [outcome?_of_asks hother], hless⟩

/-- The task that holds the mutex asks for something else. -/
theorem hasHigher_of_locked (hlocking : Locking sys lockUse locked)
    (hexclusive : Exclusive lockUse locked pool) (hasks : Asks t request)
    (hacquire : lockUse request = .acquire) (hlocked : locked pool.shared = true) :
    HasHigher lockUse use rank pool t := by
  obtain ⟨u, hu, other, hother, huse⟩ := exists_holder hlocking hexclusive hlocked
  apply hasHigher_of_asks hu hother
  rw [taskRank_of_asks hasks, taskRank_of_asks hother, if_pos hacquire, if_neg huse]
  exact (use other).one_le_waitRank rank

variable (hapart : ∀ request, lockUse request = .acquire → use request = .free)

include hapart

theorem not_acquire {cellUse : CellUse Cell} (huse : use request = cellUse)
    (hcell : cellUse ≠ .free) : lockUse request ≠ .acquire := by
  intro hacquire
  exact hcell (huse.symm.trans (hapart request hacquire))

theorem hasHigher_of_overtaking (hasks : Asks t request) {cell : Cell}
    (hreads : (use request).Reads cell) {u : Task sys} (hu : u ∈ pool.tasks) {other : Req}
    (hother : Asks u other) (hwrite : use other = .write cell) :
    HasHigher lockUse use rank pool t := by
  apply hasHigher_of_asks hu hother
  have hcell : use request ≠ .free := by
    intro hfree
    rw [hfree] at hreads
    exact hreads
  rw [taskRank_of_asks hasks, taskRank_of_asks hother, if_neg (not_acquire hapart rfl hcell),
    if_neg (not_acquire hapart hwrite (by simp)), CellUse.waitRank_of_reads hreads, hwrite]
  exact Nat.lt_succ_self _

end Waiting

/-- In a list of those who have ended, can go on or wait for one of higher rank,
someone can go on or all have ended. -/
theorem exists_of_waiting {α : Type} {l : List α} {Ended : α → Prop} {goes : Prop} (rank : α → Nat)
    (hwaits : ∀ a ∈ l, ¬Ended a → goes ∨ ∃ b ∈ l, ¬Ended b ∧ rank a < rank b)
    (hleft : ∃ a ∈ l, ¬Ended a) : goes := by
  have hfinite : {a | a ∈ l ∧ ¬Ended a}.Finite := l.finite_toSet.subset fun a ha => ha.1
  obtain ⟨a, ⟨ha, hended⟩, hmax⟩ := Set.exists_max_image _ rank hfinite hleft
  rcases hwaits a ha hended with hgoes | ⟨b, hb, hended', hless⟩
  · exact hgoes
  · exact absurd (hmax b ⟨hb, hended'⟩) (Nat.not_le_of_lt hless)

/-! ### The guards -/

variable [DecidableEq Cell] {readers : Shared → Cell → Nat}

/-- A system with read-write locks: the programs keep the order, and the shared
state counts the guards. -/
structure Guarding (sys : System Req Ans ε β Shared Request Env) (use : Req → CellUse Cell)
    (rank : Cell → Nat) (readers : Shared → Cell → Nat) : Prop where
  handler : ∀ request, Ordered use rank [] (sys.handler request)
  next : ∀ {shared shared' request offered answer},
    sys.serve shared request offered = some (answer, shared') →
    readers shared' = (use request).counted (readers shared)
  outside : ∀ {shared shared' env},
    sys.outside shared env = some shared' → readers shared' = readers shared

/-- The shared state counts the guards that the tasks keep. -/
def Counted (use : Req → CellUse Cell) (readers : Shared → Cell → Nat) (pool : Pool sys) : Prop :=
  ∀ cell, readers pool.shared cell =
    (pool.tasks.map fun t => (guards use [] t.history).count cell).sum

theorem counted_of_no_tasks (htasks : pool.tasks = [])
    (hfree : ∀ cell, readers pool.shared cell = 0) : Counted use readers pool := by
  intro cell
  rw [hfree, htasks]
  rfl

theorem sum_map_set {α : Type} {l : List α} {i : Nat} {a : α} (h : l[i]? = some a) (b : α)
    (f : α → Nat) : ((l.set i b).map f).sum + f a = (l.map f).sum + f b := by
  have hset := congrArg (fun m : Multiset α => (m.map f).sum) (set_add_singleton h b)
  simpa using hset

theorem ordered_task (hguarding : Guarding sys use rank readers) (t : Task sys) :
    Ordered use rank (guards use [] t.history) t.program :=
  follows_ordered t.follows (hguarding.handler t.request)

theorem Counted.advance (hguarding : Guarding sys use rank readers)
    (hpool : Counted use readers pool) {answers : (request : Req) → Ans request} {i : Nat}
    {t t' : Task sys} {request : Req} {answer : Ans request}
    (h : Pool.Advances pool pool' answers i t t' request answer) : Counted use readers pool' := by
  intro cell
  have hsum := sum_map_set h.found t' fun t => (guards use [] t.history).count cell
  have hguards : guards use [] t'.history = (use request).next (guards use [] t.history) := by
    rw [h.history, guards_append]
    rfl
  obtain ⟨next, hprogram⟩ := h.asks
  have hordered := ordered_task hguarding t
  rw [hprogram] at hordered
  have hfits := hordered.1
  rw [← h.tasks, ← hpool cell, hguards] at hsum
  rw [hguarding.next h.served]
  cases huse : use request with
  | hold other =>
      rw [huse, CellUse.next, List.count_cons] at hsum
      rcases eq_or_ne cell other with rfl | hne
      · simp only [CellUse.counted, Function.update_self]
        simp only [beq_self_eq_true, if_true] at hsum
        omega
      · simp only [CellUse.counted, Function.update_of_ne hne]
        simp only [beq_iff_eq, if_neg hne.symm] at hsum
        omega
  | drop cells =>
      rw [huse] at hfits
      obtain rfl : guards use [] t.history = cells := hfits
      rw [huse, CellUse.next, List.count_nil] at hsum
      simp only [CellUse.counted]
      omega
  | read other =>
      rw [huse, CellUse.next] at hsum
      simp only [CellUse.counted]
      omega
  | write other =>
      rw [huse, CellUse.next] at hsum
      simp only [CellUse.counted]
      omega
  | free =>
      rw [huse, CellUse.next] at hsum
      simp only [CellUse.counted]
      omega

theorem Counted.step (hguarding : Guarding sys use rank readers) (hpool : Counted use readers pool)
    {move : Move Req Ans Request Env} (h : pool.step move = .ok pool') :
    Counted use readers pool' := by
  cases move with
  | arrive request =>
      obtain rfl := Pool.arrive_eq_ok_iff.mp h
      intro cell
      rw [hpool cell]
      simp [Task.start, guards]
  | advance i answers =>
      obtain ⟨t, t', request, answer, hadvance⟩ := Pool.advances_of_step h
      exact hpool.advance hguarding hadvance
  | outside env =>
      obtain ⟨shared, houtside, rfl⟩ := Pool.outside_eq_ok_iff.mp h
      intro cell
      rw [hguarding.outside houtside]
      exact hpool cell

theorem Counted.run (hguarding : Guarding sys use rank readers) (hpool : Counted use readers pool)
    (moves : List (Move Req Ans Request Env)) :
    Counted use readers (Reverting.run Pool.step pool moves) :=
  run_keeps (fun _ _ _ _ hpool h => hpool.step hguarding h) hpool fun _ _ => trivial

/-- Someone keeps each guard. -/
theorem Counted.exists_keeper (hpool : Counted use readers pool) {cell : Cell}
    (h : readers pool.shared cell ≠ 0) : ∃ t ∈ pool.tasks, cell ∈ guards use [] t.history := by
  rw [hpool cell] at h
  by_contra hnone
  apply h
  apply List.sum_eq_zero
  intro n hn
  obtain ⟨t, ht, rfl⟩ := List.mem_map.mp hn
  exact List.count_eq_zero.mpr fun hmem => hnone ⟨t, ht, hmem⟩

/-! ### No task is stuck -/

variable {locked : Shared → Bool}

/-- Whatever is asked can be answered, but for the lock when it is taken and for a
cell that is to be written while a guard of it is kept. -/
def ServesUnlocked (sys : System Req Ans ε β Shared Request Env) (lockUse : Req → LockUse)
    (locked : Shared → Bool) (use : Req → CellUse Cell) (readers : Shared → Cell → Nat)
    (shared : Shared) : Prop :=
  ∀ request, (lockUse request = .acquire → locked shared = false) →
    (∀ cell, use request = .write cell → readers shared cell = 0) →
    ∃ offered, (sys.serve shared request offered).isSome

/-- A task that keeps a guard waits for a cell of higher rank, or can drop it. -/
theorem keeper_asks (hguarding : Guarding sys use rank readers) {t : Task sys} {cell : Cell}
    (hkeeps : cell ∈ guards use [] t.history) : ∃ request, Asks t request ∧
      ((∃ cells, use request = .drop cells) ∨
        ∃ higher, use request = .hold higher ∧ rank cell < rank higher) := by
  have hordered := ordered_task hguarding t
  cases hprogram : t.program with
  | done outcome =>
      rw [hprogram] at hordered
      have hnone : guards use [] t.history = [] := hordered
      rw [hnone] at hkeeps
      cases hkeeps
  | call request next =>
      rw [hprogram] at hordered
      have hfits := hordered.1
      refine ⟨request, ⟨next, hprogram⟩, ?_⟩
      have hnone (hempty : guards use [] t.history = []) : False := by
        rw [hempty] at hkeeps
        cases hkeeps
      cases huse : use request with
      | drop cells => exact Or.inl ⟨cells, rfl⟩
      | hold higher =>
          rw [huse] at hfits
          exact Or.inr ⟨higher, rfl, hfits cell hkeeps⟩
      | read other =>
          rw [huse] at hfits
          exact (hnone hfits).elim
      | write other =>
          rw [huse] at hfits
          exact (hnone hfits).elim
      | free =>
          rw [huse] at hfits
          exact (hnone hfits).elim

section Waiting

variable {t : Task sys} {request : Req}

variable (hapart : ∀ request, lockUse request = .acquire → use request = .free)

include hapart

/-- The one that keeps a guard of a cell drops it, or waits for a cell of higher
rank. -/
theorem canGoOn_or_hasHigher_of_written (hanswers : Nonempty ((request : Req) → Ans request))
    (hguarding : Guarding sys use rank readers) (hcounted : Counted use readers pool)
    (hserves : ServesUnlocked sys lockUse locked use readers pool.shared) (hasks : Asks t request)
    {cell : Cell} (hwrite : use request = .write cell) (hreaders : readers pool.shared cell ≠ 0) :
    CanGoOnInTurn use pool ∨ HasHigher lockUse use rank pool t := by
  obtain ⟨u, hu, hkeeps⟩ := hcounted.exists_keeper hreaders
  obtain ⟨other, hother, ⟨cells, hdrop⟩ | ⟨higher, hhold, hless⟩⟩ := keeper_asks hguarding hkeeps
  · left
    refine canGoOnInTurn_of_asks hanswers hu hother (hserves other ?_ ?_) ?_
    · exact fun hacquire => absurd hacquire (not_acquire hapart hdrop (by simp))
    · intro cell' hwrite'
      cases hdrop.symm.trans hwrite'
    · intro cell' hreads
      rw [hdrop] at hreads
      exact hreads.elim
  · right
    apply hasHigher_of_asks hu hother
    rw [taskRank_of_asks hasks, taskRank_of_asks hother,
      if_neg (not_acquire hapart hwrite (by simp)), if_neg (not_acquire hapart hhold (by simp)),
      hwrite, hhold]
    simp only [CellUse.waitRank]
    omega

/-- Unless all tasks have ended, one of them can go on: each one that cannot waits
for another one of higher rank. -/
theorem canGoOnInTurn (hanswers : Nonempty ((request : Req) → Ans request))
    (hlocking : Locking sys lockUse locked) (hguarding : Guarding sys use rank readers)
    (hexclusive : Exclusive lockUse locked pool) (hcounted : Counted use readers pool)
    (hserves : ServesUnlocked sys lockUse locked use readers pool.shared)
    (hleft : ∃ t ∈ pool.tasks, ¬t.outcome?.isSome) : CanGoOnInTurn use pool := by
  refine exists_of_waiting (taskRank lockUse use rank) (fun t ht hended => ?_) hleft
  obtain ⟨request, hasks⟩ := exists_asks (Option.not_isSome_iff_eq_none.mp hended)
  by_cases hlocked : lockUse request = .acquire ∧ locked pool.shared = true
  · exact Or.inr (hasHigher_of_locked hlocking hexclusive hasks hlocked.1 hlocked.2)
  by_cases hwriter : ∃ cell, use request = .write cell ∧ readers pool.shared cell ≠ 0
  · obtain ⟨cell, hwrite, hreaders⟩ := hwriter
    exact canGoOn_or_hasHigher_of_written hapart hanswers hguarding hcounted hserves hasks hwrite
      hreaders
  by_cases hreader : ∃ cell, (use request).Reads cell ∧
      ∃ u ∈ pool.tasks, ∃ other, Asks u other ∧ use other = .write cell
  · obtain ⟨cell, hreads, u, hu, other, hother, hwrite⟩ := hreader
    exact Or.inr (hasHigher_of_overtaking hapart hasks hreads hu hother hwrite)
  left
  refine canGoOnInTurn_of_asks hanswers ht hasks (hserves request ?_ ?_) ?_
  · exact fun hacquire => Bool.eq_false_iff.mpr fun htaken => hlocked ⟨hacquire, htaken⟩
  · exact fun cell hwrite => not_not.mp fun hreaders => hwriter ⟨cell, hwrite, hreaders⟩
  · exact fun cell hreads u hu other hother hwrite =>
      hreader ⟨cell, hreads, u, hu, other, hother, hwrite⟩

end Waiting

/-- Once all tasks have ended, no lock is taken. -/
theorem unlocked_of_ended (hlocking : Locking sys lockUse locked)
    (hguarding : Guarding sys use rank readers) (hexclusive : Exclusive lockUse locked pool)
    (hcounted : Counted use readers pool) (hended : ∀ t ∈ pool.tasks, t.outcome?.isSome) :
    locked pool.shared = false ∧ ∀ cell, readers pool.shared cell = 0 := by
  have hnot {t : Task sys} (ht : t ∈ pool.tasks) {request : Req} : ¬Asks t request := by
    intro hasks
    have hsome := hended t ht
    rw [outcome?_of_asks hasks] at hsome
    cases hsome
  constructor
  · rw [← Bool.not_eq_true]
    intro hlocked
    obtain ⟨t, ht, request, hasks, -⟩ := exists_holder hlocking hexclusive hlocked
    exact hnot ht hasks
  · intro cell
    by_contra hreaders
    obtain ⟨t, ht, hkeeps⟩ := hcounted.exists_keeper hreaders
    obtain ⟨request, hasks, -⟩ := keeper_asks hguarding hkeeps
    exact hnot ht hasks

section Rest

variable (hanswers : Nonempty ((request : Req) → Ans request))
  (hlocking : Locking sys lockUse locked) (hguarding : Guarding sys use rank readers)
  (hapart : ∀ request, lockUse request = .acquire → use request = .free)
  (htasks : pool.tasks = []) (hunlocked : locked pool.shared = false)
  (hfree : ∀ cell, readers pool.shared cell = 0)
  (hserves : ∀ n, ServesUnlocked sys lockUse locked use readers (poolAt pool moves n).shared)

include hanswers hlocking hguarding hapart htasks hunlocked hfree hserves

theorem canGoOnInTurn_poolAt (n : Nat)
    (hleft : ∃ t ∈ (poolAt pool moves n).tasks, ¬t.outcome?.isSome) :
    CanGoOnInTurn use (poolAt pool moves n) := by
  apply canGoOnInTurn hapart hanswers hlocking hguarding _ _ (hserves n) hleft
  · rw [poolAt_eq_run]
    exact (exclusive_of_no_tasks htasks hunlocked).run hlocking _
  · rw [poolAt_eq_run]
    exact (counted_of_no_tasks htasks hfree).run hguarding _

/-- So all requests are answered in the end, and all locks are given back. -/
theorem exists_rest_in_turn (hrequests : FinitelyManyRequests moves)
    (hdiligent : DiligentInTurn use pool moves) : ∃ n, ∀ m ≥ n,
      (locked (poolAt pool moves m).shared = false ∧
        ∀ cell, readers (poolAt pool moves m).shared cell = 0) ∧
      ∀ t ∈ (poolAt pool moves m).tasks, t.outcome?.isSome := by
  obtain ⟨n, hnever⟩ := exists_never hrequests hdiligent
  refine ⟨n, fun m hm => ?_⟩
  have hended : ∀ t ∈ (poolAt pool moves m).tasks, t.outcome?.isSome := by
    intro t ht
    by_contra hleft
    exact hnever m hm (canGoOnInTurn_poolAt hanswers hlocking hguarding hapart htasks hunlocked
      hfree hserves m ⟨t, ht, hleft⟩)
  refine ⟨unlocked_of_ended hlocking hguarding ?_ ?_ hended, hended⟩
  · rw [poolAt_eq_run]
    exact (exclusive_of_no_tasks htasks hunlocked).run hlocking _
  · rw [poolAt_eq_run]
    exact (counted_of_no_tasks htasks hfree).run hguarding _

end Rest

end Snip36.Library.ReadWriteLocks
