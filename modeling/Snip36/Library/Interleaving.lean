import Snip36.Library.Interaction
import Snip36.Library.Reverting

/-!
Programs that run at the same time over one shared state. A move starts a
program, gives one of the running programs the answer that it waits for, or
changes the shared state from outside.
-/

namespace Snip36.Library.Interleaving

open Interaction
open Interaction.Program

variable {Req : Type} {Ans : Req → Type} {ε β γ : Type}

/-! ### One program -/

/-- What is left of a program after a stretch of conversation. -/
inductive Follows (program : Program Req Ans ε β) :
    History Req Ans → Program Req Ans ε β → Prop
  | start : Follows program [] program
  | answered {history : History Req Ans} {request : Req}
      {next : Ans request → Program Req Ans ε β}
      (h : Follows program history (.call request next)) (answer : Ans request) :
      Follows program (history ++ [⟨request, answer⟩]) (next answer)

/-- Whatever the answers are, `Asks` holds between the history and each request
that is made after it, and `Ends` between the history and the outcome. -/
def Throughout (Asks : History Req Ans → Req → Prop)
    (Ends : History Req Ans → Outcome ε β → Prop) :
    History Req Ans → Program Req Ans ε β → Prop
  | history, .done outcome => Ends history outcome
  | history, .call request next => Asks history request ∧
      ∀ answer, Throughout Asks Ends (history ++ [⟨request, answer⟩]) (next answer)

section Throughout

variable {Asks Asks' : History Req Ans → Req → Prop}
  {Ends Ends' : History Req Ans → Outcome ε β → Prop}
  {history : History Req Ans} {program rest : Program Req Ans ε β}

theorem throughout_done {outcome : Outcome ε β} :
    Throughout Asks Ends history (.done outcome) ↔ Ends history outcome := Iff.rfl

theorem throughout_ask {request : Req} {f : Ans request → Program Req Ans ε β}
    (hnow : Asks history request)
    (hnext : ∀ answer, Throughout Asks Ends (history ++ [⟨request, answer⟩]) (f answer)) :
    Throughout Asks Ends history (ask request >>= f) :=
  ⟨hnow, hnext⟩

theorem throughout_bind {first : Program Req Ans ε γ} {f : γ → Program Req Ans ε β} :
    Throughout Asks Ends history (first >>= f) ↔
      Throughout Asks (fun history outcome => match outcome with
        | .ok value => Throughout Asks Ends history (f value)
        | .err error => Ends history (.err error)
        | .panicked message => Ends history (.panicked message)) history first := by
  induction first generalizing history with
  | done outcome => cases outcome <;> rfl
  | call request next ih =>
      change _ ∧ _ ↔ _ ∧ _
      apply and_congr_right
      intro _
      apply forall_congr'
      intro answer
      exact ih answer

theorem Throughout.mono (h : Throughout Asks Ends history program)
    (hasks : ∀ later request, history <+: later → Asks later request → Asks' later request)
    (hends : ∀ later outcome, history <+: later → Ends later outcome → Ends' later outcome) :
    Throughout Asks' Ends' history program := by
  induction program generalizing history with
  | done outcome => exact hends history outcome (List.prefix_refl history) h
  | call request next ih =>
      refine ⟨hasks history request (List.prefix_refl history) h.1, fun answer => ?_⟩
      have hlonger : ∀ later, history ++ [⟨request, answer⟩] <+: later → history <+: later :=
        fun later => (List.prefix_append history _).trans
      apply ih answer (h.2 answer)
      · exact fun later r hlater => hasks later r (hlonger later hlater)
      · exact fun later o hlater => hends later o (hlonger later hlater)

/-- What holds throughout holds of each run. -/
theorem Throughout.run (h : Throughout Asks Ends history program) (env : Environment Req Ans) :
    Ends (Program.run env program history).2 (Program.run env program history).1 := by
  induction program generalizing history with
  | done outcome => exact h
  | call request next ih => exact ih _ (h.2 _)

/-- What was said before the program began can be left out. -/
theorem throughout_append {before : History Req Ans} :
    Throughout Asks Ends (before ++ history) program ↔
      Throughout (fun said => Asks (before ++ said)) (fun said => Ends (before ++ said))
        history program := by
  induction program generalizing history with
  | done outcome => rfl
  | call request next ih =>
      change _ ∧ _ ↔ _ ∧ _
      apply and_congr_right
      intro _
      apply forall_congr'
      intro answer
      rw [List.append_assoc]
      exact ih answer

/-- A program that makes only some kind of request has had only such exchanges. -/
theorem Throughout.only {P : Req → Prop} (h : Throughout (fun _ => P) Ends history program) :
    Throughout (fun _ => P) (fun later outcome => Ends later outcome ∧
      ∃ said, later = history ++ said ∧ ∀ event ∈ said, P event.request) history program := by
  induction program generalizing history with
  | done outcome => exact ⟨h, [], by simp, by simp⟩
  | call request next ih =>
      refine ⟨h.1, fun answer => (ih answer (h.2 answer)).mono (fun _ _ _ hasks => hasks) ?_⟩
      rintro later outcome - ⟨hends, said, rfl, hsaid⟩
      refine ⟨hends, ⟨request, answer⟩ :: said, by simp, ?_⟩
      exact List.forall_mem_cons.mpr ⟨h.1, hsaid⟩

theorem onlyAsks_iff_throughout {P : Req → Prop} :
    OnlyAsks P program ↔ Throughout (fun _ => P) (fun _ _ => True) history program := by
  induction program generalizing history with
  | done outcome => exact Iff.rfl
  | call request next ih =>
      change _ ∧ _ ↔ _ ∧ _
      apply and_congr_right
      intro _
      apply forall_congr'
      intro answer
      exact ih answer

theorem onlyFails_of_throughout (history : History Req Ans) {Q : ε → Prop}
    (h : Throughout (fun _ _ => True) (fun _ outcome => ∀ error, outcome = .err error → Q error)
      history program) : OnlyFails Q program := by
  induction program generalizing history with
  | done outcome => exact h
  | call request next ih => exact fun answer => ih answer _ (h.2 answer)

theorem throughout_of_onlyFails {Q : ε → Prop} (h : OnlyFails Q program) :
    Throughout (fun _ _ => True) (fun _ outcome => ∀ error, outcome = .err error → Q error)
      history program := by
  induction program generalizing history with
  | done outcome => exact h
  | call request next ih => exact ⟨trivial, fun answer => ih answer (h answer)⟩

theorem forall_request_append {P : Req → Prop} {first second : History Req Ans}
    (hfirst : ∀ event ∈ first, P event.request) (hsecond : ∀ event ∈ second, P event.request) :
    ∀ event ∈ first ++ second, P event.request := by
  intro event hevent
  rcases List.mem_append.mp hevent with h | h
  · exact hfirst event h
  · exact hsecond event h

/-- A program that makes only some kind of request, whatever else it does. -/
theorem throughout_of_onlyAsks {P : Req → Prop} (h : OnlyAsks P program)
    (hasks : ∀ said request, (∀ event ∈ said, P event.request) → P request →
      Asks (history ++ said) request)
    (hends : ∀ said outcome, (∀ event ∈ said, P event.request) → Ends (history ++ said) outcome) :
    Throughout Asks Ends history program := by
  induction program generalizing history with
  | done outcome => simpa [throughout_done] using hends [] outcome (by simp)
  | call request next ih =>
      have hnow := hasks [] request (by simp) h.1
      rw [List.append_nil] at hnow
      refine ⟨hnow, fun answer => ih answer (h.2 answer) ?_ ?_⟩
      · intro said r hsaid hr
        rw [List.append_assoc]
        exact hasks _ r (List.forall_mem_cons.mpr ⟨h.1, hsaid⟩) hr
      · intro said outcome hsaid
        rw [List.append_assoc]
        exact hends _ outcome (List.forall_mem_cons.mpr ⟨h.1, hsaid⟩)

theorem throughout_bind_of_onlyAsks {P : Req → Prop} {first : Program Req Ans ε γ}
    {f : γ → Program Req Ans ε β} (h : OnlyAsks P first)
    (hasks : ∀ said request, (∀ event ∈ said, P event.request) → P request →
      Asks (history ++ said) request)
    (hrest : ∀ said value, (∀ event ∈ said, P event.request) →
      Throughout Asks Ends (history ++ said) (f value))
    (herr : ∀ said error, (∀ event ∈ said, P event.request) →
      Ends (history ++ said) (.err error))
    (hpanicked : ∀ said message, (∀ event ∈ said, P event.request) →
      Ends (history ++ said) (.panicked message)) :
    Throughout Asks Ends history (first >>= f) := by
  rw [throughout_bind]
  apply throughout_of_onlyAsks h hasks
  intro said outcome hsaid
  cases outcome with
  | ok value => exact hrest said value hsaid
  | err error => exact herr said error hsaid
  | panicked message => exact hpanicked said message hsaid

/-- `Good` holds of what a program returns. Failures are not restricted. -/
def Returning (Good : History Req Ans → β → Prop) (history : History Req Ans)
    (outcome : Outcome ε β) : Prop :=
  ∀ value, outcome = .ok value → Good history value

section Returning

variable {Good : History Req Ans → β → Prop}

theorem returning_ok_iff {value : β} :
    Returning Good history (.ok value : Outcome ε β) ↔ Good history value := by
  simp [Returning]

theorem returning_err (error : ε) : Returning Good history (.err error) := nofun

theorem returning_panicked (message : String) :
    Returning Good history (.panicked message : Outcome ε β) := nofun

/-- The first half of a sequence returns something with which the second half
goes on well. -/
theorem throughout_returning_bind {first : Program Req Ans ε γ} {f : γ → Program Req Ans ε β} :
    Throughout Asks (Returning Good) history (first >>= f) ↔
      Throughout Asks (Returning fun history value =>
        Throughout Asks (Returning Good) history (f value)) history first := by
  rw [throughout_bind]
  constructor
  · intro h
    apply h.mono
    · exact fun _ _ _ hasks => hasks
    · rintro later outcome - hends value rfl
      exact hends
  · intro h
    apply h.mono
    · exact fun _ _ _ hasks => hasks
    · intro later outcome _ hends
      cases outcome with
      | ok value => exact hends value rfl
      | err error => exact returning_err error
      | panicked message => exact returning_panicked message

theorem Throughout.then {first : Program Req Ans ε γ} {f : γ → Program Req Ans ε β}
    {Good' : History Req Ans → γ → Prop} (h : Throughout Asks (Returning Good') history first)
    (hf : ∀ later value, history <+: later → Good' later value →
      Throughout Asks (Returning Good) later (f value)) :
    Throughout Asks (Returning Good) history (first >>= f) := by
  rw [throughout_returning_bind]
  apply h.mono
  · exact fun _ _ _ hasks => hasks
  · exact fun later outcome hlater hends value hvalue => hf later value hlater (hends value hvalue)

/-- A phase of a program is followed by the rest. -/
theorem throughout_phase {P : Req → Prop} {first : Program Req Ans ε γ}
    {f : γ → Program Req Ans ε β} (h : OnlyAsks P first)
    (hasks : ∀ said request, P request → Asks (history ++ said) request)
    (hrest : ∀ said value, Throughout Asks (Returning Good) (history ++ said) (f value)) :
    Throughout Asks (Returning Good) history (first >>= f) := by
  apply throughout_bind_of_onlyAsks h
  · exact fun said request _ hrequest => hasks said request hrequest
  · exact fun said value _ => hrest said value
  · exact fun _ error _ => returning_err error
  · exact fun _ message _ => returning_panicked message

end Returning

theorem throughout_attempt {ε' : Type} {p : Program Req Ans ε β}
    {Ends : History Req Ans → Outcome ε' (Outcome ε β) → Prop} :
    Throughout Asks Ends history p.attempt ↔
      Throughout Asks (fun history outcome => Ends history (.ok outcome)) history p := by
  induction p generalizing history with
  | done outcome => rfl
  | call request next ih =>
      change _ ∧ _ ↔ _ ∧ _
      apply and_congr_right
      intro _
      apply forall_congr'
      intro answer
      exact ih answer

theorem Follows.throughout (h : Follows program history rest)
    (hprogram : Throughout Asks Ends [] program) : Throughout Asks Ends history rest := by
  induction h with
  | start => exact hprogram
  | answered _ answer ih => exact ih.2 answer

/-- So `Asks` held at every request of the past. -/
theorem Follows.asked (h : Follows program history rest)
    (hprogram : Throughout Asks Ends [] program) {before after : History Req Ans}
    {event : Event Req Ans} (hsplit : history = before ++ event :: after) :
    Asks before event.request := by
  induction h generalizing after with
  | start => simp at hsplit
  | @answered history request next h answer ih =>
      rcases List.eq_nil_or_concat after with rfl | ⟨after', last, rfl⟩
      · obtain ⟨rfl, hevent⟩ := List.append_inj' hsplit rfl
        obtain rfl := (List.singleton_inj.mp hevent)
        exact (h.throughout hprogram).1
      · rw [List.concat_eq_append, ← List.cons_append, ← List.append_assoc] at hsplit
        exact ih (List.append_inj_left' hsplit rfl)

end Throughout

/-- After a request with `P` the program is over, and `Q` holds of its outcome. -/
def Closes (P : Req → Prop) (Q : Outcome ε β → Prop) : Program Req Ans ε β → Prop
  | .done _ => True
  | .call request next => (P request → ∀ answer, ∃ outcome, next answer = .done outcome ∧ Q outcome) ∧
      ∀ answer, Closes P Q (next answer)

section Closes

variable {P : Req → Prop} {Q : Outcome ε β → Prop} {program rest : Program Req Ans ε β}

theorem closes_call {request : Req} {next : Ans request → Program Req Ans ε β}
    (hrequest : ¬P request) (hnext : ∀ answer, Closes P Q (next answer)) :
    Closes P Q (.call request next) :=
  ⟨fun h => absurd h hrequest, hnext⟩

theorem Closes.bind {first : Program Req Ans ε γ} {f : γ → Program Req Ans ε β}
    (hfirst : OnlyAsks (fun request => ¬P request) first) (hf : ∀ a, Closes P Q (f a)) :
    Closes P Q (first >>= f) := by
  induction first with
  | done outcome =>
      cases outcome with
      | ok value => exact hf value
      | err error => trivial
      | panicked message => trivial
  | call request next ih => exact closes_call hfirst.1 fun answer => ih answer (hfirst.2 answer)

theorem Closes.follows {history : History Req Ans} (hprogram : Closes P Q program)
    (h : Follows program history rest) : Closes P Q rest := by
  induction h with
  | start => exact hprogram
  | answered _ answer ih => exact ih.2 answer

/-- So the program has come to its end once such a request is in its history. -/
theorem Closes.ended {history : History Req Ans} (hprogram : Closes P Q program)
    (h : Follows program history rest) {event : Event Req Ans} (hevent : event ∈ history)
    (hrequest : P event.request) : ∃ outcome, rest = .done outcome ∧ Q outcome := by
  induction h with
  | start => exact absurd hevent List.not_mem_nil
  | @answered history request next h answer ih =>
      rcases List.mem_append.mp hevent with hbefore | hlast
      · obtain ⟨outcome, hdone, -⟩ := ih hbefore
        cases hdone
      · obtain rfl := List.mem_singleton.mp hlast
        exact (hprogram.follows h).1 hrequest answer

end Closes

/-! ### Many programs -/

/-- Clients send requests, each of which is handled by a program. The programs
talk to `serve`, which may look at what the surroundings would answer, and has
`none` when the program has to wait. -/
structure System (Req : Type) (Ans : Req → Type) (ε β Shared Request Env : Type) where
  handler : Request → Program Req Ans ε β
  serve : Shared → (request : Req) → Ans request → Option (Ans request × Shared)
  outside : Shared → Env → Option Shared

variable {Shared Request Env : Type}

/-- A program alone with the shared state, for as many answers as the surroundings
offer: what is left of it, and the state. -/
def alone (serve : Shared → (request : Req) → Ans request → Option (Ans request × Shared)) :
    Shared → Program Req Ans ε β → List ((request : Req) → Ans request) →
      Program Req Ans ε β × Shared
  | shared, .done outcome, _ => (.done outcome, shared)
  | shared, .call request next, [] => (.call request next, shared)
  | shared, .call request next, answers :: later =>
      match serve shared request (answers request) with
      | none => alone serve shared (.call request next) later
      | some (answer, shared') => alone serve shared' (next answer) later

section Alone

variable {serve : Shared → (request : Req) → Ans request → Option (Ans request × Shared)}

@[simp] theorem alone_done (shared : Shared) (outcome : Outcome ε β)
    (offered : List ((request : Req) → Ans request)) :
    alone serve shared (.done outcome) offered = (.done outcome, shared) := by
  rw [alone]

theorem alone_nil (shared : Shared) (program : Program Req Ans ε β) :
    alone serve shared program [] = (program, shared) := by
  cases program with
  | done outcome => rfl
  | call request next => rfl

theorem alone_cons (shared : Shared) {request : Req} (next : Ans request → Program Req Ans ε β)
    {answers : (request : Req) → Ans request} (later : List ((request : Req) → Ans request))
    {answer : Ans request} {shared' : Shared}
    (h : serve shared request (answers request) = some (answer, shared')) :
    alone serve shared (.call request next) (answers :: later) =
      alone serve shared' (next answer) later := by
  rw [alone, h]

theorem onlyFails_alone {Q : ε → Prop} (shared : Shared) {program : Program Req Ans ε β}
    (h : OnlyFails Q program) (offered : List ((request : Req) → Ans request)) :
    OnlyFails Q (alone serve shared program offered).1 := by
  induction offered generalizing shared program with
  | nil =>
      rw [alone_nil]
      exact h
  | cons answers later ih =>
      cases program with
      | done outcome =>
          rw [alone_done]
          exact h
      | call request next =>
          rw [alone]
          cases serve shared request (answers request) with
          | none => exact ih shared h
          | some served => exact ih served.2 (h served.1)

end Alone

/-- A request that is being handled: what was said for it and what is left. -/
structure Task (sys : System Req Ans ε β Shared Request Env) where
  request : Request
  history : History Req Ans
  program : Program Req Ans ε β
  follows : Follows (sys.handler request) history program

structure Pool (sys : System Req Ans ε β Shared Request Env) where
  shared : Shared
  tasks : List (Task sys)

/-- `advance` carries what the surroundings would answer to any request. -/
inductive Move (Req : Type) (Ans : Req → Type) (Request Env : Type) where
  | arrive (request : Request)
  | advance (task : Nat) (answers : (request : Req) → Ans request)
  | outside (env : Env)

variable {sys : System Req Ans ε β Shared Request Env}

namespace Task

def start (sys : System Req Ans ε β Shared Request Env) (request : Request) : Task sys :=
  ⟨request, [], sys.handler request, .start⟩

def resume (t : Task sys) {request : Req} {next : Ans request → Program Req Ans ε β}
    (h : t.program = .call request next) (answer : Ans request) : Task sys :=
  ⟨t.request, t.history ++ [⟨request, answer⟩], next answer, (h ▸ t.follows).answered answer⟩

def next? (t : Task sys) : Option ((request : Req) × (Ans request → Task sys)) :=
  match h : t.program with
  | .done _ => none
  | .call request _ => some ⟨request, fun answer => t.resume h answer⟩

theorem next?_of_done {t : Task sys} {outcome : Outcome ε β} (h : t.program = .done outcome) :
    t.next? = none := by
  unfold next?
  split
  · rfl
  · rename_i request next hcall
    cases h.symm.trans hcall

theorem next?_of_call {t : Task sys} {request : Req} {next : Ans request → Program Req Ans ε β}
    (h : t.program = .call request next) :
    t.next? = some ⟨request, fun answer => t.resume h answer⟩ := by
  unfold next?
  split
  · rename_i outcome hdone
    cases h.symm.trans hdone
  · rename_i request' next' hcall
    cases h.symm.trans hcall
    rfl

def outcome? (t : Task sys) : Option (Outcome ε β) :=
  match t.program with
  | .done outcome => some outcome
  | .call _ _ => none

/-- What is known of the end of a program is known of the outcome of its task. -/
theorem ends_of_outcome {t : Task sys} {Asks : History Req Ans → Req → Prop}
    {Ends : History Req Ans → Outcome ε β → Prop}
    (hprogram : Throughout Asks Ends [] (sys.handler t.request)) {outcome : Outcome ε β}
    (h : t.outcome? = some outcome) : Ends t.history outcome := by
  have hrest := t.follows.throughout hprogram
  unfold outcome? at h
  split at h
  · rename_i outcome' hdone
    cases h
    rw [hdone] at hrest
    exact hrest
  · cases h

end Task

namespace Pool

def step (pool : Pool sys) : Move Req Ans Request Env → Except Unit (Pool sys)
  | .arrive request => .ok { pool with tasks := pool.tasks ++ [.start sys request] }
  | .advance i answers =>
      match pool.tasks[i]?.bind Task.next? with
      | none => .error ()
      | some ⟨request, resume⟩ =>
          match sys.serve pool.shared request (answers request) with
          | none => .error ()
          | some (answer, shared) => .ok ⟨shared, pool.tasks.set i (resume answer)⟩
  | .outside env =>
      match sys.outside pool.shared env with
      | none => .error ()
      | some shared => .ok { pool with shared }

/-- The exchange that a move makes, with the request of the client that it is for. -/
def exchange (pool : Pool sys) : Move Req Ans Request Env → Option (Request × Event Req Ans)
  | .arrive _ => none
  | .outside _ => none
  | .advance i answers =>
      match pool.tasks[i]? with
      | none => none
      | some t =>
          match t.program with
          | .done _ => none
          | .call request _ =>
              (sys.serve pool.shared request (answers request)).map fun served =>
                (t.request, ⟨request, served.1⟩)

/-- The same with the number of the task that has it. -/
def turn (pool : Pool sys) (move : Move Req Ans Request Env) : Option (Nat × Event Req Ans) :=
  match move with
  | .arrive _ => none
  | .outside _ => none
  | .advance i _ => (pool.exchange move).map fun said => (i, said.2)

/-- Some task for the request has had this exchange. -/
def Said (pool : Pool sys) (request : Request) (event : Event Req Ans) : Prop :=
  ∃ t ∈ pool.tasks, t.request = request ∧ event ∈ t.history

/-- Task `t` makes a request, gets an answer and goes on as `t'`. -/
structure Advances (pool pool' : Pool sys) (answers : (request : Req) → Ans request)
    (i : Nat) (t t' : Task sys) (request : Req) (answer : Ans request) : Prop where
  found : pool.tasks[i]? = some t
  asks : ∃ next, t.program = .call request next
  served : sys.serve pool.shared request (answers request) = some (answer, pool'.shared)
  sameRequest : t'.request = t.request
  history : t'.history = t.history ++ [⟨request, answer⟩]
  tasks : pool'.tasks = pool.tasks.set i t'

variable {pool pool' : Pool sys} {answers : (request : Req) → Ans request}

theorem advances_of_step {i : Nat} (h : pool.step (.advance i answers) = .ok pool') :
    ∃ t t' request answer, Advances pool pool' answers i t t' request answer := by
  simp only [step] at h
  split at h
  · cases h
  · rename_i request resume hnext
    obtain ⟨t, hfound, hnext⟩ := Option.bind_eq_some_iff.mp hnext
    split at h
    · cases h
    · rename_i answer shared hserved
      cases h
      unfold Task.next? at hnext
      split at hnext
      · cases hnext
      · rename_i request' next hprogram
        cases hnext
        exact ⟨t, t.resume hprogram answer, request, answer, hfound, ⟨next, hprogram⟩, hserved,
          rfl, rfl, rfl⟩

theorem exists_step_of_asks {i : Nat} {t : Task sys} {request : Req}
    {next : Ans request → Program Req Ans ε β} {answer : Ans request} {shared : Shared}
    (hfound : pool.tasks[i]? = some t) (hprogram : t.program = .call request next)
    (hserved : sys.serve pool.shared request (answers request) = some (answer, shared)) :
    ∃ pool', pool.step (.advance i answers) = .ok pool' := by
  exact ⟨⟨shared, pool.tasks.set i (t.resume hprogram answer)⟩, by
    simp [step, hfound, Task.next?_of_call hprogram, hserved]⟩

/-- Moves of one task only are the run of its program alone. -/
theorem run_advances {i : Nat} {t : Task sys} (hfound : pool.tasks[i]? = some t)
    (offered : List ((request : Req) → Ans request)) :
    ∃ t', (Reverting.run step pool (offered.map (.advance i))).tasks[i]? = some t' ∧
      (t'.program, (Reverting.run step pool (offered.map (.advance i))).shared) =
        alone sys.serve pool.shared t.program offered := by
  induction offered generalizing pool t with
  | nil => exact ⟨t, hfound, (alone_nil _ _).symm⟩
  | cons answers later ih =>
      rw [List.map_cons, Reverting.run_cons]
      cases hprogram : t.program with
      | done outcome =>
          have hstay : pool.step (.advance i answers) = .error () := by
            simp [step, hfound, Task.next?_of_done hprogram]
          rw [Reverting.exec_of_error hstay, alone_done, ← hprogram]
          obtain ⟨t', hfound', hsame⟩ := ih hfound
          rw [hprogram, alone_done] at hsame
          exact ⟨t', hfound', hsame.trans (by rw [hprogram])⟩
      | call request next =>
          have hnext := Task.next?_of_call hprogram
          rw [alone]
          cases hserved : sys.serve pool.shared request (answers request) with
          | none =>
              have hstay : pool.step (.advance i answers) = .error () := by
                simp [step, hfound, hnext, hserved]
              rw [Reverting.exec_of_error hstay]
              obtain ⟨t', hfound', hsame⟩ := ih hfound
              exact ⟨t', hfound', hsame.trans (by rw [hprogram])⟩
          | some served =>
              obtain ⟨answer, shared⟩ := served
              have hgo : pool.step (.advance i answers) =
                  .ok ⟨shared, pool.tasks.set i (t.resume hprogram answer)⟩ := by
                simp [step, hfound, hnext, hserved]
              rw [Reverting.exec_of_ok hgo]
              have hset : (pool.tasks.set i (t.resume hprogram answer))[i]? = some _ :=
                List.getElem?_set_self (List.getElem?_eq_some_iff.mp hfound).1
              exact @ih ⟨shared, pool.tasks.set i (t.resume hprogram answer)⟩ _ hset

theorem arrive_eq_ok_iff {request : Request} :
    pool.step (.arrive request) = .ok pool' ↔
      { pool with tasks := pool.tasks ++ [.start sys request] } = pool' := by
  simp [step]

theorem outside_eq_ok_iff {env : Env} :
    pool.step (.outside env) = .ok pool' ↔
      ∃ shared, sys.outside pool.shared env = some shared ∧ { pool with shared } = pool' := by
  simp only [step]
  split
  · simp [*]
  · simp [*]

namespace Advances

variable {i : Nat} {t t' : Task sys} {request : Req} {answer : Ans request}

theorem mem (h : Advances pool pool' answers i t t' request answer) : t ∈ pool.tasks :=
  List.mem_of_getElem? h.found

theorem mem_after (h : Advances pool pool' answers i t t' request answer) : t' ∈ pool'.tasks := by
  rw [h.tasks]
  exact List.mem_set (List.getElem?_eq_some_iff.mp h.found).1 t'

/-- A task of the new pool is the one that went on, or was there before. -/
theorem eq_or_mem (h : Advances pool pool' answers i t t' request answer) {u : Task sys}
    (hu : u ∈ pool'.tasks) : u = t' ∨ u ∈ pool.tasks := by
  rw [h.tasks] at hu
  exact (List.mem_or_eq_of_mem_set hu).symm

/-- What is known of a program all the way is known where a task is in it. -/
theorem asked (h : Advances pool pool' answers i t t' request answer)
    {Asks : History Req Ans → Req → Prop} {Ends : History Req Ans → Outcome ε β → Prop}
    (hprogram : Throughout Asks Ends [] (sys.handler t.request)) : Asks t.history request := by
  obtain ⟨next, hnext⟩ := h.asks
  have hrest := t.follows.throughout hprogram
  rw [hnext] at hrest
  exact hrest.1

theorem exchange (h : Advances pool pool' answers i t t' request answer) :
    pool.exchange (.advance i answers) = some (t.request, ⟨request, answer⟩) := by
  obtain ⟨next, hnext⟩ := h.asks
  simp [Pool.exchange, h.found, hnext, h.served]

theorem turn (h : Advances pool pool' answers i t t' request answer) :
    pool.turn (.advance i answers) = some (i, ⟨request, answer⟩) := by
  simp [Pool.turn, h.exchange]

theorem said (h : Advances pool pool' answers i t t' request answer) :
    pool'.Said t.request ⟨request, answer⟩ :=
  ⟨t', h.mem_after, h.sameRequest, by simp [h.history]⟩

theorem said_iff (h : Advances pool pool' answers i t t' request answer) {q : Request}
    {event : Event Req Ans} :
    pool'.Said q event ↔ pool.Said q event ∨ q = t.request ∧ event = ⟨request, answer⟩ := by
  constructor
  · rintro ⟨u, hu, rfl, hevent⟩
    rcases h.eq_or_mem hu with rfl | hmem
    · rw [h.history, List.mem_append, List.mem_singleton] at hevent
      rcases hevent with hold | rfl
      · exact Or.inl ⟨t, h.mem, h.sameRequest.symm, hold⟩
      · exact Or.inr ⟨h.sameRequest, rfl⟩
    · exact Or.inl ⟨u, hmem, rfl, hevent⟩
  · rintro (⟨u, hu, rfl, hevent⟩ | ⟨rfl, rfl⟩)
    · obtain ⟨j, hj⟩ := List.getElem?_of_mem hu
      rcases eq_or_ne j i with rfl | hne
      · obtain rfl : u = t := Option.some.inj (hj.symm.trans h.found)
        refine ⟨t', h.mem_after, h.sameRequest, ?_⟩
        rw [h.history]
        exact List.mem_append_left _ hevent
      · refine ⟨u, ?_, rfl, hevent⟩
        rw [h.tasks]
        exact List.mem_of_getElem? ((List.getElem?_set_ne hne.symm).trans hj)
    · exact h.said

end Advances

/-- A move with an exchange is possible, and is the one that has it. -/
theorem advances_of_exchange {move : Move Req Ans Request Env} {q : Request}
    {event : Event Req Ans} (h : pool.exchange move = some (q, event)) :
    ∃ pool' i answers t t', move = .advance i answers ∧ t.request = q ∧
      pool.step move = .ok pool' ∧
      Advances pool pool' answers i t t' event.request event.answer := by
  cases move with
  | arrive request => cases h
  | outside env => cases h
  | advance i answers =>
      simp only [exchange] at h
      split at h
      · cases h
      · rename_i t hfound
        split at h
        · cases h
        · rename_i request next hprogram
          obtain ⟨⟨answer, shared⟩, hserved, heq⟩ := Option.map_eq_some_iff.mp h
          cases heq
          obtain ⟨pool', hstep⟩ := exists_step_of_asks hfound hprogram hserved
          obtain ⟨u, u', request', answer', hadvance⟩ := advances_of_step hstep
          have hsame := hadvance.exchange
          rw [exchange, hfound] at hsame
          simp only [hprogram, hserved, Option.map_some, Option.some.injEq, Prod.mk.injEq] at hsame
          obtain ⟨hrequest, hevent⟩ := hsame
          cases hevent
          exact ⟨pool', i, answers, u, u', rfl, hrequest.symm, hstep, hadvance⟩

theorem said_arrive (request : Request) {q : Request} {event : Event Req Ans} :
    Said { pool with tasks := pool.tasks ++ [.start sys request] } q event ↔
      pool.Said q event := by
  simp only [Said, List.mem_append, List.mem_singleton]
  constructor
  · rintro ⟨u, hu | rfl, rfl, hevent⟩
    · exact ⟨u, hu, rfl, hevent⟩
    · exact absurd hevent List.not_mem_nil
  · rintro ⟨u, hu, hq, hevent⟩
    exact ⟨u, Or.inl hu, hq, hevent⟩

theorem Said.asked {q : Request} {event : Event Req Ans} (h : pool.Said q event)
    {Asks : History Req Ans → Req → Prop} {Ends : History Req Ans → Outcome ε β → Prop}
    (hprogram : Throughout Asks Ends [] (sys.handler q)) :
    ∃ before, Asks before event.request ∧ ∀ earlier ∈ before, pool.Said q earlier := by
  obtain ⟨t, ht, rfl, hevent⟩ := h
  obtain ⟨before, after, hsplit⟩ := List.append_of_mem hevent
  refine ⟨before, t.follows.asked hprogram hsplit, fun earlier hearlier => ⟨t, ht, rfl, ?_⟩⟩
  rw [hsplit]
  exact List.mem_append_left _ hearlier

/-- What was said after a move was said before, or is its exchange. -/
theorem said_iff_of_step {move : Move Req Ans Request Env} (h : pool.step move = .ok pool')
    {q : Request} {event : Event Req Ans} :
    pool'.Said q event ↔ pool.Said q event ∨ pool.exchange move = some (q, event) := by
  cases move with
  | arrive request =>
      obtain rfl := arrive_eq_ok_iff.mp h
      simp [said_arrive, exchange]
  | advance i answers =>
      obtain ⟨t, t', request, answer, hadvance⟩ := advances_of_step h
      rw [hadvance.said_iff, hadvance.exchange, Option.some.injEq, Prod.mk.injEq, eq_comm (a := q),
        eq_comm (a := event)]
  | outside env =>
      obtain ⟨shared, -, rfl⟩ := outside_eq_ok_iff.mp h
      simp [Said, exchange]

/-- A task of a pool with one more is an old one, or has nothing behind it. -/
theorem found_of_arrive {request : Request} {i : Nat} {t : Task sys}
    (h : (pool.tasks ++ [.start sys request])[i]? = some t) :
    pool.tasks[i]? = some t ∨ t.history = [] := by
  rcases Nat.lt_or_ge i pool.tasks.length with hi | hi
  · rw [List.getElem?_append_left hi] at h
    exact Or.inl h
  · rw [List.getElem?_append_right hi] at h
    obtain rfl := List.mem_singleton.mp (List.mem_of_getElem? h)
    exact Or.inr rfl

/-- The same for the task at one place. -/
theorem mem_history_of_step {move : Move Req Ans Request Env} (h : pool.step move = .ok pool')
    {i : Nat} {t : Task sys} (ht : pool'.tasks[i]? = some t) {event : Event Req Ans}
    (hevent : event ∈ t.history) :
    (∃ s, pool.tasks[i]? = some s ∧ event ∈ s.history) ∨
      ∃ answers q, move = .advance i answers ∧ pool.exchange move = some (q, event) := by
  cases move with
  | arrive request =>
      obtain rfl := arrive_eq_ok_iff.mp h
      rcases found_of_arrive ht with hold | hnew
      · exact Or.inl ⟨t, hold, hevent⟩
      · rw [hnew] at hevent
        exact absurd hevent List.not_mem_nil
  | outside env =>
      obtain ⟨shared, -, rfl⟩ := outside_eq_ok_iff.mp h
      exact Or.inl ⟨t, ht, hevent⟩
  | advance k answers =>
      obtain ⟨u, u', request, answer, hadvance⟩ := advances_of_step h
      rw [hadvance.tasks] at ht
      rcases eq_or_ne i k with rfl | hne
      · rw [List.getElem?_set_self (List.getElem?_eq_some_iff.mp hadvance.found).1] at ht
        obtain rfl := Option.some.inj ht
        rw [hadvance.history] at hevent
        rcases List.mem_append.mp hevent with hold | hnew
        · exact Or.inl ⟨u, hadvance.found, hold⟩
        · obtain rfl := List.mem_singleton.mp hnew
          exact Or.inr ⟨answers, u.request, rfl, hadvance.exchange⟩
      · rw [List.getElem?_set_ne hne.symm] at ht
        exact Or.inl ⟨t, ht, hevent⟩

/-- The exchange of a move comes after a history with `Asks`. -/
theorem asked_of_exchange {move : Move Req Ans Request Env} {q : Request} {event : Event Req Ans}
    (h : pool.exchange move = some (q, event)) {Asks : History Req Ans → Req → Prop}
    {Ends : History Req Ans → Outcome ε β → Prop}
    (hprogram : Throughout Asks Ends [] (sys.handler q)) :
    ∃ before, Asks before event.request ∧ ∀ earlier ∈ before, pool.Said q earlier := by
  obtain ⟨pool', i, answers, t, t', -, rfl, -, hadvance⟩ := advances_of_exchange h
  exact ⟨t.history, hadvance.asked hprogram, fun earlier hearlier =>
    ⟨t, hadvance.mem, rfl, hearlier⟩⟩

theorem said_of_step {move : Move Req Ans Request Env} (h : pool.step move = .ok pool')
    {q : Request} {event : Event Req Ans} (hsaid : pool.Said q event) : pool'.Said q event :=
  (said_iff_of_step h).mpr (Or.inl hsaid)

/-- A task stays as it is, or the exchange of the move is its own. -/
theorem found_of_step {move : Move Req Ans Request Env} (h : pool.step move = .ok pool') {i : Nat}
    {t : Task sys} (ht : pool.tasks[i]? = some t) :
    ((∀ answers, move ≠ .advance i answers) ∧ pool'.tasks[i]? = some t) ∨
      ∃ answers t' request answer, move = .advance i answers ∧ pool'.tasks[i]? = some t' ∧
        Advances pool pool' answers i t t' request answer := by
  cases move with
  | arrive request =>
      obtain rfl := arrive_eq_ok_iff.mp h
      have hi := (List.getElem?_eq_some_iff.mp ht).1
      exact Or.inl ⟨nofun, (List.getElem?_append_left hi).trans ht⟩
  | outside env =>
      obtain ⟨shared, -, rfl⟩ := outside_eq_ok_iff.mp h
      exact Or.inl ⟨nofun, ht⟩
  | advance k answers =>
      obtain ⟨u, u', request, answer, hadvance⟩ := advances_of_step h
      rcases eq_or_ne i k with rfl | hne
      · obtain rfl : t = u := Option.some.inj (ht.symm.trans hadvance.found)
        refine Or.inr ⟨answers, u', request, answer, rfl, ?_, hadvance⟩
        rw [hadvance.tasks, List.getElem?_set_self (List.getElem?_eq_some_iff.mp ht).1]
      · refine Or.inl ⟨fun answers' heq => hne ?_, ?_⟩
        · cases heq
          rfl
        · rw [hadvance.tasks, List.getElem?_set_ne hne.symm]
          exact ht

/-- A task is for the request that was at its place before, or that arrives. -/
theorem request_of_step {move : Move Req Ans Request Env} (h : pool.step move = .ok pool')
    {i : Nat} {t : Task sys} (ht : pool'.tasks[i]? = some t) :
    (∃ s, pool.tasks[i]? = some s ∧ s.request = t.request) ∨ move = .arrive t.request := by
  cases move with
  | arrive request =>
      obtain rfl := arrive_eq_ok_iff.mp h
      rcases Nat.lt_or_ge i pool.tasks.length with hi | hi
      · rw [List.getElem?_append_left hi] at ht
        exact Or.inl ⟨t, ht, rfl⟩
      · rw [List.getElem?_append_right hi] at ht
        obtain rfl := List.mem_singleton.mp (List.mem_of_getElem? ht)
        exact Or.inr rfl
  | outside env =>
      obtain ⟨shared, -, rfl⟩ := outside_eq_ok_iff.mp h
      exact Or.inl ⟨t, ht, rfl⟩
  | advance k answers =>
      obtain ⟨u, u', request, answer, hadvance⟩ := advances_of_step h
      left
      rw [hadvance.tasks] at ht
      rcases eq_or_ne i k with rfl | hne
      · rw [List.getElem?_set_self (List.getElem?_eq_some_iff.mp hadvance.found).1] at ht
        obtain rfl := Option.some.inj ht
        exact ⟨u, hadvance.found, hadvance.sameRequest.symm⟩
      · rw [List.getElem?_set_ne hne.symm] at ht
        exact ⟨t, ht, rfl⟩

end Pool

end Snip36.Library.Interleaving
