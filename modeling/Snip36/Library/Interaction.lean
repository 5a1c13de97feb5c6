import Mathlib.Data.List.Basic

/-!
Programs that talk to an environment. A program is a tree of requests; the
environment may look at the whole history of the conversation before it
answers. Running a program extends the history and ends in a value, in a
reported error or in a panic.
-/

namespace Snip36.Library.Interaction

/-- How a run ends. -/
inductive Outcome (ε β : Type) where
  | ok (value : β)
  | err (error : ε)
  | panicked (message : String)
  deriving DecidableEq, Repr

namespace Outcome

variable {ε ε' β γ : Type}

def bind : Outcome ε β → (β → Outcome ε γ) → Outcome ε γ
  | .ok value, f => f value
  | .err error, _ => .err error
  | .panicked message, _ => .panicked message

instance : Monad (Outcome ε) where
  pure := .ok
  bind := bind

/-- Change the error type, as `?` does through a `From` instance. -/
def mapErr (f : ε → ε') : Outcome ε β → Outcome ε' β
  | .ok value => .ok value
  | .err error => .err (f error)
  | .panicked message => .panicked message

def ofExcept : Except ε β → Outcome ε β
  | .ok value => .ok value
  | .error error => .err error

@[simp] theorem bind_ok (value : β) (f : β → Outcome ε γ) :
    (Outcome.ok value >>= f) = f value := rfl

@[simp] theorem bind_err (error : ε) (f : β → Outcome ε γ) :
    (Outcome.err error >>= f) = .err error := rfl

@[simp] theorem bind_panicked (message : String) (f : β → Outcome ε γ) :
    (Outcome.panicked message >>= f) = .panicked message := rfl

@[simp] theorem pure_eq_ok (value : β) : (pure value : Outcome ε β) = .ok value := rfl

theorem bind_eq_ok_iff {x : Outcome ε β} {f : β → Outcome ε γ} {value : γ} :
    x >>= f = .ok value ↔ ∃ a, x = .ok a ∧ f a = .ok value := by
  cases x <;> simp

@[simp] theorem mapErr_eq_ok_iff {f : ε → ε'} {x : Outcome ε β} {value : β} :
    x.mapErr f = .ok value ↔ x = .ok value := by
  cases x <;> simp [mapErr]

@[simp] theorem ofExcept_eq_ok_iff {x : Except ε β} {value : β} :
    ofExcept x = .ok value ↔ x = .ok value := by
  cases x <;> simp [ofExcept]

end Outcome

variable {Req : Type} {Ans : Req → Type} {ε ε' β γ : Type}

/-- One exchange: a request and the answer it got. -/
structure Event (Req : Type) (Ans : Req → Type) where
  request : Req
  answer : Ans request

abbrev History (Req : Type) (Ans : Req → Type) := List (Event Req Ans)

/-- The other side of the conversation. It sees everything said so far, so it
may change its mind between two equal requests. -/
abbrev Environment (Req : Type) (Ans : Req → Type) :=
  History Req Ans → (request : Req) → Ans request

inductive Program (Req : Type) (Ans : Req → Type) (ε β : Type) where
  | done (outcome : Outcome ε β)
  | call (request : Req) (next : Ans request → Program Req Ans ε β)

namespace Program

def bind : Program Req Ans ε β → (β → Program Req Ans ε γ) → Program Req Ans ε γ
  | .done (.ok value), f => f value
  | .done (.err error), _ => .done (.err error)
  | .done (.panicked message), _ => .done (.panicked message)
  | .call request next, f => .call request fun answer => (next answer).bind f

instance : Monad (Program Req Ans ε) where
  pure value := .done (.ok value)
  bind := bind

theorem pure_bind (value : β) (f : β → Program Req Ans ε γ) : pure value >>= f = f value := rfl

/-- Ask the environment. -/
def ask (request : Req) : Program Req Ans ε (Ans request) :=
  .call request fun answer => .done (.ok answer)

def mapErr (f : ε → ε') : Program Req Ans ε β → Program Req Ans ε' β
  | .done outcome => .done (outcome.mapErr f)
  | .call request next => .call request fun answer => (next answer).mapErr f

/-- Run a program to its end, however it ends. -/
def attempt : Program Req Ans ε β → Program Req Ans ε' (Outcome ε β)
  | .done outcome => .done (.ok outcome)
  | .call request next => .call request fun answer => (next answer).attempt

/-- The body between two other programs. The second one runs however the body ends. -/
def bracket (first last : Program Req Ans ε Unit) (body : Program Req Ans ε β) :
    Program Req Ans ε β := do
  first
  let outcome ← body.attempt
  last
  .done outcome

/-- The requests of a program are among those of a larger set. -/
structure Inclusion (Req : Type) (Ans : Req → Type) (Req' : Type) (Ans' : Req' → Type) where
  request : Req → Req'
  answer : (r : Req) → Ans' (request r) → Ans r

def translate {Req' : Type} {Ans' : Req' → Type} (inc : Inclusion Req Ans Req' Ans') :
    Program Req Ans ε β → Program Req' Ans' ε β
  | .done outcome => .done outcome
  | .call request next => .call (inc.request request) fun answer =>
      (next (inc.answer request answer)).translate inc

/-- Run `step` on every element, in order, and keep the results. -/
def forEach {α : Type} (step : α → Program Req Ans ε β) :
    List α → Program Req Ans ε (List β)
  | [] => pure []
  | a :: rest => do
      let b ← step a
      let bs ← forEach step rest
      pure (b :: bs)

/-- Run a program from a history. The history grows also when the run fails. -/
def run (env : Environment Req Ans) : Program Req Ans ε β → History Req Ans →
    Outcome ε β × History Req Ans
  | .done outcome, history => (outcome, history)
  | .call request next, history =>
      run env (next (env history request)) (history ++ [⟨request, env history request⟩])

/-- The run ends normally, with this value and this history. -/
def Returns (env : Environment Req Ans) (program : Program Req Ans ε β)
    (before : History Req Ans) (value : β) (after : History Req Ans) : Prop :=
  run env program before = (.ok value, after)

variable {env : Environment Req Ans} {before after : History Req Ans}

/-- A program returns in one way only. -/
theorem Returns.unique {program : Program Req Ans ε β} {value value' : β}
    {after' : History Req Ans} (h : Returns env program before value after)
    (h' : Returns env program before value' after') : value = value' ∧ after = after' := by
  have heq := h.symm.trans h'
  simpa using heq

@[simp] theorem returns_pure_iff {a value : β} :
    Returns env (pure a : Program Req Ans ε β) before value after ↔
      a = value ∧ before = after := by
  change run env (.done (.ok a)) before = _ ↔ _
  simp [run]

@[simp] theorem returns_done_iff {outcome : Outcome ε β} {value : β} :
    Returns env (.done outcome) before value after ↔
      outcome = .ok value ∧ before = after := by
  simp [Returns, run]

theorem returns_ask_iff {request : Req} {value : Ans request} :
    Returns env (ask request : Program Req Ans ε _) before value after ↔
      env before request = value ∧ after = before ++ [⟨request, value⟩] := by
  simp only [Returns, ask, run, Prod.mk.injEq, Outcome.ok.injEq]
  constructor
  · rintro ⟨rfl, rfl⟩
    exact ⟨rfl, rfl⟩
  · rintro ⟨rfl, rfl⟩
    exact ⟨rfl, rfl⟩

theorem run_bind (program : Program Req Ans ε β) (f : β → Program Req Ans ε γ)
    (history : History Req Ans) :
    run env (program >>= f) history =
      match run env program history with
      | (.ok value, middle) => run env (f value) middle
      | (.err error, middle) => (.err error, middle)
      | (.panicked message, middle) => (.panicked message, middle) := by
  induction program generalizing history with
  | done outcome => cases outcome <;> rfl
  | call request next ih =>
      change run env ((next (env history request)) >>= f) _ = _
      rw [ih]
      rfl

/-- A sequence returns exactly when both halves do; this is the rule by which
a `do` block is taken apart. -/
theorem returns_bind_iff {program : Program Req Ans ε β}
    {f : β → Program Req Ans ε γ} {value : γ} :
    Returns env (program >>= f) before value after ↔
      ∃ a middle, Returns env program before a middle ∧
        Returns env (f a) middle value after := by
  simp only [Returns, run_bind]
  rcases run env program before with ⟨outcome, middle⟩
  cases outcome <;> simp

theorem run_mapErr (f : ε → ε') (program : Program Req Ans ε β)
    (history : History Req Ans) :
    run env (program.mapErr f) history =
      ((run env program history).1.mapErr f, (run env program history).2) := by
  induction program generalizing history with
  | done outcome => rfl
  | call request next ih => exact ih _ _

@[simp] theorem returns_mapErr_iff {f : ε → ε'} {program : Program Req Ans ε β}
    {value : β} :
    Returns env (program.mapErr f) before value after ↔
      Returns env program before value after := by
  simp only [Returns, run_mapErr, Prod.mk.injEq, Outcome.mapErr_eq_ok_iff]
  rw [Prod.ext_iff]

theorem run_attempt (program : Program Req Ans ε β) (history : History Req Ans) :
    run env (program.attempt : Program Req Ans ε' (Outcome ε β)) history =
      (.ok (run env program history).1, (run env program history).2) := by
  induction program generalizing history with
  | done outcome => rfl
  | call request next ih => exact ih _ _

/-- Every exchange of a stretch of conversation was answered by the
environment at its own moment. -/
def Answered (env : Environment Req Ans) (before : History Req Ans) :
    History Req Ans → Prop
  | [] => True
  | event :: rest =>
      event.answer = env before event.request ∧ Answered env (before ++ [event]) rest

theorem answered_append {env : Environment Req Ans} {before first second : History Req Ans} :
    Answered env before (first ++ second) ↔
      Answered env before first ∧ Answered env (before ++ first) second := by
  induction first generalizing before with
  | nil => simp [Answered]
  | cons event rest ih =>
      simp [Answered, ih, and_assoc]

/-- The answer recorded at a position is the one the environment gave to the
history up to that position. -/
theorem Answered.of_split {env : Environment Req Ans} {before first rest : History Req Ans}
    {event : Event Req Ans} (h : Answered env before (first ++ event :: rest)) :
    event.answer = env (before ++ first) event.request :=
  (answered_append.mp h).2.1

/-- What is answered alike at every moment is answered at its own. -/
theorem answered_of_forall {env : Environment Req Ans} {before said : History Req Ans}
    (h : ∀ event ∈ said, ∀ moment, event.answer = env moment event.request) :
    Answered env before said := by
  induction said generalizing before with
  | nil => trivial
  | cons event rest ih =>
      rw [List.forall_mem_cons] at h
      exact ⟨h.1 before, ih h.2⟩

/-- What a run says anew is answered by the environment, at some moment. -/
theorem answered_of_mem_run {program : Program Req Ans ε β} {history : History Req Ans}
    {event : Event Req Ans} (h : event ∈ (run env program history).2) :
    event ∈ history ∨ ∃ moment, event.answer = env moment event.request := by
  induction program generalizing history with
  | done outcome => exact Or.inl h
  | call request next ih =>
      rcases ih _ h with hmem | hanswer
      · rcases List.mem_append.mp hmem with hold | hnew
        · exact Or.inl hold
        · obtain rfl := List.mem_singleton.mp hnew
          exact Or.inr ⟨history, rfl⟩
      · exact Or.inr hanswer

/-- The rule for loops that collect their results: the loop returns exactly
when there is one successful pass for every element. -/
theorem returns_forEach_cons_iff {α : Type} {step : α → Program Req Ans ε β}
    {a : α} {rest : List α} {values : List β} :
    Returns env (forEach step (a :: rest)) before values after ↔
      ∃ b bs middle, values = b :: bs ∧ Returns env (step a) before b middle ∧
        Returns env (forEach step rest) middle bs after := by
  rw [forEach]
  simp only [returns_bind_iff, returns_pure_iff]
  constructor
  · rintro ⟨b, middle, hb, bs, _, hbs, rfl, rfl⟩
    exact ⟨b, bs, middle, rfl, hb, hbs⟩
  · rintro ⟨b, bs, middle, rfl, hb, hbs⟩
    exact ⟨b, middle, hb, bs, after, hbs, rfl, rfl⟩

@[simp] theorem returns_forEach_nil_iff {α : Type} {step : α → Program Req Ans ε β}
    {values : List β} :
    Returns env (forEach step []) before values after ↔ values = [] ∧ before = after := by
  rw [forEach, returns_pure_iff, eq_comm]

/-- What holds of every pass holds of the results one by one. -/
theorem forall₂_of_returns_forEach {α : Type} {step : α → Program Req Ans ε β}
    {R : α → β → Prop} (hstep : ∀ a before b after, Returns env (step a) before b after → R a b)
    {items : List α} {values : List β} (h : Returns env (forEach step items) before values after) :
    List.Forall₂ R items values := by
  induction items generalizing values before with
  | nil =>
      obtain ⟨rfl, -⟩ := returns_forEach_nil_iff.mp h
      exact .nil
  | cons a rest ih =>
      obtain ⟨b, bs, middle, rfl, hb, hbs⟩ := returns_forEach_cons_iff.mp h
      exact .cons (hstep a before b middle hb) (ih hbs)

/-- If every pass succeeds from every history, so does the loop. -/
theorem exists_returns_forEach {α : Type} {step : α → Program Req Ans ε β} {result : α → β}
    (hstep : ∀ a before, ∃ after, Returns env (step a) before (result a) after)
    (items : List α) (before : History Req Ans) :
    ∃ after, Returns env (forEach step items) before (items.map result) after := by
  induction items generalizing before with
  | nil => exact ⟨before, returns_forEach_nil_iff.mpr ⟨rfl, rfl⟩⟩
  | cons a rest ih =>
      obtain ⟨middle, hmiddle⟩ := hstep a before
      obtain ⟨after, hafter⟩ := ih middle
      exact ⟨after, returns_forEach_cons_iff.mpr
        ⟨result a, rest.map result, middle, rfl, hmiddle, hafter⟩⟩

/-- A loop with an accumulator succeeds exactly if each of its passes does. -/
theorem exists_returns_foldlM_iff {α σ : Type} {step : σ → α → Program Req Ans ε σ}
    {Good : α → Prop}
    (hstep : ∀ s a before, (∃ s' after, Returns env (step s a) before s' after) ↔ Good a)
    {items : List α} {s : σ} {before : History Req Ans} :
    (∃ s' after, Returns env (items.foldlM step s) before s' after) ↔ ∀ a ∈ items, Good a := by
  induction items generalizing s before with
  | nil => simp
  | cons a rest ih =>
      simp only [List.foldlM_cons, returns_bind_iff, List.forall_mem_cons]
      constructor
      · rintro ⟨s', after, middle, history, hfirst, hrest⟩
        exact ⟨(hstep s a before).mp ⟨middle, history, hfirst⟩, ih.mp ⟨s', after, hrest⟩⟩
      · rintro ⟨hgood, hall⟩
        obtain ⟨middle, history, hfirst⟩ := (hstep s a before).mpr hgood
        have hrest : ∃ s' after, Returns env (rest.foldlM step middle) history s' after :=
          ih.mpr hall
        obtain ⟨s', after, hrest⟩ := hrest
        exact ⟨s', after, middle, history, hfirst, hrest⟩

/-- The rule for what a loop does to its accumulator, from what a pass does. -/
theorem returns_foldlM_induction {α σ : Type} {step : σ → α → Program Req Ans ε σ}
    {R : σ → List α → σ → Prop} (hnil : ∀ s, R s [] s)
    (hcons : ∀ s a middle rest s', (∃ before after, Returns env (step s a) before middle after) →
      R middle rest s' → R s (a :: rest) s')
    {items : List α} {s s' : σ} (h : Returns env (items.foldlM step s) before s' after) :
    R s items s' := by
  induction items generalizing s before with
  | nil =>
      obtain ⟨rfl, -⟩ := returns_pure_iff.mp h
      exact hnil s
  | cons a rest ih =>
      rw [List.foldlM_cons, returns_bind_iff] at h
      obtain ⟨middle, history, hfirst, hrest⟩ := h
      exact hcons s a middle rest s' ⟨before, history, hfirst⟩ (ih hrest)

/-! ### Which requests a program can make -/

/-- Whatever the answers are, every request has the property. -/
def OnlyAsks (P : Req → Prop) : Program Req Ans ε β → Prop
  | .done _ => True
  | .call request next => P request ∧ ∀ answer, OnlyAsks P (next answer)

variable {P : Req → Prop}

theorem onlyAsks_done (outcome : Outcome ε β) :
    OnlyAsks P (.done outcome : Program Req Ans ε β) := trivial

theorem onlyAsks_pure (value : β) : OnlyAsks P (pure value : Program Req Ans ε β) := trivial

theorem OnlyAsks.mono {Q : Req → Prop} {program : Program Req Ans ε β}
    (h : OnlyAsks P program) (hsub : ∀ request, P request → Q request) :
    OnlyAsks Q program := by
  induction program with
  | done outcome => trivial
  | call request next ih => exact ⟨hsub request h.1, fun answer => ih answer (h.2 answer)⟩

theorem OnlyAsks.attempt {program : Program Req Ans ε β} (h : OnlyAsks P program) :
    OnlyAsks P (program.attempt : Program Req Ans ε' (Outcome ε β)) := by
  induction program with
  | done outcome => trivial
  | call request next ih => exact ⟨h.1, fun answer => ih answer (h.2 answer)⟩

theorem OnlyAsks.bind {program : Program Req Ans ε β} {f : β → Program Req Ans ε γ}
    (h : OnlyAsks P program) (hf : ∀ a, OnlyAsks P (f a)) : OnlyAsks P (program >>= f) := by
  induction program with
  | done outcome =>
      cases outcome with
      | ok value => exact hf value
      | err error => trivial
      | panicked message => trivial
  | call request next ih => exact ⟨h.1, fun answer => ih answer (h.2 answer)⟩

theorem OnlyAsks.mapErr {program : Program Req Ans ε β} (h : OnlyAsks P program)
    (f : ε → ε') : OnlyAsks P (program.mapErr f) := by
  induction program with
  | done outcome => trivial
  | call request next ih => exact ⟨h.1, fun answer => ih answer (h.2 answer)⟩

theorem onlyAsks_translate {Req' : Type} {Ans' : Req' → Type}
    {inc : Inclusion Req Ans Req' Ans'} {P' : Req' → Prop} (h : ∀ request, P' (inc.request request))
    (program : Program Req Ans ε β) : OnlyAsks P' (program.translate inc) := by
  induction program with
  | done outcome => trivial
  | call request next ih => exact ⟨h request, fun answer => ih _⟩

theorem onlyAsks_forEach_of_mem {α : Type} {step : α → Program Req Ans ε β} {items : List α}
    (hstep : ∀ a ∈ items, OnlyAsks P (step a)) : OnlyAsks P (forEach step items) := by
  induction items with
  | nil => trivial
  | cons a rest ih =>
      rw [List.forall_mem_cons] at hstep
      exact hstep.1.bind fun b => (ih hstep.2).bind fun bs => onlyAsks_pure _

theorem onlyAsks_forEach {α : Type} {step : α → Program Req Ans ε β}
    (hstep : ∀ a, OnlyAsks P (step a)) (items : List α) : OnlyAsks P (forEach step items) :=
  onlyAsks_forEach_of_mem fun a _ => hstep a

theorem onlyAsks_foldlM {α σ : Type} {step : σ → α → Program Req Ans ε σ}
    (hstep : ∀ s a, OnlyAsks P (step s a)) (items : List α) (s : σ) :
    OnlyAsks P (items.foldlM step s) := by
  induction items generalizing s with
  | nil => trivial
  | cons a rest ih =>
      rw [List.foldlM_cons]
      exact (hstep s a).bind ih

/-- So everything that was said has the property, and was answered by the
environment at its own moment. -/
theorem OnlyAsks.exists_said {program : Program Req Ans ε β} {value : β}
    (hasks : OnlyAsks P program) (h : Returns env program before value after) :
    ∃ said, after = before ++ said ∧ Answered env before said ∧
      ∀ event ∈ said, P event.request := by
  induction program generalizing before with
  | done outcome =>
      obtain ⟨-, rfl⟩ := returns_done_iff.mp h
      exact ⟨[], by simp, trivial, by simp⟩
  | call request next ih =>
      obtain ⟨said, rfl, hsaid, hrest⟩ := ih _ (hasks.2 _) h
      refine ⟨⟨request, env before request⟩ :: said, by simp, ⟨rfl, hsaid⟩, ?_⟩
      rw [List.forall_mem_cons]
      exact ⟨hasks.1, hrest⟩

theorem onlyAsks_true (program : Program Req Ans ε β) : OnlyAsks (fun _ => True) program := by
  induction program with
  | done outcome => trivial
  | call request next ih => exact ⟨trivial, ih⟩

/-- A history only grows. -/
theorem Returns.isPrefix {program : Program Req Ans ε β} {value : β}
    (h : Returns env program before value after) : before <+: after := by
  obtain ⟨said, rfl, -⟩ := (onlyAsks_true program).exists_said h
  exact List.prefix_append _ _

/-- A program that hears the same from another environment does the same. -/
theorem Returns.of_answered {env' : Environment Req Ans} {program : Program Req Ans ε β}
    {value : β} {said : History Req Ans} (h : Returns env program before value (before ++ said))
    (hanswered : Answered env' before said) :
    Returns env' program before value (before ++ said) := by
  induction program generalizing before said with
  | done outcome =>
      obtain ⟨rfl, hsaid⟩ := returns_done_iff.mp h
      exact returns_done_iff.mpr ⟨rfl, hsaid⟩
  | call request next ih =>
      have hrest : Returns env (next (env before request))
          (before ++ [⟨request, env before request⟩]) value (before ++ said) := h
      obtain ⟨rest, hsaid⟩ := hrest.isPrefix
      rw [List.append_assoc, List.append_cancel_left_eq] at hsaid
      subst hsaid
      obtain ⟨hanswer, hothers⟩ := hanswered
      have hanswer : env before request = env' before request := hanswer
      rw [← List.append_assoc] at hrest ⊢
      have hnext := ih _ hrest hothers
      rw [hanswer] at hnext ⊢
      exact hnext

/-- A loop keeps what every pass of it keeps; a pass may know what has been done
before it. -/
theorem returns_foldlM_invariant {α σ : Type} {step : σ → α → Program Req Ans ε σ}
    {items : List α} {I : List α → σ → History Req Ans → Prop}
    (hstep : ∀ finished a rest, items = finished ++ a :: rest → ∀ s before s' after,
      I finished s before → Returns env (step s a) before s' after → I (finished ++ [a]) s' after)
    {s s' : σ} (hstart : I [] s before) (h : Returns env (items.foldlM step s) before s' after) :
    I items s' after := by
  suffices hrest : ∀ rest finished s before, items = finished ++ rest → I finished s before →
      Returns env (rest.foldlM step s) before s' after → I items s' after from
    hrest items [] s before rfl hstart h
  intro rest
  induction rest with
  | nil =>
      intro finished s before hitems hkept hreturns
      obtain ⟨rfl, rfl⟩ := returns_pure_iff.mp hreturns
      rw [hitems, List.append_nil]
      exact hkept
  | cons a rest ih =>
      intro finished s before hitems hkept hreturns
      rw [List.foldlM_cons, returns_bind_iff] at hreturns
      obtain ⟨middle, history, hfirst, hothers⟩ := hreturns
      exact ih (finished ++ [a]) middle history (by simp [hitems])
        (hstep finished a rest hitems s before middle history hkept hfirst) hothers

theorem OnlyAsks.of_mem_run {program : Program Req Ans ε β} (hasks : OnlyAsks P program)
    {history : History Req Ans} {event : Event Req Ans}
    (h : event ∈ (run env program history).2) : event ∈ history ∨ P event.request := by
  induction program generalizing history with
  | done outcome => exact Or.inl h
  | call request next ih =>
      rcases ih _ (hasks.2 _) h with hmem | hrequest
      · rcases List.mem_append.mp hmem with hold | hnew
        · exact Or.inl hold
        · obtain rfl := List.mem_singleton.mp hnew
          exact Or.inr hasks.1
      · exact Or.inr hrequest

/-- Every error that the program can end with has the property. -/
def OnlyFails (Q : ε → Prop) : Program Req Ans ε β → Prop
  | .done outcome => ∀ error, outcome = .err error → Q error
  | .call _ next => ∀ answer, OnlyFails Q (next answer)

section OnlyFails

variable {Q : ε → Prop}

theorem onlyFails_ok (value : β) : OnlyFails Q (.done (.ok value) : Program Req Ans ε β) := nofun

theorem OnlyFails.bind {program : Program Req Ans ε β} {f : β → Program Req Ans ε γ}
    (h : OnlyFails Q program) (hf : ∀ a, OnlyFails Q (f a)) : OnlyFails Q (program >>= f) := by
  induction program with
  | done outcome =>
      cases outcome with
      | ok value => exact hf value
      | err error =>
          rintro e ⟨⟩
          exact h error rfl
      | panicked message => exact nofun
  | call request next ih => exact fun answer => ih answer (h answer)

end OnlyFails

/-! ### Which answers make a program panic -/

/-- The program panics at a bad answer, at once, and never else; the values that
it ends with are good. -/
def PanicsOn (Bad : (request : Req) → Ans request → Prop) (Good : β → Prop) :
    Program Req Ans ε β → Prop
  | .done (.ok value) => Good value
  | .done (.err _) => True
  | .done (.panicked _) => False
  | .call request next => ∀ answer,
      (Bad request answer → ∃ message, next answer = .done (.panicked message)) ∧
        (¬ Bad request answer → PanicsOn Bad Good (next answer))

section PanicsOn

variable {B : (request : Req) → Ans request → Prop} {G : β → Prop} {G' : γ → Prop}

theorem panicsOn_pure {value : β} (h : G value) :
    PanicsOn B G (pure value : Program Req Ans ε β) := h

theorem panicsOn_of_eq_ok {outcome : Outcome ε β} {value : β} (h : outcome = .ok value) :
    PanicsOn B (fun result => result = value) (.done outcome : Program Req Ans ε β) := by
  rw [h]
  rfl

theorem panicsOn_ofExcept (x : Except ε β) :
    PanicsOn B (fun _ => True) (.done (.ofExcept x) : Program Req Ans ε β) := by
  cases x with
  | ok value => trivial
  | error error => trivial

theorem PanicsOn.bind {program : Program Req Ans ε β} {f : β → Program Req Ans ε γ}
    (h : PanicsOn B G program) (hf : ∀ a, G a → PanicsOn B G' (f a)) :
    PanicsOn B G' (program >>= f) := by
  induction program with
  | done outcome =>
      cases outcome with
      | ok value => exact hf value h
      | err error => trivial
      | panicked message => exact h.elim
  | call request next ih =>
      intro answer
      constructor
      · intro hbad
        obtain ⟨message, hmessage⟩ := (h answer).1 hbad
        refine ⟨message, ?_⟩
        change (next answer).bind f = _
        rw [hmessage]
        rfl
      · intro hbad
        exact ih answer ((h answer).2 hbad)

theorem PanicsOn.mapErr {program : Program Req Ans ε β} (h : PanicsOn B G program)
    (f : ε → ε') : PanicsOn B G (program.mapErr f) := by
  induction program with
  | done outcome =>
      cases outcome with
      | ok value => exact h
      | err error => trivial
      | panicked message => exact h.elim
  | call request next ih =>
      intro answer
      constructor
      · intro hbad
        obtain ⟨message, hmessage⟩ := (h answer).1 hbad
        refine ⟨message, ?_⟩
        change (next answer).mapErr f = _
        rw [hmessage]
        rfl
      · intro hbad
        exact ih answer ((h answer).2 hbad)

/-- A loop that collects has one result for every element. -/
theorem panicsOn_forEach {α : Type} {step : α → Program Req Ans ε β}
    (hstep : ∀ a, PanicsOn B (fun _ => True) (step a)) (items : List α) :
    PanicsOn B (fun results => results.length = items.length) (forEach step items) := by
  induction items with
  | nil => rfl
  | cons a rest ih =>
      apply (hstep a).bind
      intro b _
      apply ih.bind
      intro bs hbs
      apply panicsOn_pure
      simp [hbs]

theorem panicsOn_foldlM {α σ : Type} {step : σ → α → Program Req Ans ε σ}
    (hstep : ∀ s a, PanicsOn B (fun _ => True) (step s a)) (items : List α) (s : σ) :
    PanicsOn B (fun _ => True) (items.foldlM step s) := by
  induction items generalizing s with
  | nil => trivial
  | cons a rest ih =>
      rw [List.foldlM_cons]
      exact (hstep s a).bind fun s' _ => ih s'

/-- So a run panics exactly if it gets a bad answer. -/
theorem PanicsOn.run_panics_iff {program : Program Req Ans ε β} (h : PanicsOn B G program)
    {history : History Req Ans} (hhistory : ∀ event ∈ history, ¬ B event.request event.answer) :
    (∃ message, (run env program history).1 = .panicked message) ↔
      ∃ event ∈ (run env program history).2, B event.request event.answer := by
  induction program generalizing history with
  | done outcome =>
      have hnone : ¬ ∃ event ∈ history, B event.request event.answer := by
        rintro ⟨event, hevent, hbad⟩
        exact hhistory event hevent hbad
      cases outcome with
      | ok value => simpa [run] using hnone
      | err error => simpa [run] using hnone
      | panicked message => exact h.elim
  | call request next ih =>
      by_cases hbad : B request (env history request)
      · obtain ⟨message, hmessage⟩ := (h _).1 hbad
        simp only [run, hmessage]
        exact ⟨fun _ => ⟨_, List.mem_append_right _ (List.mem_singleton.mpr rfl), hbad⟩,
          fun _ => ⟨message, rfl⟩⟩
      · apply ih _ ((h _).2 hbad)
        intro event hevent
        rcases List.mem_append.mp hevent with hold | hnew
        · exact hhistory event hold
        · obtain rfl := List.mem_singleton.mp hnew
          exact hbad

end PanicsOn

end Program

end Snip36.Library.Interaction
