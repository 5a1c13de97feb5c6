import Snip36.CoinFlipState

/-!
How the handlers of both applications fail with an error response, and what this
leaves of a program.
-/

namespace Snip36.RouteFailures

open CoinFlipState (Failure)
open Library.Interaction
open Library.Interaction.Program
open Library.Interleaving

variable {Req : Type} {Ans : Req → Type} {α β : Type}

def fail (status : Nat) (detail : String) : Program Req Ans Failure α :=
  .done (.err (.response status detail))

/-- `ok_or_else`. -/
def orFail (status : Nat) (detail : String) : Option α → Program Req Ans Failure α
  | some a => pure a
  | none => fail status detail

/-- `map_err`. -/
def orFailWith (status : Nat) (detail : String → String) :
    Except String α → Program Req Ans Failure α
  | .ok a => pure a
  | .error e => fail status (detail e)

def ensure (p : Prop) [Decidable p] (status : Nat) (detail : String) :
    Program Req Ans Failure Unit :=
  if p then pure () else fail status detail

section OnlyAsks

variable {P : Req → Prop}

theorem onlyAsks_orFail (status : Nat) (detail : String) (x : Option α) :
    OnlyAsks P (orFail status detail x : Program Req Ans Failure α) := by
  cases x with
  | none => trivial
  | some a => trivial

theorem onlyAsks_orFailWith (status : Nat) (detail : String → String) (x : Except String α) :
    OnlyAsks P (orFailWith status detail x : Program Req Ans Failure α) := by
  cases x with
  | error e => trivial
  | ok a => trivial

theorem onlyAsks_ensure (p : Prop) [Decidable p] (status : Nat) (detail : String) :
    OnlyAsks P (ensure p status detail : Program Req Ans Failure Unit) := by
  unfold ensure
  split
  · trivial
  · trivial

end OnlyAsks

section Returning

variable {Asks : History Req Ans → Req → Prop} {Good : History Req Ans → β → Prop}
  {history : History Req Ans} {f : α → Program Req Ans Failure β}

theorem throughout_orFail {status : Nat} {detail : String} {x : Option α}
    (hok : ∀ a, x = some a → Throughout Asks (Returning Good) history (f a)) :
    Throughout Asks (Returning Good) history (orFail status detail x >>= f) := by
  cases x with
  | none => exact returning_err _
  | some a => exact hok a rfl

theorem throughout_orFailWith {status : Nat} {detail : String → String} {x : Except String α}
    (hok : ∀ a, x = .ok a → Throughout Asks (Returning Good) history (f a)) :
    Throughout Asks (Returning Good) history (orFailWith status detail x >>= f) := by
  cases x with
  | error e => exact returning_err _
  | ok a => exact hok a rfl

end Returning

end Snip36.RouteFailures
