/-
# Results with an error

A fallible function of the code returns a `Result`, here an `Except`.  A success of a sequence of
calls is a success of each of them (`bind_eq_ok`), and a change of the error text does not change
the successes (`mapError_eq_ok`, `context_eq_ok`).
-/
import Mathlib.Tactic.Common

namespace Fallible

variable {ε ε' α β : Type}

/-- `anyhow::Context::context`, as the text of the whole chain. -/
def context (what : String) (x : Except String α) : Except String α :=
  x.mapError fun e => what ++ ": " ++ e

/-- `anyhow::ensure!`. -/
def ensure (b : Bool) (e : ε) : Except ε Unit := if b then .ok () else .error e

theorem mapError_eq_ok {f : ε → ε'} {x : Except ε α} {a : α} :
    x.mapError f = .ok a ↔ x = .ok a := by
  cases x <;> simp [Except.mapError]

theorem bind_eq_ok {x : Except ε α} {f : α → Except ε β} {b : β} :
    x >>= f = .ok b ↔ ∃ a, x = .ok a ∧ f a = .ok b := by
  cases x <;> simp [bind, Except.bind]

theorem map_eq_ok {f : α → β} {x : Except ε α} {b : β} :
    x.map f = .ok b ↔ ∃ a, x = .ok a ∧ f a = b := by
  cases x <;> simp [Except.map]

theorem context_eq_ok {what : String} {x : Except String α} {a : α} :
    context what x = .ok a ↔ x = .ok a := mapError_eq_ok

theorem ensure_eq_ok {b : Bool} {e : ε} {u : Unit} : ensure b e = .ok u ↔ b = true := by
  cases b <;> simp [ensure]

end Fallible
