import Mathlib.Control.Monad.Basic

/-! Steps that may fail, one after another: what the first step decides for both, and what follows
from both having succeeded. -/

namespace StraightLine.Outcome

variable {ε ε' α β : Type}

@[simp] theorem ok_bind (a : α) (next : α → Except ε β) : (.ok a >>= next) = next a := rfl

@[simp] theorem error_bind (e : ε) (next : α → Except ε β) :
    ((.error e : Except ε α) >>= next) = .error e := rfl

@[simp] theorem pure_eq_ok (a : α) : (pure a : Except ε α) = .ok a := rfl

@[simp] theorem mapError_ok (wrap : ε → ε') (a : α) :
    (.ok a : Except ε α).mapError wrap = .ok a := rfl

@[simp] theorem mapError_error (wrap : ε → ε') (e : ε) :
    (.error e : Except ε α).mapError wrap = .error (wrap e) := rfl

theorem bind_eq_ok {first : Except ε α} {next : α → Except ε β} {b : β} :
    (first >>= next) = .ok b ↔ ∃ a, first = .ok a ∧ next a = .ok b := by
  cases first with
  | ok a => simp
  | error e => simp

theorem bind_eq_error {first : Except ε α} {next : α → Except ε β} {e : ε} :
    (first >>= next) = .error e ↔
      first = .error e ∨ ∃ a, first = .ok a ∧ next a = .error e := by
  cases first with
  | ok a => simp
  | error e => simp

theorem map_eq_ok {f : α → β} {result : Except ε α} {b : β} :
    f <$> result = .ok b ↔ ∃ a, result = .ok a ∧ f a = b := by
  cases result with
  | ok a => simp
  | error e => simp

theorem mapError_eq_ok {wrap : ε → ε'} {result : Except ε α} {a : α} :
    result.mapError wrap = .ok a ↔ result = .ok a := by
  cases result with
  | ok a => simp
  | error e => simp

/-- A change of errors can be made before or after a second step. -/
theorem mapError_bind (wrap : ε → ε') (first : Except ε α) (next : α → Except ε β) :
    (first >>= next).mapError wrap = first.mapError wrap >>= fun a => (next a).mapError wrap := by
  cases first with
  | ok a => rfl
  | error e => rfl

end StraightLine.Outcome
