/-!
# Results — steps that may fail

A reader takes one step after the other and stops at the first that
fails. What succeeds as a whole therefore succeeds at each step, and an
error that is reworded is still an error.
-/

namespace Companion

variable {ε ε' α β : Type}

/-- **Steps that succeed one after the other succeed each.** -/
theorem exists_of_bind_eq_ok {x : Except ε α} {f : α → Except ε β} {b : β}
    (h : x >>= f = .ok b) : ∃ a, x = .ok a ∧ f a = .ok b := by
  cases x with
  | error e => cases h
  | ok a => exact ⟨a, rfl, h⟩

/-- Rewording errors makes nothing succeed. -/
theorem mapError_eq_ok_iff {x : Except ε α} {f : ε → ε'} {a : α} :
    x.mapError f = .ok a ↔ x = .ok a := by
  cases x with
  | error e => constructor <;> intro h <;> cases h
  | ok b => constructor <;> intro h <;> cases h <;> rfl

end Companion
