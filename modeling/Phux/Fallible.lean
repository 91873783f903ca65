import Mathlib.Logic.Basic

/-! Inverting fallible computations: what a success says of its parts. -/

namespace Fallible

variable {ε α β : Type}

variable {check : Except ε α} {next : α → Except ε β}

theorem bind_eq_ok {b : β} : (check >>= next) = .ok b ↔ ∃ a, check = .ok a ∧ next a = .ok b := by
  cases check with
  | error e | ok a => simp [bind, Except.bind]

/-- What is true of the failures of both parts. -/
theorem bind_fails {P : ε → Prop}
    (hcheck : ∀ e, check = .error e → P e) (hnext : ∀ a e, next a = .error e → P e) :
    ∀ e, (check >>= next) = .error e → P e := by
  intro e h
  cases check with
  | error _ =>
    cases h
    exact hcheck e rfl
  | ok a => exact hnext a e h

theorem pure_eq_ok {a b : α} : (pure a : Except ε α) = .ok b ↔ a = b := by simp [pure, Except.pure]

theorem map_eq_ok {f : α → β} {b : β} : check.map f = .ok b ↔ ∃ a, check = .ok a ∧ f a = b := by
  cases check with
  | error e | ok a => simp [Except.map]

end Fallible
