/-
# StatusIcon.Proofs.Results -- answers that may be errors, and runs of answers

What is known of the steps of a computation when it is known how it ended, and the last one of a run
that has some property.
-/
import Mathlib.Tactic.Common

set_option autoImplicit false

namespace StatusIcon

section

variable {ε α β : Type} {x : Except ε α} {b : β}

theorem bind_eq_ok_iff {f : α → Except ε β} :
    x >>= f = .ok b ↔ ∃ a, x = .ok a ∧ f a = .ok b := by
  cases x with
  | error e => simp [bind, Except.bind]
  | ok a => simp [bind, Except.bind]

theorem map_eq_ok_iff {f : α → β} : x.map f = .ok b ↔ ∃ a, x = .ok a ∧ f a = b := by
  cases x with
  | error e => simp [Except.map]
  | ok a => simp [Except.map]

theorem map_eq_error_iff {f : α → β} {e : ε} : x.map f = .error e ↔ x = .error e := by
  cases x with
  | error e => simp [Except.map]
  | ok a => simp [Except.map]

theorem mapError_eq_ok_iff {ε' : Type} {f : ε → ε'} {a : α} :
    x.mapError f = .ok a ↔ x = .ok a := by
  cases x with
  | error e => simp [Except.mapError]
  | ok a => simp [Except.mapError]

end

/-- None of a run has the property, or there is one that has it last. -/
theorem forall_not_or_exists_last {α : Type} (p : α → Prop) (run : List α) :
    (∀ x ∈ run, ¬ p x) ∨
      ∃ earlier last later, run = earlier ++ last :: later ∧ p last ∧ ∀ x ∈ later, ¬ p x := by
  induction run with
  | nil => exact .inl nofun
  | cons x run ih =>
      rcases ih with none | ⟨earlier, last, later, rfl, holds, none⟩
      · -- nothing comes later, so the first one decides
        by_cases holds : p x
        · exact .inr ⟨[], x, run, rfl, holds, none⟩
        · exact .inl (List.forall_mem_cons.mpr ⟨holds, none⟩)
      · exact .inr ⟨x :: earlier, last, later, rfl, holds, none⟩

end StatusIcon
