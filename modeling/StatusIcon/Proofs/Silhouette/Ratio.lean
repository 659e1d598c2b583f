/-
# StatusIcon.Proofs.Silhouette.Ratio -- which ratio a filter uses

A filter uses ratios between zero and one.  Every other ratio stands for the nearer of the two, an
infinite one included; not-a-number and the negative zero are no other ratios and stay what they are
(`Ratio.Nearest`).  `Ratio.clamp` finds that ratio (`Ratio.nearest_clamp`).

Magnitudes are counted in units of the least positive one, of which `2 ^ depth` make one.
-/
import StatusIcon.Proofs.Binary.Shortest
import StatusIcon.Silhouette.Threshold

set_option autoImplicit false

namespace StatusIcon.Ratio

open Binary (Format)

/-- The code of one. -/
def oneCode : Fin (Format.single.infinity + 1) := ⟨1065353216, by decide⟩

theorem ofNat_one : (.ofNat 1 : Single) = .signed false oneCode := by decide +kernel

theorem units_oneCode : Format.single.units oneCode = 2 ^ Format.single.depth := by decide +kernel

/-- A ratio, and the one that a filter uses for it. -/
inductive Nearest : Single → Single → Prop where
  | nan : Nearest .nan .nan
  | inside {negative : Bool} {code : Fin (Format.single.infinity + 1)}
      (within : code.val = 0 ∨
        negative = false ∧ Format.single.units code ≤ 2 ^ Format.single.depth) :
      Nearest (.signed negative code) (.signed negative code)
  | below {code : Fin (Format.single.infinity + 1)} (negative : 0 < code.val) :
      Nearest (.signed true code) (.zero false)
  | above {code one : Fin (Format.single.infinity + 1)}
      (past : 2 ^ Format.single.depth < Format.single.units code)
      (exact : Format.single.units one = 2 ^ Format.single.depth) :
      Nearest (.signed false code) (.signed false one)

variable {negative : Bool} {code : Fin (Format.single.infinity + 1)}

theorem lt_zero_iff :
    Binary.lt (.signed negative code) (.zero false : Single) = true ↔
      negative = true ∧ 0 < code.val := by
  cases negative <;> simp [Binary.lt, Binary.place, Binary.zero]

theorem one_lt_iff :
    Binary.lt (.ofNat 1 : Single) (.signed negative code) = true ↔
      negative = false ∧ oneCode.val < code.val := by
  rw [ofNat_one]
  cases negative with
  | false => simp [Binary.lt, Binary.place]
  | true =>
      simp only [Binary.lt, Binary.place, reduceIte, Bool.false_eq_true, decide_eq_true_eq,
        Bool.true_eq_false, false_and, iff_false]
      omega

theorem nearest_clamp (ratio : Single) : Nearest ratio (clamp ratio) := by
  cases ratio with
  | nan => exact .nan
  | signed negative code =>
      unfold clamp Binary.clamp
      split
      · next low =>
          obtain ⟨rfl, pos⟩ := lt_zero_iff.mp low
          exact .below pos
      next notLow =>
      split
      · next high =>
          obtain ⟨rfl, past⟩ := one_lt_iff.mp high
          rw [ofNat_one]
          refine .above ?_ units_oneCode
          rw [← units_oneCode]
          exact Format.single.units_strictMono past
      · next notHigh =>
          rw [lt_zero_iff, not_and_or, Nat.not_lt, Nat.le_zero] at notLow
          rw [one_lt_iff, not_and_or, Nat.not_lt] at notHigh
          refine .inside ?_
          rcases notLow with positive | zero
          · have sign := Bool.eq_false_of_not_eq_true positive
            have fits := notHigh.resolve_left (not_not_intro sign)
            rw [← units_oneCode]
            exact .inr ⟨sign, Format.single.units_mono fits⟩
          · exact .inl zero

/-- A zero keeps its sign, and what is below it becomes the one without a sign. -/
example : clamp (.zero true) = .zero true ∧ clamp (.infinite true) = .zero false := by
  decide +kernel

end StatusIcon.Ratio
