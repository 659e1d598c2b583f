/-
# StatusIcon.Proofs.Grayscale.Emptiness -- bitmaps without pixels

A bitmap without columns or without rows has no pixel that could have a colour, and looked at as it
is it is grey under every rule.  But its other side can be longer than a copy is wide, and then it
is judged by a copy (`GrayscaleRule.Copies`), which is made of unset pixels
(`Bitmap.isGrayscale_of_copies`).  A rule that tolerates nothing at all does not accept these.  So
exactly such a rule finds an empty bitmap colourful, and only if it has it copied
(`Bitmap.isGrayscale_empty_iff`).
-/
import StatusIcon.Proofs.Grayscale.Grey

set_option autoImplicit false

namespace StatusIcon

/-- A pixel without colour and alpha is accepted unless the rule tolerates nothing. -/
theorem GrayscaleRule.acceptsPixel_unset (r : GrayscaleRule) :
    r.acceptsPixel .unset = true ↔ 1 ≤ r.tolerance ∨ 1 ≤ r.alphaTolerance := by
  simp only [acceptsPixel, Pixel.unset, channelDistance_self, Bool.or_eq_true, Bool.and_eq_true,
    decide_eq_true_eq, and_self, UInt8.le_iff_toNat_le, UInt8.lt_iff_toNat_lt]
  exact or_comm

namespace Bitmap

variable {b : Bitmap} {r : GrayscaleRule}

theorem pixels_of_empty (none : b.width = 0 ∨ b.height = 0) : b.pixels = #[] := by
  apply Array.eq_empty_of_size_eq_zero
  rw [b.size_eq]
  exact Nat.mul_eq_zero.mpr none

theorem isGrayscale_of_not_copies (none : b.width = 0 ∨ b.height = 0) (stays : ¬ r.Copies b) :
    b.isGrayscale r = true := by
  unfold isGrayscale
  rw [GrayscaleRule.compact_of_not_copies stays, pixels_of_empty none]
  exact Array.all_empty

/-- The copy of an empty bitmap has unset pixels, and one at least. -/
theorem isGrayscale_of_copies (none : b.width = 0 ∨ b.height = 0) (copies : r.Copies b) :
    b.isGrayscale r = r.acceptsPixel .unset := by
  unfold isGrayscale
  rw [GrayscaleRule.compact_of_copies copies, resample_of_empty none]
  obtain ⟨-, wide⟩ := copies
  have some : r.compactSize.toNat * r.compactSize.toNat ≠ 0 :=
    Nat.ne_of_gt (Nat.mul_pos wide wide)
  show (Array.replicate _ _).all _ = _
  rw [Array.all_replicate, if_neg some]

/-- **When an empty bitmap is grey.**  A bitmap without columns or without rows is grey exactly if
it is looked at as it is or if the rule tolerates some difference or some alpha. -/
theorem isGrayscale_empty_iff (b : Bitmap) (r : GrayscaleRule)
    (none : b.width = 0 ∨ b.height = 0) :
    b.isGrayscale r = true ↔ (r.Copies b → 1 ≤ r.tolerance ∨ 1 ≤ r.alphaTolerance) := by
  by_cases copies : r.Copies b
  · rw [isGrayscale_of_copies none copies, r.acceptsPixel_unset]
    exact ⟨fun tolerant _ => tolerant, fun tolerant => tolerant copies⟩
  · have grey := isGrayscale_of_not_copies none copies
    exact iff_of_true grey fun copied => absurd copied copies

/-- Not a pixel, but more rows than a copy has by default. -/
def slit : Bitmap := ⟨0, 65, #[], rfl⟩

theorem isGrayscale_empty_iff_slit :
    (slit.width = 0 ∨ slit.height = 0) ∧ GrayscaleRule.Copies {} slit ∧
      slit.isGrayscale {} = true ∧
      slit.isGrayscale { tolerance := 0, alphaTolerance := 0, compactSize := 65 } = true := by
  have none : slit.width = 0 ∨ slit.height = 0 := .inl rfl
  have copies : GrayscaleRule.Copies {} slit := ⟨.inr (by decide), by decide⟩
  refine ⟨none, copies, (isGrayscale_empty_iff slit _ none).mpr fun _ => .inl (by decide), ?_⟩
  refine (isGrayscale_empty_iff slit _ none).mpr fun copied => ?_
  rcases copied.1 with wide | tall
  · exact absurd wide (by decide)
  · exact absurd tall (by decide)

/-- A rule that tolerates nothing finds colour where there is no pixel. -/
theorem not_isGrayscale_slit :
    slit.isGrayscale { tolerance := 0, alphaTolerance := 0 } = false := by
  rw [isGrayscale_of_copies (.inl rfl) ⟨.inr (by decide), by decide⟩]
  rfl

end Bitmap

end StatusIcon
