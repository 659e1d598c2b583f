/-
# StatusIcon.Proofs.Grayscale.Grey -- bitmaps without colour

A bitmap is *grey* when the three channels of every pixel are equal.  The copy that large icons are
judged by treats the channels alike, so equal channels stay equal (`IsGrey.resample`).  Hence a grey
bitmap of any size counts as grey as soon as the rule tolerates a difference of zero
(`IsGrey.isGrayscale`), whatever the sums of the weights come to.
-/
import StatusIcon.Proofs.Grayscale.Copy

set_option autoImplicit false

namespace StatusIcon

/-- The three channels are equal. -/
def Pixel.IsGrey (p : Pixel) : Prop := p.red = p.green ∧ p.green = p.blue

namespace GrayscaleRule

theorem channelDistance_self (a : UInt8) : channelDistance a a = 0 := by
  simp [channelDistance]

theorem acceptsPixel_of_isGrey {r : GrayscaleRule} (tolerant : 1 ≤ r.tolerance) {p : Pixel}
    (grey : p.IsGrey) : r.acceptsPixel p = true := by
  obtain ⟨first, second⟩ := grey
  have positive : 0 < r.tolerance.toNat := UInt8.le_iff_toNat_le.mp tolerant
  simp [acceptsPixel, first, second, channelDistance_self, positive]

end GrayscaleRule

namespace Bitmap

/-- Every pixel has three equal channels. -/
def IsGrey (b : Bitmap) : Prop := ∀ p ∈ b.pixels.toList, p.IsGrey

theorem isGrey_filled (width height : Nat) {p : Pixel} (grey : p.IsGrey) :
    (filled width height p).IsGrey := by
  intro q member
  simp only [filled, Array.toList_replicate] at member
  rw [List.eq_of_mem_replicate member]
  exact grey

theorem IsGrey.map_red {b : Bitmap} (grey : b.IsGrey) :
    b.pixels.map Pixel.red = b.pixels.map Pixel.green :=
  Array.map_congr_left fun p member => (grey p (Array.mem_toList_iff.mpr member)).1

theorem IsGrey.map_green {b : Bitmap} (grey : b.IsGrey) :
    b.pixels.map Pixel.green = b.pixels.map Pixel.blue :=
  Array.map_congr_left fun p member => (grey p (Array.mem_toList_iff.mpr member)).2

theorem IsGrey.resample {b : Bitmap} (grey : b.IsGrey) (width height : Nat) :
    (b.resample width height).IsGrey := by
  by_cases none : b.width = 0 ∨ b.height = 0
  · rw [resample_of_empty none]
    exact isGrey_filled width height ⟨rfl, rfl⟩
  by_cases same : b.width = width ∧ b.height = height
  · rw [resample_of_same none same]
    exact grey
  · rw [resample_of_other none same]
    intro p member
    obtain ⟨i, rfl⟩ := Array.mem_ofFn.mp (Array.mem_toList_iff.mp member)
    have samples {u v : Pixel → UInt8} (same : b.pixels.map u = b.pixels.map v) :
        (b.channelAt width height u).getD i 0 = (b.channelAt width height v).getD i 0 := by
      unfold channelAt
      rw [same]
    exact ⟨samples grey.map_red, samples grey.map_green⟩

theorem IsGrey.compact {b : Bitmap} (grey : b.IsGrey) (r : GrayscaleRule) :
    (r.compact b).IsGrey := by
  by_cases copies : r.Copies b
  · rw [GrayscaleRule.compact_of_copies copies]
    exact grey.resample _ _
  · rw [GrayscaleRule.compact_of_not_copies copies]
    exact grey

theorem IsGrey.isGrayscale {b : Bitmap} (grey : b.IsGrey) {r : GrayscaleRule}
    (tolerant : 1 ≤ r.tolerance) : b.isGrayscale r = true := by
  unfold Bitmap.isGrayscale
  rw [Array.all_eq_true']
  intro p member
  have pixel := grey.compact r p (Array.mem_toList_iff.mpr member)
  exact GrayscaleRule.acceptsPixel_of_isGrey tolerant pixel

end Bitmap

end StatusIcon
