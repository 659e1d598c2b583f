/-
# StatusIcon.Silhouette.Threshold -- how bright is bright

The threshold of a bitmap is a fraction, the *ratio*, of the mean brightness of its pixels that are
not transparent.  Brightness and mean are whole numbers, rounded down, and so is the threshold; a
bitmap with no visible pixel has threshold zero.  The product with the ratio is taken in double
precision, which holds it exactly.

A ratio is any single.  The ones that the filter is configured with (`SilhouetteRule`) lie between
zero and one, not-a-number excepted, which makes the threshold zero.
-/
import StatusIcon.Binary.Basic
import StatusIcon.Bitmap

set_option autoImplicit false

namespace StatusIcon

namespace Ratio

/-- The single nearest to four fifths. -/
def default : Single := Binary.ofQuotient false 8 10

/-- The nearer of zero and one for a ratio that is not between them. -/
def clamp (ratio : Single) : Single := ratio.clamp (.zero false) (.ofNat 1)

theorem clamp_clamp (ratio : Single) : clamp (clamp ratio) = clamp ratio := by
  have low : clamp (.zero false) = .zero false := by decide +kernel
  have high : clamp (.ofNat 1) = .ofNat 1 := by decide +kernel
  by_cases below : ratio.lt (.zero false) = true
  · have h : clamp ratio = .zero false := by simp [clamp, Binary.clamp, below]
    rw [h, low]
  · by_cases above : Binary.lt (.ofNat 1) ratio = true
    · have h : clamp ratio = .ofNat 1 := by simp [clamp, Binary.clamp, below, above]
      rw [h, high]
    · have h : clamp ratio = ratio := by simp [clamp, Binary.clamp, below, above]
      rw [h, h]

end Ratio

/-- How the filter is configured: with a ratio that is clamped already. -/
structure SilhouetteRule where
  thresholdRatio : Single
  clamped : Ratio.clamp thresholdRatio = thresholdRatio

namespace SilhouetteRule

def ofRatio (ratio : Single) : SilhouetteRule := ⟨Ratio.clamp ratio, Ratio.clamp_clamp ratio⟩

def default : SilhouetteRule := ofRatio Ratio.default

end SilhouetteRule

namespace Bitmap

/-- The brightness of each pixel that is not transparent. -/
def brightnesses (b : Bitmap) : List Nat :=
  (b.pixels.toList.filter (!·.isTransparent)).map fun p => p.channelSum / 3

/-- The mean brightness of the pixels that are not transparent, if there are any. -/
def meanBrightness? (b : Bitmap) : Option Nat :=
  match b.brightnesses with
  | [] => none
  | values => some (values.foldl (· + ·) 0 / values.length)

/-- The threshold at a ratio, at most `2 ^ 32 - 1`. -/
def threshold (b : Bitmap) (ratio : Single) : Nat :=
  match b.meanBrightness? with
  | none => 0
  | some mean => ((Binary.ofNat mean : Double).mul ratio.convert).wholePart 0xFFFFFFFF

end Bitmap

end StatusIcon
