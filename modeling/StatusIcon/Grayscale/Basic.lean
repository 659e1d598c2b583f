/-
# StatusIcon.Grayscale.Basic -- icons that have no colour

An icon that is grey already needs no silhouette.  A pixel counts as grey when it is hardly visible
(its alpha is below a tolerance) or when its channels differ pairwise by less than another
tolerance; an icon is grey when all its pixels are.  Large icons are judged by a small square copy.
-/
import StatusIcon.Grayscale.Resample

set_option autoImplicit false

namespace StatusIcon

/-- How grey an icon must be, and the side of the copy that large icons are judged by. -/
structure GrayscaleRule where
  tolerance : UInt8 := 20
  alphaTolerance : UInt8 := 50
  compactSize : UInt32 := 64
  deriving DecidableEq, Repr

/-- How far two channels are apart. -/
def channelDistance (a b : UInt8) : Nat := (a.toNat - b.toNat) + (b.toNat - a.toNat)

namespace GrayscaleRule

def acceptsPixel (r : GrayscaleRule) (p : Pixel) : Bool :=
  decide (p.alpha < r.alphaTolerance) ||
    (channelDistance p.red p.green < r.tolerance.toNat &&
      channelDistance p.red p.blue < r.tolerance.toNat &&
      channelDistance p.green p.blue < r.tolerance.toNat)

/-- The bitmap that is looked at in place of `b`. -/
def compact (r : GrayscaleRule) (b : Bitmap) : Bitmap :=
  let side := r.compactSize.toNat
  if b.extent.exceeds side && 0 < side then b.resample side side else b

end GrayscaleRule

def Bitmap.isGrayscale (b : Bitmap) (r : GrayscaleRule) : Bool :=
  (r.compact b).pixels.all r.acceptsPixel

/-- The same with the pixels in a list, which can be computed. -/
theorem Bitmap.isGrayscale_eq_all (b : Bitmap) (r : GrayscaleRule) :
    b.isGrayscale r = (r.compact b).pixels.toList.all r.acceptsPixel :=
  Array.all_toList.symm

end StatusIcon
