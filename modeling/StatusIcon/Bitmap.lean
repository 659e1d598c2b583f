/-
# StatusIcon.Bitmap -- pixels and bitmaps

A bitmap is a rectangle of pixels in row-major order; each pixel has three colour channels and a
straight (not premultiplied) alpha, one byte each.  Either side may be zero: an empty bitmap is a
bitmap.  The number of pixels is part of the type (`Bitmap.size_eq`), so an offset below
`width * height` always names a pixel.

What the rules about icons look at is small:

* a pixel is *transparent* when its alpha is zero, whatever colour it carries;
* its *channel sum* is `red + green + blue`, at most 765 (`Pixel.channelSum_le`).
-/

set_option autoImplicit false

namespace StatusIcon

/-- A colour with straight alpha, one byte a channel. -/
structure Pixel where
  red : UInt8
  green : UInt8
  blue : UInt8
  alpha : UInt8
  deriving DecidableEq, Repr, Inhabited

namespace Pixel

/-- Opaque white, the colour of a silhouette. -/
def white : Pixel := ⟨255, 255, 255, 255⟩

/-- The pixel of an empty place: no colour, no alpha. -/
def unset : Pixel := ⟨0, 0, 0, 0⟩

def isTransparent (p : Pixel) : Bool := p.alpha == 0

def channelSum (p : Pixel) : Nat := p.red.toNat + p.green.toNat + p.blue.toNat

theorem channelSum_le (p : Pixel) : p.channelSum ≤ 765 := by
  have r := p.red.toNat_lt
  have g := p.green.toNat_lt
  have b := p.blue.toNat_lt
  simp only [channelSum]
  omega

end Pixel

/-- The sides of a rectangle, counted in pixels. -/
structure Extent where
  width : Nat
  height : Nat
  deriving DecidableEq, Repr

namespace Extent

/-- The number of pixels. -/
def area (e : Extent) : Nat := e.width * e.height

/-- Some side is longer than `limit`. -/
def exceeds (e : Extent) (limit : Nat) : Bool := limit < e.width || limit < e.height

end Extent

/-- A rectangle of pixels in row-major order. -/
structure Bitmap where
  width : Nat
  height : Nat
  pixels : Array Pixel
  size_eq : pixels.size = width * height
  deriving DecidableEq, Repr

namespace Bitmap

def extent (b : Bitmap) : Extent := ⟨b.width, b.height⟩

/-- Every pixel is `p`. -/
def filled (width height : Nat) (p : Pixel) : Bitmap :=
  ⟨width, height, Array.replicate (width * height) p, by simp⟩

/-- The bitmap of these pixels, when there are as many as the sides ask for. -/
def ofPixels? (width height : Nat) (pixels : Array Pixel) : Option Bitmap :=
  if h : pixels.size = width * height then some ⟨width, height, pixels, h⟩ else none

/-- Another colour for every pixel, by a list as long as the bitmap. -/
def recolour (b : Bitmap) (colours : List Pixel) (same : colours.length = b.pixels.toList.length) :
    Bitmap :=
  ⟨b.width, b.height, colours.toArray, by simp [same, b.size_eq]⟩

end Bitmap

end StatusIcon
