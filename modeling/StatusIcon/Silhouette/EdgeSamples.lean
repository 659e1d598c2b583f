/-
# StatusIcon.Silhouette.EdgeSamples -- four places near the edges

Whether an icon sits on a plate is judged by four pixels, one near the middle of each edge.  Their
offsets into the row-major pixels are

* top: one and a half rows from the beginning,
* bottom: one and a half rows before the end,
* left: two pixels into the row above the middle,
* right: the last pixel of that row.

In very small bitmaps an offset falls outside.  The first one that does, in this order, is reported,
and the bitmap cannot be judged.  Offsets that are located are offsets of pixels by their type.
-/
import StatusIcon.Bitmap
import StatusIcon.Icon.Error

set_option autoImplicit false

namespace StatusIcon

/-- Where the offset of an edge's sample is, or would be, in a bitmap of this size. -/
def Edge.offset (edge : Edge) (width height : Nat) : Int :=
  let w : Int := width
  let h : Int := height
  match edge with
  | .top => w * 3 / 2
  | .bottom => w * h - w * 3 / 2
  | .left => h / 2 * w - w + 2
  | .right => h / 2 * w - 1

/-- The offset of an edge's sample, if there is a pixel. -/
def Edge.locate (edge : Edge) (width height : Nat) : Except IconError (Fin (width * height)) :=
  let offset := edge.offset width height
  if h : 0 ≤ offset ∧ offset < ((width * height : Nat) : Int) then
    .ok ⟨offset.toNat, by omega⟩
  else .error (.sampleOutOfBounds edge offset width height)

/-- The offsets of the four samples of a bitmap of this size. -/
structure EdgeSamples (width height : Nat) where
  top : Fin (width * height)
  bottom : Fin (width * height)
  left : Fin (width * height)
  right : Fin (width * height)
  deriving DecidableEq, Repr

namespace EdgeSamples

def locate (width height : Nat) : Except IconError (EdgeSamples width height) := do
  return {
    top := ← Edge.top.locate width height
    bottom := ← Edge.bottom.locate width height
    left := ← Edge.left.locate width height
    right := ← Edge.right.locate width height }

def toList {width height : Nat} (s : EdgeSamples width height) : List (Fin (width * height)) :=
  [s.top, s.bottom, s.left, s.right]

/-- The sampled pixels of a bitmap. -/
def pixels {b : Bitmap} (s : EdgeSamples b.width b.height) : List Pixel :=
  s.toList.map fun i => b.pixels[i.cast b.size_eq.symm]

end EdgeSamples

end StatusIcon
