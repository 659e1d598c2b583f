/-
# StatusIcon.Png.Writer -- writing an image file

A bitmap is written with all four channels in eight bits, row by row and without passes, so every
pixel comes back as it was, also the colour under an alpha of zero.  An image without pixels has no
file.

How rows are predicted and how the bytes are packed is up to the writer (`Encoder`): a reader finds
out from the file.  All that a reader relies on is that the packed stream expands to the bytes that
were packed (`Encoder.Lossless`).  The simplest writer, `Encoder.plain`, predicts nothing and stores
the bytes as they are.
-/
import StatusIcon.Bitmap
import StatusIcon.Deflate.Zlib
import StatusIcon.Png.Chunk
import StatusIcon.Png.Sample
import StatusIcon.Png.Scanline

set_option autoImplicit false

namespace StatusIcon.Png

/-- What is left to a writer. -/
structure Encoder where
  /-- The filter of each row of a bitmap. -/
  filter : Bitmap → Nat → Filter
  /-- The compressed stream of some bytes. -/
  compress : List UInt8 → List UInt8

def headerOf (b : Bitmap) : Header := ⟨b.width, b.height, 8, .rgba, false⟩

def pixelBytes (p : Pixel) : List UInt8 := [p.red, p.green, p.blue, p.alpha]

/-- No chunk of image data is longer. -/
def longestData : Nat := 0x7FFFFFFF

/-- The rows of `width` pixels from row `y` on, each behind the byte that names its filter. `above`
is the row before. -/
def rowBytes (filter : Nat → Filter) (width : Nat) :
    Nat → Nat → Array UInt8 → List Pixel → List UInt8
  | 0, _, _, _ => []
  | count + 1, y, above, pixels =>
    let row := (pixels.take width).flatMap pixelBytes
    (filter y).code :: ((filter y).differences 4 above row ++
      rowBytes filter width count (y + 1) row.toArray (pixels.drop width))

namespace Encoder

/-- Expanding what was compressed gives it back. -/
def Lossless (e : Encoder) : Prop :=
  ∀ bytes, Deflate.unzlib (e.compress bytes) = ⟨bytes.toArray, .complete⟩

/-- The compressed rows of a bitmap. -/
def stream (e : Encoder) (b : Bitmap) : List UInt8 :=
  e.compress (rowBytes (e.filter b) b.width b.height 0 #[] b.pixels.toList)

/-- The file of a bitmap that has pixels. -/
def file (e : Encoder) (b : Bitmap) : List UInt8 :=
  signature ++ (chunk .header (headerOf b).toBytes ++
    ((pieces longestData (e.stream b)).flatMap (chunk .data) ++ chunk .finish []))

def write (e : Encoder) (b : Bitmap) : Except Image.Error (List UInt8) :=
  if b.width = 0 || b.height = 0 then .error .io else .ok (e.file b)

/-- Rows are not predicted and the stream is stored. -/
def plain : Encoder := ⟨fun _ _ => .none, Deflate.zlib⟩

end Encoder

end StatusIcon.Png
