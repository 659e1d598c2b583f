/-
# StatusIcon.Farbfeld -- images of four wide channels

Eight letters, two sides of four bytes each, and then for each pixel four numbers of two bytes.  A
header that breaks off is malformed, pixels that break off are an input failure.  Each channel is
rounded to the nearest byte.
-/
import StatusIcon.Bitmap
import StatusIcon.Png.Header

set_option autoImplicit false

namespace StatusIcon.Farbfeld

open Image (Error)

def signature : List UInt8 := [0x66, 0x61, 0x72, 0x62, 0x66, 0x65, 0x6C, 0x64]

/-- A channel of two bytes as one byte. -/
def toByte (a b : UInt8) : UInt8 := UInt8.ofNat ((a.toNat * 256 + b.toNat + 128) / 257)

def pixels : List UInt8 → List Pixel
  | r :: r' :: g :: g' :: b :: b' :: a :: a' :: rest =>
    ⟨toByte r r', toByte g g', toByte b b', toByte a a'⟩ :: pixels rest
  | _ => []

def read (s : List UInt8) : Except Error Bitmap :=
  if s.take 8 ≠ signature then .error .malformed
  else
    match s.drop 8 with
    | a :: b :: c :: d :: e :: f :: g :: h :: rest => do
      let width := Png.number a b c d
      let height := Png.number e f g h
      if 0x10000000000000000 ≤ width * height * 8 then .error .unsupported
      else
        Image.checkSize width height 8
        let bytes := rest.take (width * height * 8)
        if bytes.length < width * height * 8 then .error .io
        else
          match Bitmap.ofPixels? width height (pixels bytes).toArray with
          | some bitmap => .ok bitmap
          | none => .error .malformed
    | _ => .error .malformed

end StatusIcon.Farbfeld
