/-
# StatusIcon.Png.Header -- what a file says about its pixels

The header chunk has thirteen bytes: the sides, the bits of a sample, the kind of colour, and one
byte each for compression, filtering and interlacing.  Sides are at least one.  Not every kind of
colour comes in every depth:

* grey in 1, 2, 4, 8 or 16 bits;
* an index into a palette in 1, 2, 4 or 8 bits;
* red, green and blue, and either of the kinds with alpha, in 8 or 16 bits.
-/
import StatusIcon.Image.Error

set_option autoImplicit false

namespace StatusIcon.Png

inductive ColorKind where
  | grey
  | rgb
  | indexed
  | greyAlpha
  | rgba
  deriving DecidableEq, Repr

namespace ColorKind

def channels : ColorKind → Nat
  | .grey => 1
  | .rgb => 3
  | .indexed => 1
  | .greyAlpha => 2
  | .rgba => 4

def code : ColorKind → UInt8
  | .grey => 0
  | .rgb => 2
  | .indexed => 3
  | .greyAlpha => 4
  | .rgba => 6

def ofCode? (n : UInt8) : Option ColorKind :=
  [ColorKind.grey, .rgb, .indexed, .greyAlpha, .rgba].find? fun k => k.code == n

def depths : ColorKind → List Nat
  | .grey => [1, 2, 4, 8, 16]
  | .indexed => [1, 2, 4, 8]
  | _ => [8, 16]

end ColorKind

structure Header where
  width : Nat
  height : Nat
  depth : Nat
  kind : ColorKind
  interlaced : Bool
  deriving DecidableEq, Repr

/-- The number of four bytes, the high byte first. -/
def number (a b c d : UInt8) : Nat :=
  ((a.toNat * 256 + b.toNat) * 256 + c.toNat) * 256 + d.toNat

/-- The four bytes of a number below `2 ^ 32`. -/
def fourBytes (n : Nat) : List UInt8 :=
  [UInt8.ofNat (n / 16777216), UInt8.ofNat (n / 65536 % 256), UInt8.ofNat (n / 256 % 256),
    UInt8.ofNat (n % 256)]

namespace Header

def bitsPerPixel (h : Header) : Nat := h.kind.channels * h.depth

/-- The bytes of a row of `width` pixels, which begins at a byte. -/
def rowBytes (h : Header) (width : Nat) : Nat := (width * h.bitsPerPixel + 7) / 8

/-- How far back in a row the byte stands that filters call the one to the left. -/
def stride (h : Header) : Nat := max 1 (h.bitsPerPixel / 8)

def ofBytes? : List UInt8 → Option Header
  | [a, b, c, d, e, f, g, h, depth, kind, compression, filtering, interlacing] =>
    let width := number a b c d
    let height := number e f g h
    match ColorKind.ofCode? kind with
    | none => none
    | some kind =>
      if width = 0 || height = 0 || !kind.depths.contains depth.toNat || compression ≠ 0 ||
          filtering ≠ 0 || 1 < interlacing then none
      else some ⟨width, height, depth.toNat, kind, interlacing == 1⟩
  | _ => none

def toBytes (h : Header) : List UInt8 :=
  fourBytes h.width ++ fourBytes h.height ++
    [UInt8.ofNat h.depth, h.kind.code, 0, 0, if h.interlaced then 1 else 0]

end Header

end StatusIcon.Png
