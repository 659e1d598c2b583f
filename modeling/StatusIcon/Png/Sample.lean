/-
# StatusIcon.Png.Sample -- from the bytes of a row to pixels

A row is cut into samples, the high bits of a byte first, and the samples into pixels of as many
channels as the kind of colour has.  Every sample becomes a byte:

* fewer than eight bits are stretched, so the greatest value becomes 255;
* sixteen bits are rounded to the nearest of the 256 values.

A transparency chunk makes pixels of one grey or one colour transparent, compared before samples
become bytes, or gives an alpha to each entry of the palette.  A palette with fewer entries than the
transparency has alphas is taken as opaque, and an index past the palette is opaque black.
-/
import StatusIcon.Bitmap
import StatusIcon.Png.Header

set_option autoImplicit false

namespace StatusIcon.Png

/-- What a transparency chunk says, for the kind of colour it stands with. -/
inductive Transparency where
  | opaquePixels
  | key (samples : List Nat)
  | alphas (values : List UInt8)
  deriving DecidableEq, Repr

/-- What a pixel's samples mean. -/
structure Coloring where
  header : Header
  palette : List UInt8
  transparency : Transparency

/-! ## Cutting -/

/-- A byte as `count` samples of `depth` bits. -/
def splitByte (depth count : Nat) (b : UInt8) : List Nat :=
  (List.range count).map fun i => b.toNat >>> (8 - depth * (i + 1)) % Nat.pow 2 depth

/-- Cuts a list into pieces of `size`, the last one shorter if they do not come out even. -/
def pieces {α : Type} (size : Nat) (s : List α) : List (List α) :=
  if size = 0 ∨ s = [] then []
  else s.take size :: pieces size (s.drop size)
  termination_by s.length
  decreasing_by
    rename_i h
    have : s.length ≠ 0 := by
      intro e
      exact h (Or.inr (List.eq_nil_of_length_eq_zero e))
    simp only [List.length_drop]
    omega

/-- The samples of a row; the last byte may hold some that are no part of it. -/
def samples (depth : Nat) (bytes : List UInt8) : List Nat :=
  if depth = 16 then
    (pieces 2 bytes).map fun pair => pair.foldl (fun n b => n * 256 + b.toNat) 0
  else if depth = 8 then bytes.map UInt8.toNat
  else bytes.flatMap (splitByte depth (8 / depth))

/-! ## Colours -/

def toByte (depth sample : Nat) : UInt8 :=
  if depth = 16 then UInt8.ofNat ((sample + 128) / 257)
  else UInt8.ofNat (sample * (255 / (Nat.pow 2 depth - 1)))

namespace Coloring

/-- The colour of a palette entry. -/
def entry (c : Coloring) (index : Nat) : Pixel :=
  let alpha := match c.transparency with
    | .alphas values => if values.length ≤ c.palette.length / 3 then values.getD index 255 else 255
    | _ => 255
  match (c.palette.drop (3 * index)).take 3 with
  | [r, g, b] => ⟨r, g, b, alpha⟩
  | _ => ⟨0, 0, 0, 255⟩

def pixel (c : Coloring) (samples : List Nat) : Pixel :=
  let byte := toByte c.header.depth
  let alpha : UInt8 := if c.transparency = .key samples then 0 else 255
  match c.header.kind, samples with
  | .grey, [v] => ⟨byte v, byte v, byte v, alpha⟩
  | .rgb, [r, g, b] => ⟨byte r, byte g, byte b, alpha⟩
  | .indexed, [i] => c.entry i
  | .greyAlpha, [v, a] => ⟨byte v, byte v, byte v, byte a⟩
  | .rgba, [r, g, b, a] => ⟨byte r, byte g, byte b, byte a⟩
  | _, _ => .unset

/-- The pixels of a row of the given width. -/
def row (c : Coloring) (width : Nat) (bytes : List UInt8) : List Pixel :=
  let channels := c.header.kind.channels
  (pieces channels ((samples c.header.depth bytes).take (width * channels))).map c.pixel

end Coloring

end StatusIcon.Png
