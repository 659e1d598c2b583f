/-
# StatusIcon.Grayscale.Resample -- other sides for a bitmap

A bitmap is brought to other sides channel by channel, first along its columns and then along its
rows.  A new sample is the weighted mean of the old ones under a triangle, whose foot is two samples
wide on the coarser of the two grids (`windows`).  Sums and weights are single-precision numbers,
and only the second step rounds to bytes.

All channels go through the same operations in the same order (`Bitmap.resample`), so equal channels
stay equal.  A bitmap without pixels becomes one of unset pixels.
-/
import StatusIcon.Bitmap

set_option autoImplicit false

namespace StatusIcon

/-- Some samples that follow each other, and how much each one counts. -/
structure Window where
  first : Nat
  weights : List Float32

namespace Window

def triangle (x : Float32) : Float32 := if x.abs < 1 then 1 - x.abs else 0

/-- The window of the new sample `i` when `length` samples become `count`. -/
def around (length count i : Nat) : Window :=
  let ratio := Float32.ofNat length / Float32.ofNat count
  let stretch := if ratio < 1 then 1 else ratio
  let place := (Float32.ofNat i + 0.5) * ratio
  let first := min (place - stretch).floor.toUInt64.toNat (length - 1)
  let finish := min (max (place + stretch).ceil.toUInt64.toNat (first + 1)) length
  let center := place - 0.5
  let weights := (List.range' first (finish - first)).map fun j =>
    triangle ((Float32.ofNat j - center) / stretch)
  let sum := weights.foldl (· + ·) 0
  ⟨first, weights.map (· / sum)⟩

/-- The windows of all new samples. -/
def all (length count : Nat) : List Window := (List.range count).map (around length count)

/-- The weighted sum of samples, from the first one on. -/
def blend (w : Window) (sample : Nat → Float32) : Float32 :=
  (w.weights.foldl (fun (sum, i) weight => (sum + sample i * weight, i + 1)) (0, w.first)).1

end Window

namespace Resample

/-- The nearest byte, a half away from zero. -/
def toByte (x : Float32) : UInt8 :=
  let bounded : Float32 := if x < 0 then 0 else if 255 < x then 255 else x
  bounded.round.toUInt8

/-- One channel of a bitmap `width` by `height`, at sides `newWidth` by `newHeight`. -/
def channel (width height newWidth newHeight : Nat) (samples : Array UInt8) : Array UInt8 :=
  let rows := (Window.all height newHeight).map fun w =>
    ((List.range width).map fun x =>
      w.blend fun y => (samples.getD (y * width + x) 0).toFloat32).toArray
  let windows := Window.all width newWidth
  (rows.flatMap fun row => windows.map fun w => toByte (w.blend fun x => row.getD x 0)).toArray

end Resample

/-- The bitmap at other sides.  There is one for all sides, also where the bytes of so many pixels
would not fit into memory; a program that has to lay them out stops there. -/
def Bitmap.resample (b : Bitmap) (width height : Nat) : Bitmap :=
  if b.width = 0 ∨ b.height = 0 then .filled width height .unset
  else if b.width = width ∧ b.height = height then b
  else
    let channel (value : Pixel → UInt8) : Array UInt8 :=
      Resample.channel b.width b.height width height (b.pixels.map value)
    let red := channel Pixel.red
    let green := channel Pixel.green
    let blue := channel Pixel.blue
    let alpha := channel Pixel.alpha
    ⟨width, height, Array.ofFn fun i : Fin (width * height) =>
      ⟨red.getD i 0, green.getD i 0, blue.getD i 0, alpha.getD i 0⟩, by simp⟩

end StatusIcon
