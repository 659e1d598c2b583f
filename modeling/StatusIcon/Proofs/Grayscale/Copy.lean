/-
# StatusIcon.Proofs.Grayscale.Copy -- which bitmaps are copied, and what a copy is made of

A large bitmap is judged by a copy (`GrayscaleRule.Copies`), and every other one as it is.  There
are three kinds of copies.  The copy of a bitmap without pixels has unset pixels
(`resample_of_empty`), and one of the same sides is the bitmap itself (`resample_of_same`).  In
every other copy each channel comes from that channel of the bitmap, in one way for all of them
(`resample_of_other`).
-/
import Mathlib.Tactic.Common
import StatusIcon.Grayscale.Basic

set_option autoImplicit false

namespace StatusIcon

/-- A colour channel. -/
inductive Channel where
  | red
  | green
  | blue
  deriving DecidableEq, Repr

namespace Pixel

def channel (p : Pixel) : Channel → UInt8
  | .red => p.red
  | .green => p.green
  | .blue => p.blue

/-- The pixel with these colour channels. -/
def ofChannels (colour : Channel → UInt8) (alpha : UInt8) : Pixel :=
  ⟨colour .red, colour .green, colour .blue, alpha⟩

@[simp] theorem channel_ofChannels (colour : Channel → UInt8) (alpha : UInt8) (c : Channel) :
    (ofChannels colour alpha).channel c = colour c := by
  cases c <;> rfl

@[simp] theorem alpha_ofChannels (colour : Channel → UInt8) (alpha : UInt8) :
    (ofChannels colour alpha).alpha = alpha := rfl

end Pixel

namespace GrayscaleRule

variable {r : GrayscaleRule} {b : Bitmap}

/-- The bitmap is judged by a copy. -/
def Copies (r : GrayscaleRule) (b : Bitmap) : Prop :=
  (r.compactSize.toNat < b.width ∨ r.compactSize.toNat < b.height) ∧ 0 < r.compactSize.toNat

theorem copies_iff :
    (b.extent.exceeds r.compactSize.toNat && decide (0 < r.compactSize.toNat)) = true ↔
      r.Copies b := by
  unfold Extent.exceeds
  simp only [Bool.and_eq_true, Bool.or_eq_true, decide_eq_true_eq]
  exact Iff.rfl

theorem compact_of_copies (copies : r.Copies b) :
    r.compact b = b.resample r.compactSize.toNat r.compactSize.toNat :=
  if_pos (copies_iff.mpr copies)

theorem compact_of_not_copies (stays : ¬ r.Copies b) : r.compact b = b :=
  if_neg (copies_iff.not.mpr stays)

end GrayscaleRule

namespace Bitmap

/-- One channel of a bitmap, brought to other sides. -/
def channelAt (b : Bitmap) (width height : Nat) (value : Pixel → UInt8) : Array UInt8 :=
  Resample.channel b.width b.height width height (b.pixels.map value)

/-- The pixel with an offset at other sides. -/
def pixelAt (b : Bitmap) (width height i : Nat) : Pixel :=
  .ofChannels (fun c => (b.channelAt width height fun p => p.channel c).getD i 0)
    ((b.channelAt width height Pixel.alpha).getD i 0)

variable {b : Bitmap} {width height : Nat}

theorem resample_of_empty (none : b.width = 0 ∨ b.height = 0) :
    b.resample width height = filled width height .unset := if_pos none

theorem resample_of_same (some : ¬ (b.width = 0 ∨ b.height = 0))
    (same : b.width = width ∧ b.height = height) : b.resample width height = b := by
  rw [Bitmap.resample, if_neg some, if_pos same]

/-- Only channels of the bitmap go into the pixels of its copy. -/
theorem resample_of_other (some : ¬ (b.width = 0 ∨ b.height = 0))
    (other : ¬ (b.width = width ∧ b.height = height)) :
    b.resample width height =
      ⟨width, height, Array.ofFn fun i : Fin (width * height) => b.pixelAt width height i,
        by simp⟩ := by
  rw [resample, if_neg some, if_neg other]
  rfl

end Bitmap

end StatusIcon
