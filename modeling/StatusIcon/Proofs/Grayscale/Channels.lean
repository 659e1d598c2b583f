/-
# StatusIcon.Proofs.Grayscale.Channels -- the channels count alike

A bitmap whose colour channels are exchanged, in the same way for every pixel, is as grey as before.
A pixel is judged by all pairs of its channels (`GrayscaleRule.acceptsPixel_iff`), and the copy that
large bitmaps are judged by is made channel by channel, so that exchanging channels and copying can
be done in either order (`Bitmap.resample_permute`).  What the arithmetic of the copy comes to plays
no part in this, only that it is the same for every channel.

If the channels are equal already, they stay equal in the copy, and no difference is found
(`Bitmap.isGrayscale_channels`).
-/
import Mathlib.Logic.Equiv.Basic
import StatusIcon.Proofs.Silhouette.Pixels
import StatusIcon.Proofs.Silhouette.Projection

set_option autoImplicit false

namespace StatusIcon

open Equiv (Perm)

/-! ## Pixels -/

namespace Pixel

/-- Each channel takes the value that another one had, and alpha stays. -/
def permute (σ : Perm Channel) (p : Pixel) : Pixel :=
  ofChannels (fun c => p.channel (σ c)) p.alpha

theorem permute_ofChannels (σ : Perm Channel) (colour : Channel → UInt8) (alpha : UInt8) :
    (ofChannels colour alpha).permute σ = ofChannels (fun c => colour (σ c)) alpha := by
  simp only [permute, channel_ofChannels, alpha_ofChannels]

theorem permute_unset (σ : Perm Channel) : unset.permute σ = unset :=
  permute_ofChannels σ (fun _ => 0) 0

end Pixel

namespace GrayscaleRule

variable (r : GrayscaleRule) (p : Pixel)

theorem channelDistance_comm (a b : UInt8) : channelDistance a b = channelDistance b a := by
  unfold channelDistance
  omega

/-- A pixel is accepted if it is hardly visible or if no two of its channels are far apart. -/
theorem acceptsPixel_iff :
    r.acceptsPixel p = true ↔
      p.alpha < r.alphaTolerance ∨
        ∀ c d, channelDistance (p.channel c) (p.channel d) < r.tolerance.toNat := by
  simp only [acceptsPixel, Bool.or_eq_true, Bool.and_eq_true, decide_eq_true_eq]
  refine or_congr_right ⟨?_, fun near => ⟨⟨near .red .green, near .red .blue⟩, near .green .blue⟩⟩
  rintro ⟨⟨redGreen, redBlue⟩, greenBlue⟩ c d
  -- a channel is not apart from itself, and the other pairs are these, in either order
  have tolerant : 0 < r.tolerance.toNat := by omega
  cases c <;> cases d <;> simp only [Pixel.channel, channelDistance_self] <;>
    first
    | assumption
    | (rw [channelDistance_comm]; assumption)

theorem acceptsPixel_permute (σ : Perm Channel) :
    r.acceptsPixel (p.permute σ) = r.acceptsPixel p := by
  rw [Bool.eq_iff_iff, acceptsPixel_iff, acceptsPixel_iff]
  simp only [Pixel.permute, Pixel.channel_ofChannels, Pixel.alpha_ofChannels]
  refine or_congr_right ⟨fun near c d => ?_, fun near c d => near (σ c) (σ d)⟩
  simpa using near (σ.symm c) (σ.symm d)

end GrayscaleRule

/-! ## Bitmaps -/

namespace Bitmap

/-- The channels are exchanged in the same way for every pixel. -/
def permute (σ : Perm Channel) (b : Bitmap) : Bitmap :=
  ⟨b.width, b.height, b.pixels.map (Pixel.permute σ), by rw [Array.size_map, b.size_eq]⟩

variable (σ : Perm Channel) (b : Bitmap)

theorem permute_filled (width height : Nat) (p : Pixel) :
    (filled width height p).permute σ = filled width height (p.permute σ) := by
  simp only [permute, filled, Array.map_replicate]

theorem channelAt_permute (width height : Nat) (value : Pixel → UInt8) :
    (b.permute σ).channelAt width height value =
      b.channelAt width height fun p => value (p.permute σ) := by
  simp only [channelAt, permute, Array.map_map, Function.comp_def]

theorem pixelAt_permute (width height i : Nat) :
    (b.permute σ).pixelAt width height i = (b.pixelAt width height i).permute σ := by
  unfold pixelAt
  rw [Pixel.permute_ofChannels]
  simp only [channelAt_permute, Pixel.permute, Pixel.channel_ofChannels, Pixel.alpha_ofChannels]

/-- Channels can be exchanged before or after. -/
theorem resample_permute (width height : Nat) :
    (b.permute σ).resample width height = (b.resample width height).permute σ := by
  by_cases none : b.width = 0 ∨ b.height = 0
  · have empty : (b.permute σ).resample width height = filled width height .unset := if_pos none
    rw [empty, resample_of_empty none, permute_filled, Pixel.permute_unset]
  by_cases same : b.width = width ∧ b.height = height
  · have kept : (b.permute σ).resample width height = b.permute σ := resample_of_same none same
    rw [kept, resample_of_same none same]
  · have copied := resample_of_other (b := b.permute σ) none same
    rw [copied, resample_of_other none same]
    simp only [pixelAt_permute]
    simp only [permute, Array.map_ofFn, Function.comp_def]

theorem compact_permute (r : GrayscaleRule) :
    r.compact (b.permute σ) = (r.compact b).permute σ := by
  -- both have the same sides, so both are copied or neither is
  have same : r.Copies (b.permute σ) ↔ r.Copies b := Iff.rfl
  by_cases copies : r.Copies b
  · rw [GrayscaleRule.compact_of_copies (same.mpr copies),
      GrayscaleRule.compact_of_copies copies, resample_permute]
  · rw [GrayscaleRule.compact_of_not_copies (same.not.mpr copies),
      GrayscaleRule.compact_of_not_copies copies]

theorem isGrayscale_permute (r : GrayscaleRule) :
    (b.permute σ).isGrayscale r = b.isGrayscale r := by
  unfold isGrayscale
  rw [compact_permute]
  simp only [permute, Array.all_map, Function.comp_def, GrayscaleRule.acceptsPixel_permute]

/-- **The channels count alike.**  However the colour channels are exchanged, a bitmap is as grey as
before.  A bitmap of any size whose pixels have three equal channels is grey as soon as the rule
tolerates any difference, and then every silhouette is. -/
theorem isGrayscale_channels (b : Bitmap) (r : GrayscaleRule) :
    (∀ σ, (b.permute σ).isGrayscale r = b.isGrayscale r) ∧
      (1 ≤ r.tolerance → b.IsGrey → b.isGrayscale r = true) ∧
      (1 ≤ r.tolerance → ∀ ratio out, (b.silhouette ratio).value = .ok out →
        out.isGrayscale r = true) := by
  refine ⟨fun σ => isGrayscale_permute σ b r, fun tolerant grey => grey.isGrayscale tolerant, ?_⟩
  intro tolerant ratio out drawn
  obtain ⟨shape, -⟩ := silhouette_silhouette drawn
  exact shape.isGrey.isGrayscale tolerant

/-- Orange, with more columns than the side of a copy. -/
def sash : Bitmap := filled 65 1 ⟨240, 120, 0, 255⟩

/-- Grey of the same size, hardly visible. -/
def fog : Bitmap := filled 65 1 ⟨90, 90, 90, 7⟩

theorem isGrayscale_channels_fog :
    let blueFirst := Equiv.swap Channel.red Channel.blue
    (sash.permute blueFirst).isGrayscale {} = sash.isGrayscale {} ∧
      sash.permute blueFirst = filled 65 1 ⟨0, 120, 240, 255⟩ ∧
      sash.isGrayscale { compactSize := 65 } = false ∧
      (sash.permute blueFirst).isGrayscale { compactSize := 65 } = false ∧
      fog.IsGrey ∧ fog.isGrayscale { tolerance := 1, alphaTolerance := 0 } = true ∧
      ∃ out, (corner.silhouette Ratio.default).value = .ok out ∧
        out.isGrayscale { tolerance := 1 } = true := by
  -- as large as the side, the sash is not copied
  have colourful : sash.isGrayscale { compactSize := 65 } = false := by
    rw [isGrayscale_eq_all]
    rfl
  have grey : fog.IsGrey := isGrey_filled 65 1 ⟨rfl, rfl⟩
  obtain ⟨out, drawn⟩ := exists_value_silhouette (b := corner) (.inl ⟨by decide, by decide⟩)
    Ratio.default
  exact ⟨(isGrayscale_channels sash {}).1 _, permute_filled _ 65 1 _, colourful,
    ((isGrayscale_channels sash _).1 _).trans colourful, grey,
    (isGrayscale_channels fog _).2.1 (by decide) grey, out, drawn,
    (isGrayscale_channels corner _).2.2 (by decide) _ out drawn⟩

end Bitmap

end StatusIcon
