/-
# StatusIcon.Proofs.Silhouette.Darkening -- what a larger ratio changes

A larger ratio makes a larger threshold (`Bitmap.threshold_mono`), and a larger threshold makes
pixels darker and never brighter (`Pixel.darkens`).  So a light plate may be lost and a dark one
gained, and a transparent edge stays what it is (`EdgeProfile.ofPixels_darkens`).

What a silhouette keeps depends on the tone of the first visible pixel.  If that is dark already,
more is kept; if it stays bright, less is kept; and if it turns from bright to dark, the two
silhouettes together show every visible pixel (`Bitmap.silhouette_darkens`).
-/
import StatusIcon.Proofs.Silhouette.Profile
import StatusIcon.Proofs.Silhouette.Threshold

set_option autoImplicit false

namespace StatusIcon

/-! ## Tones -/

/-- What can become of the kind of a pixel when the threshold grows. -/
inductive Tone.Darkens : Option Tone → Option Tone → Prop where
  | stays (kind : Option Tone) : Darkens kind kind
  | turns : Darkens (some .bright) (some .dark)

theorem Tone.Darkens.eq_bright {kind : Option Tone} (change : Darkens kind (some .bright)) :
    kind = some .bright := by
  cases change
  rfl

theorem Tone.Darkens.eq_dark {kind : Option Tone} (change : Darkens (some .dark) kind) :
    kind = some .dark := by
  cases change
  rfl

section

variable {s t : Nat}

theorem Pixel.darkens (le : s ≤ t) (p : Pixel) : Tone.Darkens (p.tone? s) (p.tone? t) := by
  cases hidden : p.isTransparent with
  | true =>
      rw [(p.tone?_eq_none_iff s).mpr hidden, (p.tone?_eq_none_iff t).mpr hidden]
      exact .stays none
  | false =>
      rw [Pixel.tone?_of_visible hidden, Pixel.tone?_of_visible hidden]
      unfold Tone.ofSum
      by_cases low : p.channelSum ≤ 3 * s
      · have high : p.channelSum ≤ 3 * t := by omega
        rw [if_pos low, if_pos high]
        exact .stays _
      · rw [if_neg low]
        by_cases high : p.channelSum ≤ 3 * t
        · rw [if_pos high]
          exact .turns
        · rw [if_neg high]
          exact .stays _

/-! ## Profiles -/

/-- What can become of a profile when the threshold grows. -/
structure EdgeProfile.Darkens (before after : EdgeProfile) : Prop where
  colorReversal : after.colorReversal = true → before.colorReversal = true
  hasPadding : before.hasPadding = true → after.hasPadding = true
  transparent : before.transparent = after.transparent

theorem EdgeProfile.ofPixels_darkens (le : s ≤ t) (samples : List Pixel) :
    (ofPixels s samples).Darkens (ofPixels t samples) := by
  refine ⟨?_, ?_, ?_⟩
  · show (ofPixels t samples).tells (some .bright) = true →
      (ofPixels s samples).tells (some .bright) = true
    rw [tells_ofPixels, tells_ofPixels]
    intro bright p member
    have change := p.darkens le
    rw [bright p member] at change
    exact change.eq_bright
  · show (ofPixels s samples).tells (some .dark) = true →
      (ofPixels t samples).tells (some .dark) = true
    rw [tells_ofPixels, tells_ofPixels]
    intro dark p member
    have change := p.darkens le
    rw [dark p member] at change
    exact change.eq_dark
  · show (ofPixels s samples).tells none = (ofPixels t samples).tells none
    rw [Bool.eq_iff_iff, tells_ofPixels, tells_ofPixels]
    simp only [Pixel.tone?_eq_none_iff]

/-! ## Silhouettes -/

namespace Bitmap

open Silhouette

variable {b : Bitmap} {x y : Nat} {first : Pixel}

/-- Beside a dark first pixel a larger threshold keeps more. -/
theorem FirstVisible.kept_mono (leads : b.FirstVisible x y first) (le : s ≤ t)
    (dark : first.channelSum ≤ 3 * s) {p : Pixel} (kept : b.Kept s p) : b.Kept t p := by
  rw [leads.kept_iff] at kept ⊢
  refine ⟨kept.1, ?_⟩
  have low := kept.2.mpr dark
  omega

/-- Beside a first pixel that stays bright a larger threshold keeps less. -/
theorem FirstVisible.kept_anti (leads : b.FirstVisible x y first) (le : s ≤ t)
    (bright : 3 * t < first.channelSum) {p : Pixel} (kept : b.Kept t p) : b.Kept s p := by
  rw [leads.kept_iff] at kept ⊢
  refine ⟨kept.1, ?_⟩
  have high := kept.2
  omega

/-- Where the first pixel turns dark, a visible pixel is kept before or after. -/
theorem FirstVisible.kept_or_kept (leads : b.FirstVisible x y first)
    (bright : 3 * s < first.channelSum) (dark : first.channelSum ≤ 3 * t) {p : Pixel}
    (seen : p.isTransparent = false) : b.Kept s p ∨ b.Kept t p := by
  rw [leads.kept_iff, leads.kept_iff]
  by_cases low : p.channelSum ≤ 3 * t
  · exact .inr ⟨seen, iff_of_true low dark⟩
  · exact .inl ⟨seen, iff_of_false (by omega) (by omega)⟩

/-! ## Ratios -/

theorem threshold_mono {r r' : Single} {v v' : ℚ} (valued : r.value? = some v)
    (valued' : r'.value? = some v') (le : v ≤ v') : b.threshold r ≤ b.threshold r' := by
  rw [threshold_of_value? valued, threshold_of_value? valued']
  have product : (b.mean : ℚ) * v ≤ b.mean * v' := mul_le_mul_of_nonneg_left le (Nat.cast_nonneg _)
  exact min_le_min_right _ (Nat.floor_le_floor product)

/-- **What a larger ratio changes.**  For a bitmap whose edges can be sampled and two ratios in
order, the thresholds are in order too, and a pixel that is dark stays dark.  The edges may stop to
be a light plate and may become a dark one, and they are transparent for both or for neither.  If
the first visible pixel is dark for the smaller ratio, the larger one keeps all that the smaller one
keeps; if it is bright for the larger ratio, the smaller one keeps all that the larger one keeps;
and if it is bright for the smaller and dark for the larger one, every visible pixel is white in one
of the silhouettes at least. -/
theorem silhouette_darkens (b : Bitmap) (samples : EdgeSamples b.width b.height) (r r' : Single)
    (v v' : ℚ) (located : EdgeSamples.locate b.width b.height = .ok samples)
    (valued : r.value? = some v) (valued' : r'.value? = some v') (le : v ≤ v') :
    b.threshold r ≤ b.threshold r' ∧
    (∀ x y p, b.pixel? x y = some p → p.isTransparent = false →
      p.channelSum ≤ 3 * b.threshold r → p.channelSum ≤ 3 * b.threshold r') ∧
    (∃ before after, EdgeProfile.classify b (b.threshold r) = .ok before ∧
      EdgeProfile.classify b (b.threshold r') = .ok after ∧ before.Darkens after) ∧
    ∃ out out', (b.silhouette r).value = .ok out ∧ (b.silhouette r').value = .ok out' ∧
      ∀ column row first, b.FirstVisible column row first →
        (first.channelSum ≤ 3 * b.threshold r →
          ∀ x y, out.pixel? x y = some .white → out'.pixel? x y = some .white) ∧
        (3 * b.threshold r' < first.channelSum →
          ∀ x y, out'.pixel? x y = some .white → out.pixel? x y = some .white) ∧
        (3 * b.threshold r < first.channelSum → first.channelSum ≤ 3 * b.threshold r' →
          ∀ x y p, b.pixel? x y = some p → p.isTransparent = false →
            out.pixel? x y = some .white ∨ out'.pixel? x y = some .white) := by
  have grows : b.threshold r ≤ b.threshold r' := threshold_mono valued valued' le
  refine ⟨grows, fun x y p _ _ dark => by omega, ?_, ?_⟩
  · exact ⟨_, _, EdgeProfile.classify_eq_ok_iff.mpr ⟨samples, located, rfl⟩,
      EdgeProfile.classify_eq_ok_iff.mpr ⟨samples, located, rfl⟩,
      EdgeProfile.ofPixels_darkens grows samples.pixels⟩
  · rw [value_silhouette, value_silhouette, located]
    refine ⟨_, _, rfl, rfl, fun column row first leads => ⟨?_, ?_, ?_⟩⟩
    · intro dark x y white
      obtain ⟨p, place, kept⟩ := (pixel?_draw_eq_white_iff _ _ x y).mp white
      exact (pixel?_draw_eq_white_iff _ _ x y).mpr ⟨p, place, leads.kept_mono grows dark kept⟩
    · intro bright x y white
      obtain ⟨p, place, kept⟩ := (pixel?_draw_eq_white_iff _ _ x y).mp white
      exact (pixel?_draw_eq_white_iff _ _ x y).mpr ⟨p, place, leads.kept_anti grows bright kept⟩
    · intro bright dark x y p place seen
      rw [pixel?_draw_eq_white_iff, pixel?_draw_eq_white_iff]
      rcases leads.kept_or_kept bright dark seen with kept | kept
      · exact .inl ⟨p, place, kept⟩
      · exact .inr ⟨p, place, kept⟩

theorem silhouette_darkens_corner :
    EdgeSamples.locate 2 2 = .ok ⟨3, 1, 2, 1⟩ ∧
      Ratio.default.value? = some (13421773 / 2 ^ 24) ∧ (.ofNat 1 : Single).value? = some 1 ∧
      corner.threshold Ratio.default = 92 ∧ corner.threshold (.ofNat 1) = 116 ∧
      ∃ out out', (corner.silhouette Ratio.default).value = .ok out ∧
        (corner.silhouette (.ofNat 1)).value = .ok out' ∧
        (out.pixel? 1 1 = some .white ∨ out'.pixel? 1 1 = some .white) := by
  have located : EdgeSamples.locate 2 2 = .ok ⟨3, 1, 2, 1⟩ := rfl
  have one : (.ofNat 1 : Single).value? = some 1 := by
    have whole : Binary.Format.single.Represents ((1 : Nat) : ℚ) :=
      Binary.represents_natCast Binary.Format.isWide_single (by decide)
    exact_mod_cast Binary.value?_ofNat whole
  have low : corner.threshold Ratio.default = 92 := by decide +kernel
  have high : corner.threshold (.ofNat 1) = 116 := by decide +kernel
  obtain ⟨-, -, -, out, out', drawn, drawn', kept⟩ :=
    silhouette_darkens corner _ _ _ _ _ located Ratio.value?_default one (by norm_num)
  have turns := (kept 1 0 _ firstVisible_corner).2.2
  rw [low, high] at turns
  exact ⟨located, Ratio.value?_default, one, low, high, out, out', drawn, drawn',
    turns (by decide) (by decide) 1 1 _ rfl rfl⟩

end Bitmap

end

end StatusIcon
