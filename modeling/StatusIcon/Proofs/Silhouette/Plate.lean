/-
# StatusIcon.Proofs.Silhouette.Plate -- a plate is kept or dropped as a whole

The profile and the silhouette judge the pixels apart from each other: the profile takes four of
them by their offsets, the silhouette visits all of them row by row.  Both compare channel sums with
one threshold.  So a sample is drawn by the kind that the profile tells of
(`Bitmap.pixel?_draw_of_tells`), and four samples of one kind get one colour.

On a plate that colour depends on the first visible pixel alone: the samples are white if it has the
tone of the plate, and else they are unset.  Transparent samples are unset
(`Bitmap.silhouette_plate`).
-/
import StatusIcon.Proofs.Silhouette.Profile

set_option autoImplicit false

namespace StatusIcon

/-! ## The tone of a plate -/

namespace EdgeProfile

/-- The pixel has the tone of the plate: it is bright and the plate is light, or both are dark. -/
def SharesTone (profile : EdgeProfile) (threshold : Nat) (p : Pixel) : Prop :=
  (profile.colorReversal = true ∧ 3 * threshold < p.channelSum) ∨
    (profile.hasPadding = true ∧ p.channelSum ≤ 3 * threshold)

theorem isPlated_iff (profile : EdgeProfile) :
    profile.isPlated = true ↔ ∃ tone, profile.tells (some tone) = true := by
  unfold isPlated
  rw [Bool.or_eq_true]
  constructor
  · rintro (dark | bright)
    · exact ⟨.dark, dark⟩
    · exact ⟨.bright, bright⟩
  · rintro ⟨tone, told⟩
    cases tone with
    | dark => exact .inl told
    | bright => exact .inr told

variable {threshold : Nat} {samples : List Pixel} {tone : Tone} {p : Pixel}

/-- Only one tone is told of, so sharing the tone of the plate is having that one. -/
theorem sharesTone_iff (sampled : samples ≠ [])
    (told : (ofPixels threshold samples).tells (some tone) = true)
    (visible : p.isTransparent = false) :
    (ofPixels threshold samples).SharesTone threshold p ↔ p.tone? threshold = some tone := by
  rw [Pixel.tone?_of_visible visible, Option.some.injEq]
  constructor
  · rintro (⟨bright, above⟩ | ⟨dark, below⟩)
    · have same : some tone = some .bright := tells_unique sampled told bright
      cases same
      exact if_neg (Nat.not_le_of_lt above)
    · have same : some tone = some .dark := tells_unique sampled told dark
      cases same
      exact if_pos below
  · rintro rfl
    by_cases below : p.channelSum ≤ 3 * threshold
    · have dark : Tone.ofSum threshold p.channelSum = .dark := if_pos below
      rw [dark] at told
      exact .inr ⟨told, below⟩
    · have bright : Tone.ofSum threshold p.channelSum = .bright := if_neg below
      rw [bright] at told
      exact .inl ⟨told, Nat.lt_of_not_le below⟩

end EdgeProfile

/-! ## Samples in the silhouette -/

namespace Bitmap

open Silhouette

variable {b : Bitmap} {threshold : Nat} {samples : EdgeSamples b.width b.height}
  {kind : Option Tone} {i : Fin (b.width * b.height)}

/-- The pixel at the place of a sample is of the kind that the profile tells of. -/
theorem exists_pixel?_of_tells
    (told : (EdgeProfile.ofPixels threshold samples.pixels).tells kind = true)
    (member : i ∈ samples.toList) :
    ∃ p, b.pixel? (i.val % b.width) (i.val / b.width) = some p ∧ p.tone? threshold = kind := by
  obtain ⟨inside, here⟩ := offset_div_mod i.isLt
  refine ⟨_, b.pixel?_of_offset inside here, ?_⟩
  apply (EdgeProfile.tells_ofPixels kind).mp told
  exact List.mem_map_of_mem member

/-- Samples of one kind are drawn in one colour. -/
theorem pixel?_draw_of_tells
    (told : (EdgeProfile.ofPixels threshold samples.pixels).tells kind = true)
    (member : i ∈ samples.toList) (profile : EdgeProfile) :
    (draw b profile threshold).pixel? (i.val % b.width) (i.val / b.width) =
      some (if kind ≠ none ∧ firstTone? threshold b.pixels.toList = kind then .white
        else .unset) := by
  obtain ⟨p, place, sampled⟩ := exists_pixel?_of_tells told member
  rw [pixel?_draw, place, Option.map_some]
  cases kind with
  | none => simp [paint_of_none sampled]
  | some tone => simp [paint_of_some sampled]

theorem FirstVisible.firstTone?_eq {x y : Nat} {first : Pixel} (leads : b.FirstVisible x y first)
    (threshold : Nat) : firstTone? threshold b.pixels.toList = first.tone? threshold := by
  have visible := Pixel.tone?_of_visible leads.2.1 threshold
  rw [visible]
  exact (firstTone?_eq_some_iff b threshold _).mpr ⟨x, y, first, leads, visible⟩

/-- On a plate some pixel is visible, hence a first one. -/
theorem exists_firstVisible_of_tells {tone : Tone}
    (told : (EdgeProfile.ofPixels threshold samples.pixels).tells (some tone) = true) :
    ∃ column row first, b.FirstVisible column row first := by
  obtain ⟨p, place, sampled⟩ := exists_pixel?_of_tells told (i := samples.top) List.mem_cons_self
  refine exists_firstVisible place ?_
  simpa [sampled] using (p.tone?_eq_none_iff threshold).not

/-- **A plate is kept or dropped as a whole.**  A bitmap whose edges can be sampled has a profile
and a silhouette.  If it is on a plate, some first pixel is visible; the silhouette is white at all
four sampled places if this pixel shares the tone of the plate, and it is unset at all four if not.
If the samples are transparent, it is unset at all four. -/
theorem silhouette_plate (b : Bitmap) (single : Single) (samples : EdgeSamples b.width b.height)
    (located : EdgeSamples.locate b.width b.height = .ok samples) :
    ∃ profile out,
      EdgeProfile.classify b (b.threshold (Ratio.clamp single)) = .ok profile ∧
      (b.silhouette (Ratio.clamp single)).value = .ok out ∧
      (profile.isPlated = true → ∃ column row first, b.FirstVisible column row first ∧
        (profile.SharesTone (b.threshold (Ratio.clamp single)) first →
          ∀ i ∈ samples.toList,
            out.pixel? (i.val % b.width) (i.val / b.width) = some .white) ∧
        (¬ profile.SharesTone (b.threshold (Ratio.clamp single)) first →
          ∀ i ∈ samples.toList,
            out.pixel? (i.val % b.width) (i.val / b.width) = some .unset)) ∧
      (profile.transparent = true → ∀ i ∈ samples.toList,
        out.pixel? (i.val % b.width) (i.val / b.width) = some .unset) := by
  rw [value_silhouette, located]
  generalize b.threshold (Ratio.clamp single) = threshold
  refine ⟨_, _, EdgeProfile.classify_eq_ok_iff.mpr ⟨samples, located, rfl⟩, rfl, ?_, ?_⟩
  · intro plated
    obtain ⟨tone, told⟩ := (EdgeProfile.isPlated_iff _).mp plated
    obtain ⟨column, row, first, leads⟩ := exists_firstVisible_of_tells told
    have shares := EdgeProfile.sharesTone_iff (List.cons_ne_nil _ _) told leads.2.1
    refine ⟨column, row, first, leads, fun shared i member => ?_, fun differ i member => ?_⟩
    · rw [pixel?_draw_of_tells told member, leads.firstTone?_eq, shares.mp shared]
      simp
    · rw [pixel?_draw_of_tells told member, leads.firstTone?_eq, if_neg]
      exact fun same => differ (shares.mpr same.2)
  · intro transparent i member
    have told : (EdgeProfile.ofPixels threshold samples.pixels).tells none = true := transparent
    rw [pixel?_draw_of_tells told member]
    simp

/-- A light plate with a dark corner, which is the first pixel and no sample. -/
def tray : Bitmap := ⟨2, 2, #[⟨0, 0, 0, 255⟩, .white, .white, .white], rfl⟩

/-- The samples of two columns and two rows. -/
def fourPlaces : EdgeSamples 2 2 := ⟨3, 1, 2, 1⟩

/-- Only hidden colours. -/
def pane : Bitmap := filled 2 2 ⟨255, 0, 0, 0⟩

theorem silhouette_plate_tray :
    EdgeSamples.locate 2 2 = .ok fourPlaces ∧
      EdgeProfile.classify tray (tray.threshold (Ratio.clamp Ratio.default)) =
        .ok ⟨true, false, false⟩ ∧
      (∃ out, (tray.silhouette (Ratio.clamp Ratio.default)).value = .ok out ∧
        ∀ i ∈ fourPlaces.toList, out.pixel? (i.val % 2) (i.val / 2) = some .unset) ∧
      EdgeProfile.classify pane (pane.threshold (Ratio.clamp .nan)) = .ok ⟨false, false, true⟩ ∧
      ∃ out, (pane.silhouette (Ratio.clamp .nan)).value = .ok out ∧
        ∀ i ∈ fourPlaces.toList, out.pixel? (i.val % 2) (i.val / 2) = some .unset := by
  have located : EdgeSamples.locate 2 2 = .ok fourPlaces := rfl
  have light : EdgeProfile.classify tray (tray.threshold (Ratio.clamp Ratio.default)) =
      .ok ⟨true, false, false⟩ := by decide +kernel
  have clear : EdgeProfile.classify pane (pane.threshold (Ratio.clamp .nan)) =
      .ok ⟨false, false, true⟩ := by decide +kernel
  have first : tray.FirstVisible 0 0 ⟨0, 0, 0, 255⟩ := firstVisible_of_take rfl rfl (by decide)
  obtain ⟨profile, out, classified, drawn, plated, -⟩ :=
    silhouette_plate tray Ratio.default _ located
  rw [light, Except.ok.injEq] at classified
  subst classified
  obtain ⟨column, row, other, leads, -, dropped⟩ := plated rfl
  have differs : ¬ (⟨true, false, false⟩ : EdgeProfile).SharesTone
      (tray.threshold (Ratio.clamp Ratio.default)) other := by
    rw [leads.unique first]
    rintro (⟨-, above⟩ | ⟨dark, -⟩)
    · exact Nat.not_lt_zero _ above
    · cases dark
  obtain ⟨profile', out', classified', drawn', -, transparent⟩ :=
    silhouette_plate pane .nan _ located
  rw [clear, Except.ok.injEq] at classified'
  subst classified'
  exact ⟨located, light, ⟨out, drawn, dropped differs⟩, clear, out', drawn', transparent rfl⟩

end Bitmap

end StatusIcon
