/-
# StatusIcon.Proofs.Silhouette.Scan -- what a scan draws

The scan carries the tone it keeps and the colours it has found.  Neither is needed to say what it
draws: the tone that counts is the first one of the pixels (`firstTone?`), and a pixel becomes white
exactly when it has that tone (`paint`), whatever stands before it.  So a silhouette is the bitmap
with every pixel painted (`pixels_draw`), and the edge profile does not matter (`draw_profile`).
There is one exactly for the sizes that fit the edge samples (`Bitmap.value_silhouette_error_iff`).
-/
import StatusIcon.Proofs.Results
import StatusIcon.Proofs.Silhouette.Edges
import StatusIcon.Silhouette.Filter

set_option autoImplicit false

namespace StatusIcon

namespace Silhouette

/-- The first tone among pixels. -/
def firstTone? (threshold : Nat) (pixels : List Pixel) : Option Tone :=
  pixels.findSome? (Pixel.tone? threshold)

/-- The colour of a pixel where `first` is the tone to keep. -/
def paint (threshold : Nat) (first : Option Tone) (p : Pixel) : Pixel :=
  match p.tone? threshold with
  | none => .unset
  | some tone => if first = some tone then .white else .unset

theorem paint_of_none {threshold : Nat} {p : Pixel} (invisible : p.tone? threshold = none)
    (first : Option Tone) : paint threshold first p = .unset := by
  rw [paint, invisible]

theorem paint_of_some {threshold : Nat} {p : Pixel} {tone : Tone}
    (visible : p.tone? threshold = some tone) (first : Option Tone) :
    paint threshold first p = if first = some tone then .white else .unset := by
  rw [paint, visible]

theorem paint_eq_white_or_unset (threshold : Nat) (first : Option Tone) (p : Pixel) :
    paint threshold first p = .white ∨ paint threshold first p = .unset := by
  cases visible : p.tone? threshold with
  | none => exact .inr (paint_of_none visible first)
  | some tone =>
      rw [paint_of_some visible]
      by_cases same : first = some tone
      · exact .inl (if_pos same)
      · exact .inr (if_neg same)

theorem keeps_iff (profile : EdgeProfile) (first tone : Tone) :
    keeps profile first tone = true ↔ first = tone := by
  simp only [keeps, ite_self, beq_iff_eq]
  exact eq_comm

/-- What a scan adds to `done` is the pixels, painted with the tone it started with or else with
the first one among them. -/
theorem scan_eq (profile : EdgeProfile) (threshold : Nat) (kept : Option Tone)
    (done pixels : List Pixel) :
    scan profile threshold kept done pixels =
      done.reverse ++ pixels.map (paint threshold (kept.or (firstTone? threshold pixels))) := by
  induction pixels generalizing kept done with
  | nil => simp [scan]
  | cons p pixels ih =>
      cases visible : p.tone? threshold with
      | none =>
          have later : firstTone? threshold (p :: pixels) = firstTone? threshold pixels :=
            List.findSome?_cons_of_isNone (by simp [visible])
          simp only [scan, visible]
          rw [ih, later, List.map_cons, paint_of_none visible, List.reverse_cons, List.append_assoc]
          rfl
      | some tone =>
          have here : firstTone? threshold (p :: pixels) = some tone :=
            (List.findSome?_cons_of_isSome (by simp [visible])).trans visible
          have fixed : kept.or (some tone) = some (kept.getD tone) := Option.or_some
          simp only [scan, visible]
          rw [ih, here, fixed, List.map_cons, paint_of_some visible, List.reverse_cons,
            List.append_assoc]
          simp only [keeps_iff, Option.some.injEq]
          rfl

variable (b : Bitmap) (profile : EdgeProfile) (threshold : Nat)

@[simp] theorem width_draw : (draw b profile threshold).width = b.width := rfl

@[simp] theorem height_draw : (draw b profile threshold).height = b.height := rfl

theorem pixels_draw :
    (draw b profile threshold).pixels.toList =
      b.pixels.toList.map (paint threshold (firstTone? threshold b.pixels.toList)) := by
  simp only [draw, Bitmap.recolour, scan_eq, Option.none_or, List.reverse_nil, List.nil_append]

theorem draw_profile (other : EdgeProfile) :
    draw b profile threshold = draw b other threshold := by
  simp only [draw, scan_eq]

end Silhouette

/-! ## The whole filter -/

/-- A bitmap has a silhouette exactly when its edges can be sampled, and it is drawn at the
threshold of the bitmap. -/
theorem Bitmap.value_silhouette (b : Bitmap) (ratio : Single) :
    (b.silhouette ratio).value =
      (EdgeSamples.locate b.width b.height).map fun samples =>
        Silhouette.draw b (.ofPixels (b.threshold ratio) samples.pixels) (b.threshold ratio) := by
  simp only [silhouette, EdgeProfile.classify]
  cases EdgeSamples.locate b.width b.height with
  | error e => rfl
  | ok samples => rfl

theorem Bitmap.value_silhouette_error_iff (b : Bitmap) (ratio : Single) :
    (∃ e, (b.silhouette ratio).value = .error e) ↔ ¬ EdgeSamples.Fits b.width b.height := by
  simp only [value_silhouette, map_eq_error_iff]
  constructor
  · rintro ⟨e, failed⟩ fits
    obtain ⟨samples, located⟩ := fits.locate
    rw [located] at failed
    cases failed
  · intro small
    obtain ⟨edge, offset, located⟩ := EdgeSamples.exists_locate_error small
    exact ⟨_, located⟩

theorem Bitmap.exists_value_silhouette {b : Bitmap} (fits : EdgeSamples.Fits b.width b.height)
    (ratio : Single) : ∃ drawn, (b.silhouette ratio).value = .ok drawn := by
  obtain ⟨samples, located⟩ := fits.locate
  rw [value_silhouette, located]
  exact ⟨_, rfl⟩

theorem Bitmap.value_silhouette_error {b : Bitmap} {ratio : Single} {e : IconError}
    (failed : (b.silhouette ratio).value = .error e) :
    ∃ edge offset, e = .sampleOutOfBounds edge offset b.width b.height := by
  have small := (b.value_silhouette_error_iff ratio).mp ⟨e, failed⟩
  obtain ⟨edge, offset, located⟩ := EdgeSamples.exists_locate_error small
  rw [value_silhouette, map_eq_error_iff, located] at failed
  cases failed
  exact ⟨edge, offset, rfl⟩

end StatusIcon
