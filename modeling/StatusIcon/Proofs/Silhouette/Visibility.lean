/-
# StatusIcon.Proofs.Silhouette.Visibility -- what of a bitmap can be seen

Of a pixel the filter sees whether it is transparent and, if it is not, its channel sum
(`Pixel.visibleSum?`); how the sum is spread over the channels, how opaque the pixel is and which
colour a transparent one hides stay unseen.  Threshold, edge profile and silhouette are each made of
these sums alone (`threshold_eq`, `ofPixels_congr`, `paint_congr`), so they are the same for two
bitmaps that look alike (`Bitmap.Alike.indistinguishable`).
-/
import StatusIcon.Proofs.Silhouette.Pixels
import StatusIcon.Proofs.Silhouette.Projection

set_option autoImplicit false

namespace StatusIcon

/-! ## Pixels -/

namespace Pixel

/-- Both pixels are transparent, or neither is and their channel sums are equal. -/
structure Alike (p q : Pixel) : Prop where
  transparent : p.isTransparent = q.isTransparent
  channelSum : p.isTransparent = false → p.channelSum = q.channelSum

/-- The channel sum of a pixel that is not transparent. -/
def visibleSum? (p : Pixel) : Option Nat := if p.isTransparent then none else some p.channelSum

theorem Alike.visibleSum? {p q : Pixel} (alike : p.Alike q) : p.visibleSum? = q.visibleSum? := by
  unfold Pixel.visibleSum?
  rw [← alike.transparent]
  cases hidden : p.isTransparent with
  | true => rfl
  | false => simp [alike.channelSum hidden]

theorem tone?_eq (threshold : Nat) (p : Pixel) :
    p.tone? threshold = p.visibleSum?.map (Tone.ofSum threshold) := by
  unfold tone? visibleSum?
  cases p.isTransparent with
  | true => rfl
  | false => rfl

end Pixel

/-! ## Pixels in a row -/

theorem EdgeProfile.ofPixels_congr {samples others : List Pixel}
    (same : samples.map Pixel.visibleSum? = others.map Pixel.visibleSum?) (threshold : Nat) :
    EdgeProfile.ofPixels threshold samples = EdgeProfile.ofPixels threshold others := by
  have every (kind : Pixel → Bool) (tone : Option Tone)
      (told : ∀ p, kind p = true ↔ p.tone? threshold = tone) :
      samples.all kind = others.all kind := by
    have compared (p : Pixel) : kind p = (p.visibleSum?.map (Tone.ofSum threshold) == tone) := by
      rw [Bool.eq_iff_iff, told, beq_iff_eq, Pixel.tone?_eq]
    have sums := congrArg (List.all · fun sum => sum.map (Tone.ofSum threshold) == tone) same
    simpa only [List.all_map, Function.comp_def, ← compared] using sums
  unfold EdgeProfile.ofPixels
  congr 1
  · exact every _ (some .bright) fun p => p.isBright_iff threshold
  · exact every _ (some .dark) fun p => p.isDark_iff threshold
  · exact every _ none fun p => (p.tone?_eq_none_iff threshold).symm

namespace Silhouette

theorem firstTone?_congr {pixels others : List Pixel}
    (same : pixels.map Pixel.visibleSum? = others.map Pixel.visibleSum?) (threshold : Nat) :
    firstTone? threshold pixels = firstTone? threshold others := by
  have tones := congrArg (List.findSome? fun sum => sum.map (Tone.ofSum threshold)) same
  simp only [List.findSome?_map, Function.comp_def, ← Pixel.tone?_eq] at tones
  exact tones

theorem paint_eq {p q : Pixel} (same : p.visibleSum? = q.visibleSum?) (threshold : Nat)
    (first : Option Tone) : paint threshold first p = paint threshold first q := by
  have tone : p.tone? threshold = q.tone? threshold := by rw [p.tone?_eq, q.tone?_eq, same]
  simp only [paint, tone]

theorem paint_congr {pixels others : List Pixel}
    (same : pixels.map Pixel.visibleSum? = others.map Pixel.visibleSum?) (threshold : Nat)
    (first : Option Tone) :
    pixels.map (paint threshold first) = others.map (paint threshold first) := by
  induction pixels generalizing others with
  | nil =>
      obtain rfl : others = [] := List.map_eq_nil_iff.mp same.symm
      rfl
  | cons p pixels ih =>
      obtain ⟨q, others, rfl, alike, rest⟩ := List.map_eq_cons_iff.mp same.symm
      rw [List.map_cons, List.map_cons, paint_eq alike, ih rest.symm]

end Silhouette

/-! ## Bitmaps -/

namespace Bitmap

/-- The bitmaps have the same sides, and their pixels look alike at every place. -/
structure Alike (a b : Bitmap) : Prop where
  width : a.width = b.width
  height : a.height = b.height
  pixels : ∀ x y p q, a.pixel? x y = some p → b.pixel? x y = some q → p.Alike q

/-- The visible sums, row by row. -/
def visibleSums (b : Bitmap) : List (Option Nat) := b.pixels.toList.map Pixel.visibleSum?

theorem Alike.visibleSums {a b : Bitmap} (alike : a.Alike b) : a.visibleSums = b.visibleSums := by
  have size : a.pixels.size = b.pixels.size := by
    rw [a.size_eq, b.size_eq, alike.width, alike.height]
  refine List.ext_getElem (by simpa [Bitmap.visibleSums] using size) fun i here there => ?_
  simp only [Bitmap.visibleSums, List.getElem_map]
  simp only [Bitmap.visibleSums, List.length_map] at here there
  obtain ⟨x, y, place, rfl⟩ := exists_pixel?_of_getElem? (List.getElem?_eq_getElem here)
  have inside := (pixel?_eq_some place).1
  rw [alike.width, alike.height] at inside
  have place' : b.pixel? x y = some b.pixels.toList[a.offset x y] := by
    have same : b.offset x y = a.offset x y := by rw [offset, offset, alike.width]
    rw [pixel?, if_pos inside, same]
    exact List.getElem?_eq_getElem there
  exact (alike.pixels x y _ _ place place').visibleSum?

theorem brightnesses_eq (b : Bitmap) :
    b.brightnesses = (b.visibleSums.filterMap id).map (· / 3) := by
  unfold brightnesses visibleSums
  induction b.pixels.toList with
  | nil => rfl
  | cons p pixels ih =>
      cases hidden : p.isTransparent with
      | true => simpa [Pixel.visibleSum?, hidden] using ih
      | false => simpa [Pixel.visibleSum?, hidden] using ih

theorem threshold_eq {a b : Bitmap} (same : a.visibleSums = b.visibleSums) (ratio : Single) :
    a.threshold ratio = b.threshold ratio := by
  simp only [threshold, meanBrightness?, brightnesses_eq, same]

theorem classify_eq {a b : Bitmap} (alike : a.Alike b) (threshold : Nat) :
    EdgeProfile.classify a threshold = EdgeProfile.classify b threshold := by
  have same := alike.visibleSums
  obtain ⟨width, height, pixels, size⟩ := a
  obtain ⟨width', height', pixels', size'⟩ := b
  obtain rfl : width = width' := alike.width
  obtain rfl : height = height' := alike.height
  unfold EdgeProfile.classify
  dsimp only
  cases EdgeSamples.locate width height with
  | error e => rfl
  | ok samples =>
      refine congrArg Except.ok (EdgeProfile.ofPixels_congr ?_ threshold)
      simp only [EdgeSamples.pixels, List.map_map]
      refine List.map_congr_left fun i _ => ?_
      have below : i.val < width * height := i.isLt
      have sums := congrArg (·[i.val]?) same
      simpa [Bitmap.visibleSums, size, size', below] using sums

theorem draw_eq {a b : Bitmap} (alike : a.Alike b) (profile : EdgeProfile) (threshold : Nat) :
    Silhouette.draw a profile threshold = Silhouette.draw b profile threshold := by
  refine eq_of_toList alike.width alike.height ?_
  have same := alike.visibleSums
  rw [Silhouette.pixels_draw, Silhouette.pixels_draw, Silhouette.firstTone?_congr same,
    Silhouette.paint_congr same]

/-- **Only the visible sums are seen.**  Bitmaps that look alike have the same threshold at every
ratio, the same edge profile at every threshold or none for the same reason, and the same
silhouette, which is noted in the same words. -/
theorem Alike.indistinguishable {a b : Bitmap} (alike : a.Alike b) :
    (∀ ratio, a.threshold ratio = b.threshold ratio) ∧
      (∀ threshold, EdgeProfile.classify a threshold = EdgeProfile.classify b threshold) ∧
      ∀ single, a.silhouette (Ratio.clamp single) = b.silhouette (Ratio.clamp single) := by
  refine ⟨threshold_eq alike.visibleSums, classify_eq alike, fun single => ?_⟩
  simp only [silhouette, threshold_eq alike.visibleSums, classify_eq alike, draw_eq alike,
    alike.width, alike.height]

/-- Like `corner`, with other colours of the same sums, other alphas and no hidden colour. -/
def otherCorner : Bitmap :=
  ⟨2, 2, #[⟨0, 0, 0, 0⟩, ⟨90, 90, 100, 7⟩, ⟨255, 255, 255, 128⟩, ⟨0, 0, 0, 255⟩], rfl⟩

theorem alike_otherCorner : corner.Alike otherCorner := by
  refine ⟨rfl, rfl, fun x y p q here there => ?_⟩
  obtain ⟨⟨column, row⟩, -⟩ := pixel?_eq_some here
  have columns : x = 0 ∨ x = 1 := Nat.le_one_iff_eq_zero_or_eq_one.mp (Nat.le_of_lt_succ column)
  have rows : y = 0 ∨ y = 1 := Nat.le_one_iff_eq_zero_or_eq_one.mp (Nat.le_of_lt_succ row)
  rcases columns with rfl | rfl <;> rcases rows with rfl | rfl <;> cases here <;> cases there <;>
    exact ⟨rfl, by decide⟩

theorem indistinguishable_corner :
    corner ≠ otherCorner ∧ corner.Alike otherCorner ∧
      corner.threshold Ratio.default = otherCorner.threshold Ratio.default ∧
      EdgeProfile.classify corner 93 = EdgeProfile.classify otherCorner 93 ∧
      corner.silhouette (Ratio.clamp .nan) = otherCorner.silhouette (Ratio.clamp .nan) := by
  obtain ⟨threshold, profile, drawn⟩ := alike_otherCorner.indistinguishable
  exact ⟨by decide, alike_otherCorner, threshold _, profile _, drawn _⟩

end Bitmap

end StatusIcon
