/-
# StatusIcon.Proofs.Silhouette.Pixels -- the silhouette, place by place

What a silhouette shows at a place is told without the order of the work.  The *first visible*
pixel is the one that is not transparent and has the smallest offset (`Bitmap.FirstVisible`), and a
place is *kept* when its pixel is visible and lies on the same side of the threshold as the first
visible one (`Bitmap.Kept`).  Kept places are white, and all others are unset
(`Bitmap.silhouette_pixels`).
-/
import StatusIcon.Proofs.Silhouette.Scan

set_option autoImplicit false

namespace StatusIcon

namespace Bitmap

/-! ## Places -/

/-- The row-major offset of column `x` in row `y`. -/
def offset (b : Bitmap) (x y : Nat) : Nat := y * b.width + x

/-- The pixel at column `x` of row `y`, if the bitmap has that place. -/
def pixel? (b : Bitmap) (x y : Nat) : Option Pixel :=
  if x < b.width ∧ y < b.height then b.pixels.toList[b.offset x y]? else none

theorem offset_lt {b : Bitmap} {x y : Nat} (inside : x < b.width ∧ y < b.height) :
    b.offset x y < b.width * b.height := by
  calc b.offset x y < y * b.width + b.width := Nat.add_lt_add_left inside.1 _
    _ = (y + 1) * b.width := (Nat.succ_mul y b.width).symm
    _ ≤ b.height * b.width := Nat.mul_le_mul_right _ inside.2
    _ = b.width * b.height := Nat.mul_comm _ _

/-- An offset is the one of the row and the column that it is divided into. -/
theorem offset_div_mod {b : Bitmap} {i : Nat} (below : i < b.width * b.height) :
    (i % b.width < b.width ∧ i / b.width < b.height) ∧
      b.offset (i % b.width) (i / b.width) = i := by
  have wide : 0 < b.width := Nat.pos_of_mul_pos_right (Nat.zero_lt_of_lt below)
  refine ⟨⟨Nat.mod_lt i wide, ?_⟩, Nat.div_add_mod' i b.width⟩
  exact Nat.div_lt_of_lt_mul below

theorem exists_pixel? {b : Bitmap} {x y : Nat} (inside : x < b.width ∧ y < b.height) :
    ∃ p, b.pixel? x y = some p := by
  have below : b.offset x y < b.pixels.toList.length := by
    rw [Array.length_toList, b.size_eq]
    exact offset_lt inside
  exact ⟨_, (if_pos inside).trans (List.getElem?_eq_getElem below)⟩

theorem pixel?_eq_some {b : Bitmap} {x y : Nat} {p : Pixel} (h : b.pixel? x y = some p) :
    (x < b.width ∧ y < b.height) ∧ b.pixels.toList[b.offset x y]? = some p := by
  rw [pixel?] at h
  split at h
  · next inside => exact ⟨inside, h⟩
  · cases h

theorem exists_pixel?_of_getElem? {b : Bitmap} {i : Nat} {p : Pixel}
    (h : b.pixels.toList[i]? = some p) :
    ∃ x y, b.pixel? x y = some p ∧ b.offset x y = i := by
  obtain ⟨below, -⟩ := List.getElem?_eq_some_iff.mp h
  rw [Array.length_toList, b.size_eq] at below
  obtain ⟨inside, here⟩ := offset_div_mod below
  refine ⟨_, _, (if_pos inside).trans ?_, here⟩
  rwa [here]

/-! ## The first visible pixel -/

/-- The pixel at this place is visible, and no visible one has a smaller offset. -/
def FirstVisible (b : Bitmap) (x y : Nat) (p : Pixel) : Prop :=
  b.pixel? x y = some p ∧ p.isTransparent = false ∧
    ∀ x' y' q, b.pixel? x' y' = some q → q.isTransparent = false → b.offset x y ≤ b.offset x' y'

/-- A visible pixel behind hidden ones only is the first. -/
theorem firstVisible_of_take {b : Bitmap} {x y : Nat} {p : Pixel} (place : b.pixel? x y = some p)
    (visible : p.isTransparent = false)
    (clear : ∀ q ∈ b.pixels.toList.take (b.offset x y), q.isTransparent = true) :
    b.FirstVisible x y p := by
  refine ⟨place, visible, fun x' y' q place' seen => ?_⟩
  by_contra earlier
  obtain ⟨-, here⟩ := pixel?_eq_some place'
  obtain ⟨below, rfl⟩ := List.getElem?_eq_some_iff.mp here
  have small := Nat.lt_min.mpr ⟨Nat.lt_of_not_le earlier, below⟩
  have hidden := clear _ (List.mem_take_iff_getElem.mpr ⟨_, small, rfl⟩)
  rw [seen] at hidden
  cases hidden

theorem FirstVisible.unique {b : Bitmap} {x y x' y' : Nat} {p q : Pixel}
    (first : b.FirstVisible x y p) (second : b.FirstVisible x' y' q) : p = q := by
  have same : b.offset x y = b.offset x' y' :=
    Nat.le_antisymm (first.2.2 x' y' q second.1 second.2.1) (second.2.2 x y p first.1 first.2.1)
  have here := (pixel?_eq_some first.1).2
  have there := (pixel?_eq_some second.1).2
  rw [← same, here] at there
  exact Option.some.inj there

end Bitmap

theorem Pixel.tone?_of_visible {p : Pixel} (visible : p.isTransparent = false) (threshold : Nat) :
    p.tone? threshold = some (Tone.ofSum threshold p.channelSum) := by
  simp [Pixel.tone?, visible]

theorem Pixel.tone?_eq_none_iff (p : Pixel) (threshold : Nat) :
    p.tone? threshold = none ↔ p.isTransparent = true := by
  simp [Pixel.tone?]

theorem Pixel.isBright_iff (p : Pixel) (threshold : Nat) :
    p.isBright threshold = true ↔ p.tone? threshold = some .bright := by
  unfold isBright tone? Tone.ofSum
  cases p.isTransparent with
  | true => simp
  | false => simp

theorem Pixel.isDark_iff (p : Pixel) (threshold : Nat) :
    p.isDark threshold = true ↔ p.tone? threshold = some .dark := by
  unfold isDark tone? Tone.ofSum
  cases p.isTransparent with
  | true => simp
  | false => simp

theorem Tone.ofSum_eq_iff (threshold m n : Nat) :
    Tone.ofSum threshold m = Tone.ofSum threshold n ↔
      (m ≤ 3 * threshold ↔ n ≤ 3 * threshold) := by
  unfold Tone.ofSum
  by_cases hm : m ≤ 3 * threshold <;> by_cases hn : n ≤ 3 * threshold <;> simp [hm, hn]

namespace Bitmap

open Silhouette

/-- The first tone of a bitmap is the tone of its first visible pixel. -/
theorem firstTone?_eq_some_iff (b : Bitmap) (threshold : Nat) (tone : Tone) :
    firstTone? threshold b.pixels.toList = some tone ↔
      ∃ x y p, b.FirstVisible x y p ∧ p.tone? threshold = some tone := by
  constructor
  · intro found
    obtain ⟨before, p, after, split, visible, clear⟩ := List.findSome?_eq_some_iff.mp found
    have here : b.pixels.toList[before.length]? = some p := by simp [split]
    obtain ⟨x, y, place, start⟩ := exists_pixel?_of_getElem? here
    refine ⟨x, y, p, ⟨place, ?_, fun x' y' q place' seen => ?_⟩, visible⟩
    · simpa [visible] using (Pixel.tone?_eq_none_iff p threshold).not
    · rw [start]
      by_contra smaller
      obtain ⟨-, at'⟩ := pixel?_eq_some place'
      rw [split, List.getElem?_append_left (Nat.lt_of_not_le smaller)] at at'
      have hidden := clear q (List.mem_of_getElem? at')
      rw [Pixel.tone?_eq_none_iff, seen] at hidden
      cases hidden
  · rintro ⟨x, y, p, ⟨place, -, least⟩, visible⟩
    obtain ⟨-, here⟩ := pixel?_eq_some place
    obtain ⟨below, value⟩ := List.getElem?_eq_some_iff.mp here
    have split : b.pixels.toList =
        b.pixels.toList.take (b.offset x y) ++ p :: b.pixels.toList.drop (b.offset x y + 1) := by
      rw [← value, List.getElem_cons_drop, List.take_append_drop]
    refine List.findSome?_eq_some_iff.mpr ⟨_, p, _, split, visible, ?_⟩
    intro q earlier
    obtain ⟨i, small, rfl⟩ := List.mem_take_iff_getElem.mp earlier
    rw [Nat.lt_min] at small
    rw [Pixel.tone?_eq_none_iff]
    by_contra seen
    obtain ⟨x', y', place', rfl⟩ := exists_pixel?_of_getElem? (List.getElem?_eq_getElem small.2)
    exact Nat.not_le_of_lt small.1 (least x' y' _ place' (Bool.of_not_eq_true seen))

/-- Where some pixel is visible, one is the first. -/
theorem exists_firstVisible {b : Bitmap} {x y : Nat} {p : Pixel} (place : b.pixel? x y = some p)
    (seen : p.isTransparent = false) : ∃ column row first, b.FirstVisible column row first := by
  have member : p ∈ b.pixels.toList := List.mem_of_getElem? (pixel?_eq_some place).2
  cases found : firstTone? 0 b.pixels.toList with
  | none =>
      have hidden := List.findSome?_eq_none_iff.mp found p member
      rw [Pixel.tone?_eq_none_iff, seen] at hidden
      cases hidden
  | some tone =>
      obtain ⟨column, row, first, leads, -⟩ := (firstTone?_eq_some_iff b 0 tone).mp found
      exact ⟨column, row, first, leads⟩

/-- The pixel is visible, and its channel sum lies on the same side of the threshold as that of the
first visible pixel. -/
def Kept (b : Bitmap) (threshold : Nat) (p : Pixel) : Prop :=
  p.isTransparent = false ∧
    ∃ x y first, b.FirstVisible x y first ∧
      (p.channelSum ≤ 3 * threshold ↔ first.channelSum ≤ 3 * threshold)

theorem kept_iff (b : Bitmap) (threshold : Nat) (p : Pixel) :
    b.Kept threshold p ↔
      ∃ tone, p.tone? threshold = some tone ∧
        firstTone? threshold b.pixels.toList = some tone := by
  constructor
  · rintro ⟨visible, x, y, first, leads, side⟩
    refine ⟨_, Pixel.tone?_of_visible visible threshold, ?_⟩
    rw [firstTone?_eq_some_iff]
    refine ⟨x, y, first, leads, ?_⟩
    rw [Pixel.tone?_of_visible leads.2.1, (Tone.ofSum_eq_iff threshold _ _).mpr side]
  · rintro ⟨tone, visible, found⟩
    obtain ⟨x, y, first, leads, same⟩ := (firstTone?_eq_some_iff b threshold tone).mp found
    have seen : p.isTransparent = false := by
      simpa [visible] using (Pixel.tone?_eq_none_iff p threshold).not
    refine ⟨seen, x, y, first, leads, ?_⟩
    rw [Pixel.tone?_of_visible seen, ← same, Pixel.tone?_of_visible leads.2.1] at visible
    exact (Tone.ofSum_eq_iff threshold _ _).mp (Option.some.inj visible)

theorem FirstVisible.kept {b : Bitmap} {x y : Nat} {p : Pixel} (leads : b.FirstVisible x y p)
    (threshold : Nat) : b.Kept threshold p :=
  ⟨leads.2.1, x, y, p, leads, Iff.rfl⟩

theorem FirstVisible.kept_iff {b : Bitmap} {x y : Nat} {first : Pixel}
    (leads : b.FirstVisible x y first) (threshold : Nat) (p : Pixel) :
    b.Kept threshold p ↔ p.isTransparent = false ∧
      (p.channelSum ≤ 3 * threshold ↔ first.channelSum ≤ 3 * threshold) := by
  constructor
  · rintro ⟨seen, x', y', other, leads', side⟩
    rw [leads'.unique leads] at side
    exact ⟨seen, side⟩
  · rintro ⟨seen, side⟩
    exact ⟨seen, x, y, first, leads, side⟩

/-! ## What is drawn -/

theorem paint_of_kept {b : Bitmap} {threshold : Nat} {p : Pixel} (kept : b.Kept threshold p) :
    paint threshold (firstTone? threshold b.pixels.toList) p = .white := by
  obtain ⟨tone, visible, found⟩ := (kept_iff b threshold p).mp kept
  rw [paint_of_some visible, if_pos found]

theorem paint_of_not_kept {b : Bitmap} {threshold : Nat} {p : Pixel}
    (dropped : ¬ b.Kept threshold p) :
    paint threshold (firstTone? threshold b.pixels.toList) p = .unset := by
  cases visible : p.tone? threshold with
  | none => exact paint_of_none visible _
  | some tone =>
      rw [paint_of_some visible, if_neg]
      intro found
      exact dropped ((kept_iff b threshold p).mpr ⟨tone, visible, found⟩)

theorem pixel?_draw (b : Bitmap) (profile : EdgeProfile) (threshold x y : Nat) :
    (draw b profile threshold).pixel? x y =
      (b.pixel? x y).map (paint threshold (firstTone? threshold b.pixels.toList)) := by
  have place : (draw b profile threshold).offset x y = b.offset x y := rfl
  simp only [pixel?, width_draw, height_draw, place, pixels_draw, List.getElem?_map]
  by_cases inside : x < b.width ∧ y < b.height
  · rw [if_pos inside, if_pos inside]
  · rw [if_neg inside, if_neg inside]
    rfl

section

variable {b : Bitmap} (profile : EdgeProfile) (threshold x y : Nat)

theorem pixel?_draw_eq_white_iff :
    (draw b profile threshold).pixel? x y = some .white ↔
      ∃ p, b.pixel? x y = some p ∧ b.Kept threshold p := by
  rw [pixel?_draw, Option.map_eq_some_iff]
  refine exists_congr fun p => and_congr_right fun _ => ?_
  constructor
  · intro white
    by_contra dropped
    rw [paint_of_not_kept dropped] at white
    cases white
  · exact paint_of_kept

theorem pixel?_draw_eq_unset_iff :
    (draw b profile threshold).pixel? x y = some .unset ↔
      ∃ p, b.pixel? x y = some p ∧ ¬ b.Kept threshold p := by
  rw [pixel?_draw, Option.map_eq_some_iff]
  refine exists_congr fun p => and_congr_right fun _ => ?_
  constructor
  · intro unset kept
    rw [paint_of_kept kept] at unset
    cases unset
  · exact paint_of_not_kept

end

/-- **The silhouette, place by place.**  A bitmap has no silhouette exactly when its edges cannot be
sampled, and then for the same reason.  Else the silhouette has the same sides, its kept places are
white and its other places are unset; so the first visible place is white and transparent ones are
unset, and with another edge profile the same would have been drawn. -/
theorem silhouette_pixels (b : Bitmap) (single : Single) :
    (∀ e, (b.silhouette (Ratio.clamp single)).value = .error e ↔
      EdgeSamples.locate b.width b.height = .error e) ∧
    ∀ samples, EdgeSamples.locate b.width b.height = .ok samples →
      ∃ out, (b.silhouette (Ratio.clamp single)).value = .ok out ∧
        out.width = b.width ∧ out.height = b.height ∧
        (∀ x y, x < b.width → y < b.height → ∃ p, b.pixel? x y = some p ∧
          (b.Kept (b.threshold (Ratio.clamp single)) p → out.pixel? x y = some .white) ∧
          (¬ b.Kept (b.threshold (Ratio.clamp single)) p → out.pixel? x y = some .unset)) ∧
        (∀ x y p, b.FirstVisible x y p → out.pixel? x y = some .white) ∧
        (∀ x y p, b.pixel? x y = some p → p.isTransparent = true →
          out.pixel? x y = some .unset) ∧
        ∀ profile, out = draw b profile (b.threshold (Ratio.clamp single)) := by
  generalize Ratio.clamp single = ratio
  have drawn (profile : EdgeProfile) (x y : Nat) (p : Pixel) (place : b.pixel? x y = some p) :
      (b.Kept (b.threshold ratio) p →
        (draw b profile (b.threshold ratio)).pixel? x y = some .white) ∧
      (¬ b.Kept (b.threshold ratio) p →
        (draw b profile (b.threshold ratio)).pixel? x y = some .unset) := by
    rw [pixel?_draw, place, Option.map_some]
    exact ⟨fun kept => congrArg some (paint_of_kept kept),
      fun dropped => congrArg some (paint_of_not_kept dropped)⟩
  rw [value_silhouette]
  constructor
  · intro e
    exact map_eq_error_iff
  · intro samples located
    rw [located]
    refine ⟨_, rfl, rfl, rfl, ?_, ?_, ?_, fun profile => draw_profile b _ _ profile⟩
    · intro x y column row
      obtain ⟨p, place⟩ := exists_pixel? ⟨column, row⟩
      exact ⟨p, place, drawn _ x y p place⟩
    · intro x y p leads
      exact (drawn _ x y p leads.1).1 (leads.kept _)
    · intro x y p place hidden
      refine (drawn _ x y p place).2 fun kept => ?_
      rw [kept.1] at hidden
      cases hidden

/-- A red pixel after a transparent one, above white and black. -/
def corner : Bitmap :=
  ⟨2, 2, #[⟨9, 9, 9, 0⟩, ⟨200, 40, 40, 255⟩, ⟨255, 255, 255, 255⟩, ⟨0, 0, 0, 1⟩], rfl⟩

theorem firstVisible_corner : corner.FirstVisible 1 0 ⟨200, 40, 40, 255⟩ :=
  firstVisible_of_take rfl rfl (by decide)

theorem silhouette_pixels_corner :
    EdgeSamples.locate 2 2 = .ok ⟨3, 1, 2, 1⟩ ∧
      ∃ out, (corner.silhouette (Ratio.clamp Ratio.default)).value = .ok out ∧
        out.pixel? 0 0 = some .unset ∧ out.pixel? 1 0 = some .white := by
  have located : EdgeSamples.locate 2 2 = .ok ⟨3, 1, 2, 1⟩ := rfl
  obtain ⟨out, drawn, -, -, -, first, hidden, -⟩ :=
    (silhouette_pixels corner Ratio.default).2 _ located
  exact ⟨located, out, drawn, hidden 0 0 _ rfl rfl, first 1 0 _ firstVisible_corner⟩

end Bitmap

end StatusIcon
