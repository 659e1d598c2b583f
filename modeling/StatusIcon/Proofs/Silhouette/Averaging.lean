/-
# StatusIcon.Proofs.Silhouette.Averaging -- some visible pixel is bright

Some visible pixel is at least as bright as the mean (`Bitmap.exists_mean_le`).  With a ratio below
one the threshold is below the mean, unless the mean is zero (`Bitmap.threshold_lt_mean`).  So that
pixel lies above the threshold, and the visible pixels are never all dark (`Bitmap.exists_bright`).

Hence a silhouette that keeps every visible pixel keeps bright ones, and one that keeps the dark
ones drops a visible pixel (`Bitmap.silhouette_averages`).  The bounds are needed: a bitmap of a
single grey is dark throughout at a ratio of one, and a black one is at every ratio.
-/
import Mathlib.Algebra.Order.BigOperators.Group.List
import StatusIcon.Proofs.Silhouette.Pixels
import StatusIcon.Proofs.Silhouette.Threshold

set_option autoImplicit false

namespace StatusIcon.Bitmap

open Silhouette
open Binary (value?)

variable {b : Bitmap} {ratio : Single} {v : ℚ} {threshold : Nat}

theorem mem_visible_iff {p : Pixel} :
    p ∈ b.visible ↔ ∃ x y, b.pixel? x y = some p ∧ p.isTransparent = false := by
  unfold visible
  rw [List.mem_filter, Bool.not_eq_true', List.mem_iff_getElem?]
  constructor
  · rintro ⟨⟨i, here⟩, seen⟩
    obtain ⟨x, y, place, -⟩ := exists_pixel?_of_getElem? here
    exact ⟨x, y, place, seen⟩
  · rintro ⟨x, y, place, seen⟩
    exact ⟨⟨_, (pixel?_eq_some place).2⟩, seen⟩

/-! ## Against the mean -/

theorem mean_of_meanBrightness? {m : Nat} (average : b.meanBrightness? = some m) : b.mean = m := by
  rw [meanBrightness?_eq] at average
  split at average
  · cases average
  · exact Option.some.inj average

/-- Some visible pixel is at least as bright as the mean. -/
theorem exists_mean_le (some : b.visible ≠ []) : ∃ p ∈ b.visible, b.mean ≤ p.channelSum / 3 := by
  apply List.exists_le_of_sum_le some
  rw [List.map_const', List.sum_replicate, smul_eq_mul, Nat.mul_comm]
  exact Nat.div_mul_le_self _ _

theorem threshold_lt_mean (valued : ratio.value? = some v) (lower : 0 ≤ v) (upper : v < 1)
    (light : 1 ≤ b.mean) : b.threshold ratio < b.mean := by
  have positive : (0 : ℚ) < b.mean := by exact_mod_cast light
  have less : (b.mean : ℚ) * v < b.mean := mul_lt_of_lt_one_right positive upper
  rw [threshold_of_value? valued]
  calc min ⌊b.mean * v⌋₊ 0xFFFFFFFF ≤ ⌊b.mean * v⌋₊ := Nat.min_le_left _ _
    _ < b.mean := (Nat.floor_lt (by positivity)).mpr less

/-- Some visible pixel is bright. -/
theorem exists_bright (valued : ratio.value? = some v) (lower : 0 ≤ v) (upper : v < 1)
    (light : 1 ≤ b.mean) : ∃ p ∈ b.visible, 3 * b.threshold ratio < p.channelSum := by
  have some : b.visible ≠ [] := by
    intro none
    rw [mean_of_not_visible none] at light
    omega
  obtain ⟨p, member, most⟩ := exists_mean_le some
  have below := threshold_lt_mean valued lower upper light
  refine ⟨p, member, ?_⟩
  omega

/-! ## What a silhouette keeps -/

/-- If a bright pixel is visible, all visible pixels are kept only if all are bright. -/
theorem forall_kept_iff (bright : ∃ p ∈ b.visible, 3 * threshold < p.channelSum) :
    (∀ p ∈ b.visible, b.Kept threshold p) ↔ ∀ p ∈ b.visible, 3 * threshold < p.channelSum := by
  obtain ⟨light, shown, above⟩ := bright
  obtain ⟨x, y, place, seen⟩ := mem_visible_iff.mp shown
  obtain ⟨column, row, first, leads⟩ := exists_firstVisible place seen
  have start : first ∈ b.visible := mem_visible_iff.mpr ⟨column, row, leads.1, leads.2.1⟩
  simp only [leads.kept_iff]
  constructor
  · intro kept p member
    -- the bright pixel is kept too, so the tone to keep is its tone
    have side := (kept light shown).2
    have side' := (kept p member).2
    omega
  · intro all p member
    obtain ⟨-, -, -, visible⟩ := mem_visible_iff.mp member
    have high := all p member
    have high' := all first start
    exact ⟨visible, iff_of_false (by omega) (by omega)⟩

/-- Beside a dark first pixel no bright one is kept. -/
theorem FirstVisible.not_kept {x y : Nat} {first p : Pixel} (leads : b.FirstVisible x y first)
    (dark : first.channelSum ≤ 3 * threshold) (bright : 3 * threshold < p.channelSum) :
    ¬ b.Kept threshold p := by
  intro kept
  have low := ((leads.kept_iff threshold p).mp kept).2.mpr dark
  omega

/-- **Some visible pixel is bright.**  Let the ratio have a value from zero to less than one, which
is a ratio that a filter uses as it is, and let the mean brightness be one at least.  Then a visible
pixel lies above the threshold.  So, for a bitmap whose edges can be sampled, the silhouette keeps
all visible pixels exactly if all of them are bright; and if the first one is dark, some visible
pixel is unset. -/
theorem silhouette_averages (b : Bitmap) (ratio : Single) (v : ℚ) (m : Nat)
    (valued : ratio.value? = some v) (lower : 0 ≤ v) (upper : v < 1)
    (average : b.meanBrightness? = some m) (light : 1 ≤ m) :
    Ratio.clamp ratio = ratio ∧
    (∃ p ∈ b.visible, 3 * b.threshold ratio < p.channelSum) ∧
    ∀ samples, EdgeSamples.locate b.width b.height = .ok samples →
      ∃ out, (b.silhouette ratio).value = .ok out ∧
        ((∀ x y p, b.pixel? x y = some p → p.isTransparent = false →
            out.pixel? x y = some .white) ↔
          ∀ p ∈ b.visible, 3 * b.threshold ratio < p.channelSum) ∧
        ∀ column row first, b.FirstVisible column row first →
          first.channelSum ≤ 3 * b.threshold ratio →
          ∃ x y p, b.pixel? x y = some p ∧ p.isTransparent = false ∧
            out.pixel? x y = some .unset := by
  rw [← mean_of_meanBrightness? average] at light
  have bright := exists_bright valued lower upper light
  refine ⟨Ratio.clamp_of_value? valued lower (le_of_lt upper), bright, fun samples located => ?_⟩
  rw [value_silhouette, located]
  refine ⟨_, rfl, ?_, ?_⟩
  · rw [← forall_kept_iff bright]
    constructor
    · intro white p member
      obtain ⟨x, y, place, seen⟩ := mem_visible_iff.mp member
      obtain ⟨q, place', kept⟩ := (pixel?_draw_eq_white_iff _ _ x y).mp (white x y p place seen)
      rw [place, Option.some.injEq] at place'
      exact place' ▸ kept
    · intro kept x y p place seen
      have member := mem_visible_iff.mpr ⟨x, y, place, seen⟩
      exact (pixel?_draw_eq_white_iff _ _ x y).mpr ⟨p, place, kept p member⟩
  · intro column row first leads dark
    obtain ⟨p, member, above⟩ := bright
    obtain ⟨x, y, place, seen⟩ := mem_visible_iff.mp member
    have dropped := leads.not_kept dark above
    exact ⟨x, y, p, place, seen, (pixel?_draw_eq_unset_iff _ _ x y).mpr ⟨p, place, dropped⟩⟩

/-- A light among dark pixels, after a hidden one. -/
def lamp : Bitmap :=
  ⟨2, 3, #[⟨255, 255, 255, 0⟩, ⟨0, 0, 0, 255⟩, ⟨0, 0, 9, 255⟩, ⟨200, 220, 90, 1⟩, ⟨0, 0, 0, 255⟩,
    ⟨1, 1, 1, 255⟩], rfl⟩

theorem firstVisible_lamp : lamp.FirstVisible 1 0 ⟨0, 0, 0, 255⟩ :=
  firstVisible_of_take rfl rfl (by decide)

theorem silhouette_averages_lamp :
    Ratio.default.value? = some (13421773 / 2 ^ 24) ∧ lamp.meanBrightness? = some 34 ∧
      EdgeSamples.locate 2 3 = .ok ⟨3, 3, 2, 1⟩ ∧ lamp.FirstVisible 1 0 ⟨0, 0, 0, 255⟩ ∧
      lamp.threshold Ratio.default = 27 ∧
      ∃ out, (lamp.silhouette Ratio.default).value = .ok out ∧
        ∃ x y p, lamp.pixel? x y = some p ∧ p.isTransparent = false ∧
          out.pixel? x y = some .unset := by
  have mean : lamp.meanBrightness? = some 34 := by decide
  have located : EdgeSamples.locate 2 3 = .ok ⟨3, 3, 2, 1⟩ := rfl
  have threshold : lamp.threshold Ratio.default = 27 := by decide +kernel
  obtain ⟨-, -, averages⟩ := silhouette_averages lamp _ _ _ Ratio.value?_default (by norm_num)
    (by norm_num) mean (by decide)
  obtain ⟨out, drawn, -, drops⟩ := averages _ located
  have dark : (⟨0, 0, 0, 255⟩ : Pixel).channelSum ≤ 3 * lamp.threshold Ratio.default := by
    rw [threshold]
    decide
  exact ⟨Ratio.value?_default, mean, located, firstVisible_lamp, threshold, out, drawn,
    drops 1 0 _ firstVisible_lamp dark⟩

end StatusIcon.Bitmap
