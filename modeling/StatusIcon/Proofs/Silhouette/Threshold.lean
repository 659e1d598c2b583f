/-
# StatusIcon.Proofs.Silhouette.Threshold -- the threshold is exact

The mean brightness of the visible pixels is a byte (`Bitmap.mean_le`), and eight bits more than a
single has still fit into a double.  So the product with the ratio is not rounded, and the threshold
is its whole part (`Bitmap.threshold_of_value?`).

A ratio that a filter is configured with is between zero and one or not a number.  With such a ratio
the threshold does not exceed the mean, and three times the threshold does not exceed the largest
channel sum, 765 (`Bitmap.threshold_exact`).
-/
import Mathlib.Algebra.Group.Action.Defs
import StatusIcon.Fixer.Basic
import StatusIcon.Proofs.Binary.Values
import StatusIcon.Proofs.Silhouette.Ratio

set_option autoImplicit false

namespace StatusIcon

open Binary (value?)

/-- The whole number next to a rational on the way to zero. -/
def towardZero (x : ℚ) : ℤ := if 0 ≤ x then ⌊x⌋ else ⌈x⌉

/-- Kept between zero and a limit, it is the natural floor kept below the limit. -/
theorem clamp_towardZero (x : ℚ) (limit : Nat) :
    max 0 (min (towardZero x) limit) = ((min ⌊x⌋₊ limit : Nat) : ℤ) := by
  unfold towardZero
  split
  · next positive =>
      have floor : ((⌊x⌋₊ : Nat) : ℤ) = ⌊x⌋ := Int.natCast_floor_eq_floor positive
      omega
  · next negative =>
      have below : x ≤ 0 := le_of_not_ge negative
      have floor : ⌊x⌋₊ = 0 := Nat.floor_of_nonpos below
      have ceil : ⌈x⌉ ≤ 0 := Int.ceil_le.mpr (by exact_mod_cast below)
      omega

namespace Ratio

open Binary (Format)

variable {negative : Bool} {code : Fin (Format.single.infinity + 1)}

theorem lt_infinity_of_units_le (few : Format.single.units code ≤ 2 ^ Format.single.depth) :
    code.val < Format.single.infinity := by
  rw [← units_oneCode] at few
  have below : code.val ≤ oneCode.val := Format.single.units_strictMono.le_iff_le.mp few
  exact Nat.lt_of_le_of_lt below (by decide)

/-- The zeros and the positive singles up to one have values between zero and one. -/
theorem exists_value?_of_within (within : code.val = 0 ∨
      negative = false ∧ Format.single.units code ≤ 2 ^ Format.single.depth) :
    ∃ v, (.signed negative code : Single).value? = some v ∧ 0 ≤ v ∧ v ≤ 1 := by
  rcases within with zero | ⟨rfl, few⟩
  · have none : Format.single.units code = 0 := by rw [zero, Binary.units_zero]
    have finite := lt_infinity_of_units_le (none ▸ Nat.zero_le _)
    refine ⟨_, Binary.value?_eq_some_iff.mpr ⟨_, _, rfl, finite, rfl⟩, ?_⟩
    simp [none]
  · have finite := lt_infinity_of_units_le few
    refine ⟨_, Binary.value?_eq_some_iff.mpr ⟨_, _, rfl, finite, rfl⟩, ?_⟩
    have scale : (0 : ℚ) < 2 ^ Format.single.depth := by positivity
    have few' : (Format.single.units code : ℚ) ≤ 2 ^ Format.single.depth := by exact_mod_cast few
    rw [Binary.sign, if_neg Bool.false_ne_true, one_mul]
    exact ⟨by positivity, (div_le_one scale).mpr few'⟩

/-- A ratio of a filter is not a number or has a value between zero and one. -/
theorem value?_clamp (ratio : Single) :
    clamp ratio = .nan ∨ ∃ v, (clamp ratio).value? = some v ∧ 0 ≤ v ∧ v ≤ 1 := by
  have nearest := nearest_clamp ratio
  generalize clamp ratio = nearer at nearest
  cases nearest with
  | nan => exact .inl rfl
  | inside within => exact .inr (exists_value?_of_within within)
  | below negative => exact .inr (exists_value?_of_within (.inl rfl))
  | above past exact => exact .inr (exists_value?_of_within (.inr ⟨rfl, Nat.le_of_eq exact⟩))

/-- A ratio whose value is between zero and one is used as it is. -/
theorem clamp_of_value? {ratio : Single} {v : ℚ} (valued : ratio.value? = some v) (lower : 0 ≤ v)
    (upper : v ≤ 1) : clamp ratio = ratio := by
  have nearest := nearest_clamp ratio
  generalize clamp ratio = nearer at nearest ⊢
  have scale : (0 : ℚ) < 2 ^ Format.single.depth := by positivity
  obtain ⟨negative, code, rfl, -, rfl⟩ := Binary.value?_eq_some_iff.mp valued
  cases nearest with
  | inside within => rfl
  | below above =>
      -- it has a magnitude, so it is less than zero
      have units : (0 : ℚ) < Format.single.units code := by exact_mod_cast Format.units_pos above
      have magnitude := div_pos units scale
      rw [Binary.sign, if_pos rfl] at lower
      linarith
  | above past exact =>
      have units : (2 : ℚ) ^ Format.single.depth < Format.single.units code := by
        exact_mod_cast past
      have magnitude := (one_lt_div scale).mpr units
      rw [Binary.sign, if_neg Bool.false_ne_true] at upper
      linarith

/-- The single nearest to four fifths is a little more. -/
theorem value?_default : default.value? = some (13421773 / 2 ^ 24) := by
  have number : default = .signed false ⟨1061997773, by decide⟩ := by decide +kernel
  have units : Format.single.units 1061997773 = 13421773 * 2 ^ 125 := by decide +kernel
  have depth : Format.single.depth = 149 := by decide
  refine Binary.value?_eq_some_iff.mpr ⟨_, _, number, by decide, ?_⟩
  rw [units, depth, Binary.sign, if_neg Bool.false_ne_true]
  norm_num

end Ratio

namespace Bitmap

variable (b : Bitmap)

/-! ## The mean brightness -/

/-- The pixels that are not transparent. -/
def visible : List Pixel := b.pixels.toList.filter fun p => !p.isTransparent

/-- The mean brightness of the visible pixels, rounded down, and zero if there are none. -/
def mean : Nat := (b.visible.map fun p => p.channelSum / 3).sum / b.visible.length

theorem mean_le : b.mean ≤ 255 := by
  have bright : ∀ value ∈ b.visible.map fun p => p.channelSum / 3, value ≤ 255 := by
    intro value member
    obtain ⟨p, -, rfl⟩ := List.mem_map.mp member
    have most := p.channelSum_le
    omega
  have total := List.sum_le_card_nsmul _ _ bright
  rw [List.length_map, smul_eq_mul] at total
  exact Nat.div_le_of_le_mul total

theorem meanBrightness?_eq : b.meanBrightness? = if b.visible = [] then none else some b.mean := by
  have values : b.brightnesses = b.visible.map fun p => p.channelSum / 3 := rfl
  have length : b.brightnesses.length = b.visible.length := by rw [values, List.length_map]
  unfold meanBrightness? mean
  rw [← values, ← length, List.sum_eq_foldl]
  by_cases none : b.visible = []
  · simp [values, none]
  · cases filled : b.brightnesses with
    | nil => exact absurd (List.map_eq_nil_iff.mp (values.symm.trans filled)) none
    | cons value rest => simp [none]

/-! ## The threshold -/

variable {b} {ratio : Single} {v : ℚ}

theorem represents_mean : Binary.Format.double.Represents b.mean :=
  Binary.represents_natCast Binary.Format.isWide_double
    (Nat.lt_of_le_of_lt b.mean_le (by decide))

/-- The product of mean and ratio is not rounded. -/
theorem value?_mean_mul (valued : ratio.value? = some v) :
    ((.ofNat b.mean : Double).mul ratio.convert).value? = some (b.mean * v) := by
  have single := Binary.represents_of_value? Binary.Format.isWide_single valued
  have double : Binary.Format.double.Represents v := by
    simpa using Binary.represents_double_mul single (m := 1) (by decide)
  have product : Binary.Format.double.Represents (b.mean * v) :=
    Binary.represents_double_mul single (Nat.lt_of_le_of_lt b.mean_le (by decide))
  exact Binary.value?_mul (Binary.value?_ofNat represents_mean)
    (Binary.value?_convert valued double) product

theorem threshold_of_visible (some : b.visible ≠ []) :
    b.threshold ratio = ((.ofNat b.mean : Double).mul ratio.convert).wholePart 0xFFFFFFFF := by
  rw [threshold, meanBrightness?_eq, if_neg some]

theorem threshold_of_not_visible (none : b.visible = []) : b.threshold ratio = 0 := by
  rw [threshold, meanBrightness?_eq, if_pos none]

theorem mean_of_not_visible (none : b.visible = []) : b.mean = 0 := by
  simp [mean, none]

theorem threshold_of_value? (valued : ratio.value? = some v) :
    b.threshold ratio = min ⌊b.mean * v⌋₊ 0xFFFFFFFF := by
  by_cases none : b.visible = []
  · rw [threshold_of_not_visible none, mean_of_not_visible none]
    simp
  · rw [threshold_of_visible none, Binary.wholePart_of_value? (value?_mean_mul valued)]

theorem threshold_nan : b.threshold .nan = 0 := by
  by_cases none : b.visible = []
  · exact threshold_of_not_visible none
  · rw [threshold_of_visible none]
    rfl

theorem threshold_infinite (negative : Bool) :
    b.threshold (.infinite negative) =
      if b.mean = 0 ∨ negative = true then 0 else 0xFFFFFFFF := by
  by_cases none : b.visible = []
  · rw [threshold_of_not_visible none, if_pos (.inl (mean_of_not_visible none))]
  · rw [threshold_of_visible none, Binary.convert_infinite,
      Binary.ofNat_mul_infinite represents_mean]
    by_cases zero : b.mean = 0
    · rw [if_pos zero, if_pos (.inl zero)]
      rfl
    · rw [if_neg zero, Binary.wholePart_infinite]
      simp only [zero, false_or]

theorem threshold_clamp_le (b : Bitmap) (ratio : Single) :
    b.threshold (Ratio.clamp ratio) ≤ b.mean := by
  rcases Ratio.value?_clamp ratio with nan | ⟨v, valued, -, most⟩
  · rw [nan, threshold_nan]
    exact Nat.zero_le _
  · rw [threshold_of_value? valued]
    refine Nat.le_trans (Nat.min_le_left _ _) (Nat.floor_le_of_le ?_)
    exact mul_le_of_le_one_right (Nat.cast_nonneg _) most

theorem three_mul_threshold_clamp_le (b : Bitmap) (ratio : Single) :
    3 * b.threshold (Ratio.clamp ratio) ≤ 765 := by
  have low := b.threshold_clamp_le ratio
  have byte := b.mean_le
  omega

/-- **The threshold is exact and bounded.**  The mean is a byte.  Without visible pixels the
threshold is zero.  For a ratio that has a value the product with the mean is not rounded, and the
threshold is that product, cut toward zero and kept within 32 bits.  The other ratios are
not-a-number and the infinities: the threshold is zero for them, but for positive infinity it is the
largest one unless the mean is zero.  With a ratio as filters and fixers have it the threshold is at
most the mean, so three times the threshold stays within 765. -/
theorem threshold_exact (b : Bitmap) :
    b.mean ≤ 255 ∧
    (b.visible = [] → ∀ ratio, b.threshold ratio = 0) ∧
    (∀ (ratio : Single) (v : ℚ), ratio.value? = some v →
      ((.ofNat b.mean : Double).mul ratio.convert).value? = some (b.mean * v) ∧
      (b.threshold ratio : ℤ) = max 0 (min (towardZero (b.mean * v)) 0xFFFFFFFF)) ∧
    (∀ ratio : Single, ratio.value? = none ↔
      ratio = .nan ∨ ratio = .infinite false ∨ ratio = .infinite true) ∧
    b.threshold .nan = 0 ∧
    b.threshold (.infinite true) = 0 ∧
    b.threshold (.infinite false) = (if b.mean = 0 then 0 else 0xFFFFFFFF) ∧
    (∀ single, b.threshold (Ratio.clamp single) ≤ b.mean ∧
      3 * b.threshold (Ratio.clamp single) ≤ 765) ∧
    ∀ fixer : IconFixer, b.threshold fixer.silhouette.thresholdRatio ≤ b.mean ∧
      3 * b.threshold fixer.silhouette.thresholdRatio ≤ 765 := by
  refine ⟨b.mean_le, fun none ratio => threshold_of_not_visible none, ?_,
    fun ratio => Binary.value?_eq_none_iff, threshold_nan, ?_, ?_, ?_, ?_⟩
  · intro ratio v valued
    refine ⟨value?_mean_mul valued, ?_⟩
    rw [threshold_of_value? valued, ← clamp_towardZero]
    rfl
  · rw [threshold_infinite, if_pos (.inr rfl)]
  · rw [threshold_infinite]
    simp only [Bool.false_eq_true, or_false]
  · intro single
    exact ⟨b.threshold_clamp_le single, b.three_mul_threshold_clamp_le single⟩
  · intro fixer
    rw [← fixer.silhouette.clamped]
    exact ⟨b.threshold_clamp_le _, b.three_mul_threshold_clamp_le _⟩

/-- A single pixel of brightness 150. -/
def olive : Bitmap := filled 1 1 ⟨200, 200, 50, 255⟩

theorem threshold_exact_olive :
    olive.mean = 150 ∧ Ratio.default.value? = some (13421773 / 2 ^ 24) ∧
      towardZero ((150 : ℕ) * (13421773 / 2 ^ 24)) = 120 ∧ olive.threshold Ratio.default = 120 ∧
      (filled 3 2 .unset).visible = [] ∧ (filled 3 2 .unset).threshold .nan = 0 := by
  have mean : olive.mean = 150 := by decide
  have cut : towardZero ((150 : ℕ) * (13421773 / 2 ^ 24)) = 120 := by
    rw [towardZero, if_pos (by positivity), Int.floor_eq_iff]
    norm_num
  have exact := ((threshold_exact olive).2.2.1 _ _ Ratio.value?_default).2
  rw [mean, cut] at exact
  have hidden : (filled 3 2 .unset).visible = [] := by decide
  exact ⟨mean, Ratio.value?_default, cut, by omega, hidden, (threshold_exact _).2.1 hidden _⟩

end Bitmap

end StatusIcon
