/-
# StatusIcon.Proofs.Binary.Shortest -- there is a shortest decimal

The search for the shortest decimal of a magnitude goes through grids that are ten times finer each
time.  As soon as a step of the grid is less than the way up to the end of the interval, the grid
has a point there (`Interval.exists_onGrid?`), and with few enough bits this happens before the
search ends.  So what is printed is never the zero that the search gives up with, and it is no
larger than the end of the interval (`shortest_spec`).
-/
import StatusIcon.Binary.Decimal
import StatusIcon.Proofs.Binary.Rounding

set_option autoImplicit false

namespace StatusIcon.Binary

/-! ## Neighbours -/

namespace Format

variable {f : Format}

/-- Every code is some bits at a place, and so is the next one. -/
theorem exists_run (f : Format) (code : Nat) :
    ∃ s q, code = s * f.run + q ∧ q < 2 * f.run ∧ (s = 0 ∨ f.run ≤ q) := by
  have whole := Nat.div_add_mod' code f.run
  have rest := Nat.mod_lt code f.run_pos
  cases quotient : code / f.run with
  | zero => exact ⟨0, code, by omega, by rw [quotient] at whole; omega, .inl rfl⟩
  | succ s =>
      rw [quotient, Nat.succ_mul] at whole
      exact ⟨s, f.run + code % f.run, by omega, by omega, .inr (Nat.le_add_right _ _)⟩

/-- The way up to the next magnitude, which is not too short. -/
theorem exists_units_succ (f : Format) (code : Nat) :
    ∃ gap, f.units (code + 1) = f.units code + gap ∧ f.units code < 2 * f.run * gap := by
  obtain ⟨s, q, rfl, few, filled⟩ := exists_run f code
  have here := units_shift (Nat.le_of_lt few) filled
  have next : f.units (s * f.run + (q + 1)) = (q + 1) * 2 ^ s :=
    units_shift few (filled.imp_right fun more => Nat.le_succ_of_le more)
  refine ⟨2 ^ s, ?_, ?_⟩
  · rw [Nat.add_assoc, next, here, Nat.succ_mul]
  · rw [here]
    exact Nat.mul_lt_mul_of_pos_right few (Nat.two_pow_pos s)

theorem units_strictMono (f : Format) : StrictMono f.units := by
  refine strictMono_nat_of_lt_succ fun code => ?_
  obtain ⟨gap, next, near⟩ := exists_units_succ f code
  have wide : 0 < gap := Nat.pos_of_mul_pos_left (Nat.zero_lt_of_lt near)
  omega

theorem units_mono (f : Format) : Monotone f.units := f.units_strictMono.monotone

theorem units_pos {code : Nat} (pos : 0 < code) : 0 < f.units code := by
  have one : f.units 1 = 1 := by
    have units : f.units (0 * f.run + 1) = 1 * 2 ^ 0 :=
      units_shift (by have := f.run_pos; omega) (.inl rfl)
    simpa using units
  have up : f.units 1 ≤ f.units code := f.units_mono pos
  omega

/-- What would be the next magnitude after the last one. -/
theorem IsWide.units_infinity (wide : f.IsWide) :
    f.units f.infinity = 2 * f.run * f.lastStep * 2 ^ f.depth := by
  have half : 2 ^ 1 ≤ 2 ^ (f.exponentBits - 1) :=
    Nat.pow_le_pow_right (by decide) (Nat.le_sub_of_add_le wide.exponents)
  have code : f.infinity = (2 * 2 ^ (f.exponentBits - 1) - 3 + 1 + 1) * f.run + 0 := by
    change (2 ^ f.exponentBits - 1) * f.run = _
    rw [wide.exponents_eq]
    rfl
  rw [code, units_run_mul_add _ f.run_pos, pow_succ, wide.scale_eq]
  ring

end Format

/-! ## Decimals -/

/-- Ten to an exponent is at most `n / d`. -/
def TenPowLe (exponent : Int) (n d : Nat) : Prop :=
  d * 10 ^ exponent.toNat ≤ n * 10 ^ (-exponent).toNat

theorem ten_pow_toNat (exponent : Int) (k : Nat) :
    10 ^ (exponent - k).toNat * 10 ^ k * 10 ^ (-exponent).toNat =
      10 ^ (-(exponent - k)).toNat * 10 ^ exponent.toNat := by
  rw [← pow_add, ← pow_add, ← pow_add]
  congr 1
  omega

theorem TenPowLe.sub {exponent : Int} {n d : Nat} (le : TenPowLe exponent n d) (k : Nat) :
    d * 10 ^ (exponent - k).toNat * 10 ^ k ≤ n * 10 ^ (-(exponent - k)).toNat := by
  refine Nat.le_of_mul_le_mul_right ?_ (Nat.pow_pos (by decide) : 0 < 10 ^ (-exponent).toNat)
  calc d * 10 ^ (exponent - k).toNat * 10 ^ k * 10 ^ (-exponent).toNat
      = d * (10 ^ (exponent - k).toNat * 10 ^ k * 10 ^ (-exponent).toNat) := by ring
    _ = 10 ^ (-(exponent - k)).toNat * (d * 10 ^ exponent.toNat) := by
      rw [ten_pow_toNat]
      ring
    _ ≤ 10 ^ (-(exponent - k)).toNat * (n * 10 ^ (-exponent).toNat) := Nat.mul_le_mul_left _ le
    _ = n * 10 ^ (-(exponent - k)).toNat * 10 ^ (-exponent).toNat := by ring

namespace Decimal

/-- The decimal is at most `n / m`. -/
def AtMost (d : Decimal) (n m : Nat) : Prop :=
  d.digits * (m * 10 ^ d.exponent.toNat) ≤ n * 10 ^ (-d.exponent).toNat

theorem AtMost.strip {digits n m : Nat} {exponent : Int} (zero : digits % 10 = 0)
    (le : AtMost ⟨digits, exponent⟩ n m) : AtMost ⟨digits / 10, exponent + 1⟩ n m := by
  unfold AtMost at *
  dsimp only at *
  have tens : digits = digits / 10 * 10 := by omega
  rcases Int.lt_or_le exponent 0 with down | up
  · have more : (exponent + 1).toNat = exponent.toNat := by omega
    have less : (-exponent).toNat = (-(exponent + 1)).toNat + 1 := by omega
    rw [more]
    rw [less, pow_succ, tens] at le
    refine Nat.le_of_mul_le_mul_right ?_ (by decide : 0 < 10)
    calc digits / 10 * (m * 10 ^ exponent.toNat) * 10
        = digits / 10 * 10 * (m * 10 ^ exponent.toNat) := by ring
      _ ≤ n * (10 ^ (-(exponent + 1)).toNat * 10) := le
      _ = n * 10 ^ (-(exponent + 1)).toNat * 10 := by ring
  · have more : (exponent + 1).toNat = exponent.toNat + 1 := by omega
    have less : (-exponent).toNat = (-(exponent + 1)).toNat := by omega
    rw [more, pow_succ]
    rw [less, tens] at le
    calc digits / 10 * (m * (10 ^ exponent.toNat * 10))
        = digits / 10 * 10 * (m * 10 ^ exponent.toNat) := by ring
      _ ≤ n * 10 ^ (-(exponent + 1)).toNat := le

theorem stripZeros_spec {d : Decimal} {n m : Nat} (fuel : Nat) (pos : 0 < d.digits)
    (le : d.AtMost n m) :
    0 < (d.stripZeros fuel).digits ∧ (d.stripZeros fuel).AtMost n m := by
  induction fuel generalizing d with
  | zero => exact ⟨pos, le⟩
  | succ fuel ih =>
      simp only [stripZeros]
      split
      · next zero => exact ih (by dsimp only; omega) (le.strip zero.2)
      · exact ⟨pos, le⟩

theorem tenPowLe_leadingExponent {n d : Nat} (posN : 0 < n) (posD : 0 < d) :
    TenPowLe (leadingExponent n d) n d := by
  unfold TenPowLe leadingExponent
  split
  · next large =>
      obtain ⟨k, length⟩ := Nat.exists_eq_add_of_le (Nat.length_toDigits_pos (b := 10) (n := n / d))
      have up : ((Nat.toDigits 10 (n / d)).length : Int) - 1 = k := by omega
      have below : 10 ^ k ≤ n / d := by
        rcases Nat.eq_zero_or_pos k with rfl | pos
        · exact Nat.div_pos large posD
        · refine Nat.le_of_not_lt fun less => ?_
          have short := (Nat.length_toDigits_le_iff (by decide) pos).mpr less
          omega
      rw [up, Int.toNat_natCast, Int.toNat_neg_natCast, pow_zero, Nat.mul_one, Nat.mul_comm]
      exact (Nat.le_div_iff_mul_le posD).mp below
  · have pos := Nat.length_toDigits_pos (b := 10) (n := (d + n - 1) / n - 1)
    have short := (Nat.length_toDigits_le_iff (b := 10) (n := (d + n - 1) / n - 1)
      (by decide) pos).mp (Nat.le_refl _)
    generalize (Nat.toDigits 10 ((d + n - 1) / n - 1)).length = k at short ⊢
    have quotient : (d + n - 1) / n ≤ 10 ^ k := by omega
    rw [Int.toNat_neg_natCast, neg_neg, Int.toNat_natCast, pow_zero, Nat.mul_one]
    have cover := Nat.div_add_mod (d + n - 1) n
    have rest := Nat.mod_lt (d + n - 1) posN
    have scaled := Nat.mul_le_mul_left n quotient
    omega

end Decimal

/-! ## The search -/

namespace Interval

variable {i : Interval} {exponent leading : Int} {d : Decimal}

theorem contains_of_lt {n m : Nat} (above : i.low * m < n) (below : n < i.high * m) :
    i.contains n m = true := by
  unfold contains
  split
  · simp [Nat.le_of_lt above, Nat.le_of_lt below]
  · simp [above, below]

theorem of_contains {n m : Nat} (inside : i.contains n m = true) :
    i.low * m ≤ n ∧ n ≤ i.high * m := by
  unfold contains at inside
  split at inside
  · simpa using inside
  · have strict : i.low * m < n ∧ n < i.high * m := by simpa using inside
    exact ⟨Nat.le_of_lt strict.1, Nat.le_of_lt strict.2⟩

/-- A decimal on the grid is a point of the interval. -/
theorem of_onGrid? (found : i.onGrid? exponent = some d) :
    i.low * 10 ^ (-d.exponent).toNat ≤ d.digits * (i.scale * 10 ^ d.exponent.toNat) ∧
      d.AtMost i.high i.scale := by
  unfold onGrid? at found
  dsimp only at found
  split at found
  · next below =>
      obtain rfl := Option.some.inj found
      rw [Bool.and_eq_true] at below
      exact of_contains below.1
  split at found
  · next above =>
      obtain rfl := Option.some.inj found
      exact of_contains above
  · cases found

/-- A grid finer than the way up to the end has a point on it. -/
theorem exists_onGrid? (low : i.low ≤ i.value)
    (fine : i.value * 10 ^ (-exponent).toNat + i.scale * 10 ^ exponent.toNat <
      i.high * 10 ^ (-exponent).toNat) (pos : 0 < i.scale) :
    ∃ d, i.onGrid? exponent = some d := by
  unfold onGrid?
  dsimp only
  change i.value * Nat.pow 10 (-exponent).toNat + i.scale * Nat.pow 10 exponent.toNat <
    i.high * Nat.pow 10 (-exponent).toNat at fine
  have scaled := Nat.mul_le_mul_right (Nat.pow 10 (-exponent).toNat) low
  have some : 0 < i.scale * Nat.pow 10 exponent.toNat := Nat.mul_pos pos (Nat.pow_pos (by decide))
  generalize Nat.pow 10 (-exponent).toNat = down at *
  generalize i.scale * Nat.pow 10 exponent.toNat = step at *
  have whole := Nat.div_add_mod' (i.value * down) step
  have rest := Nat.mod_lt (i.value * down) some
  have above : i.contains ((i.value * down / step + 1) * step) down = true := by
    refine contains_of_lt ?_ ?_
    · rw [Nat.succ_mul]
      omega
    · rw [Nat.succ_mul]
      omega
  rw [if_pos above]
  split
  · exact ⟨_, rfl⟩
  · exact ⟨_, rfl⟩

/-- The search finds a point of the interval if there is one on any of its grids. -/
theorem search_spec {fuel count k : Nat} (from_ : count ≤ k) (before : k < count + fuel)
    (found : ∃ d, i.onGrid? (leading - k) = some d) :
    ∃ exponent, i.onGrid? exponent = some (i.search leading fuel count) := by
  induction fuel generalizing count with
  | zero => omega
  | succ fuel ih =>
      simp only [search]
      split
      · next d here => exact ⟨_, here⟩
      · next none =>
          refine ih ?_ (by omega)
          rcases Nat.lt_or_eq_of_le from_ with less | rfl
          · exact less
          · obtain ⟨d, here⟩ := found
            rw [none] at here
            cases here

end Interval

/-- The shortest decimal of a magnitude is not zero, and not past the middle between the magnitude
and the next one. -/
theorem shortest_spec {f : Format} {code : Nat} (few : 4 * f.run < 10 ^ 16) (pos : 0 < code) :
    0 < (shortest f code).digits ∧
      (shortest f code).AtMost (f.units code + f.units (code + 1)) (2 ^ (f.depth + 1)) := by
  obtain ⟨gap, next, wide⟩ := f.exists_units_succ code
  have here : 0 < f.units code := f.units_pos pos
  have down : f.units (code - 1) ≤ f.units code := f.units_mono (Nat.sub_le _ _)
  have scale : 0 < (Interval.ofCode f code).scale := Nat.two_pow_pos _
  obtain ⟨leading, lead, same⟩ : ∃ leading,
      TenPowLe leading (Interval.ofCode f code).value (Interval.ofCode f code).scale ∧
        shortest f code = ((Interval.ofCode f code).search leading 17 0).stripZeros 20 :=
    ⟨_, Decimal.tenPowLe_leadingExponent (Nat.mul_pos (by decide) here) scale, rfl⟩
  have grid : ∃ d, (Interval.ofCode f code).onGrid? (leading - (16 : Nat)) = some d := by
    have fine := lead.sub 16
    refine Interval.exists_onGrid? ?_ ?_ scale
    · change f.units (code - 1) + f.units code ≤ 2 * f.units code
      omega
    generalize (Interval.ofCode f code).scale * 10 ^ (leading - (16 : Nat)).toNat = step at fine ⊢
    have some : 0 < 10 ^ (-(leading - (16 : Nat))).toNat := Nat.pow_pos (by decide)
    generalize 10 ^ (-(leading - (16 : Nat))).toNat = down at fine some ⊢
    change step * 10 ^ 16 ≤ 2 * f.units code * down at fine
    change 2 * f.units code * down + step < (f.units code + f.units (code + 1)) * down
    -- the step is a part of the magnitude that is less than the way up
    have less : step < gap * down := by
      refine Nat.lt_of_mul_lt_mul_right (a := 4 * f.run) ?_
      calc step * (4 * f.run) ≤ step * 10 ^ 16 := Nat.mul_le_mul_left _ (Nat.le_of_lt few)
        _ ≤ 2 * f.units code * down := fine
        _ < 2 * (2 * f.run * gap) * down :=
          Nat.mul_lt_mul_of_pos_right (Nat.mul_lt_mul_of_pos_left wide (by decide)) some
        _ = gap * down * (4 * f.run) := by ring
    calc 2 * f.units code * down + step < 2 * f.units code * down + gap * down :=
          Nat.add_lt_add_left less _
      _ = (f.units code + f.units (code + 1)) * down := by
        rw [next]
        ring
  obtain ⟨exponent, found⟩ :=
    Interval.search_spec (Nat.zero_le 16) (by decide : 16 < 0 + 17) grid
  obtain ⟨above, below⟩ := Interval.of_onGrid? found
  rw [same]
  refine Decimal.stripZeros_spec 20 (Nat.pos_of_ne_zero fun zero => ?_) below
  rw [zero, Nat.zero_mul] at above
  refine absurd above (Nat.not_le.mpr (Nat.mul_pos ?_ (Nat.pow_pos (by decide))))
  exact Nat.lt_of_lt_of_le here (Nat.le_add_left _ _)

/-- So it is at most what would be the next magnitude after the last one. -/
theorem shortest_atMost {f : Format} {code : Nat} (wide : f.IsWide) (few : 4 * f.run < 10 ^ 16)
    (pos : 0 < code) (finite : code < f.infinity) :
    (shortest f code).AtMost (2 * f.run * f.lastStep) 1 := by
  have le := (shortest_spec few pos).2
  have here := f.units_mono (Nat.le_of_lt finite)
  have next := f.units_mono (Nat.succ_le_of_lt finite)
  rw [wide.units_infinity] at here next
  unfold Decimal.AtMost at *
  refine Nat.le_of_mul_le_mul_right ?_ (Nat.two_pow_pos (f.depth + 1))
  generalize shortest f code = d at le ⊢
  calc d.digits * (1 * 10 ^ d.exponent.toNat) * 2 ^ (f.depth + 1)
      = d.digits * (2 ^ (f.depth + 1) * 10 ^ d.exponent.toNat) := by ring
    _ ≤ (f.units code + f.units (code + 1)) * 10 ^ (-d.exponent).toNat := le
    _ ≤ (2 * f.run * f.lastStep * 2 ^ f.depth + 2 * f.run * f.lastStep * 2 ^ f.depth) *
        10 ^ (-d.exponent).toNat := Nat.mul_le_mul_right _ (Nat.add_le_add here next)
    _ = 2 * f.run * f.lastStep * 10 ^ (-d.exponent).toNat * 2 ^ (f.depth + 1) := by ring

end StatusIcon.Binary
