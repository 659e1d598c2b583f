/-
# StatusIcon.Proofs.Binary.Rounding -- how far a rounded quotient can go

A quotient is rounded by cutting it to the bits a format has and rounding what is left to a whole
number.  So it is that whole number times a power of two (`Format.units_round`), above the quotient
by half of that power at most (`Format.units_round_le`), and it stays among the finite codes as long
as the quotient stays below the middle between the last of them and the next power of two
(`Format.round_lt_infinity`).

So the product of two whole numbers, each rounded before, is finite as well, a few magnitudes below
the last one (`isInfinite_mul_ofNat`).
-/
import Mathlib.Tactic.Linarith
import Mathlib.Tactic.NormNum
import Mathlib.Tactic.Ring
import StatusIcon.Binary.Basic

set_option autoImplicit false

namespace StatusIcon

/-! ## Whole numbers -/

theorem div_le_roundToEven (n d : Nat) : n / d ≤ roundToEven n d := by
  simp only [roundToEven]
  split <;> omega

theorem roundToEven_le_of_div_lt {n d k : Nat} (less : n / d < k) : roundToEven n d ≤ k := by
  simp only [roundToEven]
  split <;> omega

theorem roundToEven_zero (d : Nat) : roundToEven 0 d = 0 := by
  have even : 2 * (0 % d) < d ∨ 2 * (0 % d) = d ∧ 0 / d % 2 = 0 := by
    rw [Nat.zero_mod, Nat.zero_div]
    omega
  exact (if_pos even).trans (Nat.zero_div d)

theorem two_mul_roundToEven_le (n d : Nat) : 2 * (d * roundToEven n d) ≤ 2 * n + d := by
  have whole := Nat.div_add_mod n d
  simp only [roundToEven]
  split
  · omega
  · next up =>
      rw [not_or] at up
      rw [Nat.mul_add]
      omega

theorem roundToEven_lt {n d k : Nat} (below : 2 * n + d < 2 * (d * k)) :
    roundToEven n d < k := by
  have near := two_mul_roundToEven_le n d
  refine lt_of_not_ge fun large => ?_
  have scaled := Nat.mul_le_mul_left d large
  omega

namespace Binary

namespace Format

variable (f : Format) (n d : Nat)

/-! ## Significands -/

/-- The magnitudes below the first one with all bits. -/
def run : Nat := 2 ^ f.fractionBits

/-- How many bits of the quotient are past the ones the format has. -/
def shift : Nat := (n / d).log2 - f.fractionBits

/-- The bits that are kept, as a whole number. -/
def significand : Nat := roundToEven n (d * 2 ^ f.shift n d)

theorem run_pos : 0 < f.run := Nat.two_pow_pos _

theorem round_eq : f.round n d = min (f.shift n d * f.run + f.significand n d) f.infinity := rfl

theorem div_shift : n / (d * 2 ^ f.shift n d) = n / d / 2 ^ f.shift n d :=
  (Nat.div_div_eq_div_mul n d _).symm

theorem significand_le : f.significand n d ≤ 2 * f.run := by
  refine roundToEven_le_of_div_lt ?_
  rw [div_shift, Nat.div_lt_iff_lt_mul (Nat.two_pow_pos _), run, shift]
  have top : n / d < 2 ^ ((n / d).log2 + 1) := Nat.lt_log2_self
  refine lt_of_lt_of_le top ?_
  rw [← pow_succ', ← pow_add]
  exact Nat.pow_le_pow_right (by decide) (by omega)

variable {f n d}

theorem run_mul_le (shifted : 0 < f.shift n d) : f.run * 2 ^ f.shift n d ≤ n / d := by
  unfold shift at shifted
  have nonzero : n / d ≠ 0 := by
    intro zero
    rw [zero] at shifted
    simp at shifted
  have split : f.fractionBits + f.shift n d = (n / d).log2 := by
    unfold shift
    omega
  rw [run, ← pow_add, split]
  exact Nat.log2_self_le nonzero

theorem run_le_significand (shifted : 0 < f.shift n d) : f.run ≤ f.significand n d := by
  refine le_trans ?_ (div_le_roundToEven _ _)
  rw [div_shift, Nat.le_div_iff_mul_le (Nat.two_pow_pos _)]
  exact run_mul_le shifted

/-! ## Codes and magnitudes -/

theorem units_of_lt {code : Nat} (small : code < f.run) : f.units code = code :=
  if_pos small

theorem units_run_mul_add (k : Nat) {m : Nat} (inside : m < f.run) :
    f.units ((k + 1) * f.run + m) = (f.run + m) * 2 ^ k := by
  have large : ¬ (k + 1) * f.run + m < f.run := by
    rw [Nat.add_mul]
    omega
  have quotient : ((k + 1) * f.run + m) / f.run = k + 1 := by
    rw [Nat.add_comm, Nat.add_mul_div_right _ _ f.run_pos, Nat.div_eq_of_lt inside, Nat.zero_add]
  have remainder : ((k + 1) * f.run + m) % f.run = m := by
    rw [Nat.add_comm, Nat.add_mul_mod_self_right, Nat.mod_eq_of_lt inside]
  have value : f.units ((k + 1) * f.run + m) =
      (f.run + ((k + 1) * f.run + m) % f.run) * 2 ^ (((k + 1) * f.run + m) / f.run - 1) :=
    if_neg large
  rw [value, quotient, remainder, Nat.add_sub_cancel]

theorem units_shift {s q : Nat} (few : q ≤ 2 * f.run) (filled : s = 0 ∨ f.run ≤ q) :
    f.units (s * f.run + q) = q * 2 ^ s := by
  rcases Nat.lt_or_ge q f.run with less | more
  · obtain rfl : s = 0 := filled.resolve_right (Nat.not_le.mpr less)
    rw [Nat.zero_mul, Nat.zero_add, units_of_lt less, pow_zero, Nat.mul_one]
  rcases Nat.lt_or_ge q (2 * f.run) with less | all
  · obtain ⟨m, rfl⟩ := Nat.exists_eq_add_of_le more
    have code : s * f.run + (f.run + m) = (s + 1) * f.run + m := by ring
    rw [code, units_run_mul_add s (by omega)]
  · obtain rfl : q = 2 * f.run := le_antisymm few all
    have code : s * f.run + 2 * f.run = (s + 1 + 1) * f.run + 0 := by ring
    rw [code, units_run_mul_add (s + 1) f.run_pos]
    ring

/-- A finite result is the bits that were kept, at their place. -/
theorem units_round (finite : f.round n d < f.infinity) :
    f.units (f.round n d) = f.significand n d * 2 ^ f.shift n d := by
  rw [round_eq] at finite ⊢
  rw [min_eq_left (by omega)]
  refine units_shift (f.significand_le n d) ?_
  exact (Nat.eq_zero_or_pos _).imp_right run_le_significand

/-- Above a full run, rounding adds half a unit in the last place at most. -/
theorem units_round_le (finite : f.round n d < f.infinity) (full : f.run * d ≤ n) :
    2 * f.run * (d * f.units (f.round n d)) ≤ (2 * f.run + 1) * n := by
  have near := two_mul_roundToEven_le n (d * 2 ^ f.shift n d)
  have place : f.run * (d * 2 ^ f.shift n d) ≤ n := by
    rcases Nat.eq_zero_or_pos (f.shift n d) with none | some
    · rwa [none, pow_zero, Nat.mul_one]
    · calc f.run * (d * 2 ^ f.shift n d) = f.run * 2 ^ f.shift n d * d := by ring
        _ ≤ n / d * d := Nat.mul_le_mul_right d (run_mul_le some)
        _ ≤ n := Nat.div_mul_le_self n d
  rw [units_round finite, significand]
  calc 2 * f.run * (d * (roundToEven n (d * 2 ^ f.shift n d) * 2 ^ f.shift n d))
      = f.run * (2 * (d * 2 ^ f.shift n d * roundToEven n (d * 2 ^ f.shift n d))) := by ring
    _ ≤ f.run * (2 * n + d * 2 ^ f.shift n d) := Nat.mul_le_mul_left _ near
    _ = 2 * f.run * n + f.run * (d * 2 ^ f.shift n d) := by ring
    _ ≤ 2 * f.run * n + n := Nat.add_le_add_left place _
    _ = (2 * f.run + 1) * n := by ring

/-- `top` is the shift of the last finite magnitudes. -/
theorem round_lt_infinity {top : Nat} (exponents : 2 ^ f.exponentBits = top + 3) (pos : 0 < d)
    (below : 2 * n < (4 * f.run - 1) * (2 ^ top * d)) : f.round n d < f.infinity := by
  have run := f.run_pos
  have last : f.infinity = (top + 2) * f.run := by
    change (2 ^ f.exponentBits - 1) * f.run = _
    rw [exponents]
    rfl
  refine lt_of_le_of_lt (min_le_left _ _) ?_
  rw [last]
  change f.shift n d * f.run + f.significand n d < _
  have few := f.significand_le n d
  rcases Nat.lt_trichotomy (f.shift n d) top with less | same | more
  · have scaled := Nat.mul_le_mul_right f.run (Nat.succ_le_of_lt less)
    rw [Nat.succ_mul] at scaled
    rw [Nat.add_mul]
    omega
  · -- the last run: one more than its last magnitude would be infinity
    have kept : f.significand n d < 2 * f.run := by
      refine roundToEven_lt ?_
      rw [same]
      calc 2 * n + d * 2 ^ top < (4 * f.run - 1) * (2 ^ top * d) + d * 2 ^ top := by omega
        _ = ((4 * f.run - 1) + 1) * (2 ^ top * d) := by ring
        _ = 2 * (d * 2 ^ top * (2 * f.run)) := by
          rw [Nat.sub_add_cancel (by omega)]
          ring
    rw [same, Nat.add_mul]
    omega
  · refine absurd below (Nat.not_lt.mpr ?_)
    have large := run_mul_le (f := f) (n := n) (d := d) (by omega)
    rw [Nat.le_div_iff_mul_le pos] at large
    have power : 2 ^ (top + 1) ≤ 2 ^ f.shift n d := Nat.pow_le_pow_right (by decide) more
    calc (4 * f.run - 1) * (2 ^ top * d) ≤ 4 * f.run * (2 ^ top * d) :=
          Nat.mul_le_mul_right _ (Nat.sub_le _ _)
      _ = 2 * (f.run * 2 ^ (top + 1) * d) := by ring
      _ ≤ 2 * (f.run * 2 ^ f.shift n d * d) := by gcongr
      _ ≤ 2 * n := Nat.mul_le_mul_left 2 large

/-! ## Products of whole numbers -/

/-- How far the last finite magnitudes are apart. -/
def lastStep (f : Format) : Nat := 2 ^ (2 ^ (f.exponentBits - 1) - 1 - f.fractionBits)

/-- The fourth of the finite magnitudes from the end.  Up to here a product stays finite, although
both factors and the product itself are rounded. -/
def safe (f : Format) : Nat := (2 * f.run - 4) * f.lastStep

/-- The format has whole numbers up to its last magnitudes, as single and double do. -/
structure IsWide (f : Format) : Prop where
  exponents : 2 ≤ f.exponentBits
  fraction : f.fractionBits < 2 ^ (f.exponentBits - 1)
  bits : 1 ≤ f.fractionBits

theorem isWide_single : single.IsWide := ⟨by decide, by decide, by decide⟩

theorem isWide_double : double.IsWide := ⟨by decide, by decide, by decide⟩

theorem lastStep_pos : 0 < f.lastStep := Nat.two_pow_pos _

namespace IsWide

variable {a b : Nat}

theorem exponents_eq (wide : f.IsWide) :
    2 ^ f.exponentBits = (2 * 2 ^ (f.exponentBits - 1) - 3) + 3 := by
  have two := wide.exponents
  have half : 2 ^ 1 ≤ 2 ^ (f.exponentBits - 1) := Nat.pow_le_pow_right (by decide) (by omega)
  rw [Nat.sub_add_cancel (by omega), ← pow_succ', Nat.sub_add_cancel (by omega)]

theorem scale_eq (wide : f.IsWide) :
    2 ^ (2 * 2 ^ (f.exponentBits - 1) - 3) = 2 ^ f.depth * f.lastStep := by
  have two := wide.exponents
  have fraction := wide.fraction
  have half : 2 ^ 1 ≤ 2 ^ (f.exponentBits - 1) := Nat.pow_le_pow_right (by decide) (by omega)
  have depth : f.depth = 2 ^ (f.exponentBits - 1) - 2 + f.fractionBits := rfl
  rw [lastStep, ← pow_add, depth]
  congr 1
  omega

theorem two_le_run (wide : f.IsWide) : 2 ≤ f.run :=
  Nat.pow_le_pow_right (by decide : 0 < 2) wide.bits

theorem round_ofNat_lt (wide : f.IsWide) (small : a ≤ f.safe) :
    f.round (a * 2 ^ f.depth) 1 < f.infinity := by
  refine round_lt_infinity wide.exponents_eq (by decide) ?_
  have run := wide.two_le_run
  have limit : 2 * a < (4 * f.run - 1) * f.lastStep :=
    calc 2 * a ≤ 2 * ((2 * f.run - 4) * f.lastStep) := Nat.mul_le_mul_left 2 small
      _ = (2 * (2 * f.run - 4)) * f.lastStep := (Nat.mul_assoc _ _ _).symm
      _ < (4 * f.run - 1) * f.lastStep := Nat.mul_lt_mul_of_pos_right (by omega) lastStep_pos
  rw [wide.scale_eq]
  calc 2 * (a * 2 ^ f.depth) = 2 * a * 2 ^ f.depth := (Nat.mul_assoc _ _ _).symm
    _ < (4 * f.run - 1) * f.lastStep * 2 ^ f.depth :=
      Nat.mul_lt_mul_of_pos_right limit (Nat.two_pow_pos _)
    _ = (4 * f.run - 1) * (2 ^ f.depth * f.lastStep * 1) := by ring

theorem units_ofNat_le (wide : f.IsWide) (pos : 0 < a) (small : a ≤ f.safe) :
    2 * f.run * f.units (f.round (a * 2 ^ f.depth) 1) ≤
      (2 * f.run + 1) * (a * 2 ^ f.depth) := by
  have full : f.run * 1 ≤ a * 2 ^ f.depth :=
    calc f.run * 1 = 1 * f.run := Nat.mul_comm _ _
      _ ≤ a * 2 ^ f.depth :=
        Nat.mul_le_mul pos (Nat.pow_le_pow_right (by decide) (Nat.le_add_left _ _))
  have near := units_round_le (wide.round_ofNat_lt small) full
  rwa [Nat.one_mul] at near

/-- Three roundings take a product at most this far up. -/
theorem slack (wide : f.IsWide) : 2 * (2 * f.run + 1) ^ 2 * (2 * f.run - 4) <
    (4 * f.run - 1) * (2 * f.run) ^ 2 := by
  obtain ⟨k, run⟩ := Nat.exists_eq_add_of_le wide.two_le_run
  rw [run, show 2 * (2 + k) - 4 = 2 * k by omega, show 4 * (2 + k) - 1 = 4 * k + 7 by omega]
  nlinarith

theorem round_mul_lt (wide : f.IsWide) (posA : 0 < a) (posB : 0 < b) (small : a * b ≤ f.safe) :
    f.round (f.units (f.round (a * 2 ^ f.depth) 1) * f.units (f.round (b * 2 ^ f.depth) 1) *
      2 ^ f.depth) (2 ^ (2 * f.depth)) < f.infinity := by
  have nearA := wide.units_ofNat_le posA (le_trans (Nat.le_mul_of_pos_right a posB) small)
  have nearB := wide.units_ofNat_le posB (le_trans (Nat.le_mul_of_pos_left b posA) small)
  have near := Nat.mul_le_mul nearA nearB
  refine round_lt_infinity wide.exponents_eq (Nat.two_pow_pos _) ?_
  rw [wide.scale_eq, Nat.mul_comm 2 f.depth, pow_mul]
  generalize f.units (f.round (a * 2 ^ f.depth) 1) = x at near ⊢
  generalize f.units (f.round (b * 2 ^ f.depth) 1) = y at near ⊢
  have scale : 0 < 2 ^ f.depth := Nat.two_pow_pos _
  generalize 2 ^ f.depth = scaled at near scale ⊢
  have run : 0 < (2 * f.run) ^ 2 := Nat.pow_pos (Nat.mul_pos (by decide) f.run_pos)
  refine Nat.lt_of_mul_lt_mul_left (a := (2 * f.run) ^ 2) ?_
  calc (2 * f.run) ^ 2 * (2 * (x * y * scaled))
      = 2 * (2 * f.run * x * (2 * f.run * y)) * scaled := by ring
    _ ≤ 2 * ((2 * f.run + 1) * (a * scaled) * ((2 * f.run + 1) * (b * scaled))) * scaled := by
        gcongr
    _ = 2 * (2 * f.run + 1) ^ 2 * (a * b) * scaled ^ 3 := by ring
    _ ≤ 2 * (2 * f.run + 1) ^ 2 * ((2 * f.run - 4) * f.lastStep) * scaled ^ 3 :=
      Nat.mul_le_mul_right _ (Nat.mul_le_mul_left _ small)
    _ = 2 * (2 * f.run + 1) ^ 2 * (2 * f.run - 4) * (f.lastStep * scaled ^ 3) := by ring
    _ < (4 * f.run - 1) * (2 * f.run) ^ 2 * (f.lastStep * scaled ^ 3) :=
      Nat.mul_lt_mul_of_pos_right wide.slack (Nat.mul_pos lastStep_pos (Nat.pow_pos scale))
    _ = (2 * f.run) ^ 2 * ((4 * f.run - 1) * (scaled * f.lastStep * scaled ^ 2)) := by ring

end IsWide

end Format

variable {f : Format}

theorem round_zero (d : Nat) : f.round 0 d = 0 := by
  simp [Format.round, roundToEven_zero]

theorem units_zero : f.units 0 = 0 := Format.units_of_lt f.run_pos

theorem ofNat_zero : (ofNat 0 : Binary f) = zero false := by
  have code : f.round (0 * Nat.pow 2 f.depth) 1 = 0 := by rw [Nat.zero_mul, round_zero]
  simp only [ofNat, ofQuotient, code, zero]

theorem isInfinite_ofQuotient {negative : Bool} {n d : Nat}
    (finite : f.round (n * 2 ^ f.depth) d < f.infinity) :
    (ofQuotient negative n d : Binary f).isInfinite = false :=
  beq_false_of_ne (Nat.ne_of_lt finite)

theorem isInfinite_zero_mul (wide : f.IsWide) (x : Binary f) :
    ((zero false).mul x).isInfinite = false := by
  have some : 0 < f.infinity := lt_of_le_of_lt (Nat.zero_le _) (wide.round_ofNat_lt (Nat.zero_le _))
  cases x with
  | nan => rfl
  | signed negative code =>
      rw [zero, mul]
      split
      · rfl
      · refine isInfinite_ofQuotient ?_
        rwa [units_zero, Nat.zero_mul, Nat.zero_mul, round_zero]

/-- The product of two whole numbers, each rounded before, is finite. -/
theorem isInfinite_mul_ofNat (wide : f.IsWide) {a b : Nat} (posB : 0 < b)
    (small : a * b ≤ f.safe) :
    ((ofNat a : Binary f).mul (ofNat b)).isInfinite = false := by
  rcases Nat.eq_zero_or_pos a with rfl | posA
  · rw [ofNat_zero]
    exact isInfinite_zero_mul wide _
  have finiteA := wide.round_ofNat_lt (le_trans (Nat.le_mul_of_pos_right a posB) small)
  have finiteB := wide.round_ofNat_lt (le_trans (Nat.le_mul_of_pos_left b posA) small)
  have finite := wide.round_mul_lt posA posB small
  have factors : ¬ (f.round (a * Nat.pow 2 f.depth) 1 = f.infinity ∨
      f.round (b * Nat.pow 2 f.depth) 1 = f.infinity) :=
    not_or.mpr ⟨Nat.ne_of_lt finiteA, Nat.ne_of_lt finiteB⟩
  rw [ofNat, ofNat, ofQuotient, ofQuotient, mul, if_neg factors]
  exact isInfinite_ofQuotient finite

end Binary

end StatusIcon
