/-
# StatusIcon.Proofs.Binary.Values -- numbers by their values, and results that need no rounding

A number that is neither infinite nor not-a-number has a value, a rational (`Binary.value?`).  The
values that a format has are the ones of few enough bits at a place that is not too far up
(`Format.Represents`).

A result is rounded once, and rounding keeps what the format has (`Format.Represents.ofQuotient`).
So a conversion or a product has the exact value whenever the format has that value at all
(`value?_convert`, `value?_mul`).  In particular a single times a whole number of up to 29 bits is
exact in double precision: 24 bits and 29 bits fit into the 53 bits of a double.
-/
import Mathlib.Algebra.Order.Floor.Semifield
import Mathlib.Data.Rat.Floor
import Mathlib.Tactic.FieldSimp
import Mathlib.Tactic.Positivity
import StatusIcon.Proofs.Binary.Shortest

set_option autoImplicit false

namespace StatusIcon

theorem roundToEven_mul (q : Nat) {d : Nat} (pos : 0 < d) : roundToEven (q * d) d = q := by
  have whole : q * d / d = q := Nat.mul_div_cancel q pos
  have rest : q * d % d = 0 := Nat.mul_mod_left q d
  simp only [roundToEven, whole, rest]
  rw [if_pos]
  omega

namespace Binary

namespace Format

variable {f : Format}

/-! ## Magnitudes -/

/-- So many units are a magnitude of the format: few enough bits, not too far up. -/
def Holds (f : Format) (n : Nat) : Prop :=
  ∃ q s, n = q * 2 ^ s ∧ q < 2 * f.run ∧ s + 3 ≤ 2 ^ f.exponentBits

theorem holds_units (wide : f.IsWide) {code : Nat} (finite : code < f.infinity) :
    f.Holds (f.units code) := by
  obtain ⟨s, q, rfl, few, filled⟩ := exists_run f code
  refine ⟨q, s, units_shift (Nat.le_of_lt few) filled, few, ?_⟩
  have two : 2 ^ 2 ≤ 2 ^ f.exponentBits := Nat.pow_le_pow_right (by decide) wide.exponents
  rcases filled with rfl | full
  · omega
  · -- below infinity there are fewer runs than codes of exponents
    have runs : (s + 1) * f.run < (2 ^ f.exponentBits - 1) * f.run := by
      calc (s + 1) * f.run = s * f.run + f.run := Nat.succ_mul _ _
        _ ≤ s * f.run + q := Nat.add_le_add_left full _
        _ < (2 ^ f.exponentBits - 1) * f.run := finite
    have less := Nat.lt_of_mul_lt_mul_right runs
    omega

variable {n d : Nat}

/-- Rounding does not change a magnitude of the format. -/
theorem Holds.round (holds : f.Holds n) (pos : 0 < d) :
    f.round (n * d) d < f.infinity ∧ f.units (f.round (n * d) d) = n := by
  obtain ⟨q, s, rfl, few, low⟩ := holds
  have exponents : 2 ^ f.exponentBits = (2 ^ f.exponentBits - 3) + 3 := by omega
  have finite : f.round (q * 2 ^ s * d) d < f.infinity := by
    refine round_lt_infinity exponents pos ?_
    have place : 2 ^ s ≤ 2 ^ (2 ^ f.exponentBits - 3) :=
      Nat.pow_le_pow_right (by decide) (by omega)
    have scale : 0 < 2 ^ (2 ^ f.exponentBits - 3) * d := Nat.mul_pos (Nat.two_pow_pos _) pos
    calc 2 * (q * 2 ^ s * d) = 2 * q * (2 ^ s * d) := by ring
      _ ≤ 2 * q * (2 ^ (2 ^ f.exponentBits - 3) * d) :=
        Nat.mul_le_mul_left _ (Nat.mul_le_mul_right d place)
      _ < (4 * f.run - 1) * (2 ^ (2 ^ f.exponentBits - 3) * d) :=
        Nat.mul_lt_mul_of_pos_right (by omega) scale
  refine ⟨finite, ?_⟩
  have quotient : q * 2 ^ s * d / d = q * 2 ^ s := Nat.mul_div_cancel _ pos
  have cut : f.shift (q * 2 ^ s * d) d ≤ s := by
    unfold shift
    rw [quotient]
    rcases Nat.eq_zero_or_pos q with rfl | some
    · simp
    · have nonzero : q * 2 ^ s ≠ 0 := Nat.ne_of_gt (Nat.mul_pos some (Nat.two_pow_pos s))
      have bits : (q * 2 ^ s).log2 < f.fractionBits + 1 + s := by
        rw [Nat.log2_lt nonzero, pow_add, pow_succ']
        exact Nat.mul_lt_mul_of_pos_right few (Nat.two_pow_pos s)
      omega
  -- nothing but zeros is cut off
  obtain ⟨k, split⟩ := Nat.exists_eq_add_of_le' cut
  rw [units_round finite, significand]
  generalize f.shift (q * 2 ^ s * d) d = place at split
  subst split
  have kept : q * 2 ^ (k + place) * d = q * 2 ^ k * (d * 2 ^ place) := by ring
  rw [kept, roundToEven_mul _ (Nat.mul_pos pos (Nat.two_pow_pos place))]
  ring

end Format

/-! ## Values -/

variable {f : Format}

/-- One, or minus one. -/
def sign (negative : Bool) : ℚ := if negative then -1 else 1

theorem sign_bne (s t : Bool) : sign (s != t) = sign s * sign t := by
  cases s <;> cases t <;> simp [sign]

theorem abs_sign (negative : Bool) : |sign negative| = 1 := by
  cases negative <;> simp [sign]

/-- The value of a number that is neither infinite nor not-a-number. -/
def value? : Binary f → Option ℚ
  | .nan => none
  | .signed negative code =>
    if code.val = f.infinity then none
    else some (sign negative * ((f.units code : ℚ) / 2 ^ f.depth))

theorem value?_eq_some_iff {x : Binary f} {v : ℚ} :
    x.value? = some v ↔ ∃ negative code, x = .signed negative code ∧ code.val < f.infinity ∧
      sign negative * ((f.units code : ℚ) / 2 ^ f.depth) = v := by
  constructor
  · intro valued
    cases x with
    | nan => cases valued
    | signed negative code =>
        simp only [value?, Option.ite_none_left_eq_some, Option.some.injEq] at valued
        exact ⟨negative, code, rfl, by omega, valued.2⟩
  · rintro ⟨negative, code, rfl, finite, rfl⟩
    exact if_neg (Nat.ne_of_lt finite)

theorem value?_eq_none_iff {x : Binary f} :
    x.value? = none ↔ x = .nan ∨ x = infinite false ∨ x = infinite true := by
  cases x with
  | nan => simp [value?]
  | signed negative code =>
      by_cases last : code.val = f.infinity
      · have code_eq : code = ⟨f.infinity, by omega⟩ := Fin.ext last
        cases negative <;> simp [value?, infinite, code_eq]
      · have code_ne : code ≠ ⟨f.infinity, by omega⟩ := fun same => last (congrArg Fin.val same)
        simp [value?, infinite, last, code_ne]

/-! ## What a format has -/

/-- The format has the value, up to its sign. -/
def Format.Represents (f : Format) (v : ℚ) : Prop :=
  ∃ n, f.Holds n ∧ |v| = (n : ℚ) / 2 ^ f.depth

theorem represents_of_value? (wide : f.IsWide) {x : Binary f} {v : ℚ}
    (valued : x.value? = some v) : f.Represents v := by
  obtain ⟨negative, code, -, finite, rfl⟩ := value?_eq_some_iff.mp valued
  refine ⟨f.units code, Format.holds_units wide finite, ?_⟩
  rw [abs_mul, abs_sign, one_mul, abs_of_nonneg (by positivity)]

/-- The format has the whole numbers of as many bits as it keeps. -/
theorem represents_natCast (wide : f.IsWide) {n : Nat} (few : n < 2 * f.run) :
    f.Represents n := by
  refine ⟨n * 2 ^ f.depth, ⟨n, f.depth, rfl, few, ?_⟩, ?_⟩
  · have exponents := wide.exponents_eq
    have fraction := wide.fraction
    have half : 2 ^ 1 ≤ 2 ^ (f.exponentBits - 1) :=
      Nat.pow_le_pow_right (by decide) (Nat.le_sub_of_add_le wide.exponents)
    have depth : f.depth = 2 ^ (f.exponentBits - 1) - 2 + f.fractionBits := rfl
    omega
  · rw [Nat.abs_cast]
    push_cast
    field_simp

/-- A quotient that the format has is not rounded. -/
theorem value?_ofQuotient {negative : Bool} {n d : Nat} (pos : 0 < d)
    (has : f.Represents (n / d)) :
    (ofQuotient negative n d : Binary f).value? = some (sign negative * (n / d)) := by
  obtain ⟨m, holds, value⟩ := has
  rw [abs_of_nonneg (by positivity)] at value
  have positive : (0 : ℚ) < d := by exact_mod_cast pos
  have same : n * 2 ^ f.depth = m * d := by
    rw [div_eq_div_iff (ne_of_gt positive) (by positivity)] at value
    exact_mod_cast value
  obtain ⟨finite, units⟩ := holds.round pos
  rw [← same] at finite units
  refine value?_eq_some_iff.mpr ⟨negative, _, rfl, finite, ?_⟩
  show sign negative * ((f.units (f.round (n * 2 ^ f.depth) d) : ℚ) / 2 ^ f.depth) = _
  rw [units, value]

theorem value?_ofNat {n : Nat} (has : f.Represents n) :
    (ofNat n : Binary f).value? = some (n : ℚ) := by
  have whole : f.Represents (n / (1 : Nat)) := by simpa using has
  have exact : (ofQuotient false n 1 : Binary f).value? = some (sign false * (n / (1 : Nat))) :=
    value?_ofQuotient (by decide) whole
  rw [ofNat, exact]
  simp [sign]

/-- A value that the other format has as well is not rounded. -/
theorem value?_convert {g : Format} {x : Binary f} {v : ℚ} (valued : x.value? = some v)
    (has : g.Represents v) : (x.convert : Binary g).value? = some v := by
  obtain ⟨negative, code, rfl, finite, rfl⟩ := value?_eq_some_iff.mp valued
  have magnitude : g.Represents (f.units code / (2 ^ f.depth : Nat)) := by
    simpa [Format.Represents, abs_mul, abs_sign] using has
  rw [convert, if_neg (Nat.ne_of_lt finite)]
  refine (value?_ofQuotient (Nat.two_pow_pos _) magnitude).trans ?_
  simp

/-- A product that the format has is not rounded. -/
theorem value?_mul {x y : Binary f} {v w : ℚ} (first : x.value? = some v)
    (second : y.value? = some w) (has : f.Represents (v * w)) :
    (x.mul y).value? = some (v * w) := by
  obtain ⟨s, a, rfl, finite, rfl⟩ := value?_eq_some_iff.mp first
  obtain ⟨t, b, rfl, finite', rfl⟩ := value?_eq_some_iff.mp second
  have product : sign s * ((f.units a : ℚ) / 2 ^ f.depth) * (sign t * (f.units b / 2 ^ f.depth)) =
      sign (s != t) * (((f.units a * f.units b : Nat) : ℚ) / (2 ^ (2 * f.depth) : Nat)) := by
    rw [sign_bne, two_mul, pow_add]
    push_cast
    ring
  rw [product] at has ⊢
  have magnitude : f.Represents ((f.units a * f.units b : Nat) / (2 ^ (2 * f.depth) : Nat)) := by
    simpa [Format.Represents, abs_mul, abs_sign] using has
  rw [mul, if_neg (not_or.mpr ⟨Nat.ne_of_lt finite, Nat.ne_of_lt finite'⟩)]
  exact value?_ofQuotient (Nat.two_pow_pos _) magnitude

theorem convert_infinite {g : Format} (negative : Bool) :
    (infinite negative : Binary f).convert = (infinite negative : Binary g) :=
  if_pos rfl

/-- Infinity times a whole number is not a number if that is zero, and else infinite. -/
theorem ofNat_mul_infinite {n : Nat} (has : f.Represents n) (negative : Bool) :
    (ofNat n : Binary f).mul (infinite negative) = if n = 0 then .nan else infinite negative := by
  obtain ⟨s, code, number, finite, value⟩ := value?_eq_some_iff.mp (value?_ofNat has)
  obtain ⟨rfl, -⟩ : false = s ∧ _ := Binary.signed.inj number
  have zero : code.val = 0 ↔ n = 0 := by
    rw [sign, if_neg Bool.false_ne_true, one_mul, div_eq_iff (by positivity)] at value
    constructor
    · intro low
      rw [low, units_zero, Nat.cast_zero, eq_comm, mul_eq_zero] at value
      exact_mod_cast value.resolve_right (by positivity)
    · rintro rfl
      rw [Nat.cast_zero, zero_mul, Nat.cast_eq_zero] at value
      by_contra positive
      exact Nat.ne_of_gt (Format.units_pos (Nat.pos_of_ne_zero positive)) value
  have large : f.infinity ≠ 0 := Nat.ne_of_gt (Nat.zero_lt_of_lt finite)
  rw [number, infinite, mul, if_pos (.inr rfl)]
  simp only [zero, large, or_false, Bool.false_bne]
  rfl

/-! ## Whole parts -/

theorem wholePart_of_value? {x : Binary f} {v : ℚ} (valued : x.value? = some v) (limit : Nat) :
    x.wholePart limit = min ⌊v⌋₊ limit := by
  obtain ⟨negative, code, rfl, finite, rfl⟩ := value?_eq_some_iff.mp valued
  cases negative with
  | true =>
      have below : sign true * ((f.units code : ℚ) / 2 ^ f.depth) ≤ 0 := by
        have magnitude : (0 : ℚ) ≤ f.units code / 2 ^ f.depth := by positivity
        simpa [sign] using magnitude
      rw [Nat.floor_of_nonpos below, Nat.zero_min]
      rfl
  | false =>
      have whole : ⌊sign false * ((f.units code : ℚ) / 2 ^ f.depth)⌋₊ =
          f.units code / 2 ^ f.depth := by
        rw [sign, if_neg Bool.false_ne_true, one_mul]
        exact_mod_cast Nat.floor_div_eq_div (K := ℚ) (f.units code) (2 ^ f.depth)
      rw [wholePart, if_neg (Nat.ne_of_lt finite), whole]
      rfl

theorem wholePart_infinite (negative : Bool) (limit : Nat) :
    (infinite negative : Binary f).wholePart limit = if negative then 0 else limit := by
  cases negative with
  | true => rfl
  | false =>
      rw [infinite, wholePart, if_pos rfl]
      rfl

/-! ## Singles and doubles -/

/-- A double holds a single times a whole number of up to 29 bits. -/
theorem represents_double_mul {v : ℚ} (has : Format.single.Represents v) {m : Nat}
    (few : m < 2 ^ 29) : Format.double.Represents (m * v) := by
  obtain ⟨-, ⟨q, s, rfl, bits, low⟩, value⟩ := has
  -- the least single is this many places above the least double
  obtain ⟨k, depth, room⟩ :
      ∃ k, Format.double.depth = Format.single.depth + k ∧ k + 256 ≤ 2048 :=
    ⟨925, by decide, by decide⟩
  refine ⟨m * q * 2 ^ (s + k), ⟨m * q, s + k, rfl, ?_, ?_⟩, ?_⟩
  · calc m * q ≤ (2 ^ 29 - 1) * (2 ^ 24 - 1) :=
        Nat.mul_le_mul (Nat.le_pred_of_lt few) (Nat.le_pred_of_lt bits)
      _ < 2 * Format.double.run := by decide
  · have top : 2 ^ Format.single.exponentBits = 256 := rfl
    have top' : 2 ^ Format.double.exponentBits = 2048 := rfl
    omega
  · rw [abs_mul, value, depth, Nat.abs_cast, pow_add, pow_add]
    push_cast
    field_simp

end Binary

end StatusIcon
