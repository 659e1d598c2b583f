/-
# StatusIcon.Proofs.Json.Scalars -- what the readers of plain values accept

Booleans and numbers have a language each, and their readers accept exactly that.  A natural number
is the value of its digits (`reads_readNatural`).  A single is what the parts of a number are read
as, and the number may not be past the doubles; how far a number may go is told by its exact value,
short of the last few doubles, where the two roundings may carry it over the end
(`singleText_of_within`).
-/
import StatusIcon.Proofs.Binary.Rounding
import StatusIcon.Proofs.Json.Numerals

set_option autoImplicit false

namespace StatusIcon.Json

open Grammar Grammar.Numeral

/-! ## Digits -/

/-- The number that decimal digits stand for. -/
def digitsValue (digits : List Char) : Nat := Nat.ofDigitChars 10 digits 0

section

variable {m : Nat} {ds : List Char}

theorem ofDigitChars_cons (c : Char) :
    Nat.ofDigitChars 10 (c :: ds) m = Nat.ofDigitChars 10 ds (m * 10 + digitValue c) := by
  rw [Nat.ofDigitChars_cons, Nat.mul_comm]
  rfl

theorem mul_le_ofDigitChars : m * 10 ^ ds.length ≤ Nat.ofDigitChars 10 ds m := by
  rw [Nat.ofDigitChars_eq_ofDigitChars_zero, Nat.mul_comm]
  exact Nat.le_add_right _ _

theorem le_ofDigitChars : m ≤ Nat.ofDigitChars 10 ds m :=
  le_trans (Nat.le_mul_of_pos_right m (Nat.pow_pos (by decide))) mul_le_ofDigitChars

theorem accumulate_of_lt (fits : Nat.ofDigitChars 10 ds m < 0x10000000000000000) :
    accumulate m ds = (Nat.ofDigitChars 10 ds m, []) := by
  induction ds generalizing m with
  | nil => rfl
  | cons c ds ih =>
      rw [ofDigitChars_cons] at fits ⊢
      simp only [accumulate, if_pos (lt_of_le_of_lt le_ofDigitChars fits), ih fits]

theorem exponentDigits_of_lt (fits : Nat.ofDigitChars 10 ds m < 0x80000000) :
    exponentDigits m ds = (Nat.ofDigitChars 10 ds m, []) := by
  induction ds generalizing m with
  | nil => rfl
  | cons c ds ih =>
      rw [ofDigitChars_cons] at fits ⊢
      simp only [exponentDigits, if_pos (lt_of_le_of_lt le_ofDigitChars fits), ih fits]

theorem accumulate_lt (small : m < 0x10000000000000000) :
    (accumulate m ds).1 < 0x10000000000000000 := by
  induction ds generalizing m with
  | nil => exact small
  | cons c ds ih =>
      simp only [accumulate]
      split
      · next fits => exact ih fits
      · exact small

theorem exponentDigits_split (m : Nat) (ds : List Char) :
    ∃ read, ds = read ++ (exponentDigits m ds).2 ∧
      (exponentDigits m ds).1 = Nat.ofDigitChars 10 read m := by
  induction ds generalizing m with
  | nil => exact ⟨[], rfl, rfl⟩
  | cons c ds ih =>
      simp only [exponentDigits]
      split
      · obtain ⟨read, split, value⟩ := ih (m * 10 + digitValue c)
        refine ⟨c :: read, congrArg (c :: ·) split, ?_⟩
        rw [value, ofDigitChars_cons]
      · exact ⟨[], rfl, rfl⟩

/-- The digits that are read make the significand, and end where it would take too many bits. -/
theorem accumulate_split (m : Nat) (ds : List Char) :
    ∃ read, ds = read ++ (accumulate m ds).2 ∧ (accumulate m ds).1 = Nat.ofDigitChars 10 read m ∧
      ∀ c ∈ (accumulate m ds).2.head?,
        0x10000000000000000 ≤ (accumulate m ds).1 * 10 + digitValue c := by
  induction ds generalizing m with
  | nil => exact ⟨[], rfl, rfl, nofun⟩
  | cons c ds ih =>
      simp only [accumulate]
      split
      · obtain ⟨read, split, value, full⟩ := ih (m * 10 + digitValue c)
        refine ⟨c :: read, congrArg (c :: ·) split, ?_, full⟩
        rw [value, ofDigitChars_cons]
      · next full =>
          refine ⟨[], rfl, rfl, fun d head => ?_⟩
          obtain rfl := Option.some.inj head
          exact Nat.not_lt.mp full

theorem lt_of_accumulate (small : m < 0x10000000000000000) (all : (accumulate m ds).2 = []) :
    Nat.ofDigitChars 10 ds m < 0x10000000000000000 := by
  obtain ⟨read, split, value, -⟩ := accumulate_split m ds
  rw [all, List.append_nil] at split
  rw [split, ← value]
  exact accumulate_lt small

end

/-! ## Numbers -/

/-- A number, with its sign or without, and what it is read as. -/
def NumberText (w : List Char) (n : Number) : Prop :=
  ∃ u x, Spells u x ∧ (w = u ∧ x.read? false = some n ∨ w = '-' :: u ∧ x.read? true = some n)

theorem Grammar.Spells.head {u : List Char} {x : Numeral} (spells : Spells u x) :
    ∃ c s, u = c :: s ∧ isDigit c = true := by
  obtain ⟨whole, fraction, exponent⟩ := spells
  obtain ⟨c, s, rfl, digit⟩ := whole.head
  exact ⟨c, _, rfl, digit⟩

theorem reads_readNumber (wanted : String) : Reads (readNumber wanted) NumberText where
  sound := by
    intro s r n read
    unfold readNumber at read
    split at read
    · cases read
    next c rest first =>
    obtain ⟨-, sp, blank, rfl⟩ := dropSpace_eq_cons first
    split at read
    · next minus =>
        obtain rfl := minus
        obtain ⟨u, x, r', spells, stops, rfl⟩ := spells_of_number read
        obtain ⟨value, rfl⟩ := (number_eq_ok_iff spells stops).mp read
        exact ⟨sp, _, blank, ⟨u, x, spells, .inr ⟨rfl, value⟩⟩, rfl⟩
    split at read
    · obtain ⟨u, x, r', spells, stops, same⟩ := spells_of_number read
      rw [same] at read ⊢
      obtain ⟨value, rfl⟩ := (number_eq_ok_iff spells stops).mp read
      exact ⟨sp, _, blank, ⟨u, x, spells, .inl ⟨rfl, value⟩⟩, rfl⟩
    · cases read
  complete := by
    rintro sp w r n blank ⟨u, x, spells, ⟨rfl, value⟩ | ⟨rfl, value⟩⟩ ends
    · have read := (number_eq_ok_iff spells (ends.stops x)).mpr ⟨value, rfl⟩
      obtain ⟨c, s, rfl, digit⟩ := spells.head
      have begins := begins_of_isDigit digit
      have first := dropSpace_blank_cons blank begins.1 (s ++ r)
      have noMinus : c ≠ '-' := by
        rintro rfl
        revert digit
        decide
      rw [List.cons_append] at read ⊢
      simp only [readNumber, first, noMinus, digit, read, reduceIte]
    · have first := dropSpace_blank_cons blank (c := '-') rfl (u ++ r)
      have read := (number_eq_ok_iff spells (ends.stops x)).mpr ⟨value, rfl⟩
      simp only [List.cons_append, readNumber, first, read, reduceIte]
  value := by
    rintro w n ⟨u, x, spells, ⟨rfl, -⟩ | ⟨rfl, -⟩⟩
    · exact .number spells.unsigned
    · exact .negative spells.unsigned

/-- A number, and the single nearest to what it is read as. -/
def SingleText (w : List Char) (x : Single) : Prop := ∃ n, NumberText w n ∧ x = n.toSingle

theorem reads_readSingle : Reads readSingle SingleText where
  sound := by
    intro s r x read
    unfold readSingle at read
    split at read
    · cases read
    next n rest number =>
    obtain ⟨rfl, rfl⟩ := Prod.mk.inj (Except.ok.inj read)
    obtain ⟨sp, w, blank, means, split⟩ := (reads_readNumber _).sound number
    exact ⟨sp, w, blank, ⟨n, means, rfl⟩, split⟩
  complete := by
    rintro sp w r _ blank ⟨n, means, rfl⟩ ends
    simp only [readSingle, (reads_readNumber _).complete blank means ends]
  value := by
    rintro w _ ⟨n, means, -⟩
    exact (reads_readNumber "").value means

/-! ## Natural numbers -/

/-- A whole number, without a sign, of so many bits. -/
def NaturalText (bits : Nat) (w : List Char) (n : Nat) : Prop :=
  Whole w ∧ digitsValue w = n ∧ n < 2 ^ bits

theorem real?_ne_natural {negative : Bool} {significand n : Nat} {places : Int} :
    real? negative significand places ≠ some (.natural n) := by
  unfold real?
  cases scale (.ofNat significand) 3 places <;> simp

theorem fraction?_ne_natural {negative : Bool} {significand n : Nat} {places : Int}
    {digits : List Char} {x : Option (Bool × List Char)} :
    fraction? negative significand places digits x ≠ some (.natural n) := by
  unfold fraction? exponent? power?
  split
  · exact real?_ne_natural
  · split
    · exact real?_ne_natural
    · split <;> simp

theorem integer?_eq_natural_iff {negative : Bool} {m n : Nat} :
    integer? negative m = some (.natural n) ↔ negative = false ∧ m = n := by
  cases negative with
  | false => simp [integer?]
  | true =>
      unfold integer?
      simp only [Bool.not_true, Bool.false_eq_true, reduceIte, reduceCtorEq, false_and, iff_false]
      split
      · simp
      · exact real?_ne_natural

/-- Only digits that fit in 64 bits are read as a natural number, and that is their value. -/
theorem read?_eq_natural_iff {negative : Bool} {x : Numeral} {n : Nat} :
    x.read? negative = some (.natural n) ↔ negative = false ∧ x.fraction = [] ∧
      x.exponent = none ∧ digitsValue x.whole = n ∧ n < 0x10000000000000000 := by
  unfold Numeral.read?
  constructor
  · split
    · next alone =>
        intro read
        obtain ⟨rfl, rfl⟩ := integer?_eq_natural_iff.mp read
        have small := lt_of_accumulate (by decide) alone.2
        rw [accumulate_of_lt small]
        exact ⟨rfl, alone.1.1, alone.1.2, rfl, small⟩
    · exact fun read => absurd read fraction?_ne_natural
  · rintro ⟨rfl, noFraction, noExponent, rfl, small⟩
    rw [digitsValue] at small ⊢
    rw [accumulate_of_lt small, if_pos ⟨⟨noFraction, noExponent⟩, rfl⟩]
    rfl

theorem naturalText_number_iff {w : List Char} {n : Nat} :
    NumberText w (.natural n) ↔ NaturalText 64 w n := by
  constructor
  · rintro ⟨u, x, spells, ⟨rfl, read⟩ | ⟨rfl, read⟩⟩
    · obtain ⟨whole, fraction, exponent⟩ := spells
      obtain ⟨-, rfl, rfl, rfl, small⟩ := read?_eq_natural_iff.mp read
      rw [fraction.eq_nil, exponent.eq_nil, List.append_nil, List.append_nil]
      exact ⟨whole, rfl, small⟩
    · cases (read?_eq_natural_iff.mp read).1
  · rintro ⟨whole, rfl, small⟩
    refine ⟨w, ⟨w, [], none⟩, ?_, .inl ⟨rfl, ?_⟩⟩
    · have spells := Spells.parts whole .none .none
      rwa [List.append_nil, List.append_nil] at spells
    · exact read?_eq_natural_iff.mpr ⟨rfl, rfl, rfl, rfl, small⟩

theorem reads_readNatural {bits : Nat} (few : bits ≤ 64) :
    Reads (readNatural bits) (NaturalText bits) where
  sound := by
    intro s r n read
    unfold readNatural at read
    dsimp only at read
    split at read
    · cases read
    · next m rest number =>
        split at read
        · next small =>
            obtain ⟨rfl, rfl⟩ := Prod.mk.inj (Except.ok.inj read)
            obtain ⟨sp, w, blank, means, split⟩ := (reads_readNumber _).sound number
            obtain ⟨whole, value, -⟩ := naturalText_number_iff.mp means
            exact ⟨sp, w, blank, ⟨whole, value, small⟩, split⟩
        · cases read
    · cases read
    · cases read
  complete := by
    rintro sp w r n blank ⟨whole, value, small⟩ ends
    have number := naturalText_number_iff.mpr
      ⟨whole, value, lt_of_lt_of_le small (Nat.pow_le_pow_right (by decide) few)⟩
    have bound : n < Nat.pow 2 bits := small
    simp only [readNatural, (reads_readNumber _).complete blank number ends, bound, reduceIte]
  value := by
    rintro w n ⟨whole, -, -⟩
    have digits := Unsigned.parts whole .none .none
    rw [List.append_nil, List.append_nil] at digits
    exact .number digits

/-! ## Booleans -/

/-- A boolean by its name. -/
def BoolText (w : List Char) (b : Bool) : Prop := w = (if b then "true" else "false").toList

theorem reads_readBool : Reads readBool BoolText where
  sound := by
    intro s r b read
    unfold readBool at read
    split at read
    · next rest first =>
        obtain ⟨-, sp, blank, rfl⟩ := dropSpace_eq_cons first
        split at read
        · cases read
        next rest' name =>
        obtain ⟨rfl, rfl⟩ := Prod.mk.inj (Except.ok.inj read)
        rw [eq_append_of_dropName name]
        exact ⟨sp, _, blank, rfl, rfl⟩
    · next rest first =>
        obtain ⟨-, sp, blank, rfl⟩ := dropSpace_eq_cons first
        split at read
        · cases read
        next rest' name =>
        obtain ⟨rfl, rfl⟩ := Prod.mk.inj (Except.ok.inj read)
        rw [eq_append_of_dropName name]
        exact ⟨sp, _, blank, rfl, rfl⟩
    · cases read
  complete := by
    rintro sp w r b blank rfl -
    cases b with
    | true =>
        have first := dropSpace_blank_cons blank (c := 't') rfl (['r', 'u', 'e'] ++ r)
        change readBool (sp ++ 't' :: (['r', 'u', 'e'] ++ r)) = _
        simp only [readBool, first, dropName_append]
    | false =>
        have first := dropSpace_blank_cons blank (c := 'f') rfl (['a', 'l', 's', 'e'] ++ r)
        change readBool (sp ++ 'f' :: (['a', 'l', 's', 'e'] ++ r)) = _
        simp only [readBool, first, dropName_append]
  value := by
    rintro w b rfl
    cases b with
    | true => exact .true
    | false => exact .false

/-! ## Numbers in range -/

namespace Grammar.Numeral

variable (x : Numeral)

/-- All digits before the exponent, as a whole number. -/
def mantissa : Nat := digitsValue (x.whole ++ x.fraction)

/-- The power of ten that the exponent stands for. -/
def power : Int :=
  match x.exponent with
  | none => 0
  | some (down, digits) => if down then -(digitsValue digits : Int) else digitsValue digits

/-- The power of ten that the mantissa is multiplied by. -/
def places : Int := x.power - x.fraction.length

/-- The exact value is at most `bound`, with the powers of ten on the side where they are whole. -/
def Within (bound : Nat) : Prop :=
  x.mantissa * 10 ^ x.places.toNat ≤ bound * 10 ^ (-x.places).toNat

/-- An exponent that makes the number larger has fewer than 32 bits. -/
def ShortPower : Prop :=
  ∀ digits, x.exponent = some (false, digits) → digitsValue digits < 0x80000000

end Grammar.Numeral

section

variable {m n k : Nat} {x : Double} {places : Int}

theorem isSome_scale_of_neg (steps : Nat) (x : Double) (down : places < 0) :
    (scale x steps places).isSome = true := by
  induction steps generalizing x places with
  | zero => rfl
  | succ steps ih =>
      have noPlaces : ¬ 0 ≤ places := by omega
      simp only [scale, noPlaces, reduceIte]
      split
      · rfl
      split
      · rfl
      · exact ih _ (by omega)

theorem safe_lt {k : Nat} (many : 308 < k) : Binary.Format.double.safe < 10 ^ k := by
  have last : 53 + (2 ^ (Binary.Format.double.exponentBits - 1) - 1 -
      Binary.Format.double.fractionBits) = 93 * 11 + 1 := by decide
  have tens : (2 ^ 93) ^ 11 ≤ (10 ^ 28) ^ 11 := Nat.pow_le_pow_left (by norm_num) 11
  have digits : 2 * Binary.Format.double.run - 4 < 2 ^ 53 := by decide
  calc Binary.Format.double.safe < 2 ^ 53 * Binary.Format.double.lastStep :=
        Nat.mul_lt_mul_of_pos_right digits Binary.Format.lastStep_pos
    _ = (2 ^ 93) ^ 11 * 2 := by
        rw [Binary.Format.lastStep, ← pow_mul, ← pow_add, last, pow_succ]
    _ ≤ (10 ^ 28) ^ 11 * 10 := Nat.mul_le_mul tens (by decide)
    _ ≤ 10 ^ k := by
        rw [← pow_mul, ← pow_succ]
        exact pow_right_mono₀ (by decide) many

theorem le_safe : 0x10000000000000000 ≤ Binary.Format.double.safe := by
  have digits : 2 ^ 50 ≤ 2 * Binary.Format.double.run - 4 := by decide
  have step : 2 ^ 14 ≤ Binary.Format.double.lastStep := by
    unfold Binary.Format.lastStep
    exact Nat.pow_le_pow_right (by decide) (by decide)
  exact Nat.mul_le_mul digits step

/-- Two roundings do not carry a product past the doubles, if the exact one is not near the end. -/
theorem isSome_scale (up : 0 ≤ places)
    (small : m * 10 ^ places.toNat ≤ Binary.Format.double.safe) :
    (scale (.ofNat m) 3 places).isSome = true := by
  have same : places.natAbs = places.toNat := by omega
  simp only [scale, up, same, reduceIte]
  split
  · have finite := Binary.isInfinite_mul_ofNat Binary.Format.isWide_double
      (Nat.pow_pos (by decide) : 0 < 10 ^ places.toNat) small
    have product : ((Binary.ofNat m : Double).mul (.ofNat (Nat.pow 10 places.toNat))).isInfinite =
      false := finite
    simp only [product, Bool.false_eq_true, reduceIte, Option.isSome_some]
  next many =>
  rcases Nat.eq_zero_or_pos m with rfl | pos
  · rw [Binary.ofNat_zero, if_pos rfl]
    rfl
  · refine absurd (safe_lt (k := places.toNat) (by omega)) (Nat.not_lt.mpr ?_)
    exact le_trans (Nat.le_mul_of_pos_left _ pos) small

theorem isSome_real? (negative : Bool)
    (small : 0 ≤ places → m * 10 ^ places.toNat ≤ Binary.Format.double.safe) :
    (real? negative m places).isSome = true := by
  rw [real?, Option.isSome_map]
  rcases Int.lt_or_le places 0 with down | up
  · exact isSome_scale_of_neg 3 _ down
  · exact isSome_scale up (small up)

/-- Digits that are not looked at make what is read smaller. -/
theorem accumulate_le (w f : List Char) :
    (accumulate (accumulate 0 w).1 f).1 *
        10 ^ ((accumulate 0 w).2.length + (accumulate (accumulate 0 w).1 f).2.length) ≤
      digitsValue (w ++ f) := by
  obtain ⟨read, split, value, full⟩ := accumulate_split 0 w
  have few : (accumulate 0 w).1 < 0x10000000000000000 := accumulate_lt (by decide)
  generalize (accumulate 0 w).1 = m at *
  generalize (accumulate 0 w).2 = unread at *
  obtain ⟨read', split', value', -⟩ := accumulate_split m f
  have few' : (accumulate m f).1 < 0x10000000000000000 := accumulate_lt few
  generalize (accumulate m f).1 = m' at *
  generalize (accumulate m f).2 = unread' at *
  rw [digitsValue, split, split', List.append_assoc, Nat.ofDigitChars_append, ← value]
  cases unread with
  | nil =>
      rw [List.nil_append, Nat.ofDigitChars_append, ← value', List.length_nil, Nat.zero_add]
      exact mul_le_ofDigitChars
  | cons c unread =>
      cases read' with
      | nil =>
          obtain rfl : m' = m := value'
          rw [← List.length_append]
          exact mul_le_ofDigitChars
      | cons d read' =>
          -- one more digit would not fit, so all that is read is less than what stands here
          have next : m' ≤ m * 10 + digitValue c := le_trans (Nat.le_of_lt few') (full c rfl)
          rw [List.cons_append, ofDigitChars_cons]
          refine le_trans (Nat.mul_le_mul next ?_) mul_le_ofDigitChars
          refine Nat.pow_le_pow_right (by decide) ?_
          simp only [List.length_append, List.length_cons]
          omega

/-- What is cut off a mantissa is made up for by places. -/
theorem mul_pow_le_of_within {bound : Nat} (cut : m * 10 ^ k ≤ n)
    (within : n * 10 ^ places.toNat ≤ bound * 10 ^ (-places).toNat) (up : 0 ≤ places + k) :
    m * 10 ^ (places + k).toNat ≤ bound := by
  rcases Int.lt_or_le places 0 with down | positive
  · have whole : (places + k).toNat + (-places).toNat = k := by omega
    have none : places.toNat = 0 := by omega
    rw [none, pow_zero, Nat.mul_one] at within
    refine Nat.le_of_mul_le_mul_right ?_ (Nat.pow_pos (by decide) : 0 < 10 ^ (-places).toNat)
    calc m * 10 ^ (places + k).toNat * 10 ^ (-places).toNat = m * 10 ^ k := by
          rw [Nat.mul_assoc, ← pow_add, whole]
      _ ≤ n := cut
      _ ≤ bound * 10 ^ (-places).toNat := within
  · have none : (-places).toNat = 0 := by omega
    have sum : (places + k).toNat = k + places.toNat := by omega
    rw [none, pow_zero, Nat.mul_one] at within
    calc m * 10 ^ (places + k).toNat = m * 10 ^ k * 10 ^ places.toNat := by
          rw [sum, pow_add, Nat.mul_assoc]
      _ ≤ n * 10 ^ places.toNat := Nat.mul_le_mul_right _ cut
      _ ≤ bound := within

end

theorem isSome_integer? (negative : Bool) {m : Nat} (small : m < 0x10000000000000000) :
    (integer? negative m).isSome = true := by
  unfold integer?
  split
  · rfl
  split
  · rfl
  · refine isSome_real? true fun _ => ?_
    rw [Int.toNat_zero, pow_zero, Nat.mul_one]
    exact le_trans (Nat.le_of_lt small) le_safe

/-- A number is read if its exact value is not past the doubles, nor among the last few.  The
exponent of zero may be as long as it likes. -/
theorem isSome_read? (negative : Bool) {x : Numeral} (short : x.mantissa = 0 ∨ x.ShortPower)
    (within : x.Within Binary.Format.double.safe) : (x.read? negative).isSome = true := by
  obtain ⟨w, f, e⟩ := x
  unfold Numeral.read?
  split
  · exact isSome_integer? negative (accumulate_lt (by decide))
  have cut := accumulate_le w f
  have left : (accumulate (accumulate 0 w).1 f).2.length ≤ f.length := by
    obtain ⟨read, split, -⟩ := accumulate_split (accumulate 0 w).1 f
    conv_rhs => rw [split]
    simp
  unfold Within mantissa places power at within
  unfold fraction? placesBehind
  dsimp only at *
  generalize (accumulate (accumulate 0 w).1 f).1 = m at *
  generalize (accumulate (accumulate 0 w).1 f).2.length = unread at *
  generalize (accumulate 0 w).2.length = unread' at *
  -- the exponent moves both the exact value and what is read
  have behind {power places : Int} (whole : digitsValue (w ++ f) *
      10 ^ (power - f.length).toNat ≤ Binary.Format.double.safe * 10 ^ (-(power - f.length)).toNat)
      (same : places = power - f.length + (unread' + unread : Nat)) :
      (real? negative m places).isSome = true := by
    obtain rfl := same
    exact isSome_real? negative (mul_pow_le_of_within cut whole)
  cases e with
  | none => exact behind within (by push_cast [Nat.cast_sub left]; omega)
  | some e =>
      obtain ⟨down, digits⟩ := e
      unfold exponent? power?
      dsimp only at *
      split
      · next all =>
          obtain ⟨read, split, value⟩ := exponentDigits_split 0 digits
          rw [all, List.append_nil] at split
          rw [value, ← split]
          change (real? negative m (if down then _ - (digitsValue digits : Int) else
            _ + (digitsValue digits : Int))).isSome = true
          refine behind within ?_
          split <;> push_cast [Nat.cast_sub left] <;> omega
      next some =>
      split
      · next cond =>
          rw [Bool.and_eq_true, Bool.not_eq_true', decide_eq_true_eq] at cond
          obtain ⟨nonzero, rfl⟩ := cond
          rcases short with zero | short
          · have value : digitsValue (w ++ f) = 0 := zero
            rw [value, Nat.le_zero, Nat.mul_eq_zero] at cut
            exact absurd cut (not_or.mpr ⟨nonzero, (Nat.pow_pos (by decide)).ne'⟩)
          · have fits := exponentDigits_of_lt (short digits rfl)
            rw [fits] at some
            exact absurd rfl some
      · rfl

/-- A number that is not past the doubles, nor among the last few, has a nearest single. -/
theorem singleText_of_within {u : List Char} {x : Numeral} (spells : Spells u x)
    (short : x.mantissa = 0 ∨ x.ShortPower) (within : x.Within Binary.Format.double.safe) :
    (∃ y, SingleText u y) ∧ ∃ y, SingleText ('-' :: u) y := by
  have read (negative : Bool) := Option.isSome_iff_exists.mp (isSome_read? negative short within)
  constructor
  · obtain ⟨n, value⟩ := read false
    exact ⟨_, n, ⟨u, x, spells, .inl ⟨rfl, value⟩⟩, rfl⟩
  · obtain ⟨n, value⟩ := read true
    exact ⟨_, n, ⟨u, x, spells, .inr ⟨rfl, value⟩⟩, rfl⟩

end StatusIcon.Json
