/-
# StatusIcon.Proofs.Json.Decimals -- numbers as they are printed

A whole number is printed as its digits, and these say the same number (`naturalText_repr`).  A
decimal is set out in one of four ways, and each of them is a number of the grammar with the value
of the decimal (`spells_render`).  With the bound on the shortest decimal this makes the text of
every finite single one that is read (`exists_singleText`); which single is read depends on the
roundings of the reader.
-/
import StatusIcon.Json.Printer
import StatusIcon.Proofs.Binary.Shortest
import StatusIcon.Proofs.Json.Scalars

set_option autoImplicit false

namespace StatusIcon.Json

open Binary Grammar

/-! ## Digits -/

theorem ofDigitChars_lt {ds : List Char} (digits : ∀ c ∈ ds, isDigit c = true) (m : Nat) :
    Nat.ofDigitChars 10 ds m < (m + 1) * 10 ^ ds.length := by
  induction ds generalizing m with
  | nil => exact Nat.lt_of_lt_of_eq (Nat.lt_succ_self m) (Nat.mul_one _).symm
  | cons c ds ih =>
      obtain ⟨digit, digits⟩ := List.forall_mem_cons.mp digits
      have few : digitValue c < 10 := by
        simp only [isDigit, Bool.and_eq_true, decide_eq_true_eq] at digit
        unfold digitValue
        omega
      rw [ofDigitChars_cons, List.length_cons, pow_succ]
      calc Nat.ofDigitChars 10 ds (m * 10 + digitValue c)
          < (m * 10 + digitValue c + 1) * 10 ^ ds.length := ih digits _
        _ ≤ (m + 1) * 10 * 10 ^ ds.length := Nat.mul_le_mul_right _ (by omega)
        _ = (m + 1) * (10 ^ ds.length * 10) := by ring

theorem digitsValue_append (s t : List Char) :
    digitsValue (s ++ t) = digitsValue s * 10 ^ t.length + digitsValue t := by
  rw [digitsValue, Nat.ofDigitChars_append, Nat.ofDigitChars_eq_ofDigitChars_zero, Nat.mul_comm]
  rfl

theorem digitsValue_zeros (k : Nat) : digitsValue (List.replicate k '0') = 0 := by
  induction k with
  | zero => rfl
  | succ k ih =>
      rw [List.replicate_succ', digitsValue_append, ih, Nat.zero_mul, Nat.zero_add]
      rfl

/-! ## Whole numbers -/

theorem isDigit_of_mem_toDigits {n : Nat} : ∀ c ∈ Nat.toDigits 10 n, isDigit c = true := by
  intro c member
  have digit := Nat.isDigit_of_mem_toDigits (by decide) (by decide) member
  simpa [Char.isDigit, isDigit, UInt32.le_iff_toNat_le] using digit

theorem digits_toDigits (n : Nat) : Digits (Nat.toDigits 10 n) :=
  ⟨List.ne_nil_of_length_pos Nat.length_toDigits_pos, isDigit_of_mem_toDigits⟩

theorem digitsValue_toDigits (n : Nat) : digitsValue (Nat.toDigits 10 n) = n :=
  Nat.ofDigitChars_ten_toDigits

theorem pow_le_of_pos {n : Nat} (pos : 0 < n) : 10 ^ ((Nat.toDigits 10 n).length - 1) ≤ n := by
  refine Nat.le_of_not_lt fun less => ?_
  have some := Nat.length_toDigits_pos (b := 10) (n := n)
  rcases Nat.eq_zero_or_pos ((Nat.toDigits 10 n).length - 1) with none | more
  · rw [none] at less
    omega
  · have short := (Nat.length_toDigits_le_iff (by decide) more).mpr less
    omega

/-- The digits of a positive number begin with one that is not zero. -/
theorem exists_leading {n : Nat} (pos : 0 < n) :
    ∃ c t, Nat.toDigits 10 n = c :: t ∧ c ≠ '0' := by
  obtain ⟨c, t, digits⟩ := List.exists_cons_of_ne_nil (digits_toDigits n).1
  refine ⟨c, t, digits, ?_⟩
  rintro rfl
  have large := pow_le_of_pos pos
  have value := digitsValue_toDigits n
  have all := isDigit_of_mem_toDigits (n := n)
  rw [digits] at large value all
  have small := ofDigitChars_lt (List.forall_mem_cons.mp all).2 0
  have same : Nat.ofDigitChars 10 t 0 = n := value
  rw [same, Nat.zero_add, Nat.one_mul] at small
  exact absurd small (Nat.not_lt.mpr large)

theorem whole_toDigits {n : Nat} (pos : 0 < n) : Whole (Nat.toDigits 10 n) := by
  have digits := digits_toDigits n
  obtain ⟨c, t, same, leading⟩ := exists_leading pos
  rw [same] at digits ⊢
  exact .digits leading digits

theorem naturalText_repr {bits n : Nat} (small : n < 2 ^ bits) :
    NaturalText bits (Nat.repr n).toList n := by
  rw [Nat.repr_eq_ofList_toDigits, String.toList_ofList]
  refine ⟨?_, digitsValue_toDigits n, small⟩
  rcases Nat.eq_zero_or_pos n with rfl | pos
  · exact .zero
  · exact whole_toDigits pos

/-! ## Ways to set out digits -/

section

variable {c : Char} {t : List Char} (leading : c ≠ '0') (digits : ∀ d ∈ c :: t, isDigit d = true)

include leading digits

theorem spells_zeros (k : Nat) : Spells (c :: t ++ List.replicate k '0' ++ ['.', '0'])
    ⟨c :: (t ++ List.replicate k '0'), ['0'], none⟩ := by
  have zero : isDigit '0' = true := rfl
  have whole : Whole (c :: (t ++ List.replicate k '0')) := by
    refine .digits leading ⟨List.cons_ne_nil _ _, fun d member => ?_⟩
    rw [← List.cons_append, List.mem_append, List.mem_replicate] at member
    rcases member with old | ⟨-, rfl⟩
    · exact digits d old
    · exact zero
  have fraction : Digits ['0'] := ⟨List.cons_ne_nil _ _, List.forall_mem_singleton.mpr zero⟩
  simpa using Spells.parts whole (.point fraction) .none

theorem spells_point {i : Nat} (more : i < t.length) :
    Spells ((c :: t).take (i + 1) ++ '.' :: (c :: t).drop (i + 1))
      ⟨c :: t.take i, t.drop i, none⟩ := by
  have whole : Whole (c :: t.take i) := by
    refine .digits leading ⟨List.cons_ne_nil _ _, fun d member => digits d ?_⟩
    exact List.mem_of_mem_take (i := i + 1) member
  have fraction : Digits (t.drop i) :=
    ⟨by simpa using more, fun d member => digits d (.tail _ (List.mem_of_mem_drop member))⟩
  simpa using Spells.parts whole (.point fraction) .none

omit leading in
theorem spells_behind (k : Nat) : Spells ('0' :: '.' :: List.replicate k '0' ++ c :: t)
    ⟨['0'], List.replicate k '0' ++ c :: t, none⟩ := by
  have fraction : Digits (List.replicate k '0' ++ c :: t) := by
    refine ⟨by simp, fun d member => ?_⟩
    rcases List.mem_append.mp member with zero | old
    · rw [List.eq_of_mem_replicate zero]
      rfl
    · exact digits d old
  simpa using Spells.parts .zero (.point fraction) .none

/-- The digits behind the first one, as a fraction if there are any. -/
def fractionOf : List Char → List Char
  | [] => []
  | more => '.' :: more

theorem spells_power (exponent : Int) :
    Spells ((c :: t).take 1 ++ fractionOf t ++ 'e' :: (if exponent < 0 then '-' else '+') ::
        Nat.toDigits 10 exponent.natAbs)
      ⟨[c], t, some (decide (exponent < 0), Nat.toDigits 10 exponent.natAbs)⟩ := by
  have whole : Whole [c] := by
    refine .digits leading ⟨List.cons_ne_nil _ _, List.forall_mem_singleton.mpr ?_⟩
    exact digits c List.mem_cons_self
  have fraction : FractionText (fractionOf t) t := by
    cases t with
    | nil => exact .none
    | cons d t => exact .point ⟨List.cons_ne_nil _ _, fun e member => digits e (.tail _ member)⟩
  have power {sign : List Char} {down : Bool} (signed : Sign sign down) :
      ExponentText ('e' :: (sign ++ Nat.toDigits 10 exponent.natAbs))
        (some (down, Nat.toDigits 10 exponent.natAbs)) :=
    .power (.inl rfl) signed (digits_toDigits _)
  split
  · next negative => simpa [negative] using Spells.parts whole fraction (power .minus)
  · next positive => simpa [positive] using Spells.parts whole fraction (power .plus)

end

/-! ## Decimals -/

/-- The number is within a bound that its decimal is within. -/
theorem within_of_atMost {d : Decimal} {x : Numeral} {bound : Nat} (atMost : d.AtMost bound 1)
    (mantissa : x.mantissa = d.digits) (places : x.places = d.exponent) : x.Within bound := by
  unfold Numeral.Within
  rw [mantissa, places]
  unfold Decimal.AtMost at atMost
  rwa [Nat.one_mul] at atMost

/-- A decimal within a bound has no more places before the point than the bound. -/
theorem leading_lt {d : Decimal} {bound k : Nat} (pos : 0 < d.digits) (atMost : d.AtMost bound 1)
    (less : bound < 10 ^ k) :
    d.exponent + ((Nat.toDigits 10 d.digits).length : Int) - 1 < k := by
  have some := Nat.length_toDigits_pos (b := 10) (n := d.digits)
  refine lt_of_not_ge fun far => ?_
  refine absurd less (Nat.not_lt.mpr ?_)
  have large := pow_le_of_pos pos
  unfold Decimal.AtMost at atMost
  refine Nat.le_of_mul_le_mul_right ?_ (Nat.pow_pos (by decide) : 0 < 10 ^ (-d.exponent).toNat)
  calc 10 ^ k * 10 ^ (-d.exponent).toNat
      = 10 ^ (k + (-d.exponent).toNat) := (pow_add _ _ _).symm
    _ ≤ 10 ^ ((Nat.toDigits 10 d.digits).length - 1 + d.exponent.toNat) :=
      Nat.pow_le_pow_right (by decide) (by omega)
    _ = 10 ^ ((Nat.toDigits 10 d.digits).length - 1) * 10 ^ d.exponent.toNat := pow_add _ _ _
    _ ≤ d.digits * 10 ^ d.exponent.toNat := Nat.mul_le_mul_right _ large
    _ = d.digits * (1 * 10 ^ d.exponent.toNat) := by rw [Nat.one_mul]
    _ ≤ bound * 10 ^ (-d.exponent).toNat := atMost

/-- Each way to set out a decimal is a number with its value. -/
theorem spells_render (l : Layout) {d : Decimal} {bound k : Nat} (pos : 0 < d.digits)
    (atMost : d.AtMost bound 1) (less : bound < 10 ^ k) (few : k ≤ 0x80000000) :
    ∃ x, Spells (l.render d).toList x ∧ x.ShortPower ∧ x.Within bound := by
  have near := leading_lt pos atMost less
  have value := digitsValue_toDigits d.digits
  have digits := isDigit_of_mem_toDigits (n := d.digits)
  obtain ⟨c, t, same, first⟩ := exists_leading pos
  unfold Layout.render
  rw [Nat.repr_eq_ofList_toDigits, String.toList_ofList]
  dsimp only
  rw [same] at near value digits ⊢
  generalize far : d.exponent + ((c :: t).length : Int) - 1 = leading at near ⊢
  rw [List.length_cons] at far
  split
  · split
    · next up =>
        rw [String.toList_ofList]
        refine ⟨_, spells_zeros first digits _, nofun, ?_⟩
        have none : (-d.exponent).toNat = 0 := by omega
        unfold Decimal.AtMost at atMost
        rw [none, pow_zero, Nat.mul_one, Nat.one_mul] at atMost
        unfold Numeral.Within Numeral.mantissa
        rw [digitsValue_append, ← List.cons_append, digitsValue_append, value, digitsValue_zeros,
          List.length_replicate]
        change (d.digits * 10 ^ d.exponent.toNat + 0) * 10 ^ 1 * 10 ^ 0 ≤ bound * 10 ^ 1
        omega
    split
    · next down front =>
        obtain ⟨i, rfl⟩ := Int.eq_ofNat_of_zero_le front
        have cut : ((i : Int) + 1).toNat = i + 1 := by omega
        rw [String.toList_ofList, cut]
        refine ⟨_, spells_point first digits (by omega), nofun, within_of_atMost atMost ?_ ?_⟩
        · simpa [Numeral.mantissa] using value
        · simp only [Numeral.places, Numeral.power, List.length_drop]
          omega
    · next down back =>
        rw [String.toList_ofList]
        refine ⟨_, spells_behind digits _, nofun, within_of_atMost atMost ?_ ?_⟩
        · have zeros := digitsValue_zeros ((-leading - 1).toNat + 1)
          rw [List.replicate_succ] at zeros
          unfold Numeral.mantissa
          rw [← List.append_assoc, digitsValue_append, List.singleton_append, zeros, value,
            Nat.zero_mul, Nat.zero_add]
        · simp only [Numeral.places, Numeral.power, List.length_append, List.length_replicate,
            List.length_cons]
          omega
  · have power := digitsValue_toDigits leading.natAbs
    rw [String.toList_ofList, Nat.repr_eq_ofList_toDigits, String.toList_ofList]
    refine ⟨_, spells_power first digits leading, ?_, within_of_atMost atMost ?_ ?_⟩
    · intro ds up
      obtain ⟨positive, rfl⟩ := Prod.mk.inj (Option.some.inj up)
      rw [decide_eq_false_iff_not] at positive
      omega
    · exact value
    · simp only [Numeral.places, Numeral.power, power, decide_eq_true_eq]
      split <;> omega

/-! ## Singles -/

/-- What would be the next single after the last one. -/
def singleEnd : Nat := 2 * Format.single.run * Format.single.lastStep

theorem singleEnd_lt : singleEnd < 10 ^ 39 := by decide

theorem singleEnd_le_safe : singleEnd ≤ Format.double.safe := by
  have digits : 2 * Format.single.run ≤ 2 * Format.double.run - 4 := by decide
  refine Nat.mul_le_mul digits ?_
  unfold Format.lastStep
  exact Nat.pow_le_pow_right (by decide) (by decide)

theorem Grammar.Numeral.Within.mono {x : Numeral} {a b : Nat} (within : x.Within a) (le : a ≤ b) :
    x.Within b :=
  Nat.le_trans within (Nat.mul_le_mul_right _ le)

/-- The text of a positive finite magnitude, or of zero, is a number that is read. -/
theorem exists_spells {code : Nat} (l : Layout) (finite : code < Format.single.infinity) :
    ∃ x, Spells (if code = 0 then "0.0" else l.render (shortest .single code)).toList x ∧
      x.ShortPower ∧ x.Within Format.double.safe := by
  split
  · refine ⟨⟨['0'], ['0'], none⟩, ?_, nofun, Nat.zero_le _⟩
    have fraction : Digits ['0'] := by decide
    exact .parts .zero (.point fraction) .none
  · next some =>
      have few : 4 * Format.single.run < 10 ^ 16 := by decide
      have pos := Nat.pos_of_ne_zero some
      obtain ⟨x, spells, short, within⟩ := spells_render l (shortest_spec few pos).1
        (shortest_atMost Format.isWide_single few pos finite) singleEnd_lt (by decide)
      exact ⟨x, spells, short, within.mono singleEnd_le_safe⟩

/-- The text of every finite single is read as some single. -/
theorem exists_singleText {l : Layout} {x : Single} {text : String} (some : text? l x = some text) :
    ∃ y, SingleText text.toList y := by
  cases x with
  | nan => cases some
  | signed negative code =>
      simp only [text?] at some
      split at some
      · cases some
      next finite =>
      obtain rfl := Option.some.inj some
      obtain ⟨x, spells, short, within⟩ := exists_spells l
        (Nat.lt_of_le_of_ne (Nat.le_of_lt_succ code.isLt) finite)
      have texts := singleText_of_within spells (.inr short) within
      cases negative with
      | false => exact texts.1
      | true => simpa using texts.2

end StatusIcon.Json
