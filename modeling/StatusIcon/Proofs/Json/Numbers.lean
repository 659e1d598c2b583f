/-
# StatusIcon.Proofs.Json.Numbers -- numbers, as they are passed over

A number is passed over digit by digit, as far as it goes: exactly the numbers of the grammar are
(`skipNumber_of_unsigned`, `unsigned_of_skipNumber`).  A text does not say by itself where its last
number ends, so what comes behind must not go on with it (`Ends`).
-/
import StatusIcon.Proofs.Json.Strings

set_option autoImplicit false

namespace StatusIcon.Json

open Grammar

/-! ## Digits -/

/-- No digit comes next. -/
def Grammar.NoDigit (s : List Char) : Prop := ∀ c ∈ s.head?, isDigit c = false

theorem Grammar.noDigit_cons {c : Char} (other : isDigit c = false) (s : List Char) :
    NoDigit (c :: s) := by
  intro d head
  obtain rfl := Option.some.inj head
  exact other

theorem Grammar.Ends.noDigit {s : List Char} (ends : Ends s) : NoDigit s := by
  intro c head
  rcases ends c head with space | rfl | rfl | rfl
  · simp only [isSpace, Bool.or_eq_true, beq_iff_eq] at space
    rcases space with ((rfl | rfl) | rfl) | rfl <;> decide
  · decide
  · decide
  · decide

theorem Grammar.Exponent.noDigit {e r : List Char} (exponent : Exponent e) (next : NoDigit r) :
    NoDigit (e ++ r) := by
  cases exponent with
  | none => exact next
  | power letter signed digits =>
      rcases letter with rfl | rfl
      · exact noDigit_cons (by decide) _
      · exact noDigit_cons (by decide) _

theorem Grammar.Fraction.noDigit {f r : List Char} (fraction : Fraction f) (next : NoDigit r) :
    NoDigit (f ++ r) := by
  cases fraction with
  | none => exact next
  | point digits => exact noDigit_cons (by decide) _

theorem dropWhile_digits {s r : List Char} (digits : ∀ c ∈ s, isDigit c = true)
    (next : NoDigit r) : (s ++ r).dropWhile isDigit = r := by
  rw [List.dropWhile_append_of_pos digits]
  cases r with
  | nil => rfl
  | cons c r => exact List.dropWhile_cons_of_neg (by simp [next c rfl])

/-- A digit and the digits behind it. -/
theorem exists_digits {c : Char} (digit : isDigit c = true) (s : List Char) :
    ∃ t, Digits (c :: t) ∧ s = t ++ s.dropWhile isDigit := by
  refine ⟨s.takeWhile isDigit, ⟨List.cons_ne_nil _ _, ?_⟩, List.takeWhile_append_dropWhile.symm⟩
  exact List.forall_mem_cons.mpr ⟨digit, fun _ member => List.mem_takeWhile_imp member⟩

/-! ## Exponents -/

theorem skipExponent_of_digits {sign s r : List Char}
    (signed : sign = [] ∨ sign = ['+'] ∨ sign = ['-']) (digits : Digits s) (next : NoDigit r) :
    skipExponent (sign ++ (s ++ r)) = .ok r := by
  obtain ⟨nonempty, digits⟩ := digits
  obtain ⟨c, s, rfl⟩ := List.exists_cons_of_ne_nil nonempty
  obtain ⟨digit, digits⟩ := List.forall_mem_cons.mp digits
  have taken := dropWhile_digits digits next
  rcases signed with rfl | rfl | rfl
  · have noSign : c ≠ '+' ∧ c ≠ '-' := by
      constructor <;> (rintro rfl; revert digit; decide)
    simp [skipExponent, noSign, digit, taken]
  · simp [skipExponent, digit, taken]
  · simp [skipExponent, digit, taken]

theorem digits_of_skipExponent {s r : List Char} (taken : skipExponent s = .ok r) :
    ∃ sign t, (sign = [] ∨ sign = ['+'] ∨ sign = ['-']) ∧ Digits t ∧ s = sign ++ (t ++ r) := by
  have behind {c : Char} {t : List Char} {e : Fault} (taken : (if isDigit c
        then .ok (t.dropWhile isDigit) else .error e) = (.ok r : Except Fault (List Char))) :
      ∃ u, Digits u ∧ c :: t = u ++ r := by
    split at taken
    · next digit =>
        obtain rfl := Except.ok.inj taken
        obtain ⟨u, digits, split⟩ := exists_digits digit t
        exact ⟨c :: u, digits, congrArg (c :: ·) split⟩
    · cases taken
  unfold skipExponent at taken
  -- the sign is taken first, if there is one, and then the same is asked in all cases
  split at taken
  all_goals dsimp only at taken
  · split at taken
    · cases taken
    obtain ⟨t, digits, same⟩ := behind taken
    exact ⟨['+'], t, by simp, digits, by rw [same]; rfl⟩
  · split at taken
    · cases taken
    obtain ⟨t, digits, same⟩ := behind taken
    exact ⟨['-'], t, by simp, digits, by rw [same]; rfl⟩
  · split at taken
    · cases taken
    obtain ⟨t, digits, same⟩ := behind taken
    exact ⟨[], t, by simp, digits, same⟩

/-! ## Numbers -/

theorem skipExponent_power {e : Char} (letter : e = 'e' ∨ e = 'E') (s : List Char) :
    skipFraction (e :: s) = skipExponent s := by
  rcases letter with rfl | rfl
  · rfl
  · rfl

theorem skipFraction_of_ends {r : List Char} (ends : Ends r) : skipFraction r = .ok r := by
  unfold skipFraction
  split
  · exact absurd (ends _ rfl) (by decide)
  · exact absurd (ends _ rfl) (by decide)
  · exact absurd (ends _ rfl) (by decide)
  · rfl

theorem skipFraction_of_exponent {e r : List Char} (exponent : Exponent e) (ends : Ends r) :
    skipFraction (e ++ r) = .ok r := by
  cases exponent with
  | none => exact skipFraction_of_ends ends
  | power letter signed digits =>
      rw [List.cons_append, skipExponent_power letter, List.append_assoc]
      exact skipExponent_of_digits signed digits ends.noDigit

theorem skipFraction_of_parts {f e r : List Char} (fraction : Fraction f) (exponent : Exponent e)
    (ends : Ends r) : skipFraction (f ++ (e ++ r)) = .ok r := by
  cases fraction with
  | none => exact skipFraction_of_exponent exponent ends
  | point digits =>
      obtain ⟨nonempty, digits⟩ := digits
      obtain ⟨c, s, rfl⟩ := List.exists_cons_of_ne_nil nonempty
      obtain ⟨digit, digits⟩ := List.forall_mem_cons.mp digits
      have taken := dropWhile_digits digits (exponent.noDigit ends.noDigit)
      simp only [List.cons_append, skipFraction, digit, taken, reduceIte]
      cases exponent with
      | none =>
          split
          · next t same =>
              obtain rfl : r = 'e' :: t := same
              exact absurd (ends _ rfl) (by decide)
          · next t same =>
              obtain rfl : r = 'E' :: t := same
              exact absurd (ends _ rfl) (by decide)
          · rfl
      | power letter signed digits =>
          have power := skipExponent_of_digits signed digits ends.noDigit
          rw [← List.append_assoc] at power
          rcases letter with rfl | rfl
          · exact power
          · exact power

theorem parts_of_skipFraction {s r : List Char} (taken : skipFraction s = .ok r) :
    ∃ f e, Fraction f ∧ Exponent e ∧ s = f ++ (e ++ r) := by
  have power {e : Char} (letter : e = 'e' ∨ e = 'E') {t : List Char}
      (taken : skipExponent t = .ok r) : ∃ u, Exponent u ∧ e :: t = u ++ r := by
    obtain ⟨sign, u, signed, digits, rfl⟩ := digits_of_skipExponent taken
    exact ⟨_, .power letter signed digits, by simp⟩
  unfold skipFraction at taken
  split at taken
  · split at taken
    · cases taken
    · next c t =>
        split at taken
        · next digit =>
            obtain ⟨u, digits, split⟩ := exists_digits digit t
            split at taken
            · next v rest =>
                obtain ⟨e, exponent, same⟩ := power (.inl rfl) taken
                rw [rest, same] at split
                exact ⟨_, e, .point digits, exponent, by rw [split]; simp⟩
            · next v rest =>
                obtain ⟨e, exponent, same⟩ := power (.inr rfl) taken
                rw [rest, same] at split
                exact ⟨_, e, .point digits, exponent, by rw [split]; simp⟩
            · cases taken
              exact ⟨_, [], .point digits, .none, by simp [← split]⟩
        · cases taken
  · obtain ⟨e, exponent, same⟩ := power (.inl rfl) taken
    exact ⟨[], e, .none, exponent, same⟩
  · obtain ⟨e, exponent, same⟩ := power (.inr rfl) taken
    exact ⟨[], e, .none, exponent, same⟩
  · cases taken
    exact ⟨[], [], .none, .none, rfl⟩

theorem skipNumber_of_unsigned {w r : List Char} (number : Unsigned w) (ends : Ends r) :
    skipNumber (w ++ r) = .ok r := by
  obtain @⟨v, f, e, whole, fraction, exponent⟩ := number
  have parts := skipFraction_of_parts fraction exponent ends
  have next := fraction.noDigit (exponent.noDigit ends.noDigit)
  rw [List.append_assoc, List.append_assoc]
  cases whole with
  | zero =>
      generalize f ++ (e ++ r) = rest at parts next ⊢
      cases rest with
      | nil => exact parts
      | cons c t =>
          simp only [List.cons_append, List.nil_append, skipNumber, next c rfl, Bool.false_eq_true,
            reduceIte]
          exact parts
  | digits leading digits =>
      obtain ⟨digit, digits⟩ := List.forall_mem_cons.mp digits.2
      rw [List.cons_append, skipNumber.eq_4 _ _ leading, if_pos digit, dropWhile_digits digits next]
      exact parts

theorem unsigned_of_skipNumber {s r : List Char} (taken : skipNumber s = .ok r) :
    ∃ w, Unsigned w ∧ s = w ++ r := by
  unfold skipNumber at taken
  split at taken
  · cases taken
  · next rest =>
      have parts : skipFraction rest = .ok r ∨ rest = [] ∧ r = [] := by
        split at taken
        · split at taken
          · cases taken
          · exact .inl taken
        · cases taken
          exact .inr ⟨rfl, rfl⟩
      rcases parts with taken | ⟨rfl, rfl⟩
      · obtain ⟨f, e, fraction, exponent, rfl⟩ := parts_of_skipFraction taken
        exact ⟨_, .parts .zero fraction exponent, by simp⟩
      · exact ⟨_, .parts .zero .none .none, rfl⟩
  · next c t leading =>
      split at taken
      · next digit =>
          obtain ⟨u, digits, split⟩ := exists_digits digit t
          obtain ⟨f, e, fraction, exponent, rest⟩ := parts_of_skipFraction taken
          rw [rest] at split
          exact ⟨_, .parts (.digits leading digits) fraction exponent, by rw [split]; simp⟩
      · cases taken

end StatusIcon.Json
