/-
# StatusIcon.Proofs.Json.Numerals -- what numbers are read as

A number is cut into its parts (`Numeral`), and what it is read as is said of the parts alone
(`Numeral.read?`).  The reader agrees with that on every text (`number_eq_ok_iff`) and takes nothing
but such parts (`spells_of_number`), so the readers of numbers have languages: `NumberText` for any
number, `SingleText` and `NaturalText` for the two kinds that records hold.

A number that is read as an integer has the value of its digits.  Every other one is read as a
double, with two roundings, and may be past the last of them.
-/
import StatusIcon.Proofs.Json.Reading

set_option autoImplicit false

namespace StatusIcon.Json

open Grammar

/-! ## Parts -/

namespace Grammar

/-- The parts of a number without its sign; a fraction without digits is none. -/
structure Numeral where
  whole : List Char
  fraction : List Char
  /-- Whether there is a minus sign, and the digits. -/
  exponent : Option (Bool × List Char)

/-- The sign of an exponent, and whether it is a minus. -/
inductive Sign : List Char → Bool → Prop where
  | none : Sign [] false
  | plus : Sign ['+'] false
  | minus : Sign ['-'] true

/-- A fraction and its digits. -/
inductive FractionText : List Char → List Char → Prop where
  | none : FractionText [] []
  | point {s : List Char} (digits : Digits s) : FractionText ('.' :: s) s

inductive ExponentText : List Char → Option (Bool × List Char) → Prop where
  | none : ExponentText [] none
  | power {e : Char} {sign s : List Char} {down : Bool} (letter : e = 'e' ∨ e = 'E')
      (signed : Sign sign down) (digits : Digits s) :
      ExponentText (e :: (sign ++ s)) (some (down, s))

theorem FractionText.eq_nil {f : List Char} (fraction : FractionText f []) : f = [] := by
  cases fraction with
  | none => rfl
  | point digits => exact absurd rfl digits.1

theorem ExponentText.eq_nil {e : List Char} (exponent : ExponentText e Option.none) :
    e = [] := by
  cases exponent with
  | none => rfl

/-- A number without its sign, and its parts. -/
inductive Spells : List Char → Numeral → Prop where
  | parts {w f ds e : List Char} {x : Option (Bool × List Char)} (whole : Whole w)
      (fraction : FractionText f ds) (exponent : ExponentText e x) :
      Spells (w ++ (f ++ e)) ⟨w, ds, x⟩

theorem Spells.unsigned {w : List Char} {x : Numeral} (spells : Spells w x) : Unsigned w := by
  obtain ⟨whole, fraction, exponent⟩ := spells
  refine .parts whole ?_ ?_
  · cases fraction with
    | none => exact .none
    | point digits => exact .point digits
  · cases exponent with
    | none => exact .none
    | power letter signed digits =>
        refine .power letter ?_ digits
        cases signed <;> simp

/-- The text does not go on with a fraction. -/
def NoPoint (s : List Char) : Prop := ∀ c ∈ s.head?, c ≠ '.'

/-- The text does not go on with an exponent. -/
def NoPower (s : List Char) : Prop := ∀ c ∈ s.head?, c ≠ 'e' ∧ c ≠ 'E'

/-- What comes next is no part of an exponent that may stand there. -/
def AfterExponent (x : Option (Bool × List Char)) (s : List Char) : Prop :=
  NoDigit s ∧ (x = none → NoPower s)

/-- What comes next is no part of the number. -/
def Numeral.Stops (x : Numeral) (s : List Char) : Prop :=
  AfterExponent x.exponent s ∧ (x.fraction = [] → x.exponent = none → NoPoint s)

theorem Ends.noPoint {s : List Char} (ends : Ends s) : NoPoint s := by
  rintro c head rfl
  exact absurd (ends _ head) (by decide)

theorem Ends.noPower {s : List Char} (ends : Ends s) : NoPower s := by
  intro c head
  constructor
  · rintro rfl
    exact absurd (ends _ head) (by decide)
  · rintro rfl
    exact absurd (ends _ head) (by decide)

theorem Ends.stops {s : List Char} (ends : Ends s) (x : Numeral) : x.Stops s :=
  ⟨⟨ends.noDigit, fun _ => ends.noPower⟩, fun _ _ => ends.noPoint⟩

end Grammar

/-! ## Values -/

namespace Grammar.Numeral

/-- The double of a significand and an exponent, if it is none past the last one. -/
def real? (negative : Bool) (significand : Nat) (places : Int) : Option Number :=
  (scale (.ofNat significand) 3 places).map fun x => .real (if negative then x.neg else x)

def integer? (negative : Bool) (n : Nat) : Option Number :=
  if !negative then some (.natural n)
  else if 0 < n && n ≤ 0x8000000000000000 then some (.negative n)
  else real? true n 0

/-- An exponent past 31 bits makes zero or nothing. -/
def power? (negative : Bool) (significand : Nat) (places : Int) (down : Bool)
    (digits : List Char) : Option Number :=
  if (exponentDigits 0 digits).2 = [] then
    real? negative significand
      (if down then places - (exponentDigits 0 digits).1 else places + (exponentDigits 0 digits).1)
  else if significand ≠ 0 && !down then none
  else some (.real (.zero negative))

def exponent? (negative : Bool) (significand : Nat) (places : Int) :
    Option (Bool × List Char) → Option Number
  | none => real? negative significand places
  | some (down, digits) => power? negative significand places down digits

/-- The places of a significand that takes in the digits behind a point. -/
def placesBehind (significand : Nat) (places : Int) (digits : List Char) : Int :=
  places - ((digits.length - (accumulate significand digits).2.length : Nat) : Int)

def fraction? (negative : Bool) (significand : Nat) (places : Int) (digits : List Char)
    (x : Option (Bool × List Char)) : Option Number :=
  exponent? negative (accumulate significand digits).1 (placesBehind significand places digits) x

/-- What the parts are read as: an integer if it fits and has no other parts, and else a double. -/
def read? (negative : Bool) (x : Numeral) : Option Number :=
  if (x.fraction = [] ∧ x.exponent = none) ∧ (accumulate 0 x.whole).2 = [] then
    integer? negative (accumulate 0 x.whole).1
  else
    fraction? negative (accumulate 0 x.whole).1 (accumulate 0 x.whole).2.length x.fraction
      x.exponent

end Grammar.Numeral

open Grammar.Numeral

section

variable {negative : Bool} {significand : Nat} {places : Int} {s r rest : List Char} {n : Number}

theorem real_eq_ok_iff : real negative significand places rest = .ok (n, r) ↔
    real? negative significand places = some n ∧ rest = r := by
  unfold real real?
  cases scale (.ofNat significand) 3 places with
  | none => simp
  | some x => simp

theorem integer_eq_ok_iff {whole : Nat} : integer negative whole rest = .ok (n, r) ↔
    integer? negative whole = some n ∧ rest = r := by
  unfold integer integer?
  split
  · simp
  split
  · simp
  · exact real_eq_ok_iff

/-! ## Exponents -/

theorem noDigit_dropWhile (s : List Char) : NoDigit (s.dropWhile isDigit) := by
  intro c head
  have stop := List.head?_dropWhile_not isDigit s
  rw [Option.mem_def.mp head] at stop
  simpa using stop

theorem takeWhile_digits {t : List Char} (digits : ∀ c ∈ t, isDigit c = true)
    (next : NoDigit rest) : (t ++ rest).takeWhile isDigit = t := by
  rw [List.takeWhile_append_of_pos digits]
  cases rest with
  | nil => simp
  | cons c rest => rw [List.takeWhile_cons_of_neg (by simp [next c rfl]), List.append_nil]

theorem exponentPart_eq_ok_iff {sign ds : List Char} {down : Bool} (signed : Sign sign down)
    (digits : Digits ds) (next : NoDigit rest) :
    exponentPart negative significand places (sign ++ (ds ++ rest)) = .ok (n, r) ↔
      power? negative significand places down ds = some n ∧ rest = r := by
  have taken := takeWhile_digits digits.2 next
  have left := dropWhile_digits digits.2 next
  obtain ⟨c, t, rfl⟩ := List.exists_cons_of_ne_nil digits.1
  have digit := digits.2 c List.mem_cons_self
  rw [List.cons_append] at taken left ⊢
  rcases read : exponentDigits 0 (c :: t) with ⟨e, _ | ⟨d, more⟩⟩
  · -- all digits of the exponent count
    unfold power?
    rw [read, if_pos rfl, ← real_eq_ok_iff]
    cases signed with
    | none =>
        have noSign : c ≠ '+' ∧ c ≠ '-' := by
          constructor <;> (rintro rfl; revert digit; decide)
        simp [exponentPart, noSign, digit, taken, left, read]
    | plus => simp [exponentPart, digit, taken, left, read]
    | minus => simp [exponentPart, digit, taken, left, read]
  · unfold power?
    rw [read, if_neg (List.cons_ne_nil _ _)]
    cases signed with
    | none =>
        have noSign : c ≠ '+' ∧ c ≠ '-' := by
          constructor <;> (rintro rfl; revert digit; decide)
        by_cases zero : significand = 0 <;>
          simp [exponentPart, noSign, digit, taken, left, read, zero]
    | plus =>
        by_cases zero : significand = 0 <;> simp [exponentPart, digit, taken, left, read, zero]
    | minus => simp [exponentPart, digit, taken, left, read]

/-- Whatever is read as an exponent has its parts. -/
theorem parts_of_exponentPart {result : Number × List Char}
    (read : exponentPart negative significand places s = .ok result) :
    ∃ sign ds down rest, Sign sign down ∧ Digits ds ∧ NoDigit rest ∧
      s = sign ++ (ds ++ rest) := by
  unfold exponentPart at read
  split at read
  next down s' sign =>
  split at read
  · cases read
  next c t =>
  split at read
  · cases read
  next digit =>
  rw [Bool.not_eq_true, Bool.not_eq_false'] at digit
  obtain ⟨u, digits, same⟩ := exists_digits digit t
  have parts := noDigit_dropWhile t
  split at sign
  all_goals obtain ⟨rfl, rfl⟩ := Prod.mk.inj sign
  · exact ⟨_, c :: u, _, _, .minus, digits, parts, by rw [same]; simp [← same]⟩
  · exact ⟨_, c :: u, _, _, .plus, digits, parts, by rw [same]; simp [← same]⟩
  · exact ⟨_, c :: u, _, _, .none, digits, parts, by rw [same]; simp [← same]⟩

/-! ## Fractions -/

theorem fractionPart_power {e : Char} (letter : e = 'e' ∨ e = 'E') (s : List Char) :
    fractionPart negative significand places (e :: s) =
      exponentPart negative significand places s := by
  rcases letter with rfl | rfl <;> rfl

theorem fractionPart_rest (noPoint : NoPoint rest) (noPower : NoPower rest) :
    fractionPart negative significand places rest = real negative significand places rest := by
  unfold fractionPart
  split
  · exact absurd rfl (noPoint _ rfl)
  · exact absurd rfl (noPower _ rfl).1
  · exact absurd rfl (noPower _ rfl).2
  · rfl

theorem noPower_or (s : List Char) :
    NoPower s ∨ ∃ e t, (e = 'e' ∨ e = 'E') ∧ s = e :: t := by
  cases s with
  | nil => exact .inl nofun
  | cons c t =>
      by_cases letter : c = 'e' ∨ c = 'E'
      · exact .inr ⟨c, t, letter, rfl⟩
      · refine .inl fun d head => ?_
        obtain rfl := Option.some.inj head
        exact not_or.mp letter

theorem fractionPart_point_rest {ds : List Char} (digits : Digits ds) (next : NoDigit rest)
    (noPower : NoPower rest) : fractionPart negative significand places ('.' :: (ds ++ rest)) =
      real negative (accumulate significand ds).1 (placesBehind significand places ds) rest := by
  have taken := takeWhile_digits digits.2 next
  have left := dropWhile_digits digits.2 next
  obtain ⟨c, t, rfl⟩ := List.exists_cons_of_ne_nil digits.1
  unfold fractionPart
  simp only [taken, left]
  split
  · exact absurd rfl (noPower _ rfl).1
  · exact absurd rfl (noPower _ rfl).2
  · rfl

theorem fractionPart_point_power {ds : List Char} (digits : Digits ds) {e : Char}
    (letter : e = 'e' ∨ e = 'E') (s : List Char) :
    fractionPart negative significand places ('.' :: (ds ++ e :: s)) =
      exponentPart negative (accumulate significand ds).1 (placesBehind significand places ds)
        s := by
  have next : NoDigit (e :: s) := by
    rcases letter with rfl | rfl <;> exact noDigit_cons (by decide) _
  have taken := takeWhile_digits digits.2 next
  have left := dropWhile_digits digits.2 next
  obtain ⟨c, t, rfl⟩ := List.exists_cons_of_ne_nil digits.1
  unfold fractionPart
  simp only [taken, left]
  rcases letter with rfl | rfl <;> rfl

theorem fraction?_nil (x : Option (Bool × List Char)) :
    fraction? negative significand places [] x = exponent? negative significand places x := by
  simp [fraction?, accumulate, placesBehind]

theorem fractionPart_eq_ok_iff {f ds e : List Char} {x : Option (Bool × List Char)}
    (fraction : FractionText f ds) (exponent : ExponentText e x) (next : AfterExponent x rest)
    (noPoint : ds = [] → x = none → NoPoint rest) :
    fractionPart negative significand places (f ++ (e ++ rest)) = .ok (n, r) ↔
      fraction? negative significand places ds x = some n ∧ rest = r := by
  cases fraction with
  | none =>
      rw [List.nil_append, fraction?_nil]
      cases exponent with
      | none =>
          rw [List.nil_append, fractionPart_rest (noPoint rfl rfl) (next.2 rfl)]
          exact real_eq_ok_iff
      | power letter signed digits =>
          rw [List.cons_append, List.append_assoc, fractionPart_power letter]
          exact exponentPart_eq_ok_iff signed digits next.1
  | point digits =>
      rw [List.cons_append]
      cases exponent with
      | none =>
          rw [List.nil_append, fractionPart_point_rest digits next.1 (next.2 rfl)]
          exact real_eq_ok_iff
      | power letter signed ds =>
          rw [List.cons_append, List.append_assoc, fractionPart_point_power digits letter]
          exact exponentPart_eq_ok_iff signed ds next.1

/-- Whatever is read from the point or the exponent on has its parts. -/
theorem parts_of_fractionPart {result : Number × List Char} (next : NoDigit s)
    (read : fractionPart negative significand places s = .ok result) :
    ∃ f ds e x rest, FractionText f ds ∧ ExponentText e x ∧ AfterExponent x rest ∧
      (ds = [] → x = none → NoPoint rest) ∧ s = f ++ (e ++ rest) := by
  have power {places : Int} {significand : Nat} {e : Char} {t : List Char}
      (letter : e = 'e' ∨ e = 'E')
      (read : exponentPart negative significand places t = .ok result) :
      ∃ u x rest, ExponentText u x ∧ x ≠ none ∧ NoDigit rest ∧ e :: t = u ++ rest := by
    obtain ⟨sign, ds, down, rest, signed, digits, next, rfl⟩ := parts_of_exponentPart read
    exact ⟨_, _, rest, .power letter signed digits, by simp, next, by simp⟩
  by_cases point : ∃ t, s = '.' :: t
  · obtain ⟨t, rfl⟩ := point
    cases first : t.takeWhile isDigit with
    | nil =>
        cases last : t.dropWhile isDigit <;> simp [fractionPart, first, last] at read
    | cons c u =>
        have digits : Digits (t.takeWhile isDigit) :=
          ⟨by rw [first]; exact List.cons_ne_nil _ _, fun _ member => List.mem_takeWhile_imp member⟩
        have split : t = t.takeWhile isDigit ++ t.dropWhile isDigit :=
          List.takeWhile_append_dropWhile.symm
        have behind := noDigit_dropWhile t
        generalize t.takeWhile isDigit = ds at split digits
        generalize t.dropWhile isDigit = rest at split behind
        subst split
        rcases noPower_or rest with none | ⟨e, v, letter, rfl⟩
        · exact ⟨_, _, [], _, rest, .point digits, .none, ⟨behind, fun _ => none⟩,
            fun none => absurd none digits.1, rfl⟩
        · rw [fractionPart_point_power digits letter] at read
          obtain ⟨u, x, rest, exponent, some, next, same⟩ := power letter read
          exact ⟨_, _, u, x, rest, .point digits, exponent, ⟨next, fun none => absurd none some⟩,
            fun _ none => absurd none some, by rw [same]; rfl⟩
  have noPoint : NoPoint s := by
    rintro c head rfl
    cases s with
    | nil => cases head
    | cons c t => exact point ⟨t, by rw [Option.some.inj head]⟩
  rcases noPower_or s with none | ⟨e, t, letter, rfl⟩
  · exact ⟨[], [], [], _, s, .none, .none, ⟨next, fun _ => none⟩, fun _ _ => noPoint, rfl⟩
  · rw [fractionPart_power letter] at read
    obtain ⟨u, x, rest, exponent, some, next, same⟩ := power letter read
    exact ⟨[], [], u, x, rest, .none, exponent, ⟨next, fun none => absurd none some⟩,
      fun _ none => absurd none some, same⟩

/-! ## Numbers -/

/-- The text goes on with a fraction or an exponent. -/
def Goes (s : List Char) : Prop := ∃ c t, s = c :: t ∧ (c = '.' ∨ c = 'e' ∨ c = 'E')

theorem not_goes {c : Char} {t : List Char} (noPoint : NoPoint (c :: t))
    (noPower : NoPower (c :: t)) : (c == '.' || c == 'e' || c == 'E') = false := by
  simp [noPoint c rfl, (noPower c rfl).1, (noPower c rfl).2]

theorem goes_or (s : List Char) : Goes s ∨ NoPoint s ∧ NoPower s := by
  cases s with
  | nil => exact .inr ⟨nofun, nofun⟩
  | cons c t =>
      by_cases letter : c = '.' ∨ c = 'e' ∨ c = 'E'
      · exact .inl ⟨c, t, rfl, letter⟩
      · simp only [not_or] at letter
        refine .inr ⟨?_, ?_⟩
        · rintro d head rfl
          exact letter.1 (Option.some.inj head)
        · intro d head
          obtain rfl := Option.some.inj head
          exact letter.2

theorem number_whole_integer {w : List Char} (whole : Whole w) (next : NoDigit rest)
    (noPoint : NoPoint rest) (noPower : NoPower rest) (fits : (accumulate 0 w).2 = []) :
    number negative (w ++ rest) = integer negative (accumulate 0 w).1 rest := by
  cases whole with
  | zero =>
      cases rest with
      | nil => rfl
      | cons c t =>
          simp only [List.singleton_append, number, next c rfl, not_goes noPoint noPower,
            Bool.false_eq_true, reduceIte]
          rfl
  | @digits c s leading digits =>
      have taken := takeWhile_digits digits.2 next
      have left := dropWhile_digits digits.2 next
      have digit := digits.2 c List.mem_cons_self
      rw [List.cons_append] at taken left ⊢
      rcases read : accumulate 0 (c :: s) with ⟨n, unread⟩
      rw [read] at fits
      obtain rfl : unread = [] := fits
      rw [number.eq_4 _ _ _ leading]
      simp only [digit, taken, left, read, Bool.not_true, Bool.false_eq_true, reduceIte]
      cases rest with
      | nil => rfl
      | cons d t =>
          simp only [not_goes noPoint noPower, Bool.false_eq_true, reduceIte]

theorem number_whole_real {w : List Char} (whole : Whole w) (next : NoDigit rest)
    (goes : Goes rest ∨ (accumulate 0 w).2 ≠ []) : number negative (w ++ rest) =
      fractionPart negative (accumulate 0 w).1 (accumulate 0 w).2.length rest := by
  cases whole with
  | zero =>
      obtain ⟨c, t, rfl, letter⟩ := goes.resolve_right (by decide)
      have digit := next c rfl
      rcases letter with rfl | rfl | rfl <;> rfl
  | @digits c s leading digits =>
      have taken := takeWhile_digits digits.2 next
      have left := dropWhile_digits digits.2 next
      have digit := digits.2 c List.mem_cons_self
      rw [List.cons_append] at taken left ⊢
      rcases read : accumulate 0 (c :: s) with ⟨n, unread⟩
      rw [read] at goes
      rw [number.eq_4 _ _ _ leading]
      cases unread with
      | nil =>
          obtain ⟨d, t, rfl, letter⟩ := goes.resolve_right (by simp)
          rcases letter with rfl | rfl | rfl <;> simp [digit, taken, left, read]
      | cons d unread => simp [digit, taken, left, read]

theorem goes_parts {f ds e : List Char} {x : Option (Bool × List Char)}
    (fraction : FractionText f ds) (exponent : ExponentText e x) (some : ¬ (ds = [] ∧ x = none)) :
    Goes (f ++ (e ++ rest)) := by
  cases fraction with
  | point digits => exact ⟨'.', _, rfl, .inl rfl⟩
  | none =>
      cases exponent with
      | none => exact absurd ⟨rfl, rfl⟩ some
      | power letter signed digits => exact ⟨_, _, rfl, .inr letter⟩

theorem noDigit_parts {f ds e : List Char} {x : Option (Bool × List Char)}
    (fraction : FractionText f ds) (exponent : ExponentText e x) (next : NoDigit rest) :
    NoDigit (f ++ (e ++ rest)) := by
  cases fraction with
  | point digits => exact noDigit_cons (by decide) _
  | none =>
      cases exponent with
      | none => exact next
      | power letter signed digits =>
          rcases letter with rfl | rfl <;> exact noDigit_cons (by decide) _

/-- A number is read as its parts are. -/
theorem number_eq_ok_iff {w : List Char} {x : Numeral} (spells : Spells w x)
    (stops : x.Stops rest) : number negative (w ++ rest) = .ok (n, r) ↔
      x.read? negative = some n ∧ rest = r := by
  obtain @⟨w, f, ds, e, x, whole, fraction, exponent⟩ := spells
  obtain ⟨next, noPoint⟩ := stops
  rw [List.append_assoc, List.append_assoc]
  have behind := noDigit_parts fraction exponent next.1
  have parts {m : Nat} {places : Int} :
      fractionPart negative m places (f ++ (e ++ rest)) = .ok (n, r) ↔
        fraction? negative m places ds x = some n ∧ rest = r :=
    fractionPart_eq_ok_iff fraction exponent next noPoint
  by_cases alone : (ds = [] ∧ x = none) ∧ (accumulate 0 w).2 = []
  · have read : Numeral.read? negative ⟨w, ds, x⟩ = _ := if_pos alone
    rw [read, ← integer_eq_ok_iff]
    obtain ⟨⟨rfl, rfl⟩, fits⟩ := alone
    rw [fraction.eq_nil, exponent.eq_nil, List.nil_append, List.nil_append,
      number_whole_integer whole next.1 (noPoint rfl rfl) (next.2 rfl) fits]
  · have read : Numeral.read? negative ⟨w, ds, x⟩ = _ := if_neg alone
    have goes : Goes (f ++ (e ++ rest)) ∨ (accumulate 0 w).2 ≠ [] := by
      rw [Classical.not_and_iff_not_or_not] at alone
      exact alone.imp_left (goes_parts fraction exponent)
    rw [read, number_whole_real whole behind goes]
    exact parts

theorem whole_of_number {result : Number × List Char} (read : number negative s = .ok result) :
    ∃ w rest, Whole w ∧ NoDigit rest ∧ s = w ++ rest := by
  unfold number at read
  split at read
  · cases read
  · next rest =>
      refine ⟨['0'], rest, .zero, ?_, rfl⟩
      intro c head
      cases rest with
      | nil => cases head
      | cons d t =>
          obtain rfl := Option.some.inj head
          by_contra digit
          rw [Bool.not_eq_false] at digit
          simp [digit] at read
  · next c t leading =>
      split at read
      · cases read
      next digit =>
      rw [Bool.not_eq_true, Bool.not_eq_false'] at digit
      obtain ⟨u, digits, same⟩ := exists_digits digit t
      refine ⟨c :: u, _, .digits leading digits, noDigit_dropWhile t, ?_⟩
      rw [List.cons_append, ← same]

/-- Whatever is read as a number has its parts. -/
theorem spells_of_number {result : Number × List Char} (read : number negative s = .ok result) :
    ∃ w x rest, Spells w x ∧ x.Stops rest ∧ s = w ++ rest := by
  obtain ⟨w, rest, whole, next, rfl⟩ := whole_of_number read
  rcases goes_or rest with goes | ⟨noPoint, noPower⟩
  · rw [number_whole_real whole next (.inl goes)] at read
    obtain ⟨f, ds, e, x, rest, fraction, exponent, behind, noPoint, rfl⟩ :=
      parts_of_fractionPart next read
    exact ⟨_, _, rest, .parts whole fraction exponent, ⟨behind, noPoint⟩, by simp⟩
  · exact ⟨_, _, rest, .parts whole .none .none, ⟨⟨next, fun _ => noPower⟩, fun _ _ => noPoint⟩,
      by simp⟩

end

end StatusIcon.Json
