/-
# StatusIcon.Proofs.Json.Skipping -- values that are passed over

Nothing but a value of JSON is passed over (`isValue_of_skip`), and every value of JSON is
(`skip_of_isValue`), as long as what comes behind it could not go on with a number.

Values are passed over by one loop that carries the brackets still open, so both statements are
about a value and the rest of these brackets.  What that rest is, is told by `Closes`.
-/
import StatusIcon.Proofs.Json.Numbers

set_option autoImplicit false

namespace StatusIcon.Json

open Grammar

/-! ## Values without parts -/

theorem dropName_append (name r : List Char) : dropName name (name ++ r) = .ok r := by
  induction name with
  | nil => rfl
  | cons c name ih => rw [List.cons_append, dropName, if_pos rfl, ih]

theorem eq_append_of_dropName {name s r : List Char} (taken : dropName name s = .ok r) :
    s = name ++ r := by
  induction name generalizing s with
  | nil => exact Except.ok.inj taken
  | cons n name ih =>
      cases s with
      | nil => cases taken
      | cons c s =>
          rw [dropName] at taken
          split at taken
          · next same => rw [same, ih taken, List.cons_append]
          · cases taken

theorem isValue_of_skipScalar {c : Char} {s r : List Char} (taken : skipScalar c s = .ok r) :
    ∃ v, IsValue (c :: v) ∧ s = v ++ r := by
  unfold skipScalar at taken
  simp only [beq_iff_eq] at taken
  split at taken
  · next first =>
      obtain rfl := first
      exact ⟨_, .null, eq_append_of_dropName taken⟩
  split at taken
  · next first =>
      obtain rfl := first
      exact ⟨_, .true, eq_append_of_dropName taken⟩
  split at taken
  · next first =>
      obtain rfl := first
      exact ⟨_, .false, eq_append_of_dropName taken⟩
  split at taken
  · next first =>
      obtain rfl := first
      obtain ⟨w, number, rfl⟩ := unsigned_of_skipNumber taken
      exact ⟨w, .negative number, rfl⟩
  split at taken
  · obtain ⟨w, number, split⟩ := unsigned_of_skipNumber taken
    obtain ⟨d, v, rfl, -⟩ := (IsValue.number number).head
    obtain ⟨rfl, rfl⟩ := List.cons.inj split
    exact ⟨v, .number number, rfl⟩
  split at taken
  · next first =>
      obtain rfl := first
      obtain ⟨w, pieces, rfl⟩ := skipString_eq_ok_iff.mp taken
      exact ⟨w ++ ['"'], .string pieces, by simp⟩
  · cases taken

theorem skipScalar_number {w r : List Char} (number : Unsigned w) (ends : Ends r) :
    ∃ c v, w = c :: v ∧ isDigit c = true ∧ skipScalar c (v ++ r) = .ok r := by
  have taken := skipNumber_of_unsigned number ends
  obtain @⟨w, f, e, whole, fraction, exponent⟩ := number
  obtain ⟨c, v, rfl, digit⟩ := whole.head
  refine ⟨c, v ++ (f ++ e), rfl, digit, ?_⟩
  have first : c ≠ 'n' ∧ c ≠ 't' ∧ c ≠ 'f' ∧ c ≠ '-' := by
    refine ⟨?_, ?_, ?_, ?_⟩ <;> (rintro rfl; revert digit; decide)
  simp only [skipScalar, beq_iff_eq, first, digit, reduceIte]
  exact taken

/-! ## The loop, step by step -/

section

variable {brackets : List Bracket} {s rest after : List Char} {c : Char}

theorem skipValue_scalar (first : dropSpace s = c :: rest) (noList : c ≠ '[')
    (noObject : c ≠ '\x7b') (scalar : skipScalar c rest = .ok after) :
    skipValue brackets s = skipAfter brackets after := by
  rw [skipValue]
  split
  · simp_all
  · next same => exact absurd (List.cons.inj (first.symm.trans same)).1 noList
  · next same => exact absurd (List.cons.inj (first.symm.trans same)).1 noObject
  · next same =>
      obtain ⟨rfl, rfl⟩ := List.cons.inj (first.symm.trans same)
      split <;> simp_all

theorem skipValue_emptyList (first : dropSpace s = '[' :: rest)
    (second : dropSpace rest = ']' :: after) :
    skipValue brackets s = skipAfter brackets after := by
  rw [skipValue]
  split
  · simp_all
  · next same =>
      obtain ⟨-, rfl⟩ := List.cons.inj (first.symm.trans same)
      split <;> simp_all
  · simp_all
  · simp_all

theorem skipValue_list (first : dropSpace s = '[' :: rest) (second : dropSpace rest = c :: after)
    (item : c ≠ ']') :
    skipValue brackets s = skipValue (.list :: brackets) (c :: after) := by
  rw [skipValue]
  split
  · simp_all
  · next same =>
      obtain ⟨-, rfl⟩ := List.cons.inj (first.symm.trans same)
      split <;> simp_all
  · simp_all
  · simp_all

theorem skipValue_emptyObject (first : dropSpace s = '\x7b' :: rest)
    (second : dropSpace rest = '\x7d' :: after) :
    skipValue brackets s = skipAfter brackets after := by
  rw [skipValue]
  split
  · simp_all
  · simp_all
  · next same =>
      obtain ⟨-, rfl⟩ := List.cons.inj (first.symm.trans same)
      split <;> simp_all
  · simp_all

theorem skipValue_object (first : dropSpace s = '\x7b' :: rest)
    (second : dropSpace rest = c :: after) (member : c ≠ '\x7d') :
    skipValue brackets s = skipMember brackets (c :: after) := by
  rw [skipValue]
  split
  · simp_all
  · simp_all
  · next same =>
      obtain ⟨-, rfl⟩ := List.cons.inj (first.symm.trans same)
      split <;> simp_all
  · simp_all

theorem skipAfter_nil : skipAfter [] s = .ok s := by rw [skipAfter]

theorem skipAfter_item (first : dropSpace s = ',' :: rest) :
    skipAfter (.list :: brackets) s = skipValue (.list :: brackets) rest := by
  rw [skipAfter]
  split <;> simp_all

theorem skipAfter_member (first : dropSpace s = ',' :: rest) :
    skipAfter (.object :: brackets) s = skipMember brackets rest := by
  rw [skipAfter]
  split <;> simp_all

theorem skipAfter_close {bracket : Bracket} (first : dropSpace s = bracket.close :: rest) :
    skipAfter (bracket :: brackets) s = skipAfter brackets rest := by
  rw [skipAfter]
  have noComma : bracket.close ≠ ',' := by cases bracket <;> decide
  split <;> simp_all

theorem skipMember_eq {value : List Char} (first : dropSpace s = '"' :: rest)
    (name : skipString rest = .ok after) (second : dropSpace after = ':' :: value) :
    skipMember brackets s = skipValue (.object :: brackets) value := by
  rw [skipMember]
  split
  · simp_all
  · next same =>
      obtain ⟨-, rfl⟩ := List.cons.inj (first.symm.trans same)
      split
      · simp_all
      · next taken =>
          obtain rfl := Except.ok.inj (name.symm.trans taken)
          split <;> simp_all
  · simp_all

end

/-! ## Every value is passed over -/

theorem dropSpace_blank_cons {sp : List Char} (blank : Blank sp) {c : Char}
    (noSpace : isSpace c = false) (s : List Char) : dropSpace (sp ++ c :: s) = c :: s :=
  (dropSpace_append blank _).trans (dropSpace_cons noSpace s)

/-- Within any brackets, the loop passes over the text as over one value. -/
def Skips (v : List Char) : Prop :=
  ∀ brackets {sp r : List Char}, Blank sp → Ends r →
    skipValue brackets (sp ++ (v ++ r)) = skipAfter brackets r

theorem skipAfter_items {vs : List (List Char)} {w : List Char} (items : Items false vs w)
    (skips : ∀ v ∈ vs, Skips v) (brackets : List Bracket) (r : List Char) :
    skipAfter (.list :: brackets) (w ++ r) = skipAfter brackets r := by
  induction vs generalizing w with
  | nil =>
      cases items with
      | close blank =>
          rw [List.append_assoc]
          exact skipAfter_close (dropSpace_blank_cons blank rfl r)
  | cons v vs ih =>
      obtain ⟨first, skips⟩ := List.forall_mem_cons.mp skips
      cases items with
      | item led rest =>
          cases led with
          | next before after =>
              simp only [List.append_assoc, List.cons_append]
              rw [skipAfter_item (dropSpace_blank_cons before rfl _),
                first _ after (rest.ends r), ih rest skips]

theorem skipMember_skips {sp n s t v r : List Char} (lead : Blank sp) (name : Pieces n)
    (before : Blank s) (after : Blank t) (value : Skips v) (ends : Ends r)
    (brackets : List Bracket) :
    skipMember brackets (sp ++ '"' :: (n ++ '"' :: (s ++ ':' :: (t ++ (v ++ r))))) =
      skipAfter (.object :: brackets) r := by
  rw [skipMember_eq (dropSpace_blank_cons lead rfl _) (skipString_pieces name _)
    (dropSpace_blank_cons before rfl _), value _ after ends]

theorem skipAfter_members {ms : List (List Char × List Char)} {w : List Char}
    (members : Members false ms w) (names : ∀ m ∈ ms, Pieces m.1)
    (skips : ∀ m ∈ ms, Skips m.2) (brackets : List Bracket) (r : List Char) :
    skipAfter (.object :: brackets) (w ++ r) = skipAfter brackets r := by
  induction ms generalizing w with
  | nil =>
      cases members with
      | close blank =>
          rw [List.append_assoc]
          exact skipAfter_close (dropSpace_blank_cons blank rfl r)
  | cons m ms ih =>
      obtain ⟨name, otherNames⟩ := List.forall_mem_cons.mp names
      obtain ⟨value, others⟩ := List.forall_mem_cons.mp skips
      cases members with
      | member led before after rest =>
          cases led with
          | next comma lead =>
              simp only [List.append_assoc, List.cons_append]
              rw [skipAfter_member (dropSpace_blank_cons comma rfl _),
                skipMember_skips lead name before after value (rest.ends r),
                ih rest otherNames others]

theorem Grammar.IsValue.skips {v : List Char} (value : IsValue v) : Skips v := by
  induction value with
  | null =>
      intro brackets sp r blank ends
      exact skipValue_scalar (dropSpace_blank_cons blank rfl _) (by decide) (by decide)
        (dropName_append ['u', 'l', 'l'] r)
  | true =>
      intro brackets sp r blank ends
      exact skipValue_scalar (dropSpace_blank_cons blank rfl _) (by decide) (by decide)
        (dropName_append ['r', 'u', 'e'] r)
  | false =>
      intro brackets sp r blank ends
      exact skipValue_scalar (dropSpace_blank_cons blank rfl _) (by decide) (by decide)
        (dropName_append ['a', 'l', 's', 'e'] r)
  | number digits =>
      intro brackets sp r blank ends
      obtain ⟨c, v, rfl, digit, taken⟩ := skipScalar_number digits ends
      obtain ⟨noSpace, -, -⟩ := begins_of_isDigit digit
      refine skipValue_scalar (dropSpace_blank_cons blank noSpace _) ?_ ?_ taken
      · rintro rfl
        revert digit
        decide
      · rintro rfl
        revert digit
        decide
  | negative digits =>
      intro brackets sp r blank ends
      exact skipValue_scalar (dropSpace_blank_cons blank rfl _) (by decide) (by decide)
        (skipNumber_of_unsigned digits ends)
  | string pieces =>
      intro brackets sp r blank ends
      simp only [List.cons_append, List.append_assoc]
      exact skipValue_scalar (dropSpace_blank_cons blank rfl _) (by decide) (by decide)
        (skipString_pieces pieces r)
  | list items values ih =>
      intro brackets sp r blank ends
      have opened := dropSpace_blank_cons blank (c := '[') rfl
      cases items with
      | close blank' =>
          simp only [List.cons_append, List.append_assoc]
          exact skipValue_emptyList (opened _) (dropSpace_blank_cons blank' rfl _)
      | item led rest =>
          obtain ⟨value, values⟩ := List.forall_mem_cons.mp values
          obtain ⟨first, skips⟩ := List.forall_mem_cons.mp ih
          obtain ⟨c, v, rfl, noSpace, item, -⟩ := value.head
          cases led with
          | first blank' =>
              simp only [List.cons_append, List.append_assoc]
              have step := first (.list :: brackets) blank_nil (rest.ends r)
              rw [skipValue_list (opened _) (dropSpace_blank_cons blank' noSpace _) item]
              exact step.trans (skipAfter_items rest skips brackets r)
  | object members names values ih =>
      intro brackets sp r blank ends
      have opened := dropSpace_blank_cons blank (c := '\x7b') rfl
      cases members with
      | close blank' =>
          simp only [List.cons_append, List.append_assoc]
          exact skipValue_emptyObject (opened _) (dropSpace_blank_cons blank' rfl _)
      | member led before after rest =>
          obtain ⟨name, names⟩ := List.forall_mem_cons.mp names
          obtain ⟨value, skips⟩ := List.forall_mem_cons.mp ih
          cases led with
          | first blank' =>
              simp only [List.cons_append, List.append_assoc]
              have step := skipMember_skips blank_nil name before after value (rest.ends r) brackets
              rw [skipValue_object (opened _) (dropSpace_blank_cons blank' rfl _) (by decide)]
              exact step.trans (skipAfter_members rest names skips brackets r)

theorem skip_of_isValue {sp v r : List Char} (blank : Blank sp) (value : IsValue v)
    (ends : Ends r) : skip (sp ++ (v ++ r)) = .ok r := by
  rw [skip, value.skips [] blank ends, skipAfter_nil]

/-! ## Nothing else is -/

/-- The text goes on behind a value to the end of the brackets open around it. -/
def Closes : List Bracket → List Char → Prop
  | [], w => w = []
  | .list :: outer, w => ∃ vs t u, w = t ++ u ∧ Items false vs t ∧ (∀ v ∈ vs, IsValue v) ∧
      Closes outer u
  | .object :: outer, w => ∃ ms t u, w = t ++ u ∧ Members false ms t ∧ (∀ m ∈ ms, Pieces m.1) ∧
      (∀ m ∈ ms, IsValue m.2) ∧ Closes outer u

/-- What `skipValue` passes over is a value and what closes the brackets. -/
def ValueSound (brackets : List Bracket) (s : List Char) : Prop :=
  ∀ r, skipValue brackets s = .ok r →
    ∃ sp v w, Blank sp ∧ IsValue v ∧ Closes brackets w ∧ s = sp ++ (v ++ (w ++ r))

/-- What `skipMember` passes over is a member and what closes its object and the brackets. -/
def MemberSound (brackets : List Bracket) (s : List Char) : Prop :=
  ∀ r, skipMember brackets s = .ok r →
    ∃ sp n b a v w, Blank sp ∧ Pieces n ∧ Blank b ∧ Blank a ∧ IsValue v ∧
      Closes (.object :: brackets) w ∧
      s = sp ++ '"' :: (n ++ '"' :: (b ++ ':' :: (a ++ (v ++ (w ++ r)))))

/-- What `skipAfter` passes over closes the brackets. -/
def AfterSound (brackets : List Bracket) (s : List Char) : Prop :=
  ∀ r, skipAfter brackets s = .ok r → ∃ w, Closes brackets w ∧ s = w ++ r

/-- A bracket that was opened and closed is a value. -/
theorem ValueSound.of_list {brackets : List Bracket} {s rest after : List Char} {c : Char}
    (first : dropSpace s = '[' :: rest) (second : dropSpace rest = c :: after) (item : c ≠ ']')
    (sound : ValueSound (.list :: brackets) (c :: after)) : ValueSound brackets s := by
  intro r taken
  rw [skipValue_list first second item] at taken
  obtain ⟨sp, v, w, blank, value, ⟨vs, t, u, rfl, items, values, outer⟩, split⟩ := sound r taken
  obtain ⟨-, lead, spaces, rfl⟩ := dropSpace_eq_cons first
  obtain ⟨-, lead', spaces', rfl⟩ := dropSpace_eq_cons second
  rw [split]
  refine ⟨lead, '[' :: ((lead' ++ sp) ++ (v ++ t)), u, spaces, ?_, outer, by simp⟩
  exact .list (.item (.first (spaces'.append blank)) items)
    (List.forall_mem_cons.mpr ⟨value, values⟩)

theorem ValueSound.of_object {brackets : List Bracket} {s rest after : List Char} {c : Char}
    (first : dropSpace s = '\x7b' :: rest) (second : dropSpace rest = c :: after)
    (member : c ≠ '\x7d') (sound : MemberSound brackets (c :: after)) : ValueSound brackets s := by
  intro r taken
  rw [skipValue_object first second member] at taken
  obtain ⟨sp, n, b, a, v, w, blank, name, before, behind, value,
    ⟨ms, t, u, rfl, members, names, values, outer⟩, split⟩ := sound r taken
  obtain ⟨-, lead, spaces, rfl⟩ := dropSpace_eq_cons first
  obtain ⟨-, lead', spaces', rfl⟩ := dropSpace_eq_cons second
  rw [split]
  refine ⟨lead, '\x7b' :: ((lead' ++ sp) ++ '"' :: (n ++ '"' :: (b ++ ':' :: (a ++ (v ++ t))))), u,
    spaces, ?_, outer, by simp⟩
  exact .object (.member (.first (spaces'.append blank)) before behind members)
    (List.forall_mem_cons.mpr ⟨name, names⟩) (List.forall_mem_cons.mpr ⟨value, values⟩)

theorem ValueSound.of_scalar {brackets : List Bracket} {s rest after : List Char} {c : Char}
    (noList : c ≠ '[') (noObject : c ≠ '\x7b') (first : dropSpace s = c :: rest)
    (scalar : skipScalar c rest = .ok after) (sound : AfterSound brackets after) :
    ValueSound brackets s := by
  intro r taken
  rw [skipValue_scalar first noList noObject scalar] at taken
  obtain ⟨w, closes, rfl⟩ := sound r taken
  obtain ⟨v, value, rfl⟩ := isValue_of_skipScalar scalar
  obtain ⟨-, lead, spaces, rfl⟩ := dropSpace_eq_cons first
  exact ⟨lead, c :: v, w, spaces, value, closes, rfl⟩

theorem MemberSound.of_value {brackets : List Bracket} {s rest after value : List Char}
    (first : dropSpace s = '"' :: rest) (name : skipString rest = .ok after)
    (second : dropSpace after = ':' :: value) (sound : ValueSound (.object :: brackets) value) :
    MemberSound brackets s := by
  intro r taken
  rw [skipMember_eq first name second] at taken
  obtain ⟨a, v, w, behind, isValue, closes, rfl⟩ := sound r taken
  obtain ⟨n, pieces, rfl⟩ := skipString_eq_ok_iff.mp name
  obtain ⟨-, lead, spaces, rfl⟩ := dropSpace_eq_cons first
  obtain ⟨-, b, before, rfl⟩ := dropSpace_eq_cons second
  exact ⟨lead, n, b, a, v, w, spaces, pieces, before, behind, isValue, closes, rfl⟩

theorem AfterSound.of_item {outer : List Bracket} {s rest : List Char}
    (first : dropSpace s = ',' :: rest) (sound : ValueSound (.list :: outer) rest) :
    AfterSound (.list :: outer) s := by
  intro r taken
  rw [skipAfter_item first] at taken
  obtain ⟨sp, v, w, blank, value, ⟨vs, t, u, rfl, items, values, closes⟩, rfl⟩ := sound r taken
  obtain ⟨-, lead, spaces, rfl⟩ := dropSpace_eq_cons first
  refine ⟨_, ⟨v :: vs, _, u, rfl, .item (.next spaces blank) items,
    List.forall_mem_cons.mpr ⟨value, values⟩, closes⟩, ?_⟩
  simp

theorem AfterSound.of_member {outer : List Bracket} {s rest : List Char}
    (first : dropSpace s = ',' :: rest) (sound : MemberSound outer rest) :
    AfterSound (.object :: outer) s := by
  intro r taken
  rw [skipAfter_member first] at taken
  obtain ⟨sp, n, b, a, v, w, blank, name, before, behind, value,
    ⟨ms, t, u, rfl, members, names, values, closes⟩, rfl⟩ := sound r taken
  obtain ⟨-, lead, spaces, rfl⟩ := dropSpace_eq_cons first
  refine ⟨_, ⟨(n, v) :: ms, _, u, rfl, .member (.next spaces blank) before behind members,
    List.forall_mem_cons.mpr ⟨name, names⟩, List.forall_mem_cons.mpr ⟨value, values⟩, closes⟩, ?_⟩
  simp

theorem AfterSound.of_close {bracket : Bracket} {outer : List Bracket} {s rest : List Char}
    (first : dropSpace s = bracket.close :: rest) (sound : AfterSound outer rest) :
    AfterSound (bracket :: outer) s := by
  intro r taken
  rw [skipAfter_close first] at taken
  obtain ⟨w, closes, rfl⟩ := sound r taken
  obtain ⟨-, lead, spaces, rfl⟩ := dropSpace_eq_cons first
  cases bracket with
  | list =>
      exact ⟨_, ⟨[], _, w, rfl, .close spaces, List.forall_mem_nil _, closes⟩,
        by simp [Bracket.close]⟩
  | object =>
      exact ⟨_, ⟨[], _, w, rfl, .close spaces, List.forall_mem_nil _, List.forall_mem_nil _,
        closes⟩, by simp [Bracket.close]⟩

theorem of_skipValue {brackets : List Bracket} {s r : List Char}
    (taken : skipValue brackets s = .ok r) :
    ∃ c rest, dropSpace s = c :: rest ∧ ((c = '[' ∨ c = '\x7b') ∧ dropSpace rest ≠ [] ∨
      c ≠ '[' ∧ c ≠ '\x7b' ∧ ∃ after, skipScalar c rest = .ok after) := by
  rw [skipValue] at taken
  split at taken
  · cases taken
  · next rest first =>
      refine ⟨_, rest, first, .inl ⟨.inl rfl, ?_⟩⟩
      intro second
      split at taken <;> simp_all
  · next rest first =>
      refine ⟨_, rest, first, .inl ⟨.inr rfl, ?_⟩⟩
      intro second
      split at taken <;> simp_all
  · next c rest noList noObject first =>
      refine ⟨c, rest, first, .inr ⟨noList, noObject, ?_⟩⟩
      split at taken
      · cases taken
      · next after scalar => exact ⟨after, scalar⟩

theorem of_skipMember {brackets : List Bracket} {s r : List Char}
    (taken : skipMember brackets s = .ok r) :
    ∃ rest after value, dropSpace s = '"' :: rest ∧ skipString rest = .ok after ∧
      dropSpace after = ':' :: value := by
  rw [skipMember] at taken
  split at taken
  · cases taken
  · next rest first =>
      split at taken
      · cases taken
      next after name =>
      split at taken
      · cases taken
      · next value second => exact ⟨rest, after, value, first, name, second⟩
      · cases taken
  · cases taken

theorem of_skipAfter {bracket : Bracket} {outer : List Bracket} {s r : List Char}
    (taken : skipAfter (bracket :: outer) s = .ok r) :
    ∃ c rest, dropSpace s = c :: rest ∧ (c = ',' ∨ c = bracket.close) := by
  rw [skipAfter] at taken
  split at taken
  · cases taken
  next c rest first =>
  refine ⟨c, rest, first, ?_⟩
  by_contra other
  rw [not_or] at other
  simp [other] at taken

/-- The three parts of the loop call each other, so what each takes is shown for all at once. -/
theorem skip_sound :
    (∀ brackets s, ValueSound brackets s) ∧ (∀ brackets s, MemberSound brackets s) ∧
      ∀ brackets s, AfterSound brackets s := by
  apply skipValue.mutual_induct ValueSound MemberSound AfterSound
  case case3 =>
    intro brackets s rest first after second sound r taken
    rw [skipValue_emptyList first second] at taken
    obtain ⟨w, closes, rfl⟩ := sound r taken
    obtain ⟨-, lead, spaces, rfl⟩ := dropSpace_eq_cons first
    obtain ⟨-, lead', spaces', rfl⟩ := dropSpace_eq_cons second
    exact ⟨lead, _, w, spaces, .list (.close spaces') (List.forall_mem_nil _), closes, by simp⟩
  case case4 => exact fun _ _ _ first _ _ second item sound => .of_list first second item sound
  case case6 =>
    intro brackets s rest first after second sound r taken
    rw [skipValue_emptyObject first second] at taken
    obtain ⟨w, closes, rfl⟩ := sound r taken
    obtain ⟨-, lead, spaces, rfl⟩ := dropSpace_eq_cons first
    obtain ⟨-, lead', spaces', rfl⟩ := dropSpace_eq_cons second
    exact ⟨lead, _, w, spaces, .object (.close spaces') (List.forall_mem_nil _)
      (List.forall_mem_nil _), closes, by simp⟩
  case case7 =>
    exact fun _ _ _ first _ _ second member sound => .of_object first second member sound
  case case9 =>
    exact fun _ _ _ _ noList noObject first _ scalar sound =>
      .of_scalar noList noObject first scalar sound
  case case13 => exact fun _ _ _ first _ name _ second sound => .of_value first name second sound
  case case16 =>
    intro s r taken
    rw [skipAfter_nil] at taken
    cases taken
    exact ⟨[], rfl, rfl⟩
  case case18 => exact fun _ _ _ first sound => .of_item first sound
  case case19 => exact fun _ _ _ first sound => .of_member first sound
  case case20 => exact fun _ _ _ _ first _ sound => .of_close first sound
  -- everywhere else the loop has stopped
  case case1 | case2 | case5 | case8 =>
    intros
    intro r taken
    obtain ⟨c, rest, first, opens | scalar⟩ := of_skipValue taken <;> simp_all
  case case10 | case11 | case12 | case14 | case15 =>
    intros
    intro r taken
    obtain ⟨rest, after, value, first, name, second⟩ := of_skipMember taken
    simp_all
  case case17 | case21 =>
    intros
    intro r taken
    obtain ⟨c, rest, first, same⟩ := of_skipAfter taken
    simp_all

theorem isValue_of_skip {s r : List Char} (taken : skip s = .ok r) :
    ∃ sp v, Blank sp ∧ IsValue v ∧ s = sp ++ (v ++ r) := by
  obtain ⟨sp, v, w, blank, value, rfl, rfl⟩ := skip_sound.1 [] s r taken
  exact ⟨sp, v, blank, value, rfl⟩

end StatusIcon.Json
