/-
# StatusIcon.Json.Skip -- passing over a value that nobody asked for

A value that is not wanted must still be JSON, but nothing about it is computed: its numbers may be
out of any range and its escapes need not pair up.  Nesting is no matter either.  The brackets still
open are a list, so passing over a value is one loop along the text:

* `skipValue` stands where a value begins;
* `skipAfter` stands behind a complete value and looks for a comma or a closing bracket;
* `skipMember` stands where the name of a member begins.

Each of them hands on a shorter text.
-/
import StatusIcon.Json.Reader
import StatusIcon.Json.Number

set_option autoImplicit false
set_option linter.unusedVariables false

namespace StatusIcon.Json

/-! ## Values without parts -/

/-- Passes over the rest of a string whose opening quote was taken. -/
def skipString : List Char → Except Fault (List Char)
  | [] => .error (.behind (.unended .string) [])
  | '"' :: rest => .ok rest
  | '\\' :: rest =>
    match rest with
    | [] => .error (.behind (.unended .string) [])
    | c :: after =>
      if c == 'u' then
        match h : hexEscape after with
        | .error e => .error e
        | .ok (_, rest') =>
          have : rest'.length < after.length + 1 + 1 :=
            Nat.lt_succ_of_le (Nat.le_succ_of_le (hexEscape_length_le h))
          skipString rest'
      else if c == '"' || c == '\\' || c == '/' || c == 'b' || c == 'f' || c == 'n' || c == 'r' ||
          c == 't' then skipString after
      else .error ⟨.invalidEscape, byteCount rest - 1⟩
  | c :: rest =>
    if c.toNat < 0x20 then .error (.behind .controlCharacter (c :: rest)) else skipString rest
  termination_by s => s.length

theorem skipString_length_lt {s r : List Char} (h : skipString s = .ok r) :
    r.length < s.length := by
  fun_induction skipString s <;> simp_all <;> omega

/-- Passes over an exponent whose letter was taken. -/
def skipExponent (s : List Char) : Except Fault (List Char) :=
  let s := match s with
    | '+' :: r => r
    | '-' :: r => r
    | r => r
  match s with
  | [] => .error (.behind .invalidNumber [])
  | c :: r => if isDigit c then .ok (r.dropWhile isDigit) else .error (.behind .invalidNumber r)

/-- Passes over a fraction and an exponent, if they are there. -/
def skipFraction : List Char → Except Fault (List Char)
  | '.' :: s =>
    match s with
    | [] => .error (.ahead .invalidNumber [])
    | c :: r =>
      if isDigit c then
        match r.dropWhile isDigit with
        | 'e' :: t => skipExponent t
        | 'E' :: t => skipExponent t
        | t => .ok t
      else .error (.ahead .invalidNumber s)
  | 'e' :: r => skipExponent r
  | 'E' :: r => skipExponent r
  | rest => .ok rest

/-- Passes over a number whose sign, if it has one, was taken. -/
def skipNumber : List Char → Except Fault (List Char)
  | [] => .error (.behind .invalidNumber [])
  | '0' :: rest =>
    match rest with
    | c :: _ => if isDigit c then .error (.ahead .invalidNumber rest) else skipFraction rest
    | [] => .ok []
  | c :: r =>
    if isDigit c then skipFraction (r.dropWhile isDigit) else .error (.behind .invalidNumber r)

theorem length_dropWhile_le {α : Type} (p : α → Bool) (s : List α) :
    (s.dropWhile p).length ≤ s.length :=
  (List.dropWhile_sublist p).length_le

theorem skipExponent_length_le {s r : List Char} (h : skipExponent s = .ok r) :
    r.length ≤ s.length := by
  have digits (c : Char) (t u : List Char) (hu : (c :: t).length ≤ u.length)
      (ht : (if isDigit c then (.ok (t.dropWhile isDigit) : Except Fault (List Char))
        else .error (.behind .invalidNumber t)) = .ok r) : r.length ≤ u.length := by
    split at ht
    · simp only [Except.ok.injEq] at ht
      have := length_dropWhile_le isDigit t
      simp only [List.length_cons] at hu
      rw [← ht]
      omega
    · simp at ht
  unfold skipExponent at h
  split at h
  all_goals
    first
    | (dsimp only at h
       split at h
       · simp at h
       · exact digits _ _ _ (by simp_all) h)

theorem skipFraction_length_le {s r : List Char} (h : skipFraction s = .ok r) :
    r.length ≤ s.length := by
  unfold skipFraction at h
  split at h
  · rename_i t
    split at h
    · simp at h
    · rename_i c u
      have drop := length_dropWhile_le isDigit u
      split at h
      · split at h
        · rename_i v hv
          have := skipExponent_length_le h
          simp only [hv, List.length_cons] at drop ⊢
          omega
        · rename_i v hv
          have := skipExponent_length_le h
          simp only [hv, List.length_cons] at drop ⊢
          omega
        · simp only [Except.ok.injEq] at h
          rw [← h]
          simp only [List.length_cons]
          omega
      · simp at h
  · have := skipExponent_length_le h
    simp only [List.length_cons]
    omega
  · have := skipExponent_length_le h
    simp only [List.length_cons]
    omega
  · simp only [Except.ok.injEq] at h
    subst h
    exact Nat.le_refl _

theorem skipNumber_length_lt {s r : List Char} (h : skipNumber s = .ok r) :
    r.length < s.length := by
  unfold skipNumber at h
  split at h
  · simp at h
  · split at h
    · split at h
      · simp at h
      · exact Nat.lt_succ_of_le (skipFraction_length_le h)
    · simp only [Except.ok.injEq] at h
      simp [← h]
  · rename_i c t _
    split at h
    · have := skipFraction_length_le h
      have := length_dropWhile_le isDigit t
      simp only [List.length_cons]
      omega
    · simp at h

/-! ## Values with parts -/

inductive Bracket where
  | list
  | object
  deriving DecidableEq, Repr

def Bracket.part : Bracket → Part
  | .list => .list
  | .object => .object

def Bracket.close : Bracket → Char
  | .list => ']'
  | .object => '\x7d'

/-- What is wanted between two values of a bracket. -/
def Bracket.between : Bracket → Token
  | .list => .listCommaOrEnd
  | .object => .objectCommaOrEnd

/-- Passes over a value without parts, whose first character is given. -/
def skipScalar (c : Char) (rest : List Char) : Except Fault (List Char) :=
  if c == 'n' then dropName ['u', 'l', 'l'] rest
  else if c == 't' then dropName ['r', 'u', 'e'] rest
  else if c == 'f' then dropName ['a', 'l', 's', 'e'] rest
  else if c == '-' then skipNumber rest
  else if isDigit c then skipNumber (c :: rest)
  else if c == '"' then skipString rest
  else .error (.ahead (.expected .value) (c :: rest))

theorem skipScalar_length_le {c : Char} {s r : List Char} (h : skipScalar c s = .ok r) :
    r.length ≤ s.length := by
  unfold skipScalar at h
  split at h
  · exact dropName_length_le h
  split at h
  · exact dropName_length_le h
  split at h
  · exact dropName_length_le h
  split at h
  · exact Nat.le_of_lt (skipNumber_length_lt h)
  split at h
  · exact Nat.le_of_lt_succ (skipNumber_length_lt h)
  split at h
  · exact Nat.le_of_lt (skipString_length_lt h)
  · simp at h

mutual

/-- Passes over a value and everything up to the end of the brackets open around it. -/
def skipValue (brackets : List Bracket) (s : List Char) : Except Fault (List Char) :=
  match hs : dropSpace s with
  | [] => .error (.ahead (.unended .value) [])
  | '[' :: rest =>
    match ht : dropSpace rest with
    | [] => .error (.ahead (.unended .list) [])
    | c :: after =>
      if c = ']' then skipAfter brackets after else skipValue (.list :: brackets) (c :: after)
  | '\x7b' :: rest =>
    match ht : dropSpace rest with
    | [] => .error (.ahead (.unended .object) [])
    | c :: after =>
      if c = '\x7d' then skipAfter brackets after else skipMember brackets (c :: after)
  | c :: rest =>
    match hr : skipScalar c rest with
    | .error e => .error e
    | .ok after => skipAfter brackets after
  termination_by s.length
  decreasing_by
    all_goals
      have outer := length_dropSpace_le s
      rw [hs] at outer
      first
      | (have inner := length_dropSpace_le rest
         rw [ht] at inner
         simp only [List.length_cons] at *
         omega)
      | (have inner := skipScalar_length_le hr
         simp only [List.length_cons] at *
         omega)

/-- Passes over what follows a value, up to the end of the brackets open around it. -/
def skipAfter (brackets : List Bracket) (s : List Char) : Except Fault (List Char) :=
  match brackets with
  | [] => .ok s
  | bracket :: outer =>
    match hs : dropSpace s with
    | [] => .error (.ahead (.unended bracket.part) [])
    | c :: rest =>
      if c = ',' then
        match bracket with
        | .list => skipValue (.list :: outer) rest
        | .object => skipMember outer rest
      else if c = bracket.close then skipAfter outer rest
      else .error (.ahead (.expected bracket.between) (c :: rest))
  termination_by s.length
  decreasing_by
    all_goals
      have outer := length_dropSpace_le s
      rw [hs] at outer
      simp only [List.length_cons] at *
      omega

/-- Passes over a member and everything up to the end of its object and the brackets around it. -/
def skipMember (brackets : List Bracket) (s : List Char) : Except Fault (List Char) :=
  match hs : dropSpace s with
  | [] => .error (.ahead (.unended .object) [])
  | '"' :: rest =>
    match hr : skipString rest with
    | .error e => .error e
    | .ok after =>
      match ht : dropSpace after with
      | [] => .error (.ahead (.unended .object) [])
      | ':' :: value => skipValue (.object :: brackets) value
      | other => .error (.ahead (.expected .colon) other)
  | other => .error (.ahead .keyNotString other)
  termination_by s.length
  decreasing_by
    have outer := length_dropSpace_le s
    rw [hs] at outer
    have name := skipString_length_lt hr
    have inner := length_dropSpace_le after
    rw [ht] at inner
    simp only [List.length_cons] at *
    omega

end

/-- Passes over one value. -/
def skip (s : List Char) : Except Fault (List Char) := skipValue [] s

end StatusIcon.Json
