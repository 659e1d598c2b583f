/-
# StatusIcon.Proofs.Json.Grammar -- what JSON texts are

The texts of JSON, told without reading them: each rule says how a text is put together, and none
says in which order it is looked at.

* A *string* is read in one of two ways.  `Body` says which characters a text between two quotes
  stands for; there, the escape of a surrogate must be one half of a pair.  `Pieces` asks for no
  meaning and lets any four digits stand.
* `Items` and `Members` are the insides of lists and objects, cut into the texts of their parts;
  what these parts have to be is asked of each of them apart.
* `IsValue` is any value of JSON.
-/
import Mathlib.Tactic.Common
import StatusIcon.Json.Skip

set_option autoImplicit false

namespace StatusIcon.Json.Grammar

/-- Nothing but spaces. -/
def Blank (s : List Char) : Prop := ∀ c ∈ s, isSpace c = true

/-- What may come right behind a value: nothing, a space, a comma or a closing bracket. -/
def Ends (s : List Char) : Prop :=
  ∀ c ∈ s.head?, isSpace c = true ∨ c = ',' ∨ c = ']' ∨ c = '\x7d'

theorem blank_nil : Blank [] := nofun

theorem Blank.cons {c : Char} {s : List Char} (space : isSpace c = true) (blank : Blank s) :
    Blank (c :: s) :=
  List.forall_mem_cons.mpr ⟨space, blank⟩

theorem Blank.append {s t : List Char} (first : Blank s) (second : Blank t) : Blank (s ++ t) :=
  List.forall_mem_append.mpr ⟨first, second⟩

theorem ends_nil : Ends [] := nofun

theorem ends_cons {c : Char} {s : List Char}
    (stop : isSpace c = true ∨ c = ',' ∨ c = ']' ∨ c = '\x7d') : Ends (c :: s) := by
  intro d head
  obtain rfl := Option.some.inj head
  exact stop

theorem Blank.ends {s t : List Char} (blank : Blank s) (next : Ends t) : Ends (s ++ t) := by
  cases s with
  | nil => exact next
  | cons c s => exact ends_cons (.inl (blank c List.mem_cons_self))

/-! ## Strings -/

/-- The letters and signs that may stand behind a backslash, and what they stand for there. -/
def letters : List (Char × Char) :=
  [('"', '"'), ('\\', '\\'), ('/', '/'), ('b', '\x08'), ('f', '\x0c'), ('n', '\n'), ('r', '\r'),
    ('t', '\t')]

/-- Four hexadecimal digits and their value. -/
inductive Hex : List Char → Nat → Prop where
  | digits {a b c d : Char} {i j k l : Nat} (first : hexDigit? a = some i)
      (second : hexDigit? b = some j) (third : hexDigit? c = some k)
      (fourth : hexDigit? d = some l) : Hex [a, b, c, d] (((i * 16 + j) * 16 + k) * 16 + l)

/-- One character of a string, as it is written between the quotes. -/
inductive Written : List Char → Char → Prop where
  | plain {c : Char} (printed : 0x20 ≤ c.toNat) (noQuote : c ≠ '"') (noBackslash : c ≠ '\\') :
      Written [c] c
  | letter {l c : Char} (known : (l, c) ∈ letters) : Written ['\\', l] c
  | unicode {digits : List Char} {n : Nat} (hex : Hex digits n)
      (single : n < 0xD800 ∨ 0xDFFF < n) : Written ('\\' :: 'u' :: digits) (Char.ofNat n)
  | pair {digits digits' : List Char} {lead trail : Nat} (first : Hex digits lead)
      (second : Hex digits' trail) (leads : 0xD800 ≤ lead ∧ lead ≤ 0xDBFF)
      (trails : 0xDC00 ≤ trail ∧ trail ≤ 0xDFFF) :
      Written ('\\' :: 'u' :: (digits ++ '\\' :: 'u' :: digits'))
        (Char.ofNat (0x10000 + (lead - 0xD800) * 0x400 + (trail - 0xDC00)))

/-- The characters of a string, as they are written between the quotes. -/
inductive Body : List Char → List Char → Prop where
  | nil : Body [] []
  | cons {w ws cs : List Char} {c : Char} (first : Written w c) (rest : Body ws cs) :
      Body (w ++ ws) (c :: cs)

/-- A character or an escape, whatever it stands for. -/
inductive Piece : List Char → Prop where
  | plain {c : Char} (printed : 0x20 ≤ c.toNat) (noQuote : c ≠ '"') (noBackslash : c ≠ '\\') :
      Piece [c]
  | letter {l c : Char} (known : (l, c) ∈ letters) : Piece ['\\', l]
  | unicode {digits : List Char} {n : Nat} (hex : Hex digits n) : Piece ('\\' :: 'u' :: digits)

/-- What stands between the quotes of a string nobody reads. -/
inductive Pieces : List Char → Prop where
  | nil : Pieces []
  | cons {w ws : List Char} (first : Piece w) (rest : Pieces ws) : Pieces (w ++ ws)

theorem Body.pieces {w cs : List Char} (body : Body w cs) : Pieces w := by
  induction body with
  | nil => exact .nil
  | cons first rest ih =>
      cases first with
      | plain printed noQuote noBackslash => exact .cons (.plain printed noQuote noBackslash) ih
      | letter known => exact .cons (.letter known) ih
      | unicode hex single => exact .cons (.unicode hex) ih
      | pair first second leads trails =>
          simpa using Pieces.cons (.unicode first) (.cons (.unicode second) ih)

/-! ## Numbers -/

def Digits (s : List Char) : Prop := s ≠ [] ∧ ∀ c ∈ s, isDigit c = true

instance (s : List Char) : Decidable (Digits s) :=
  decidable_of_iff (s ≠ [] ∧ s.all isDigit = true) (and_congr_right' List.all_eq_true)

/-- Digits, of which the first is zero only if it is the only one. -/
inductive Whole : List Char → Prop where
  | zero : Whole ['0']
  | digits {c : Char} {s : List Char} (leading : c ≠ '0') (digits : Digits (c :: s)) :
      Whole (c :: s)

inductive Fraction : List Char → Prop where
  | none : Fraction []
  | point {s : List Char} (digits : Digits s) : Fraction ('.' :: s)

inductive Exponent : List Char → Prop where
  | none : Exponent []
  | power {e : Char} {sign s : List Char} (letter : e = 'e' ∨ e = 'E')
      (signed : sign = [] ∨ sign = ['+'] ∨ sign = ['-']) (digits : Digits s) :
      Exponent (e :: (sign ++ s))

/-- A number without its sign. -/
inductive Unsigned : List Char → Prop where
  | parts {w f e : List Char} (whole : Whole w) (fraction : Fraction f) (exponent : Exponent e) :
      Unsigned (w ++ (f ++ e))

/-! ## Lists and objects -/

/-- What stands before an item or a member: spaces and, unless it is the first one, a comma. -/
inductive Lead : Bool → List Char → Prop where
  | first {s : List Char} (blank : Blank s) : Lead true s
  | next {s t : List Char} (before : Blank s) (after : Blank t) : Lead false (s ++ ',' :: t)

theorem Lead.append {first : Bool} {s t : List Char} (lead : Lead first s) (blank : Blank t) :
    Lead first (s ++ t) := by
  cases lead with
  | first spaces => exact .first (spaces.append blank)
  | next before after => simpa using Lead.next before (after.append blank)

theorem Lead.ends {s t : List Char} (lead : Lead false s) : Ends (s ++ t) := by
  cases lead with
  | next before after =>
      rw [List.append_assoc]
      exact before.ends (ends_cons (by decide))

/-- The inside of a list up to its closing bracket, cut into items; it begins here if `first`. -/
inductive Items : Bool → List (List Char) → List Char → Prop where
  | close {first : Bool} {s : List Char} (blank : Blank s) : Items first [] (s ++ [']'])
  | item {first : Bool} {lead v w : List Char} {vs : List (List Char)} (led : Lead first lead)
      (rest : Items false vs w) : Items first (v :: vs) (lead ++ (v ++ w))

/-- The inside of an object up to its closing bracket, cut into what stands between the quotes of
each name and the value behind it; it begins here if `first`. -/
inductive Members : Bool → List (List Char × List Char) → List Char → Prop where
  | close {first : Bool} {s : List Char} (blank : Blank s) : Members first [] (s ++ ['\x7d'])
  | member {first : Bool} {lead n s t v w : List Char} {ms : List (List Char × List Char)}
      (led : Lead first lead) (before : Blank s) (after : Blank t) (rest : Members false ms w) :
      Members first ((n, v) :: ms) (lead ++ '"' :: (n ++ '"' :: (s ++ ':' :: (t ++ (v ++ w)))))

theorem Items.ends {vs : List (List Char)} {w : List Char} (items : Items false vs w)
    (s : List Char) : Ends (w ++ s) := by
  cases items with
  | close blank =>
      rw [List.append_assoc]
      exact blank.ends (ends_cons (by decide))
  | item led rest =>
      rw [List.append_assoc]
      exact led.ends

theorem Members.ends {ms : List (List Char × List Char)} {w : List Char}
    (members : Members false ms w) (s : List Char) : Ends (w ++ s) := by
  cases members with
  | close blank =>
      rw [List.append_assoc]
      exact blank.ends (ends_cons (by decide))
  | member led before after rest =>
      rw [List.append_assoc]
      exact led.ends

/-! ## Values -/

inductive IsValue : List Char → Prop where
  | null : IsValue ['n', 'u', 'l', 'l']
  | true : IsValue ['t', 'r', 'u', 'e']
  | false : IsValue ['f', 'a', 'l', 's', 'e']
  | number {w : List Char} (digits : Unsigned w) : IsValue w
  | negative {w : List Char} (digits : Unsigned w) : IsValue ('-' :: w)
  | string {w : List Char} (pieces : Pieces w) : IsValue ('"' :: (w ++ ['"']))
  | list {vs : List (List Char)} {w : List Char} (items : Items true vs w)
      (values : ∀ v ∈ vs, IsValue v) : IsValue ('[' :: w)
  | object {ms : List (List Char × List Char)} {w : List Char} (members : Members true ms w)
      (names : ∀ m ∈ ms, Pieces m.1) (values : ∀ m ∈ ms, IsValue m.2) : IsValue ('\x7b' :: w)

/-- The character can be the first one of a value. -/
def Begins (c : Char) : Prop := isSpace c = false ∧ c ≠ ']' ∧ c ≠ '\x7d'

theorem begins_of_isDigit {c : Char} (digit : isDigit c = true) : Begins c := by
  refine ⟨?_, ?_, ?_⟩
  · rw [Bool.eq_false_iff]
    intro space
    simp only [isSpace, Bool.or_eq_true, beq_iff_eq] at space
    rcases space with ((rfl | rfl) | rfl) | rfl <;> revert digit <;> decide
  · rintro rfl
    revert digit
    decide
  · rintro rfl
    revert digit
    decide

theorem Whole.head {w : List Char} (whole : Whole w) :
    ∃ c s, w = c :: s ∧ isDigit c = true := by
  cases whole with
  | zero => exact ⟨_, _, rfl, by decide⟩
  | digits leading digits => exact ⟨_, _, rfl, digits.2 _ List.mem_cons_self⟩

theorem IsValue.head {v : List Char} (value : IsValue v) : ∃ c s, v = c :: s ∧ Begins c := by
  cases value with
  | number digits =>
      obtain ⟨whole, fraction, exponent⟩ := digits
      obtain ⟨c, s, rfl, digit⟩ := whole.head
      exact ⟨c, _, rfl, begins_of_isDigit digit⟩
  | _ => exact ⟨_, _, rfl, by unfold Begins; decide⟩

end StatusIcon.Json.Grammar
