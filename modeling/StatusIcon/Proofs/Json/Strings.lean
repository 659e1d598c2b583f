/-
# StatusIcon.Proofs.Json.Strings -- spaces and strings, as they are read

The readers of strings take exactly what the grammar calls a string.  `string` answers with what its
characters stand for (`string_eq_ok_iff`), and `skipString`, for strings nobody wants, accepts more
of them (`skipString_eq_ok_iff`).
-/
import Mathlib.Data.List.TakeWhile
import StatusIcon.Proofs.Json.Grammar

set_option autoImplicit false

namespace StatusIcon.Json

open Grammar

/-! ## Spaces -/

theorem dropSpace_append {s : List Char} (blank : Blank s) (t : List Char) :
    dropSpace (s ++ t) = dropSpace t := by
  induction s with
  | nil => rfl
  | cons c s ih =>
      obtain ⟨space, blank⟩ := List.forall_mem_cons.mp blank
      rw [List.cons_append, dropSpace, List.dropWhile_cons_of_pos space]
      exact ih blank

theorem dropSpace_cons {c : Char} (noSpace : isSpace c = false) (s : List Char) :
    dropSpace (c :: s) = c :: s :=
  List.dropWhile_cons_of_neg (by simp [noSpace])

theorem dropSpace_blank {s : List Char} (blank : Blank s) : dropSpace s = [] := by
  have dropped := dropSpace_append blank []
  rwa [List.append_nil] at dropped

/-- Only spaces are dropped. -/
theorem exists_blank (s : List Char) : ∃ t, Blank t ∧ s = t ++ dropSpace s :=
  ⟨s.takeWhile isSpace, fun _ member => List.mem_takeWhile_imp member,
    List.takeWhile_append_dropWhile.symm⟩

theorem dropSpace_eq_cons {s t : List Char} {c : Char} (dropped : dropSpace s = c :: t) :
    isSpace c = false ∧ ∃ sp, Blank sp ∧ s = sp ++ c :: t := by
  obtain ⟨sp, blank, split⟩ := exists_blank s
  refine ⟨?_, sp, blank, dropped ▸ split⟩
  have stop := List.head?_dropWhile_not isSpace s
  rw [show s.dropWhile isSpace = c :: t from dropped] at stop
  simpa using stop

theorem dropSpace_eq_nil {s : List Char} (dropped : dropSpace s = []) : Blank s := by
  obtain ⟨sp, blank, split⟩ := exists_blank s
  rw [dropped, List.append_nil] at split
  exact split ▸ blank

/-! ## Escapes -/

theorem hexEscape_eq_ok_iff {s r : List Char} {n : Nat} :
    hexEscape s = .ok (n, r) ↔ ∃ digits, Hex digits n ∧ s = digits ++ r := by
  constructor
  · intro read
    unfold hexEscape at read
    split at read
    · split at read
      · next first second third fourth =>
          cases read
          exact ⟨_, .digits first second third fourth, rfl⟩
      · cases read
    · split at read <;> cases read
  · rintro ⟨digits, ⟨first, second, third, fourth⟩, rfl⟩
    simp [hexEscape, first, second, third, fourth]

theorem written_of_unicodeEscape {s r : List Char} {c : Char}
    (read : unicodeEscape s = .ok (c, r)) : ∃ w, Written ('\\' :: 'u' :: w) c ∧ s = w ++ r := by
  unfold unicodeEscape at read
  split at read
  · cases read
  next lead rest first =>
  obtain ⟨digits, hex, rfl⟩ := hexEscape_eq_ok_iff.mp first
  split at read
  · cases read
  next noTrail =>
  simp only [Bool.and_eq_true, decide_eq_true_eq] at noTrail
  split at read
  · next noLead =>
      cases read
      simp only [Bool.or_eq_true, decide_eq_true_eq] at noLead
      exact ⟨digits, .unicode hex (by omega), rfl⟩
  next leads =>
  split at read
  · cases read
  · cases read
  · -- a leading surrogate goes on with the escape of a trailing one
    split at read
    · cases read
    next trail rest second =>
    obtain ⟨digits', hex', rfl⟩ := hexEscape_eq_ok_iff.mp second
    split at read
    · cases read
    next trails =>
    simp only [Bool.or_eq_true, decide_eq_true_eq, not_or, not_lt] at leads trails
    obtain ⟨rfl, rfl⟩ := Prod.mk.inj (Except.ok.inj read)
    exact ⟨_, .pair hex hex' leads trails, by simp⟩
  · cases read
  · cases read

theorem written_of_escape {s r : List Char} {c : Char} (read : escape s = .ok (c, r)) :
    ∃ w, Written ('\\' :: w) c ∧ s = w ++ r := by
  unfold escape at read
  split at read
  case h_1 | h_11 => cases read
  case h_2 rest =>
    obtain ⟨w, written, rfl⟩ := written_of_unicodeEscape read
    exact ⟨'u' :: w, written, rfl⟩
  all_goals
    cases read
    exact ⟨[_], .letter (by simp [letters]), rfl⟩

theorem escape_of_written {w : List Char} {c : Char} (written : Written ('\\' :: w) c)
    (r : List Char) : escape (w ++ r) = .ok (c, r) := by
  cases written with
  | plain printed noQuote noBackslash => exact absurd rfl noBackslash
  | letter known =>
      simp only [letters, List.mem_cons, Prod.mk.injEq, List.not_mem_nil, or_false] at known
      rcases known with ⟨rfl, rfl⟩ | ⟨rfl, rfl⟩ | ⟨rfl, rfl⟩ | ⟨rfl, rfl⟩ | ⟨rfl, rfl⟩ |
        ⟨rfl, rfl⟩ | ⟨rfl, rfl⟩ | ⟨rfl, rfl⟩ <;> rfl
  | @unicode digits n hex single =>
      have read : hexEscape (digits ++ r) = .ok (n, r) := hexEscape_eq_ok_iff.mpr ⟨_, hex, rfl⟩
      have noTrail : (0xDC00 ≤ n && n ≤ 0xDFFF) = false := by
        rw [Bool.and_eq_false_iff, decide_eq_false_iff_not, decide_eq_false_iff_not]
        omega
      have noLead : (n < 0xD800 || 0xDBFF < n) = true := by
        rw [Bool.or_eq_true, decide_eq_true_eq, decide_eq_true_eq]
        omega
      simp only [List.cons_append, escape, unicodeEscape, read, noTrail, noLead,
        Bool.false_eq_true, reduceIte]
  | @pair digits digits' lead trail first second leads trails =>
      have read : hexEscape (digits ++ '\\' :: 'u' :: digits' ++ r) =
          .ok (lead, '\\' :: 'u' :: (digits' ++ r)) :=
        hexEscape_eq_ok_iff.mpr ⟨_, first, by simp⟩
      have read' : hexEscape (digits' ++ r) = .ok (trail, r) :=
        hexEscape_eq_ok_iff.mpr ⟨_, second, rfl⟩
      have noTrail : (0xDC00 ≤ lead && lead ≤ 0xDFFF) = false := by
        rw [Bool.and_eq_false_iff, decide_eq_false_iff_not, decide_eq_false_iff_not]
        omega
      have isLead : (lead < 0xD800 || 0xDBFF < lead) = false := by
        rw [Bool.or_eq_false_iff, decide_eq_false_iff_not, decide_eq_false_iff_not]
        omega
      have isTrail : (trail < 0xDC00 || 0xDFFF < trail) = false := by
        rw [Bool.or_eq_false_iff, decide_eq_false_iff_not, decide_eq_false_iff_not]
        omega
      simp only [List.cons_append, escape, unicodeEscape, read, read', noTrail, isLead, isTrail,
        Bool.false_eq_true, reduceIte]

/-! ## Strings -/

theorem stringFrom_plain {c : Char} (printed : 0x20 ≤ c.toNat) (noQuote : c ≠ '"')
    (noBackslash : c ≠ '\\') (read s : List Char) :
    stringFrom read (c :: s) = stringFrom (c :: read) s := by
  rw [stringFrom.eq_4 _ _ _ noQuote noBackslash, if_neg (Nat.not_lt.mpr printed)]

theorem stringFrom_escape {c : Char} {s r : List Char} (escaped : escape s = .ok (c, r))
    (read : List Char) : stringFrom read ('\\' :: s) = stringFrom (c :: read) r := by
  rw [stringFrom]
  split
  · next failed =>
      rw [escaped] at failed
      cases failed
  · next found =>
      rw [escaped] at found
      cases found
      rfl

theorem stringFrom_body {w cs : List Char} (body : Body w cs) (read r : List Char) :
    stringFrom read (w ++ '"' :: r) = .ok (String.ofList (read.reverse ++ cs), r) := by
  induction body generalizing read with
  | nil => simp [stringFrom]
  | @cons w ws cs c first rest ih =>
      have step : stringFrom read (w ++ (ws ++ '"' :: r)) =
          stringFrom (c :: read) (ws ++ '"' :: r) := by
        cases first with
        | plain printed noQuote noBackslash =>
            exact stringFrom_plain printed noQuote noBackslash _ _
        | letter known => exact stringFrom_escape (escape_of_written (.letter known) _) _
        | unicode hex single =>
            exact stringFrom_escape (escape_of_written (.unicode hex single) _) _
        | pair first second leads trails =>
            exact stringFrom_escape (escape_of_written (.pair first second leads trails) _) _
      rw [List.append_assoc, step, ih]
      simp

theorem body_of_stringFrom {read s r : List Char} {text : String}
    (taken : stringFrom read s = .ok (text, r)) :
    ∃ w cs, s = w ++ '"' :: r ∧ Body w cs ∧ text = String.ofList (read.reverse ++ cs) := by
  fun_induction stringFrom read s with
  | case1 => cases taken
  | case2 read rest =>
      cases taken
      exact ⟨[], [], rfl, .nil, by simp⟩
  | case3 => cases taken
  | case4 read rest c rest' escaped shorter ih =>
      obtain ⟨w, cs, rfl, body, rfl⟩ := ih taken
      obtain ⟨v, written, rfl⟩ := written_of_escape escaped
      exact ⟨'\\' :: v ++ w, c :: cs, by simp, .cons written body, by simp⟩
  | case5 => cases taken
  | case6 read c rest noQuote noBackslash printed ih =>
      obtain ⟨w, cs, rfl, body, rfl⟩ := ih taken
      exact ⟨[c] ++ w, c :: cs, rfl, .cons (.plain (by omega) noQuote noBackslash) body, by simp⟩

/-- A string is read as what its characters stand for. -/
theorem string_eq_ok_iff {s r : List Char} {text : String} :
    string s = .ok (text, r) ↔ ∃ w, Body w text.toList ∧ s = w ++ '"' :: r := by
  constructor
  · intro taken
    obtain ⟨w, cs, rfl, body, rfl⟩ := body_of_stringFrom taken
    exact ⟨w, by simpa using body, rfl⟩
  · rintro ⟨w, body, rfl⟩
    rw [string, stringFrom_body body]
    simp

/-! ## Strings nobody wants -/

theorem skipString_piece {w : List Char} (piece : Piece w) (s : List Char) :
    skipString (w ++ s) = skipString s := by
  cases piece with
  | @plain c printed noQuote noBackslash =>
      rw [List.singleton_append, skipString.eq_5 _ _ noQuote noBackslash,
        if_neg (Nat.not_lt.mpr printed)]
  | letter known =>
      simp only [letters, List.mem_cons, Prod.mk.injEq, List.not_mem_nil, or_false] at known
      rcases known with ⟨rfl, -⟩ | ⟨rfl, -⟩ | ⟨rfl, -⟩ | ⟨rfl, -⟩ | ⟨rfl, -⟩ | ⟨rfl, -⟩ |
        ⟨rfl, -⟩ | ⟨rfl, -⟩ <;> simp [skipString]
  | @unicode digits n hex =>
      have read : hexEscape (digits ++ s) = .ok (n, s) := hexEscape_eq_ok_iff.mpr ⟨_, hex, rfl⟩
      rw [List.cons_append, List.cons_append, skipString]
      simp only [beq_self_eq_true, reduceIte]
      split
      · next failed =>
          rw [read] at failed
          cases failed
      · next found =>
          rw [read] at found
          cases found
          rfl

theorem skipString_pieces {w : List Char} (pieces : Pieces w) (r : List Char) :
    skipString (w ++ '"' :: r) = .ok r := by
  induction pieces with
  | nil => simp [skipString]
  | cons first rest ih => rw [List.append_assoc, skipString_piece first, ih]

/-- A string nobody wants is passed over if its escapes are well-formed. -/
theorem skipString_eq_ok_iff {s r : List Char} :
    skipString s = .ok r ↔ ∃ w, Pieces w ∧ s = w ++ '"' :: r := by
  constructor
  · intro taken
    fun_induction skipString s with
    | case1 => cases taken
    | case2 rest =>
        cases taken
        exact ⟨[], .nil, rfl⟩
    | case3 => cases taken
    | case4 => cases taken
    | case5 c after unicode n rest' read shorter ih =>
        obtain ⟨w, pieces, rfl⟩ := ih taken
        obtain ⟨digits, hex, rfl⟩ := hexEscape_eq_ok_iff.mp read
        obtain rfl := eq_of_beq unicode
        exact ⟨'\\' :: 'u' :: digits ++ w, .cons (.unicode hex) pieces, by simp⟩
    | case6 c after notUnicode letter ih =>
        obtain ⟨w, pieces, rfl⟩ := ih taken
        have known : ∃ d, (c, d) ∈ letters := by
          simp only [Bool.or_eq_true, beq_iff_eq] at letter
          rcases letter with ((((((rfl | rfl) | rfl) | rfl) | rfl) | rfl) | rfl) | rfl <;>
            simp [letters]
        obtain ⟨d, known⟩ := known
        exact ⟨['\\', c] ++ w, .cons (.letter known) pieces, rfl⟩
    | case7 => cases taken
    | case8 => cases taken
    | case9 c rest noQuote noBackslash printed ih =>
        obtain ⟨w, pieces, rfl⟩ := ih taken
        exact ⟨[c] ++ w, .cons (.plain (by omega) noQuote noBackslash) pieces, rfl⟩
  · rintro ⟨w, pieces, rfl⟩
    exact skipString_pieces pieces r

end StatusIcon.Json
