/-
# StatusIcon.Json.Reader -- spaces, names, strings

A reader takes the characters that are left and answers with a value and what is left after it, or
with a `Fault`: a cause and the number of bytes not yet passed when it was noticed.  Only `parse`,
which knows the whole text, turns that number into a position.

A fault is noticed in one of two ways.  Either the offending characters were taken (`Fault.behind`),
or the reader only looked at the next byte and left it (`Fault.ahead`); the second reports a place
one byte further than what was taken, as far as the text goes.

Strings are read character by character.  After a backslash stands a letter or sign, or `u` and four
hexadecimal digits; a leading surrogate must be followed at once by the escape of a trailing one,
and the two make one character.  Nothing below U+0020 may stand for itself.
-/
import StatusIcon.Json.Error

set_option autoImplicit false

namespace StatusIcon.Json

/-- The number of bytes a text takes. -/
def byteCount (s : List Char) : Nat := s.foldl (fun count c => count + c.utf8Size) 0

structure Fault where
  cause : Cause
  left : Nat
  deriving DecidableEq, Repr

namespace Fault

/-- Noticed after everything before `rest` was taken. -/
def behind (cause : Cause) (rest : List Char) : Fault := ⟨cause, byteCount rest⟩

/-- Noticed by looking at the first byte of `rest`, or at the end of the text. -/
def ahead (cause : Cause) (rest : List Char) : Fault := ⟨cause, byteCount rest - 1⟩

end Fault

abbrev Result (α : Type) := Except Fault (α × List Char)

/-! ## Spaces and names -/

def isSpace (c : Char) : Bool := c == ' ' || c == '\n' || c == '\t' || c == '\r'

def dropSpace (s : List Char) : List Char := s.dropWhile isSpace

theorem length_dropSpace_le (s : List Char) : (dropSpace s).length ≤ s.length := by
  induction s with
  | nil => exact Nat.le_refl _
  | cons c s ih =>
    simp only [dropSpace, List.dropWhile_cons]
    split
    · exact Nat.le_trans ih (Nat.le_succ _)
    · exact Nat.le_refl _

/-- Takes the characters of `name`, one after the other. -/
def dropName : List Char → List Char → Except Fault (List Char)
  | [], s => .ok s
  | _ :: _, [] => .error (.behind (.unended .value) [])
  | n :: name, c :: s => if c = n then dropName name s else .error (.behind (.expected .ident) s)

theorem dropName_length_le {name s r : List Char} (h : dropName name s = .ok r) :
    r.length ≤ s.length := by
  induction name generalizing s with
  | nil => simp only [dropName, Except.ok.injEq] at h; simp [h]
  | cons n name ih =>
    cases s with
    | nil => simp [dropName] at h
    | cons c s =>
      simp only [dropName] at h
      split at h
      · exact Nat.le_trans (ih h) (Nat.le_succ _)
      · simp at h

/-! ## Escapes -/

def hexDigit? (c : Char) : Option Nat :=
  let n := c.toNat
  if 48 ≤ n && n ≤ 57 then some (n - 48)
  else if 65 ≤ n && n ≤ 70 then some (n - 55)
  else if 97 ≤ n && n ≤ 102 then some (n - 87)
  else none

/-- The value of the next four bytes as hexadecimal digits.  Where fewer are left the string has no
end; where some are no digits, all four count as taken. -/
def hexEscape (s : List Char) : Result Nat :=
  match s with
  | a :: b :: c :: d :: rest =>
    match hexDigit? a, hexDigit? b, hexDigit? c, hexDigit? d with
    | some a, some b, some c, some d => .ok (((a * 16 + b) * 16 + c) * 16 + d, rest)
    | _, _, _, _ => .error ⟨.invalidEscape, byteCount s - 4⟩
  | _ =>
    if byteCount s < 4 then .error (.behind (.unended .string) [])
    else .error ⟨.invalidEscape, byteCount s - 4⟩

/-- What follows the `u` of an escape: four digits, or eight and the second escape's start. -/
def unicodeEscape (s : List Char) : Result Char :=
  match hexEscape s with
  | .error e => .error e
  | .ok (lead, rest) =>
    if 0xDC00 ≤ lead && lead ≤ 0xDFFF then .error (.behind .loneSurrogate rest)
    else if lead < 0xD800 || 0xDBFF < lead then .ok (Char.ofNat lead, rest)
    else
      match rest with
      | [] => .error (.behind (.unended .string) [])
      | ['\\'] => .error (.behind (.unended .string) [])
      | '\\' :: 'u' :: after =>
        match hexEscape after with
        | .error e => .error e
        | .ok (trail, rest) =>
          if trail < 0xDC00 || 0xDFFF < trail then .error (.behind .loneSurrogate rest)
          else .ok (Char.ofNat (0x10000 + (lead - 0xD800) * 0x400 + (trail - 0xDC00)), rest)
      | '\\' :: other => .error ⟨.unendedSurrogatePair, byteCount other - 1⟩
      | other => .error ⟨.unendedSurrogatePair, byteCount other - 1⟩

/-- What follows a backslash. -/
def escape : List Char → Result Char
  | [] => .error (.behind (.unended .string) [])
  | 'u' :: rest => unicodeEscape rest
  | '"' :: rest => .ok ('"', rest)
  | '\\' :: rest => .ok ('\\', rest)
  | '/' :: rest => .ok ('/', rest)
  | 'b' :: rest => .ok ('\x08', rest)
  | 'f' :: rest => .ok ('\x0c', rest)
  | 'n' :: rest => .ok ('\n', rest)
  | 'r' :: rest => .ok ('\r', rest)
  | 't' :: rest => .ok ('\t', rest)
  | s => .error ⟨.invalidEscape, byteCount s - 1⟩

theorem hexEscape_length_le {s r : List Char} {n : Nat} (h : hexEscape s = .ok (n, r)) :
    r.length ≤ s.length := by
  unfold hexEscape at h
  split at h
  · split at h
    · simp only [Except.ok.injEq, Prod.mk.injEq] at h
      simp only [← h.2, List.length_cons]
      omega
    · simp at h
  · split at h <;> simp at h

theorem unicodeEscape_length_le {s r : List Char} {c : Char} (h : unicodeEscape s = .ok (c, r)) :
    r.length ≤ s.length := by
  unfold unicodeEscape at h
  split at h
  · simp at h
  · rename_i lead rest hs
    have first := hexEscape_length_le hs
    split at h
    · simp at h
    · split at h
      · simp only [Except.ok.injEq, Prod.mk.injEq] at h
        exact h.2 ▸ first
      · split at h
        · simp at h
        · simp at h
        · split at h
          · simp at h
          · rename_i ht
            have second := hexEscape_length_le ht
            split at h
            · simp at h
            · simp only [Except.ok.injEq, Prod.mk.injEq] at h
              simp only [List.length_cons] at first
              rw [← h.2]
              omega
        · simp at h
        · simp at h

theorem escape_length_le {s r : List Char} {c : Char} (h : escape s = .ok (c, r)) :
    r.length ≤ s.length := by
  unfold escape at h
  split at h
  case h_2 => exact Nat.le_trans (unicodeEscape_length_le h) (Nat.le_succ _)
  all_goals first
    | (simp only [Except.ok.injEq, Prod.mk.injEq] at h
       rw [← h.2]
       exact Nat.le_succ _)
    | simp at h

/-! ## Strings -/

/-- The characters up to the closing quote, after those already read (latest first). -/
def stringFrom (read : List Char) : List Char → Result String
  | [] => .error (.behind (.unended .string) [])
  | '"' :: rest => .ok (String.ofList read.reverse, rest)
  | '\\' :: rest =>
    match h : escape rest with
    | .error e => .error e
    | .ok (c, rest') =>
      have : rest'.length < rest.length + 1 := Nat.lt_succ_of_le (escape_length_le h)
      stringFrom (c :: read) rest'
  | c :: rest =>
    if c.toNat < 0x20 then .error (.behind .controlCharacter rest) else stringFrom (c :: read) rest
  termination_by s => s.length

/-- The string whose opening quote was just taken. -/
def string (s : List Char) : Result String := stringFrom [] s

/-! ## Whole texts -/

/-- Reads one value and nothing after it but spaces. -/
def parse {α : Type} (read : List Char → Result α) (text : String) : Except Error α :=
  let s := text.toList
  let placed (f : Fault) : Error := ⟨f.cause, .after s (byteCount s - f.left)⟩
  match read s with
  | .error f => .error (placed f)
  | .ok (value, rest) =>
    match dropSpace rest with
    | [] => .ok value
    | more => .error (placed (.ahead .trailingCharacters more))

end StatusIcon.Json
