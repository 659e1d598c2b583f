/-
# StatusIcon.Deflate.Huffman -- canonical codes

A canonical code is given by the length of each symbol's code alone.  Codes of one length are
consecutive numbers in the order of their symbols, and the first code of a length follows, with a
zero appended, the last code of the length below.  So all that is kept is one list of symbols for
each length, and a code read so far is looked up by its distance from the first code of its length.

A code is *complete* when every sequence of bits begins with one of its codes
(`Code.unused lengths = some 0`).
-/
import StatusIcon.Deflate.Bits

set_option autoImplicit false

namespace StatusIcon.Deflate

/-- The symbols with codes of one bit, of two bits, and so on, in increasing order. -/
abbrev Code := List (Array Nat)

namespace Code

/-- The longest code has fifteen bits. -/
def longest : Nat := 15

/-- The symbols whose code has `length` bits. -/
def level (lengths : List Nat) (length : Nat) : Array Nat :=
  ((lengths.zipIdx.filter fun p => p.1 == length).map fun p => p.2).toArray

def ofLengths (lengths : List Nat) : Code :=
  (List.range longest).map fun i => level lengths (i + 1)

/-- How many sequences of fifteen bits begin with no code, or `none` where the lengths ask for more
codes than there are. -/
def unused (lengths : List Nat) : Option Nat :=
  let taken := (lengths.filter (· ≠ 0)).foldl (fun taken l => taken + Nat.pow 2 (longest - l)) 0
  if taken ≤ Nat.pow 2 longest then some (Nat.pow 2 longest - taken) else none

def isComplete (lengths : List Nat) : Bool := unused lengths == some 0

/-- A code for distances may also be empty or have a single code, of one bit. -/
def isDistanceCode (lengths : List Nat) : Bool :=
  let used := lengths.filter (· ≠ 0)
  used == [] || used == [1] || isComplete lengths

/-- What comes of looking for the next symbol. -/
inductive Lookup where
  | symbol (n : Nat) (rest : Bits)
  | short
  | corrupt

/-- The next symbol.  The bits read so far are the number `code`, the first code of this length is
`first`. -/
def lookupFrom : Code → Nat → Nat → Bits → Lookup
  | [], _, _, _ => .corrupt
  | symbols :: longer, code, first, s =>
    match s.next? with
    | none => .short
    | some (bit, s) =>
      let code := 2 * code + bit
      match symbols[code - first]? with
      | some n => .symbol n s
      | none => lookupFrom longer code (2 * (first + symbols.size)) s

def lookup (c : Code) (s : Bits) : Lookup := lookupFrom c 0 0 s

end Code

end StatusIcon.Deflate
