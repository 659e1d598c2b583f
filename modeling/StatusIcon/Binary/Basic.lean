/-
# StatusIcon.Binary.Basic -- binary floating-point numbers by their place in the order

A binary format has finitely many magnitudes.  Numbered in increasing order they are *codes*: code
`0` is zero, code `1` the least positive magnitude, and `Format.infinity` the first code past the
finite ones.  A number is a sign and a code, or not a number, so two numbers are the same exactly
when they are equal, and there is one not-a-number.

Every finite magnitude is a whole multiple of the least positive one.  `Format.units` says which
multiple a code stands for, so all arithmetic is arithmetic on naturals:

* up to `2 ^ (fractionBits + 1)` codes and units agree; from there on each run of
  `2 ^ fractionBits` codes has steps twice as wide as the run below it;
* rounding a quotient to a format (`Format.round`) takes the nearest code and, of two equally near,
  the even one.
-/

set_option autoImplicit false

namespace StatusIcon

/-- `n / d` to the nearest whole number; of two equally near, the even one. -/
def roundToEven (n d : Nat) : Nat :=
  let q := n / d
  let r := n % d
  if 2 * r < d ∨ (2 * r = d ∧ q % 2 = 0) then q else q + 1

namespace Binary

/-- The sizes of the two fields that hold a magnitude. -/
structure Format where
  fractionBits : Nat
  exponentBits : Nat
  deriving DecidableEq, Repr

namespace Format

def single : Format := ⟨23, 8⟩

def double : Format := ⟨52, 11⟩

/-- The least positive magnitude is `2 ^ -depth`. -/
def depth (f : Format) : Nat := Nat.pow 2 (f.exponentBits - 1) - 2 + f.fractionBits

/-- The number of finite magnitudes, and so the code of infinity. -/
def infinity (f : Format) : Nat := (Nat.pow 2 f.exponentBits - 1) * Nat.pow 2 f.fractionBits

/-- The magnitude of a code as a multiple of the least positive one. -/
def units (f : Format) (code : Nat) : Nat :=
  let run := Nat.pow 2 f.fractionBits
  if code < run then code else (run + code % run) * Nat.pow 2 (code / run - 1)

/-- The code nearest to `n / d` units; past the finite codes, infinity. -/
def round (f : Format) (n d : Nat) : Nat :=
  let shift := (n / d).log2 - f.fractionBits
  min (shift * Nat.pow 2 f.fractionBits + roundToEven n (d * Nat.pow 2 shift)) f.infinity

theorem round_le_infinity (f : Format) (n d : Nat) : f.round n d ≤ f.infinity :=
  Nat.min_le_right _ _

end Format

end Binary

/-- A number of a binary format. -/
inductive Binary (f : Binary.Format) where
  | nan
  | signed (negative : Bool) (code : Fin (f.infinity + 1))
  deriving DecidableEq, Repr

abbrev Single := Binary Binary.Format.single

abbrev Double := Binary Binary.Format.double

namespace Binary

variable {f : Format}

def infinite (negative : Bool) : Binary f := .signed negative ⟨f.infinity, by omega⟩

def zero (negative : Bool) : Binary f := .signed negative ⟨0, by omega⟩

/-- The number nearest to `±n / d`. -/
def ofQuotient (negative : Bool) (n d : Nat) : Binary f :=
  .signed negative ⟨f.round (n * Nat.pow 2 f.depth) d, Nat.lt_succ_of_le (f.round_le_infinity _ _)⟩

def ofNat (n : Nat) : Binary f := ofQuotient false n 1

def isInfinite : Binary f → Bool
  | .nan => false
  | .signed _ code => code.val == f.infinity

/-- The place of a number in the order; both zeros have place `0`. -/
def place : Binary f → Option Int
  | .nan => none
  | .signed negative code => some (if negative then -(code.val : Int) else code.val)

/-- Not-a-number is below nothing and above nothing. -/
def lt (x y : Binary f) : Bool :=
  match x.place, y.place with
  | some a, some b => decide (a < b)
  | _, _ => false

/-- The nearer bound for a number outside `low` to `high`, and else the number itself: a zero keeps
its sign, and not-a-number stays what it is. -/
def clamp (x low high : Binary f) : Binary f :=
  if x.lt low then low else if high.lt x then high else x

def neg : Binary f → Binary f
  | .nan => .nan
  | .signed negative code => .signed (!negative) code

/-- The exact product rounded once; zero times infinity is not a number. -/
def mul : Binary f → Binary f → Binary f
  | .signed s a, .signed t b =>
    if a.val = f.infinity ∨ b.val = f.infinity then
      if a.val = 0 ∨ b.val = 0 then .nan else infinite (s != t)
    else ofQuotient (s != t) (f.units a.val * f.units b.val) (Nat.pow 2 (2 * f.depth))
  | _, _ => .nan

/-- The exact quotient rounded once. -/
def div : Binary f → Binary f → Binary f
  | .signed s a, .signed t b =>
    if a.val = f.infinity then
      if b.val = f.infinity then .nan else infinite (s != t)
    else if b.val = f.infinity then zero (s != t)
    else if b.val = 0 then
      if a.val = 0 then .nan else infinite (s != t)
    else ofQuotient (s != t) (f.units a.val) (f.units b.val)
  | _, _ => .nan

/-- The same number in another format, rounded once. -/
def convert {g : Format} : Binary f → Binary g
  | .nan => .nan
  | .signed negative code =>
    if code.val = f.infinity then infinite negative
    else ofQuotient negative (f.units code.val) (Nat.pow 2 f.depth)

/-- The whole part, kept within `0` and `limit`; not-a-number has whole part `0`. -/
def wholePart (limit : Nat) : Binary f → Nat
  | .nan => 0
  | .signed true _ => 0
  | .signed false code =>
    if code.val = f.infinity then limit else min (f.units code.val / Nat.pow 2 f.depth) limit

end Binary

end StatusIcon
