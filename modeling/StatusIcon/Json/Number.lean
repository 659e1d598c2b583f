/-
# StatusIcon.Json.Number -- reading numbers

A number without point and exponent is an integer as long as it fits in 64 bits: up to `2 ^ 64 - 1`
without a sign and down to `-2 ^ 63` with one.  Every other number, `-0` included, is a double.

A double is built in two steps that each may round, which is not the same as rounding once:

* the digits make a whole number, its *significand*, as long as that stays below `2 ^ 64`; digits
  after that are not looked at, but those before the point still count as places;
* the significand is rounded to a double and then multiplied or divided, with a second rounding, by
  the power of ten that is left.

A result past the largest double is refused.
-/
import StatusIcon.Json.Reader

set_option autoImplicit false

namespace StatusIcon.Json

inductive Number where
  | natural (n : Nat)
  | negative (n : Nat)
  | real (x : Double)
  deriving DecidableEq, Repr

namespace Number

def found : Number → Found
  | .natural n => .natural n
  | .negative n => .negative n
  | .real x => .real x

/-- The nearest single; a double is rounded a second time. -/
def toSingle : Number → Single
  | .natural n => .ofNat n
  | .negative n => .ofQuotient true n 1
  | .real x => x.convert

end Number

def isDigit (c : Char) : Bool := 48 ≤ c.toNat && c.toNat ≤ 57

def digitValue (c : Char) : Nat := c.toNat - 48

/-! ## Significands -/

/-- Appends digits to `significand` as long as 64 bits hold it: the new one and the digits left. -/
def accumulate (significand : Nat) : List Char → Nat × List Char
  | [] => (significand, [])
  | c :: digits =>
    let next := significand * 10 + digitValue c
    if next < 0x10000000000000000 then accumulate next digits else (significand, c :: digits)

/-! ## Powers of ten -/

/-- `x · 10 ^ exponent` in steps of at most 308 places, `none` past the largest double.  Two steps
down leave nothing of a significand, so `steps` is three. -/
def scale (x : Double) : Nat → Int → Option Double
  | 0, _ => some x
  | steps + 1, exponent =>
    if exponent.natAbs ≤ 308 then
      let power : Double := .ofNat (Nat.pow 10 exponent.natAbs)
      if 0 ≤ exponent then
        let y := x.mul power
        if y.isInfinite then none else some y
      else some (x.div power)
    else if x = .zero false then some x
    else if 0 ≤ exponent then none
    else scale (x.div (.ofNat (Nat.pow 10 308))) steps (exponent + 308)

/-- The double of a significand and an exponent, read up to `rest`. -/
def real (negative : Bool) (significand : Nat) (exponent : Int) (rest : List Char) :
    Result Number :=
  match scale (.ofNat significand) 3 exponent with
  | none => .error (.behind .numberOutOfRange rest)
  | some x => .ok (.real (if negative then x.neg else x), rest)

/-! ## Exponents and fractions -/

/-- The digits of an exponent, as long as 31 bits hold it: its value and the digits left. -/
def exponentDigits (exponent : Nat) : List Char → Nat × List Char
  | [] => (exponent, [])
  | c :: digits =>
    let next := exponent * 10 + digitValue c
    if next < 0x80000000 then exponentDigits next digits else (exponent, c :: digits)

/-- What follows the letter of an exponent.  An exponent past 31 bits is out of range as soon as
that shows, unless the number is zero or the exponent negative: then the number is zero. -/
def exponentPart (negative : Bool) (significand : Nat) (places : Int) (s : List Char) :
    Result Number :=
  let (down, s) := match s with
    | '-' :: r => (true, r)
    | '+' :: r => (false, r)
    | r => (false, r)
  match s with
  | [] => .error (.behind (.unended .value) [])
  | c :: r =>
    if !isDigit c then .error (.behind .invalidNumber r)
    else
      let rest := s.dropWhile isDigit
      match exponentDigits 0 (s.takeWhile isDigit) with
      | (exponent, []) =>
        real negative significand (if down then places - exponent else places + exponent) rest
      | (_, _ :: more) =>
        if significand ≠ 0 && !down then .error (.behind .numberOutOfRange (more ++ rest))
        else .ok (.real (.zero negative), rest)

/-- What follows the digits before the point, of which `places` did not enter the significand. -/
def fractionPart (negative : Bool) (significand : Nat) (places : Int) (s : List Char) :
    Result Number :=
  match s with
  | '.' :: s =>
    let digits := s.takeWhile isDigit
    let rest := s.dropWhile isDigit
    match digits, rest with
    | [], [] => .error (.ahead (.unended .value) [])
    | [], rest => .error (.ahead .invalidNumber rest)
    | digits, rest =>
      let (whole, unread) := accumulate significand digits
      let places := places - ((digits.length - unread.length : Nat) : Int)
      match rest with
      | 'e' :: r => exponentPart negative whole places r
      | 'E' :: r => exponentPart negative whole places r
      | _ => real negative whole places rest
  | 'e' :: r => exponentPart negative significand places r
  | 'E' :: r => exponentPart negative significand places r
  | rest => real negative significand places rest

/-! ## Numbers -/

/-- A number with nothing after its digits before the point. -/
def integer (negative : Bool) (n : Nat) (rest : List Char) : Result Number :=
  if !negative then .ok (.natural n, rest)
  else if 0 < n && n ≤ 0x8000000000000000 then .ok (.negative n, rest)
  else real true n 0 rest

/-- The number whose sign, if it has one, was just taken. -/
def number (negative : Bool) (s : List Char) : Result Number :=
  match s with
  | [] => .error (.behind (.unended .value) [])
  | '0' :: rest =>
    match rest with
    | c :: _ =>
      if isDigit c then .error (.ahead .invalidNumber rest)
      else if c == '.' || c == 'e' || c == 'E' then fractionPart negative 0 0 rest
      else integer negative 0 rest
    | [] => integer negative 0 rest
  | c :: r =>
    if !isDigit c then .error (.behind .invalidNumber r)
    else
      let rest := s.dropWhile isDigit
      match accumulate 0 (s.takeWhile isDigit), rest with
      | (n, []), [] => integer negative n rest
      | (n, []), c :: _ =>
        if c == '.' || c == 'e' || c == 'E' then fractionPart negative n 0 rest
        else integer negative n rest
      | (n, unread), _ => fractionPart negative n unread.length rest

end StatusIcon.Json
