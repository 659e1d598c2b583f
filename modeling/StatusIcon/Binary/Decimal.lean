/-
# StatusIcon.Binary.Decimal -- the shortest decimal that reads back

The decimals that round to a magnitude form an interval: half way down to the magnitude below, half
way up to the one above, the ends included exactly when the code is even.  The decimal printed is
taken from this interval by three rules, in this order:

* it has as few digits as any decimal of the interval;
* of those it is the nearest to the magnitude itself;
* of two equally near, the one with the even last digit.

With a given number of digits only two decimals can qualify, the neighbours of the magnitude on that
grid, so one pass over the digit counts decides.  Everything is computed on naturals.

How the digits are then set out is a choice of the text that holds them (`Layout`).
-/
import StatusIcon.Binary.Basic

set_option autoImplicit false

namespace StatusIcon.Binary

/-- A decimal `digits · 10 ^ exponent`. -/
structure Decimal where
  digits : Nat
  exponent : Int
  deriving DecidableEq, Repr

namespace Decimal

/-- Drops zeros from the end of the digits; `fuel` bounds how many. -/
def stripZeros : Nat → Decimal → Decimal
  | 0, d => d
  | fuel + 1, d =>
    if d.digits ≠ 0 ∧ d.digits % 10 = 0 then stripZeros fuel ⟨d.digits / 10, d.exponent + 1⟩ else d

/-- The exponent of the leading digit of `n / d`, for positive `n` and `d`. -/
def leadingExponent (n d : Nat) : Int :=
  if d ≤ n then ((Nat.toDigits 10 (n / d)).length : Int) - 1
  else -((Nat.toDigits 10 ((d + n - 1) / n - 1)).length : Int)

end Decimal

/-- The interval of quotients that round to a positive finite code, over a common denominator. -/
structure Interval where
  low : Nat
  value : Nat
  high : Nat
  scale : Nat
  closed : Bool

namespace Interval

def ofCode (f : Format) (code : Nat) : Interval :=
  { low := f.units (code - 1) + f.units code
    value := 2 * f.units code
    high := f.units code + f.units (code + 1)
    scale := Nat.pow 2 (f.depth + 1)
    closed := code % 2 == 0 }

/-- `n` over the scale of the interval lies in it. -/
def contains (i : Interval) (n m : Nat) : Bool :=
  if i.closed then i.low * m ≤ n && n ≤ i.high * m else i.low * m < n && n < i.high * m

/-- The best decimal of the interval on the grid of whole multiples of `10 ^ exponent`, if any. -/
def onGrid? (i : Interval) (exponent : Int) : Option Decimal :=
  let up := Nat.pow 10 exponent.toNat
  let down := Nat.pow 10 (-exponent).toNat
  let value := i.value * down
  let step := i.scale * up
  let floor := value / step
  let below := i.contains (floor * step) down
  let above := i.contains ((floor + 1) * step) down
  let toBelow := value - floor * step
  let toAbove := (floor + 1) * step - value
  if below && (!above || toBelow < toAbove || (toBelow == toAbove && floor % 2 == 0)) then
    some ⟨floor, exponent⟩
  else if above then some ⟨floor + 1, exponent⟩
  else none

/-- The shortest decimal, tried with `count` digits and then more, `fuel` counts in all. -/
def search (i : Interval) (leading : Int) : Nat → Nat → Decimal
  | 0, count => ⟨0, leading - count⟩
  | fuel + 1, count =>
    match i.onGrid? (leading - count) with
    | some d => d
    | none => search i leading fuel (count + 1)

end Interval

/-- The shortest decimal that rounds to a positive finite code.  Seventeen digits tell any two
doubles apart, so the search ends within them. -/
def shortest (f : Format) (code : Nat) : Decimal :=
  let i := Interval.ofCode f code
  let d := i.search (Decimal.leadingExponent i.value i.scale) 17 0
  d.stripZeros 20

/-- How a decimal is set out: positional when the exponent of its leading digit lies in this range,
and else with one digit before the point and an exponent that always has a sign. -/
structure Layout where
  least : Int
  greatest : Int

namespace Layout

/-- The decimal's text.  Positional text has at least one digit on either side of the point. -/
def render (l : Layout) (d : Decimal) : String :=
  let digits := (Nat.repr d.digits).toList
  let leading := d.exponent + digits.length - 1
  if l.least ≤ leading ∧ leading ≤ l.greatest then
    if 0 ≤ d.exponent then
      String.ofList (digits ++ List.replicate d.exponent.toNat '0' ++ ['.', '0'])
    else if 0 ≤ leading then
      String.ofList (digits.take (leading + 1).toNat ++ '.' :: digits.drop (leading + 1).toNat)
    else
      String.ofList ('0' :: '.' :: List.replicate (-leading - 1).toNat '0' ++ digits)
  else
    let fraction := match digits.drop 1 with
      | [] => []
      | more => '.' :: more
    let sign := if leading < 0 then '-' else '+'
    String.ofList (digits.take 1 ++ fraction ++ 'e' :: sign :: (Nat.repr leading.natAbs).toList)

/-- Singles are positional from a millionth up to thirteen digits before the point. -/
def single : Layout := ⟨-6, 12⟩

/-- Doubles are positional from a hundred-thousandth up to sixteen digits before the point. -/
def double : Layout := ⟨-5, 15⟩

end Layout

/-- The text of a finite number; infinities and not-a-number have none. -/
def text? {f : Format} (l : Layout) : Binary f → Option String
  | .nan => none
  | .signed negative code =>
    if code.val = f.infinity then none
    else
      let magnitude := if code.val = 0 then "0.0" else l.render (shortest f code.val)
      some (if negative then "-" ++ magnitude else magnitude)

end StatusIcon.Binary
