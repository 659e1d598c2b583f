/-
# StatusIcon.Png.Scanline -- rows as differences

Each row is preceded by a byte that names its filter.  A filter predicts every byte from three bytes
already known -- to the left, above, and above to the left, with zero for those outside the
image -- and the file holds the difference, modulo 256.

A reader (`restore`) and a writer (`differences`) make the same predictions, because both know the
row above and the bytes of the row so far (`prediction`).
-/

set_option autoImplicit false

namespace StatusIcon.Png

inductive Filter where
  | none
  | left
  | above
  | average
  | paeth
  deriving DecidableEq, Repr

namespace Filter

/-- The byte that names the filter. -/
def code : Filter → UInt8
  | .none => 0
  | .left => 1
  | .above => 2
  | .average => 3
  | .paeth => 4

def ofByte? (b : UInt8) : Option Filter :=
  match b.toNat with
  | 0 => some .none
  | 1 => some .left
  | 2 => some .above
  | 3 => some .average
  | 4 => some .paeth
  | _ => Option.none

/-- Of the three neighbours the one nearest to `left + above - corner`; the first of equals. -/
def nearest (left above corner : UInt8) : UInt8 :=
  let l := (left.toNat : Int)
  let a := (above.toNat : Int)
  let c := (corner.toNat : Int)
  let toLeft := (a - c).natAbs
  let toAbove := (l - c).natAbs
  let toCorner := (l + a - 2 * c).natAbs
  if toLeft ≤ toAbove && toLeft ≤ toCorner then left
  else if toAbove ≤ toCorner then above
  else corner

def predict (f : Filter) (left above corner : UInt8) : UInt8 :=
  match f with
  | .none => 0
  | .left => left
  | .above => above
  | .average => UInt8.ofNat ((left.toNat + above.toNat) / 2)
  | .paeth => nearest left above corner

/-- The byte that is predicted behind the bytes `known` of a row.  `row` is the row above. -/
def prediction (f : Filter) (stride : Nat) (row known : Array UInt8) : UInt8 :=
  let i := known.size
  let left := if i < stride then 0 else known.getD (i - stride) 0
  let corner := if i < stride then 0 else row.getD (i - stride) 0
  f.predict left (row.getD i 0) corner

/-- Restores the rest of a row behind the bytes already restored.  `row` is the row above. -/
def restoreFrom (f : Filter) (stride : Nat) (row : Array UInt8) :
    List UInt8 → Array UInt8 → Array UInt8
  | [], out => out
  | b :: rest, out => restoreFrom f stride row rest (out.push (b + f.prediction stride row out))

def restore (f : Filter) (stride : Nat) (row : Array UInt8) (bytes : List UInt8) : Array UInt8 :=
  restoreFrom f stride row bytes #[]

/-- The differences for the rest of a row behind the bytes `known`.  `row` is the row above. -/
def differencesFrom (f : Filter) (stride : Nat) (row : Array UInt8) :
    List UInt8 → Array UInt8 → List UInt8
  | [], _ => []
  | b :: rest, known =>
    (b - f.prediction stride row known) :: differencesFrom f stride row rest (known.push b)

def differences (f : Filter) (stride : Nat) (row : Array UInt8) (bytes : List UInt8) :
    List UInt8 :=
  differencesFrom f stride row bytes #[]

end Filter

end StatusIcon.Png
