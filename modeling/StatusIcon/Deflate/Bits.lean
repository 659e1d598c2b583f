/-
# StatusIcon.Deflate.Bits -- bytes taken bit by bit

A compressed stream is read from the low bit of each byte upwards.  Numbers of several bits have
their low bit first; codes come with their high bit first and are read one bit at a time.
-/

set_option autoImplicit false

namespace StatusIcon.Deflate

/-- The bytes still to be read; of the first one the `used` low bits are taken. -/
structure Bits where
  bytes : List UInt8
  used : Nat
  deriving DecidableEq, Repr

namespace Bits

def ofBytes (bytes : List UInt8) : Bits := ⟨bytes, 0⟩

/-- The next bit, `0` or `1`. -/
def next? (s : Bits) : Option (Nat × Bits) :=
  match s.bytes with
  | [] => none
  | b :: rest =>
    let bit := b.toNat >>> s.used % 2
    some (bit, if s.used + 1 < 8 then ⟨b :: rest, s.used + 1⟩ else ⟨rest, 0⟩)

/-- The number of the next `count` bits. -/
def take? : Nat → Bits → Option (Nat × Bits)
  | 0, s => some (0, s)
  | count + 1, s =>
    match s.next? with
    | none => none
    | some (bit, s) =>
      match take? count s with
      | none => none
      | some (n, s) => some (bit + 2 * n, s)

/-- The bytes behind the one that is partly taken. -/
def wholeBytes (s : Bits) : List UInt8 := if s.used = 0 then s.bytes else s.bytes.drop 1

end Bits

end StatusIcon.Deflate
