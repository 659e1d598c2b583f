/-
# StatusIcon.Deflate.Inflate -- expanding a compressed stream

A stream is a sequence of blocks, the last one marked.  A block is stored as it is, or written with
the fixed codes, or with codes of its own that stand at its head.  Symbols below 256 are bytes, 256
ends the block, and those above say how many bytes to repeat from how far back in the output.

Expanding keeps what it has when the stream breaks off, because the rows of an image are used as
they come: `Expanded` holds the output so far and says how the stream ended.

* `complete`: the last block ended; what follows it is handed on;
* `short`: the bytes ended first;
* `corrupt`: the bytes are no stream -- an unknown kind of block, lengths that make no code, a
  repetition from before the beginning.
-/
import StatusIcon.Deflate.Huffman

set_option autoImplicit false

namespace StatusIcon.Deflate

inductive Ending where
  | complete (rest : Bits)
  | short
  | corrupt

structure Expanded where
  output : Array UInt8
  ending : Ending

/-! ## Lengths and distances -/

/-- The least value and the number of further bits of a symbol, from runs of symbols that have the
same number of further bits. -/
def baseAndExtra (least : Nat) : List (Nat × Nat) → Nat → Nat × Nat
  | [], _ => (least, 0)
  | (count, extra) :: runs, i =>
    if i < count then (least + i * Nat.pow 2 extra, extra)
    else baseAndExtra (least + count * Nat.pow 2 extra) runs (i - count)

/-- The least length of symbol `257 + i` and its further bits.  The last symbol, for the greatest
length, has none. -/
def lengthBase (i : Nat) : Nat × Nat :=
  if i = 28 then (258, 0) else baseAndExtra 3 [(8, 0), (4, 1), (4, 2), (4, 3), (4, 4), (4, 5)] i

def distanceBase (i : Nat) : Nat × Nat :=
  baseAndExtra 1 ((4, 0) :: (List.range 13).map fun k => (2, k + 1)) i

/-- Appends `count` bytes, each a copy of the one `distance` places before it. -/
def repeatBack (distance : Nat) : Nat → Array UInt8 → Array UInt8
  | 0, out => out
  | count + 1, out => repeatBack distance count (out.push (out.getD (out.size - distance) 0))

/-! ## Blocks -/

/-- The symbols of a block; `fuel` is at least the number of bits left. -/
def symbols (literals distances : Code) : Nat → Bits → Array UInt8 → Expanded
  | 0, _, out => ⟨out, .short⟩
  | fuel + 1, s, out =>
    match literals.lookup s with
    | .short => ⟨out, .short⟩
    | .corrupt => ⟨out, .corrupt⟩
    | .symbol n s =>
      if n < 256 then symbols literals distances fuel s (out.push (UInt8.ofNat n))
      else if n = 256 then ⟨out, .complete s⟩
      else if 285 < n then ⟨out, .corrupt⟩
      else
        let (base, extra) := lengthBase (n - 257)
        match s.take? extra with
        | none => ⟨out, .short⟩
        | some (more, s) =>
          let length := base + more
          match distances.lookup s with
          | .short => ⟨out, .short⟩
          | .corrupt => ⟨out, .corrupt⟩
          | .symbol n s =>
            if 29 < n then ⟨out, .corrupt⟩
            else
              let (base, extra) := distanceBase n
              match s.take? extra with
              | none => ⟨out, .short⟩
              | some (more, s) =>
                let distance := base + more
                if out.size < distance then ⟨out, .corrupt⟩
                else symbols literals distances fuel s (repeatBack distance length out)

/-- A block stored as it is: its length, the complement of its length, and its bytes. -/
def stored (s : Bits) (out : Array UInt8) : Expanded :=
  match s.wholeBytes with
  | a :: b :: c :: d :: rest =>
    let length := a.toNat + 256 * b.toNat
    if c.toNat + 256 * d.toNat ≠ 65535 - length then ⟨out, .corrupt⟩
    else if rest.length < length then ⟨out ++ rest.toArray, .short⟩
    else ⟨out ++ (rest.take length).toArray, .complete ⟨rest.drop length, 0⟩⟩
  | _ => ⟨out, .short⟩

def fixedLiterals : List Nat :=
  List.replicate 144 8 ++ List.replicate 112 9 ++ List.replicate 24 7 ++ List.replicate 8 8

def fixedDistances : List Nat := List.replicate 32 5

/-- The order in which the lengths of the codes for lengths are written. -/
def lengthOrder : List Nat := [16, 17, 18, 0, 8, 7, 9, 6, 10, 5, 11, 4, 12, 3, 13, 2, 14, 1, 15]

/-- `count` numbers of three bits. -/
def threeBits : Nat → Bits → Option (List Nat × Bits)
  | 0, s => some ([], s)
  | count + 1, s =>
    match s.take? 3 with
    | none => none
    | some (n, s) => (threeBits count s).map fun (more, s) => (n :: more, s)

/-- Lengths of codes until there are `total`, those read so far latest first.  Three symbols repeat:
the last length, or zero, and never past the total. -/
def codeLengths (code : Code) (total : Nat) :
    Nat → List Nat → Bits → Option (List Nat × Bits) × Bool
  | 0, _, _ => (none, false)
  | fuel + 1, lengths, s =>
    if total ≤ lengths.length then (some (lengths.reverse, s), true)
    else
      match code.lookup s with
      | .short => (none, true)
      | .corrupt => (none, false)
      | .symbol n s =>
        if n < 16 then codeLengths code total fuel (n :: lengths) s
        else
          let (length, least, extra) := match n, lengths with
            | 16, last :: _ => (some last, 3, 2)
            | 16, [] => (none, 3, 2)
            | 17, _ => (some 0, 3, 3)
            | _, _ => (some 0, 11, 7)
          match s.take? extra with
          | none => (none, true)
          | some (more, s) =>
            match length with
            | none => (none, false)
            | some length =>
              if total < lengths.length + least + more then (none, false)
              else codeLengths code total fuel (List.replicate (least + more) length ++ lengths) s

/-- A block with codes of its own. -/
def ownCodes (fuel : Nat) (s : Bits) (out : Array UInt8) : Expanded :=
  match s.take? 14 with
  | none => ⟨out, .short⟩
  | some (head, s) =>
    let literalCount := head % 32 + 257
    let distanceCount := head / 32 % 32 + 1
    let lengthCount := head / 1024 + 4
    if 286 < literalCount || 30 < distanceCount then ⟨out, .corrupt⟩
    else
      match threeBits lengthCount s with
      | none => ⟨out, .short⟩
      | some (lengths, s) =>
        let lengths := (List.range 19).map fun symbol =>
          ((lengthOrder.zip lengths).lookup symbol).getD 0
        if !Code.isComplete lengths then ⟨out, .corrupt⟩
        else
          let total := literalCount + distanceCount
          match codeLengths (.ofLengths lengths) total (total + 1) [] s with
          | (none, true) => ⟨out, .short⟩
          | (none, false) => ⟨out, .corrupt⟩
          | (some (lengths, s), _) =>
            let literals := lengths.take literalCount
            let distances := lengths.drop literalCount
            if literals.getD 256 0 = 0 || !Code.isComplete literals ||
                !Code.isDistanceCode distances then ⟨out, .corrupt⟩
            else symbols (.ofLengths literals) (.ofLengths distances) fuel s out

/-- The blocks from here on; `fuel` is at least the number of bits left. -/
def blocks : Nat → Bits → Array UInt8 → Expanded
  | 0, _, out => ⟨out, .short⟩
  | fuel + 1, s, out =>
    match s.take? 3 with
    | none => ⟨out, .short⟩
    | some (head, s) =>
      let block := match head / 2 with
        | 0 => stored s out
        | 1 => symbols (.ofLengths fixedLiterals) (.ofLengths fixedDistances) (fuel + 1) s out
        | 2 => ownCodes (fuel + 1) s out
        | _ => ⟨out, .corrupt⟩
      if head % 2 = 1 then block
      else
        match block.ending with
        | .complete s => blocks fuel s block.output
        | _ => block

/-- Expands the stream at the head of these bytes. -/
def inflate (bytes : List UInt8) : Expanded := blocks (8 * bytes.length + 1) (.ofBytes bytes) #[]

end StatusIcon.Deflate
