/-
# StatusIcon.Netpbm.Reader -- reading the samples of a portable anymap

Samples follow the header and are stretched so that the greatest one the header names becomes the
greatest of a byte, or of two bytes where one does not hold it; the quotient is taken in single
precision and halves are rounded away from zero.  Wide samples become bytes afterwards, rounded to
the nearest.  Data that end too early are an input failure, a number that is none is malformed.
-/
import StatusIcon.Bitmap
import StatusIcon.Netpbm.Header

set_option autoImplicit false

namespace StatusIcon.Netpbm

open Image (Error)

/-! ## Reading samples -/

/-- The next decimal number, and what follows the blank behind it. -/
def textSample (bound : Nat) (s : List UInt8) : Except Error (Nat × List UInt8) :=
  let s := s.dropWhile isBlank
  match natural? bound (s.takeWhile (!isBlank ·)) with
  | some n => .ok (n, (s.dropWhile (!isBlank ·)).drop 1)
  | none => .error .malformed

def textSamples (bound : Nat) : Nat → List Nat → List UInt8 → Except Error (List Nat)
  | 0, read, _ => .ok read.reverse
  | count + 1, read, s => do
    let (n, s) ← textSample bound s
    textSamples bound count (n :: read) s

/-- Characters `0` and `1`, with or without blanks between them; `1` is white here. -/
def textBits : Nat → List Nat → List UInt8 → Except Error (List Nat)
  | 0, read, _ => .ok read.reverse
  | _ + 1, _, [] => .error .io
  | count + 1, read, b :: s =>
    if isBlank b then textBits (count + 1) read s
    else if b = 48 then textBits count (1 :: read) s
    else if b = 49 then textBits count (0 :: read) s
    else .error .malformed

/-- The eight bits of a byte, the high one first; a one is black. -/
def whiteBits (b : UInt8) : List Nat := (List.range 8).map fun i => 1 - b.toNat >>> (7 - i) % 2

/-- Rows of packed bits, each from a byte on. -/
def packedBits (width : Nat) : Nat → List UInt8 → List Nat
  | 0, _ => []
  | height + 1, s =>
    let size := (width + 7) / 8
    ((s.take size).flatMap whiteBits).take width ++ packedBits width height (s.drop size)

/-- Pairs of bytes as numbers. -/
def wideSamples : List UInt8 → List Nat
  | a :: b :: rest => (a.toNat * 256 + b.toNat) :: wideSamples rest
  | _ => []

/-- The first `count` bytes, which must all be there. -/
def exactly (count : Nat) (s : List UInt8) : Except Error (List UInt8) :=
  let bytes := s.take count
  if bytes.length < count then .error .io else .ok bytes

def readSamples (l : Layout) (s : List UInt8) : Except Error (List Nat) :=
  let count := l.width * l.height * l.channels.count
  match l.encoding with
  | .bitText => textBits count [] s
  | .bitPacked => do
    return packedBits l.width l.height (← exactly ((l.width + 7) / 8 * l.height) s)
  | .bitByte => do
    let bytes ← exactly count s
    if bytes.any (1 < ·) then .error .malformed else return bytes.map UInt8.toNat
  | .text => textSamples (if l.wide then 65536 else 256) count [] s
  | .binary => do
    if l.wide then return wideSamples (← exactly (2 * count) s)
    else return (← exactly count s).map UInt8.toNat

/-! ## Pixels -/

/-- A sample on the scale of a byte. -/
def toByte (l : Layout) (sample : Nat) : UInt8 :=
  let full := if l.wide then 65535 else 255
  let stretched :=
    if l.greatest = full then sample
    else
      let factor := Float32.ofNat full / Float32.ofNat l.greatest
      let value := (Float32.ofNat sample * factor).round
      if l.wide then value.toUInt16.toNat else value.toUInt8.toNat
  if l.wide then UInt8.ofNat ((stretched + 128) / 257) else UInt8.ofNat stretched

/-- The pixels of samples that are bytes; samples too few for one more pixel are left out. -/
def pixels : Channels → List UInt8 → List Pixel
  | .grey, a :: s => ⟨a, a, a, 255⟩ :: pixels .grey s
  | .greyAlpha, a :: b :: s => ⟨a, a, a, b⟩ :: pixels .greyAlpha s
  | .rgb, a :: b :: c :: s => ⟨a, b, c, 255⟩ :: pixels .rgb s
  | .rgba, a :: b :: c :: d :: s => ⟨a, b, c, d⟩ :: pixels .rgba s
  | _, _ => []

def read (s : List UInt8) : Except Error Bitmap := do
  let (layout, s) ← readLayout s
  if 0x10000000000000000 ≤ layout.width * layout.height * layout.pixelBytes then .error .unsupported
  else
    Image.checkSize layout.width layout.height layout.pixelBytes
    let samples ← readSamples layout s
    let colours := pixels layout.channels (samples.map (toByte layout))
    match Bitmap.ofPixels? layout.width layout.height colours.toArray with
    | some b => .ok b
    | none => .error .malformed

end StatusIcon.Netpbm
