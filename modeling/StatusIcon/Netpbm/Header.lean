/-
# StatusIcon.Netpbm.Header -- the seven kinds of portable anymaps

A file begins with `P` and a digit.

* `P1` to `P6` are bitmaps, graymaps and pixmaps, with samples in decimal (`P1` to `P3`) or in
  bytes.  Their header is two or three numbers between blanks: the sides and, but for bitmaps, the
  greatest sample.  A comment runs from `#` to the end of the line and is as if it were not there,
  also in the middle of a number.  One blank ends the header.
* `P7` has a header of lines, each a word and a value, up to the line `ENDHDR`.  A line that begins
  with `#` is a comment.  Words given twice and words that nobody knows are malformed, except that
  several types of tuples are one type with blanks between its parts.

From either header a `Layout` results: what the samples are and how many a pixel has.
-/
import StatusIcon.Image.Error

set_option autoImplicit false

namespace StatusIcon.Netpbm

open Image (Error)

/-! ## What a header says -/

/-- How one sample is written. -/
inductive Encoding where
  /-- A character `0` (white) or `1` (black). -/
  | bitText
  /-- A bit, `0` for white; each row begins at a byte. -/
  | bitPacked
  /-- A byte, `0` for black or `1` for white. -/
  | bitByte
  /-- A decimal number. -/
  | text
  | binary
  deriving DecidableEq, Repr

inductive Channels where
  | grey
  | greyAlpha
  | rgb
  | rgba
  deriving DecidableEq, Repr

def Channels.count : Channels → Nat
  | .grey => 1
  | .greyAlpha => 2
  | .rgb => 3
  | .rgba => 4

/-- What follows the header: samples of one or two bytes, at most `greatest` as far as they are in
range. -/
structure Layout where
  width : Nat
  height : Nat
  encoding : Encoding
  channels : Channels
  wide : Bool
  greatest : Nat
  deriving DecidableEq, Repr

def Layout.pixelBytes (l : Layout) : Nat :=
  if l.wide then 2 * l.channels.count else l.channels.count

/-! ## Words and numbers -/

def isBlank (b : UInt8) : Bool := b == 32 || (9 ≤ b && b ≤ 13)

def isDigit (b : UInt8) : Bool := 48 ≤ b && b ≤ 57

/-- A decimal number, perhaps with a plus sign, below `bound`. -/
def natural? (bound : Nat) (word : List UInt8) : Option Nat :=
  let digits := match word with
    | 43 :: digits => digits
    | digits => digits
  if digits.isEmpty || !digits.all isDigit then none
  else
    let n := digits.foldl (fun n b => n * 10 + (b.toNat - 48)) 0
    if n < bound then some n else none

/-- The next word and what follows the blank behind it.  Read so far: `word`, latest byte first. -/
def wordFrom (comment : Bool) (word : List UInt8) :
    List UInt8 → Except Error (List UInt8 × List UInt8)
  | [] => if word.isEmpty then .error .io else .ok (word.reverse, [])
  | b :: s =>
    if comment then wordFrom (b ≠ 10 && b ≠ 13) word s
    else if b = 35 then wordFrom true word s
    else if isBlank b then
      if word.isEmpty then wordFrom false [] s else .ok (word.reverse, s)
    else if 128 ≤ b then .error .malformed
    else wordFrom false (b :: word) s

def readNumber (s : List UInt8) : Except Error (Nat × List UInt8) := do
  let (word, s) ← wordFrom false [] s
  match natural? 0x100000000 word with
  | some n => .ok (n, s)
  | none => .error .malformed

/-! ## Headers of numbers -/

def bitLayout (encoding : Encoding) (s : List UInt8) : Except Error (Layout × List UInt8) := do
  let (width, s) ← readNumber s
  let (height, s) ← readNumber s
  return (⟨width, height, encoding, .grey, false, 1⟩, s)

def sampleLayout (encoding : Encoding) (channels : Channels) (s : List UInt8) :
    Except Error (Layout × List UInt8) := do
  let (width, s) ← readNumber s
  let (height, s) ← readNumber s
  let (greatest, s) ← readNumber s
  if greatest = 0 || 65535 < greatest then .error .malformed
  else return (⟨width, height, encoding, channels, 255 < greatest, greatest⟩, s)

/-! ## Headers of lines -/

def letters (word : String) : List UInt8 := word.toUTF8.toList

/-- The lines of a header read so far. -/
structure Lines where
  width : Option Nat := none
  height : Option Nat := none
  depth : Option Nat := none
  greatest : Option Nat := none
  tuple : Option (List UInt8) := none

def trimLeft (s : List UInt8) : List UInt8 := s.dropWhile isBlank

def trim (s : List UInt8) : List UInt8 := (trimLeft (trimLeft s).reverse).reverse

namespace Lines

/-- The number of a line whose word was not given before. -/
def number (before : Option Nat) (value : List UInt8) : Except Error (Option Nat) :=
  match before, natural? 0x100000000 value with
  | none, some n => .ok (some n)
  | _, _ => .error .malformed

def add (l : Lines) (word value : List UInt8) : Except Error Lines :=
  if word = letters "WIDTH" then do return { l with width := ← number l.width value }
  else if word = letters "HEIGHT" then do return { l with height := ← number l.height value }
  else if word = letters "DEPTH" then do return { l with depth := ← number l.depth value }
  else if word = letters "MAXVAL" then do return { l with greatest := ← number l.greatest value }
  else if word = letters "TUPLTYPE" then
    let tuple := match l.tuple with
      | none => value
      | some first => first ++ 32 :: value
    .ok { l with tuple := some tuple }
  else .error .malformed

/-- The layout of tuples of a named type, which allows only some depths and greatest samples. -/
def layout (l : Lines) : Except Error Layout :=
  match l.width, l.height, l.depth, l.greatest with
  | some width, some height, some depth, some greatest =>
    let samples (channels : Channels) : Except Error Layout :=
      if depth = channels.count && greatest ≤ 65535 then
        .ok ⟨width, height, .binary, channels, 255 < greatest, greatest⟩
      else .error .malformed
    let bits (channels : Channels) : Except Error Layout :=
      if depth = channels.count && greatest = 1 then
        .ok ⟨width, height, .bitByte, channels, false, 1⟩
      else .error .malformed
    let bytes (channels : Channels) : Except Error Layout :=
      .ok ⟨width, height, .binary, channels, false, greatest⟩
    if greatest = 0 then .error .malformed
    else
      match l.tuple with
      | none =>
        match depth with
        | 1 => bytes .grey
        | 2 => bytes .greyAlpha
        | 3 => bytes .rgb
        | 4 => bytes .rgba
        | _ => .error .malformed
      | some tuple =>
        if tuple = letters "BLACKANDWHITE" then bits .grey
        else if tuple = letters "BLACKANDWHITE_ALPHA" then bits .greyAlpha
        else if tuple = letters "GRAYSCALE" then samples .grey
        else if tuple = letters "GRAYSCALE_ALPHA" then samples .greyAlpha
        else if tuple = letters "RGB" then samples .rgb
        else if tuple = letters "RGB_ALPHA" then samples .rgba
        else .error .unsupported
  | _, _, _, _ => .error .malformed

end Lines

/-- The bytes up to and with the next line end, and what follows. -/
def splitLine (s : List UInt8) : List UInt8 × List UInt8 :=
  match s.span (· ≠ 10) with
  | (line, b :: rest) => (line ++ [b], rest)
  | (line, []) => (line, [])

/-- The lines from here on up to the last one of the header; `fuel` is at least their number. -/
def linesFrom : Nat → Lines → List UInt8 → Except Error (Lines × List UInt8)
  | 0, _, _ => .error .malformed
  | fuel + 1, lines, s =>
    let (line, rest) := splitLine s
    match line with
    | [] => .error .malformed
    | first :: _ =>
      if !ByteArray.validateUTF8 ⟨line.toArray⟩ then .error .io
      else if first = 35 then linesFrom fuel lines rest
      else if line.any (128 ≤ ·) then .error .malformed
      else
        let word := line.takeWhile (!isBlank ·)
        if word = letters "ENDHDR" then .ok (lines, rest)
        else do linesFrom fuel (← lines.add word (trim (line.dropWhile (!isBlank ·)))) rest

def lineLayout (s : List UInt8) : Except Error (Layout × List UInt8) :=
  match s with
  | [] => .error .io
  | b :: s =>
    if b ≠ 10 then .error .malformed
    else do
      let (lines, s) ← linesFrom (s.length + 1) {} s
      return (← lines.layout, s)

/-! ## All kinds -/

/-- The header of a file: what it says, and the bytes behind it. -/
def readLayout (s : List UInt8) : Except Error (Layout × List UInt8) :=
  match s with
  | 80 :: kind :: s =>
    if kind = 49 then bitLayout .bitText s
    else if kind = 50 then sampleLayout .text .grey s
    else if kind = 51 then sampleLayout .text .rgb s
    else if kind = 52 then bitLayout .bitPacked s
    else if kind = 53 then sampleLayout .binary .grey s
    else if kind = 54 then sampleLayout .binary .rgb s
    else if kind = 55 then lineLayout s
    else .error .malformed
  | _ :: _ :: _ => .error .malformed
  | _ => .error .io

end StatusIcon.Netpbm
