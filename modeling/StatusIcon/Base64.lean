/-
# StatusIcon.Base64 -- bytes as text in sixty-four characters

Three bytes are four symbols of six bits, the high bits first.  One or two bytes at the end are two
or three symbols, whose unused low bits are zero; `=` signs fill the last group up to four.

Writing always fills the last group.  Reading does not ask for it: the signs may be there in part or
not at all, but only in a last group of at least two symbols, and never more than fill it.  What
else a text must satisfy to be read:

* it has no other character than the sixty-four symbols and `=`;
* a last group of one symbol says nothing and is refused;
* the unused bits of the last symbol must be zero, so bytes have one text, up to the `=` signs.

A refusal names the character and its offset, or the length of a text that ends too early.
-/

set_option autoImplicit false

namespace StatusIcon.Base64

inductive Error where
  | invalidSymbol (byte offset : Nat)
  | invalidLength (length : Nat)
  | invalidLastSymbol (byte offset : Nat)
  deriving DecidableEq, Repr

def Error.message : Error → String
  | .invalidSymbol byte offset =>
    "Invalid symbol " ++ Nat.repr byte ++ ", offset " ++ Nat.repr offset ++ "."
  | .invalidLength length => "Invalid input length: " ++ Nat.repr length
  | .invalidLastSymbol byte offset =>
    "Invalid last symbol " ++ Nat.repr byte ++ ", offset " ++ Nat.repr offset ++ "."

/-! ## Symbols -/

/-- The symbol of six bits. -/
def symbol (n : Nat) : Char :=
  if n < 26 then Char.ofNat (n + 65)
  else if n < 52 then Char.ofNat (n + 71)
  else if n < 62 then Char.ofNat (n - 4)
  else if n = 62 then '+'
  else '/'

/-- The six bits of a symbol. -/
def bits? (c : Char) : Option Nat :=
  let n := c.toNat
  if 65 ≤ n && n ≤ 90 then some (n - 65)
  else if 97 ≤ n && n ≤ 122 then some (n - 71)
  else if 48 ≤ n && n ≤ 57 then some (n + 4)
  else if c = '+' then some 62
  else if c = '/' then some 63
  else none

/-- A symbol or the sign that fills a group. -/
def isAlphabetic (c : Char) : Bool := (bits? c).isSome || c == '='

/-! ## Writing -/

def encode : List UInt8 → List Char
  | [] => []
  | [a] =>
    let n := a.toNat * 16
    [symbol (n / 64), symbol (n % 64), '=', '=']
  | [a, b] =>
    let n := (a.toNat * 256 + b.toNat) * 4
    [symbol (n / 4096), symbol (n / 64 % 64), symbol (n % 64), '=']
  | a :: b :: c :: rest =>
    let n := (a.toNat * 256 + b.toNat) * 256 + c.toNat
    symbol (n / 262144) :: symbol (n / 4096 % 64) :: symbol (n / 64 % 64) :: symbol (n % 64) ::
      encode rest

/-! ## Reading -/

/-- The six bits of the symbol at `offset`. -/
def bitsAt (offset : Nat) (c : Char) : Except Error Nat :=
  match bits? c with
  | some n => .ok n
  | none => .error (.invalidSymbol c.toNat offset)

/-- The bytes of a last group, of which at most four characters are left. -/
def decodeLast (offset : Nat) (group : List Char) : Except Error (List UInt8) :=
  match group with
  | [] => .ok []
  | [a] => do
    let _ ← bitsAt offset a
    .error (.invalidLength (offset + 1))
  | a :: b :: more => do
    let x ← bitsAt offset a
    let y ← bitsAt (offset + 1) b
    let one (last : Nat) : Except Error (List UInt8) :=
      if last % 16 = 0 then .ok [UInt8.ofNat ((x * 64 + y) / 16)]
      else .error (.invalidLastSymbol b.toNat (offset + 1))
    match more with
    | [] => one y
    | c :: more =>
      if c = '=' then
        if more.all (· == '=') then one y else .error (.invalidSymbol '='.toNat (offset + 2))
      else
        let z ← bitsAt (offset + 2) c
        let n := (x * 64 + y) * 64 + z
        let two : Except Error (List UInt8) :=
          if z % 4 = 0 then .ok [UInt8.ofNat (n / 1024), UInt8.ofNat (n / 4 % 256)]
          else .error (.invalidLastSymbol c.toNat (offset + 2))
        match more with
        | [] => two
        | d :: _ =>
          if d = '=' then two
          else
            let w ← bitsAt (offset + 3) d
            let n := n * 64 + w
            .ok [UInt8.ofNat (n / 65536), UInt8.ofNat (n / 256 % 256), UInt8.ofNat (n % 256)]

/-- The bytes from `offset` on, after those already read (latest first). -/
def decodeFrom (offset : Nat) (bytes : List UInt8) : List Char → Except Error (List UInt8)
  | a :: b :: c :: d :: e :: rest =>
    match bitsAt offset a, bitsAt (offset + 1) b, bitsAt (offset + 2) c, bitsAt (offset + 3) d with
    | .ok x, .ok y, .ok z, .ok w =>
      let n := ((x * 64 + y) * 64 + z) * 64 + w
      decodeFrom (offset + 4)
        (UInt8.ofNat (n % 256) :: UInt8.ofNat (n / 256 % 256) :: UInt8.ofNat (n / 65536) :: bytes)
        (e :: rest)
    | .error e, _, _, _ => .error e
    | _, .error e, _, _ => .error e
    | _, _, .error e, _ => .error e
    | _, _, _, .error e => .error e
  | group =>
    match decodeLast offset group with
    | .ok last => .ok (bytes.reverse ++ last)
    | .error e => .error e

def decode (text : List Char) : Except Error (List UInt8) := decodeFrom 0 [] text

end StatusIcon.Base64
