/-
# StatusIcon.Json.Printer -- writing JSON

A value is written in one of two ways: without any space, or with each member and item on a line of
its own, two spaces deeper than the bracket around it (`Style`).  An empty list or object is two
brackets in both.

In a string the quote, the backslash and everything below U+0020 are escaped, by a letter where
there is one and else by four hexadecimal digits; every other character stands for itself.  A number
that is not finite has no JSON text and is written as `null`.
-/
import StatusIcon.Binary.Decimal

set_option autoImplicit false

namespace StatusIcon.Json

inductive Value where
  | null
  | bool (b : Bool)
  | natural (n : Nat)
  | single (x : Single)
  | string (text : String)
  | list (items : List Value)
  | object (members : List (String × Value))

inductive Style where
  | compact
  | pretty
  deriving DecidableEq, Repr

namespace Printer

def hexDigit (n : Nat) : Char := Nat.digitChar n

/-- The written form of one character of a string. -/
def escaped (c : Char) : List Char :=
  if c = '"' then ['\\', '"']
  else if c = '\\' then ['\\', '\\']
  else if c = '\x08' then ['\\', 'b']
  else if c = '\x0c' then ['\\', 'f']
  else if c = '\n' then ['\\', 'n']
  else if c = '\r' then ['\\', 'r']
  else if c = '\t' then ['\\', 't']
  else if c.toNat < 0x20 then
    ['\\', 'u', '0', '0', hexDigit (c.toNat / 16), hexDigit (c.toNat % 16)]
  else [c]

def quoted (text : String) : List Char := '"' :: (text.toList.flatMap escaped ++ ['"'])

/-- What stands before each item or member: nothing, or a new line and its indentation. -/
def lead (style : Style) (depth : Nat) : List Char :=
  match style with
  | .compact => []
  | .pretty => '\n' :: List.replicate (2 * depth) ' '

/-- What stands between a member's name and its value. -/
def colon : Style → List Char
  | .compact => [':']
  | .pretty => [':', ' ']

mutual

/-- The text of a value inside `depth` brackets. -/
def value (style : Style) (depth : Nat) : Value → List Char
  | .null => "null".toList
  | .bool b => (if b then "true" else "false").toList
  | .natural n => (Nat.repr n).toList
  | .single x => ((Binary.text? .single x).getD "null").toList
  | .string text => quoted text
  | .list [] => ['[', ']']
  | .list (v :: vs) =>
    '[' :: (lead style (depth + 1) ++ value style (depth + 1) v ++ items style (depth + 1) vs ++
      lead style depth ++ [']'])
  | .object [] => ['\x7b', '\x7d']
  | .object ((name, v) :: ms) =>
    '\x7b' :: (lead style (depth + 1) ++ quoted name ++ colon style ++ value style (depth + 1) v ++
      members style (depth + 1) ms ++ lead style depth ++ ['\x7d'])

/-- The items behind the first one. -/
def items (style : Style) (depth : Nat) : List Value → List Char
  | [] => []
  | v :: vs => ',' :: (lead style depth ++ value style depth v ++ items style depth vs)

/-- The members behind the first one. -/
def members (style : Style) (depth : Nat) : List (String × Value) → List Char
  | [] => []
  | (name, v) :: ms =>
    ',' :: (lead style depth ++ quoted name ++ colon style ++ value style depth v ++
      members style depth ms)

end

end Printer

def Value.render (style : Style) (v : Value) : String := String.ofList (Printer.value style 0 v)

end StatusIcon.Json
