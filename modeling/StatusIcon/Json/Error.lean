/-
# StatusIcon.Json.Error -- why a text is not the JSON that was asked for

A reader stops at the first thing it cannot accept and reports one cause and one position.  The
position counts lines from one and, within the line, the bytes that were passed, so a character of
several bytes counts several columns and the first column of a line is `1` once a byte of it was
looked at.

Three kinds of cause share one type, because a text is read and understood in one pass and whichever
is met first is reported:

* the text is not JSON (`Cause.unended`, `Cause.expected`, ...);
* it is JSON of another type than the one asked for (`Cause.wrongType`, `Cause.wrongValue`);
* it is a record with a member too few or too many (`Cause.missingMember`, ...).
-/
import StatusIcon.Binary.Decimal
import StatusIcon.Text.Quoted

set_option autoImplicit false

namespace StatusIcon.Json

/-- What a text can end in the middle of. -/
inductive Part where
  | value
  | list
  | object
  | string
  deriving DecidableEq, Repr

/-- What should have stood where something else was found. -/
inductive Token where
  | colon
  | listCommaOrEnd
  | objectCommaOrEnd
  | ident
  | value
  deriving DecidableEq, Repr

/-- A value found where one of another type was asked for. -/
inductive Found where
  | null
  | bool (b : Bool)
  | natural (n : Nat)
  | negative (n : Nat)
  | real (x : Double)
  | string (text : String)
  | list
  | object
  deriving DecidableEq, Repr

inductive Cause where
  | unended (part : Part)
  | expected (token : Token)
  | invalidEscape
  | invalidNumber
  | numberOutOfRange
  | controlCharacter
  | keyNotString
  | loneSurrogate
  | unendedSurrogatePair
  | trailingComma
  | trailingCharacters
  | wrongType (found : Found) (wanted : String)
  | wrongValue (found : Found) (wanted : String)
  | wrongLength (found : Nat) (wanted : String)
  | missingMember (name : String)
  | repeatedMember (name : String)
  deriving DecidableEq, Repr

/-- A place in a text. -/
structure Position where
  line : Nat
  column : Nat
  deriving DecidableEq, Repr

structure Error where
  cause : Cause
  position : Position
  deriving DecidableEq, Repr

/-! ## Positions -/

namespace Position

/-- The place reached from `here` by passing `offset` more bytes of `text`. -/
def advance (here : Position) : List Char → Nat → Position
  | [], _ => here
  | c :: text, offset =>
    if offset = 0 then here
    else if c = '\n' then advance ⟨here.line + 1, 0⟩ text (offset - 1)
    else if offset < c.utf8Size then ⟨here.line, here.column + offset⟩
    else advance ⟨here.line, here.column + c.utf8Size⟩ text (offset - c.utf8Size)

/-- The place after the first `offset` bytes. -/
def after (text : List Char) (offset : Nat) : Position := advance ⟨1, 0⟩ text offset

end Position

/-! ## Wording -/

def Part.name : Part → String
  | .value => "a value"
  | .list => "a list"
  | .object => "an object"
  | .string => "a string"

def Token.name : Token → String
  | .colon => "`:`"
  | .listCommaOrEnd => "`,` or `]`"
  | .objectCommaOrEnd => "`,` or `\x7d`"
  | .ident => "ident"
  | .value => "value"

def Found.name : Found → String
  | .null => "null"
  | .bool b => if b then "boolean `true`" else "boolean `false`"
  | .natural n => "integer `" ++ Nat.repr n ++ "`"
  | .negative n => "integer `-" ++ Nat.repr n ++ "`"
  | .real x => "floating point `" ++ (Binary.text? .double x).getD "" ++ "`"
  | .string text => "string " ++ Text.quoted text
  | .list => "sequence"
  | .object => "map"

def Cause.message : Cause → String
  | .unended part => "EOF while parsing " ++ part.name
  | .expected token => "expected " ++ token.name
  | .invalidEscape => "invalid escape"
  | .invalidNumber => "invalid number"
  | .numberOutOfRange => "number out of range"
  | .controlCharacter => "control character (\\u0000-\\u001F) found while parsing a string"
  | .keyNotString => "key must be a string"
  | .loneSurrogate => "lone leading surrogate in hex escape"
  | .unendedSurrogatePair => "unexpected end of hex escape"
  | .trailingComma => "trailing comma"
  | .trailingCharacters => "trailing characters"
  | .wrongType found wanted => "invalid type: " ++ found.name ++ ", expected " ++ wanted
  | .wrongValue found wanted => "invalid value: " ++ found.name ++ ", expected " ++ wanted
  | .wrongLength found wanted => "invalid length " ++ Nat.repr found ++ ", expected " ++ wanted
  | .missingMember name => "missing field `" ++ name ++ "`"
  | .repeatedMember name => "duplicate field `" ++ name ++ "`"

def Error.message (e : Error) : String :=
  e.cause.message ++ " at line " ++ Nat.repr e.position.line ++ " column " ++
    Nat.repr e.position.column

end StatusIcon.Json
