/-
# StatusIcon.Text.Quoted -- a text between quotes, on one line

How a message quotes a text that was found where something else was wanted.  The quotation is one
line whatever the text holds:

* the double quote, the backslash, tab, return, newline and the null character are escaped by a
  letter or sign after a backslash;
* other characters that do not show are spelled by their number, `\\u{1b}` for instance;
* every other character stands for itself.
-/
import StatusIcon.Text.Unprintable

set_option autoImplicit false

namespace StatusIcon.Text

/-- The written form of one character inside a quotation. -/
def quotedChar (c : Char) : List Char :=
  if c = '"' then ['\\', '"']
  else if c = '\\' then ['\\', '\\']
  else if c = '\t' then ['\\', 't']
  else if c = '\r' then ['\\', 'r']
  else if c = '\n' then ['\\', 'n']
  else if c.toNat = 0 then ['\\', '0']
  else if c.toNat < 0x20 || isUnprintable c then
    ['\\', 'u', '\x7b'] ++ Nat.toDigits 16 c.toNat ++ ['\x7d']
  else [c]

def quoted (text : String) : String :=
  String.ofList ('"' :: (text.toList.flatMap quotedChar ++ ['"']))

end StatusIcon.Text
