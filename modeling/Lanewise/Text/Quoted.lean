/-
# Quoted strings

A string literal is written between double quotes. A quote and a backslash are
escaped by a backslash, and so are NUL, tab, newline and carriage return, which
have a letter each; what has no printed form or would be drawn onto another
character is written as its code point in hexadecimal. All else stands as it is.

Key definitions: `Text.escape`, `Text.quoted`.
-/
import Lanewise.Text.Unprintable
import Lanewise.Text.Extending

namespace Lanewise.Text

/-- The written form of a character inside the quotes. -/
def escape (c : Char) : List Char :=
  if c = '\x00' then ['\\', '0']
  else if c = '\t' then ['\\', 't']
  else if c = '\n' then ['\\', 'n']
  else if c = '\r' then ['\\', 'r']
  else if c = '"' || c = '\\' then ['\\', c]
  else if isExtending c || isUnprintable c then
    ['\\', 'u', '\x7b'] ++ Nat.toDigits 16 c.toNat ++ ['\x7d']
  else [c]

/-- The string between quotation marks, with escapes for what would not show. -/
def quoted (s : String) : String :=
  String.ofList ('"' :: s.toList.flatMap escape ++ ['"'])

end Lanewise.Text
