import Companion.Text.Ranges
import Companion.Text.Hidden

/-!
# Quoted text — a text between double quotes on one line

In a report a text is shown between double quotes so that all of it can be seen: quotes,
backslashes and line ends are escaped, and a character without a picture of its own is
shown by its code point.
-/

namespace Companion

namespace Text

/-- A code point in lowercase hexadecimal digits, between braces. -/
def codePoint (c : Char) : List Char := "\\u\x7b".toList ++ Nat.toDigits 16 c.toNat ++ ['}']

/-- A character as it is shown between quotes. -/
def quotedChar (c : Char) : List Char :=
  if c = '\x00' then ['\\', '0']
  else if c = '\t' then ['\\', 't']
  else if c = '\r' then ['\\', 'r']
  else if c = '\n' then ['\\', 'n']
  else if c = '"' ∨ c = '\\' then ['\\', c]
  else if inRanges hiddenRanges c.toNat then codePoint c
  else [c]

/-- A text as it is shown between quotes. -/
def quoted (s : String) : String := String.ofList ('"' :: s.toList.flatMap quotedChar ++ ['"'])

end Text

end Companion
