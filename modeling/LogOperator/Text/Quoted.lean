import LogOperator.Text.Hidden
import LogOperator.Text.Numeral

/-!
# LogOperator.Text.Quoted

Text between double quotes, as messages show a value that may hold anything.  The quote, the
backslash, tab, newline, carriage return and the null character have escapes of two characters;
every other hidden character is shown as `\u` and its number in braces, in lower-case hexadecimal.
A control character is hidden, so quoted text is one line.
-/

namespace LogOperator.Text

/-- How a character stands between double quotes. -/
def quotedChar (c : Char) : List Char :=
  if c = '\x00' then ['\\', '0']
  else if c = '\t' then ['\\', 't']
  else if c = '\n' then ['\\', 'n']
  else if c = '\r' then ['\\', 'r']
  else if c = '"' then ['\\', '"']
  else if c = '\\' then ['\\', '\\']
  else if isHidden c then '\\' :: 'u' :: '{' :: (Nat.toDigits 16 c.toNat ++ ['}'])
  else [c]

/-- A text between double quotes. -/
def quoted (s : String) : String :=
  String.ofList ('"' :: (s.toList.flatMap quotedChar ++ ['"']))

end LogOperator.Text
