import LogOperator.Json
import LogOperator.Text.Lines
import LogOperator.Text.Numeral

/-!
# LogOperator.Json.Writer

The compact text of a JSON value: no blanks, members in their order, and in strings an escape for
the quote, the backslash and the characters below the space only.
-/

namespace LogOperator.Json

/-- How a character stands in a JSON string. -/
def escapedChar (c : Char) : List Char :=
  if c = '"' then ['\\', '"']
  else if c = '\\' then ['\\', '\\']
  else if c = '\n' then ['\\', 'n']
  else if c = '\r' then ['\\', 'r']
  else if c = '\t' then ['\\', 't']
  else if c = '\x08' then ['\\', 'b']
  else if c = '\x0c' then ['\\', 'f']
  else if c.toNat < 0x20 then
    ['\\', 'u', '0', '0', Text.hexDigit (c.toNat / 16), Text.hexDigit (c.toNat % 16)]
  else [c]

def string (s : String) : String :=
  String.ofList ('"' :: (s.toList.flatMap escapedChar ++ ['"']))

mutual

/-- The compact text of a value. -/
def render : Json → String
  | .null => "null"
  | .bool b => if b then "true" else "false"
  | .int n => if n < 0 then "-" ++ Nat.repr n.natAbs else Nat.repr n.natAbs
  | .real source => source
  | .text s => string s
  | .list items => "[" ++ Text.joinWith "," (renderItems items) ++ "]"
  | .object ms => "\x7b" ++ Text.joinWith "," (renderMembers ms) ++ "\x7d"

def renderItems : List Json → List String
  | [] => []
  | j :: js => render j :: renderItems js

def renderMembers : List (String × Json) → List String
  | [] => []
  | (name, j) :: ms => (string name ++ ":" ++ render j) :: renderMembers ms

end

end LogOperator.Json
