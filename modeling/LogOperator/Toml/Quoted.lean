import LogOperator.Text.Numeral

/-!
# LogOperator.Toml.Quoted

Quoted text in TOML: in double quotes with escapes, in single quotes as it stands; on one line, or
between triple quotes on several.

Each reader starts after the opening quotes and gives the text and what follows the closing ones.
-/

namespace LogOperator.Toml

/-- The quote of text without escapes. -/
def apostrophe : Char := Char.ofNat 0x27

/-- The character may not stand in a document, except where it ends a line. -/
def isForbidden (c : Char) : Bool :=
  c.toNat < 0x20 && c != '\t' || c.toNat == 0x7f

/-! ## Escapes -/

/-- The character of an escape of one letter. -/
def escaped? (c : Char) : Option Char :=
  [('b', '\x08'), ('t', '\t'), ('n', '\n'), ('f', '\x0c'), ('r', '\r'), ('e', '\x1b'), ('"', '"'),
   ('\\', '\\')].lookup c

/-- How many digits an escape by number has. -/
def escapeDigits? (c : Char) : Option Nat :=
  [('x', 2), ('u', 4), ('U', 8)].lookup c

/-- Where text stands that is partly read. -/
inductive Mode where
  | words
  /-- After a backslash. -/
  | escape
  /-- Inside an escape by number, with so many digits left. -/
  | digits (left value : Nat)
  /-- After a backslash at the end of a line, in the space that does not count; `crossed` says that the
  line has ended. -/
  | gap (crossed : Bool)
  /-- After a carriage return, which a newline must follow; `counts` says that the line end is text. -/
  | lineEnd (counts : Bool)
  /-- After quotes. -/
  | quotes (count : Nat)

/-- How reading goes on after a character. -/
inductive Next where
  | refused
  | more (text : List Char) (mode : Mode)
  /-- The text had ended before the character. -/
  | ended (text : List Char)

/-- A character after a backslash. -/
def Next.ofEscape (text : List Char) (c : Char) : Next :=
  match escapeDigits? c with
  | some n => .more text (.digits n 0)
  | none =>
    match escaped? c with
    | some e => .more (e :: text) .words
    | none => .refused

/-- A digit of an escape by number. -/
def Next.ofDigit (text : List Char) (left value : Nat) (c : Char) : Next :=
  match Text.digitBelow? 16 c with
  | none => .refused
  | some d =>
    if 1 < left then .more text (.digits (left - 1) (value * 16 + d))
    else if (value * 16 + d).isValidChar then .more (Char.ofNat (value * 16 + d) :: text) .words
    else .refused

/-! ## One line -/

/-- Text with escapes on one line. -/
def basic? (text : List Char) : Mode → List Char → Option (String × List Char)
  | _, [] => none
  | mode, c :: cs =>
    let next := match mode with
      | .escape => Next.ofEscape text c
      | .digits left value => Next.ofDigit text left value c
      | _ =>
        if c == '"' then .ended text
        else if c == '\\' then .more text .escape
        else if isForbidden c then .refused
        else .more (c :: text) .words
    match next with
    | .refused => none
    | .more text mode => basic? text mode cs
    | .ended text => some (String.ofList text.reverse, cs)

/-- Text without escapes on one line. -/
def literal? (cs : List Char) : Option (String × List Char) :=
  match cs.span (· != apostrophe) with
  | (text, _ :: rest) => if text.any isForbidden then none else some (String.ofList text, rest)
  | (_, []) => none

/-! ## Several lines -/

/-- A character of text on several lines. -/
def Next.ofWords (quote : Char) (text : List Char) (c : Char) : Next :=
  if c == quote then .more text (.quotes 1)
  else if c == '\\' && quote == '"' then .more text .escape
  else if c == '\n' then .more (c :: text) .words
  else if c == '\r' then .more (c :: text) (.lineEnd true)
  else if isForbidden c then .refused
  else .more (c :: text) .words

/-- One more character of text on several lines.  Of the quotes at the end three close the text, and up
to two before them belong to it. -/
def Next.of (quote : Char) (text : List Char) (mode : Mode) (c : Char) : Next :=
  match mode with
  | .words => .ofWords quote text c
  | .escape =>
    if c == ' ' || c == '\t' then .more text (.gap false)
    else if c == '\n' then .more text (.gap true)
    else if c == '\r' then .more text (.lineEnd false)
    else .ofEscape text c
  | .digits left value => .ofDigit text left value c
  | .gap crossed =>
    if c == ' ' || c == '\t' then .more text (.gap crossed)
    else if c == '\n' then .more text (.gap true)
    else if c == '\r' then .more text (.lineEnd false)
    else if crossed then .ofWords quote text c
    else .refused
  | .lineEnd counts =>
    if c != '\n' then .refused
    else if counts then .more (c :: text) .words
    else .more text (.gap true)
  | .quotes n =>
    if c == quote && n < 5 then .more text (.quotes (n + 1))
    else if 3 ≤ n then .ended (List.replicate (n - 3) quote ++ text)
    else .ofWords quote (List.replicate n quote ++ text) c

/-- Text on several lines. -/
def lines? (quote : Char) (text : List Char) (mode : Mode) :
    List Char → Option (String × List Char)
  | [] =>
    match mode with
    | .quotes n =>
      if 3 ≤ n then some (String.ofList (List.replicate (n - 3) quote ++ text).reverse, [])
      else none
    | _ => none
  | c :: cs =>
    match Next.of quote text mode c with
    | .refused => none
    | .more text mode => lines? quote text mode cs
    | .ended text => some (String.ofList text.reverse, c :: cs)

/-- The text without the line end that directly follows the opening quotes. -/
def dropLineEnd : List Char → List Char
  | '\n' :: cs => cs
  | '\r' :: '\n' :: cs => cs
  | cs => cs

/-! ## All quoted text -/

/-- Quoted text on one line, or none if no quote starts it. -/
def quoted? : List Char → Option (String × List Char)
  | c :: cs =>
    if c == '"' then basic? [] .words cs
    else if c == apostrophe then literal? cs
    else none
  | [] => none

/-- Quoted text, or none if no quote starts it. -/
def text? : List Char → Option (String × List Char)
  | a :: b :: c :: cs =>
    if (a == '"' || a == apostrophe) && b == a && c == a then lines? a [] .words (dropLineEnd cs)
    else quoted? (a :: b :: c :: cs)
  | cs => quoted? cs

end LogOperator.Toml
