import LogOperator.Text.Lines

/-!
# LogOperator.Config.Section

Sections of a configuration in the collector's classic format: a header in brackets, then one line per
entry, indented by four spaces, with the values of a section aligned one space after its longest key.
Sections are separated by an empty line.
-/

namespace LogOperator

/-- A section: its header and its entries, in order. -/
structure Section where
  header : String
  entries : List (String × String)
deriving DecidableEq, Inhabited

namespace Section

/-- The length of the longest key. -/
def width (s : Section) : Nat :=
  (s.entries.map fun e => e.1.length).foldl max 0

/-- The line of an entry in a section of the given width. -/
def entryLine (width : Nat) (e : String × String) : String :=
  "    " ++ Text.padRight width e.1 ++ " " ++ e.2

def lines (s : Section) : List String :=
  ("[" ++ s.header ++ "]") :: s.entries.map (entryLine s.width)

def render (sections : List Section) : String :=
  Text.unlines (Text.spaced (sections.map lines))

end Section

end LogOperator
