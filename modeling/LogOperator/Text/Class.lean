/-!
# LogOperator.Text.Class

The character classes that the rules of a pipeline are stated in.  Blanks are the
25 characters with the Unicode property `White_Space`; control characters are the 65
of general category `Cc`.  Both are closed sets, so each is a list of ranges.

* `isBlank`, `isControl`: the two classes of characters; a newline is in both.
* `isToken`, `isDnsLabel`, `isDnsSubdomain`: the three name classes of a pipeline.
-/

namespace LogOperator.Text

/-! ## Characters -/

/-- A character with the Unicode property `White_Space`. -/
def isBlank (c : Char) : Bool :=
  let n := c.toNat
  (0x09 ≤ n && n ≤ 0x0d) || n == 0x20 || n == 0x85 || n == 0xa0 || n == 0x1680
    || (0x2000 ≤ n && n ≤ 0x200a) || n == 0x2028 || n == 0x2029 || n == 0x202f
    || n == 0x205f || n == 0x3000

/-- A character of general category `Cc`: the C0 controls, delete and the C1 controls. -/
def isControl (c : Char) : Bool :=
  let n := c.toNat
  n < 0x20 || (0x7f ≤ n && n ≤ 0x9f)

/-- A newline is a control character, so a text without control characters is one line. -/
theorem isControl_newline : isControl '\n' = true := by decide

/-! ## Whole texts -/

/-- Every character is blank; the empty text counts. -/
def isAllBlank (s : String) : Bool :=
  s.toList.all isBlank

def hasControl (s : String) : Bool :=
  s.toList.any isControl

def hasBlankOrControl (s : String) : Bool :=
  s.toList.any fun c => isBlank c || isControl c

/-! ## Names -/

/-- A character of a token: an ASCII letter or digit, an underscore, a hyphen or a dot. -/
def isTokenChar (c : Char) : Bool :=
  c.isAlphanum || c == '_' || c == '-' || c == '.'

/-- A token is safe inside both configuration dialects. -/
def isToken (s : String) : Bool :=
  !s.toList.isEmpty && s.toList.all isTokenChar

/-- A character of a DNS label: an ASCII lower-case letter, a digit or a hyphen. -/
def isLabelChar (c : Char) : Bool :=
  c.isLower || c.isDigit || c == '-'

/-- A label starts and ends with a letter or digit and has at most 63 characters. -/
def isLabel (cs : List Char) : Bool :=
  !cs.isEmpty && cs.length ≤ 63 && cs.all isLabelChar
    && cs.head?.all (· != '-') && cs.getLast?.all (· != '-')

/-- A name of an RFC 1123 label, as namespaces have. -/
def isDnsLabel (s : String) : Bool :=
  isLabel s.toList

/-- The parts of a text between the occurrences of a separator; one more than there are
separators. -/
def splitAt (sep : Char) : List Char → List (List Char)
  | [] => [[]]
  | c :: cs =>
    if c = sep then [] :: splitAt sep cs
    else match splitAt sep cs with
      | [] => [[c]]
      | part :: parts => (c :: part) :: parts

theorem splitAt_ne_nil (sep : Char) (cs : List Char) : splitAt sep cs ≠ [] := by
  induction cs with
  | nil => simp [splitAt]
  | cons c cs ih =>
    rw [splitAt]
    split
    · simp
    · split <;> simp

/-- A name of an RFC 1123 subdomain, as deployments have: labels joined by dots, of at most
253 bytes. -/
def isDnsSubdomain (s : String) : Bool :=
  s.utf8ByteSize ≤ 253 && (splitAt '.' s.toList).all isLabel

end LogOperator.Text
