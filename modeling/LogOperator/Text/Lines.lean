/-!
# LogOperator.Text.Lines

Texts made of lines.  `unlines` ends every line with a newline, as configuration files
have it; `joinWith` puts a separator between neighbours only, as messages have it.
-/

namespace LogOperator.Text

/-- The lines one after the other, each ended by a newline. -/
def unlines : List String → String
  | [] => ""
  | l :: ls => l ++ "\n" ++ unlines ls

/-- The parts one after the other, with the separator between neighbours. -/
def joinWith (sep : String) : List String → String
  | [] => ""
  | [s] => s
  | s :: t :: rest => s ++ sep ++ joinWith sep (t :: rest)

/-- Blocks of lines with an empty line between neighbours. -/
def spaced : List (List String) → List String
  | [] => []
  | [b] => b
  | b :: c :: rest => b ++ "" :: spaced (c :: rest)

@[simp] theorem unlines_nil : unlines [] = "" := rfl

/-- Lines of two lists stand one after the other. -/
theorem unlines_append (ls ms : List String) : unlines (ls ++ ms) = unlines ls ++ unlines ms := by
  induction ls with
  | nil => simp [unlines]
  | cons l ls ih => simp [unlines, ih, String.append_assoc]

/-- The characters of a text of lines. -/
theorem toList_unlines (ls : List String) :
    (unlines ls).toList = ls.flatMap fun l => l.toList ++ ['\n'] := by
  induction ls with
  | nil => rfl
  | cons l ls ih => simp [unlines, ih, String.toList_append]

/-- Blocks that are texts of their own, joined by a newline, are the spaced lines. -/
theorem joinWith_map_unlines (bs : List (List String)) :
    joinWith "\n" (bs.map unlines) = unlines (spaced bs) := by
  induction bs with
  | nil => rfl
  | cons b bs ih =>
    cases bs with
    | nil => simp [joinWith, spaced]
    | cons c bs =>
      simp only [List.map_cons, joinWith, spaced, unlines_append, unlines] at ih ⊢
      rw [ih]
      simp [String.append_assoc]

/-- A text filled up with spaces on the right to the given number of characters. -/
def padRight (width : Nat) (s : String) : String :=
  s ++ String.ofList (List.replicate (width - s.length) ' ')

end LogOperator.Text
