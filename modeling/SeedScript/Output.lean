import SeedScript.Files

/-!
# Output

Generated SQL is written with exactly one line end after it.
-/

namespace SeedScript.Output

def withoutLineEnds (cs : List Char) : List Char := (cs.reverse.dropWhile (· == '\n')).reverse

/-- What is written for generated SQL. -/
def textOf (sql : String) : String := String.ofList (withoutLineEnds sql.toList ++ ['\n'])

/-- Writes generated SQL to a file. -/
def save (fs : Files) (path sql : String) : Except SeedError Files :=
  match fs.write? path (.text (textOf sql)) with
  | some fs => .ok fs
  | none => .error .unwritable

/-- Text that does not end in a line end is kept whole. -/
theorem textOf_append (s : String) {c : Char} (h : c ≠ '\n') :
    textOf (s ++ String.singleton c) = s ++ String.singleton c ++ "\n" := by
  rw [← String.toList_inj]
  simp [textOf, withoutLineEnds, h]

end SeedScript.Output
