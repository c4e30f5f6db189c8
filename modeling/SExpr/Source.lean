import SExpr.LetElimination
import SExpr.Reader.Program

/-!
# Rewriting source text

Source text is read as data and every datum is rewritten as code without `let`.
A source that cannot be read to its end is not rewritten at all.
-/

namespace SExpr

/-- Read all data of a source and rewrite each one. -/
def rewriteSource (source : List Char) : Except Error (List Datum) :=
  match readProgram source with
  | .ok data => withoutLets data
  | .error error => .error error

/-- The printed forms of the rewritten data of a source. -/
def respond (source : List Char) : Except Error (List (List Char)) :=
  (rewriteSource source).map fun data => data.map Datum.written

/-- Lines of text, each with a line feed at its end. -/
def unlines (lines : List (List Char)) : List Char :=
  lines.flatMap fun line => line ++ ['\n']

@[simp] theorem unlines_nil : unlines [] = [] := rfl

@[simp] theorem unlines_cons
    (line : List Char)
    (lines : List (List Char)) :
    unlines (line :: lines) = line ++ '\n' :: unlines lines := by
  simp [unlines]

@[simp] theorem unlines_append
    (first second : List (List Char)) :
    unlines (first ++ second) = unlines first ++ unlines second := by
  simp [unlines]

end SExpr
