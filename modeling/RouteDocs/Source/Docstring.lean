import RouteDocs.Source.Stmt
import RouteDocs.Text.Blank
import RouteDocs.Text.Lines

/-!
Docstrings: the text at the beginning of a body, without the indentation that it owes to its place. The margin is the
least indentation of the lines after the first; tabs reach to multiples of eight columns.
-/

namespace RouteDocs.Source.Docstring

open Text

/-- tabs replaced by blanks, given the column of the first character -/
def expandTabs : (column : Nat) → List Char → List Char
  | _, [] => []
  | column, c :: rest =>
    if c = '\t' then List.replicate (8 - column % 8) ' ' ++ expandTabs (column + (8 - column % 8)) rest
    else if c = '\n' ∨ c = '\r' then c :: expandTabs 0 rest
    else c :: expandTabs (column + 1) rest

/-- the indentation of a line that is not blank -/
def indentation? (line : List Char) : Option Nat :=
  let content := line.dropWhile isBlank
  if content.isEmpty then none else some (line.length - content.length)

/-- the least indentation of lines, blank ones aside -/
def margin? (lines : List (List Char)) : Option Nat := (lines.filterMap indentation?).min?

def cleanLines (s : List Char) : List (List Char) :=
  match pieces (· == '\n') (expandTabs 0 s) with
  | [] => []
  | first :: rest =>
    let rest := match margin? rest with
      | some m => rest.map (·.drop m)
      | none => rest
    trimWhile List.isEmpty (first.dropWhile isBlank :: rest)

/-- a docstring without its margin and without empty lines at its ends -/
def clean (s : List Char) : List Char := join ['\n'] (cleanLines s)

def ofBody? {π : Type} : List (Stmt π) → Option (List Char)
  | .expression (.constant (.str s _)) :: _ => some (clean s)
  | _ => none

def linesOf {π : Type} (body : List (Stmt π)) : List String :=
  match ofBody? body with
  | some s => (lines s).map String.ofList
  | none => []

end RouteDocs.Source.Docstring
