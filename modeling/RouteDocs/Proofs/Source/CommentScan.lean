/-
The search for the comments of a function as a reading of lines by their positions, from the function upwards.

The number of the function comes from the lexer, which counts the lines of the source file. The positions are those of
lines of the text, which end at further characters too. A text has as many of them as its source file has lines or more,
so that each line that is asked for is there.

- `readUpwards?`: the reading, which breaks off at a position without a line.
- `readUpwards?_of_le`, `readUpwards?_of_lt`: below the last line it breaks off at once, and from there on never.
- `comments_inside_text`: from a function it never breaks off, and it gives the comments that the function has.
-/
import RouteDocs.Proofs.Source.AttachedComments
import RouteDocs.Proofs.Source.LineNumbers

namespace RouteDocs.Source

open Text

/-! ## Reading by positions -/

/-- The comments that a reading collects upwards from a position. The line before the position is read, and joins the
block in front if it is a comment. The reading ends above the first line or at another line. It breaks off where there
is no line to read. -/
def readUpwards? (lines : List (List Char)) :
    (position : Nat) → (block : List (List Char)) → Option (List (List Char))
  | 0, block => some block
  | position + 1, block =>
    match lines[position]? with
    | none => none
    | some line => if isComment line then readUpwards? lines position (line :: block) else some block

variable {ls : List (List Char)} {position : Nat}

theorem commentsAbove_succ {line : List Char} (h : ls[position]? = some line) :
    commentsAbove ls (position + 2)
      = if isComment line then commentsAbove ls (position + 1) ++ [line] else [] := by
  have htake : ls.take (position + 1) = ls.take position ++ [line] := by
    rw [List.take_add_one, h]
    rfl
  calc commentsAbove ls (position + 2)
      = (ls.take (position + 1)).rtakeWhile isComment := rfl
    _ = (ls.take position ++ [line]).rtakeWhile isComment := by rw [htake]
    _ = if isComment line then (ls.take position).rtakeWhile isComment ++ [line] else [] :=
        List.rtakeWhile_concat isComment (ls.take position) line

/-- from a position among the lines every line is there that is read -/
theorem readUpwards?_of_le (h : position ≤ ls.length) (block : List (List Char)) :
    readUpwards? ls position block = some (commentsAbove ls (position + 1) ++ block) := by
  induction position generalizing block with
  | zero => rfl
  | succ position ih =>
    have hline : ls[position]? = some ls[position] := List.getElem?_eq_getElem h
    rw [readUpwards?, commentsAbove_succ hline, hline]
    dsimp only
    split
    · rw [ih (Nat.le_of_lt h), List.append_assoc, List.singleton_append]
    · rfl

/-- from a position below the last line the reading breaks off -/
theorem readUpwards?_of_lt (h : ls.length < position) (block : List (List Char)) :
    readUpwards? ls position block = none := by
  cases position with
  | zero => exact absurd h (Nat.not_lt_zero _)
  | succ position =>
    have hnone : ls[position]? = none := List.getElem?_eq_none (Nat.le_of_lt_succ h)
    rw [readUpwards?, hnone]

/-! ## The lines of functions -/

/-- decorators only bring the first line of a function up -/
theorem firstLine_le {π : Type} (lineOf : π → Nat) (place : π) (decorators : List (Decorator π)) :
    firstLine lineOf place decorators ≤ lineOf place := by
  unfold firstLine
  generalize decorators.map (fun d => lineOf d.place) = ns
  generalize lineOf place = n
  induction ns generalizing n with
  | nil => exact Nat.le_refl n
  | cons m ns ih => exact (ih (min n m)).trans (Nat.min_le_left n m)

theorem tokens?_of_parse {text : List Char} {parsed : Parsed} (h : parse text = .ok parsed) :
    tokens? text = some parsed.tokens := by
  unfold parse at h
  split at h
  · cases h
  · split at h
    · cases h
    · next ts hts =>
      split at h
      · cases h
      · cases h
        exact hts

/-- a function, with whatever decorators, begins at most one line after the last one of the source file -/
theorem FunctionDef.line_le {text : List Char} {parsed : Parsed} (h : parse text = .ok parsed)
    (f : FunctionDef (LineOf parsed.tokens)) : f.line Subtype.val ≤ (sourceLines text).length + 1 := by
  obtain ⟨t, ht, hplace⟩ := List.mem_map.1 f.place.2
  calc f.line Subtype.val ≤ f.place.1 := firstLine_le Subtype.val f.place f.decorators
    _ = t.place := hplace.symm
    _ ≤ (sourceLines text).length + 1 := place_le_of_tokens (tokens?_of_parse h) t ht

/-- **Comments are looked for inside the text.** Every number of a line of the source file is that of a line of the
text. From a function with any decorators, each line that is read on the way up is there, and what is collected is what
the function has for its comments. From any position among any lines, what is collected is the longest run of comment
lines directly before the position; from a position beyond the lines, nothing is. -/
theorem comments_inside_text (text : List Char) :
    (∀ n line, (sourceLines text)[n]? = some line → n + 1 ≤ (lines text).length) ∧
    (∀ parsed, parse text = .ok parsed → ∀ f : FunctionDef (LineOf parsed.tokens),
      readUpwards? (lines text) (f.line Subtype.val - 1) []
        = some (commentsAbove (lines text) (f.line Subtype.val))) ∧
    ∀ (ls : List (List Char)) (position : Nat),
      (position ≤ ls.length →
        ∃ block, readUpwards? ls position [] = some block ∧ RunAbove ls (position + 1) block) ∧
      (ls.length < position → readUpwards? ls position [] = none) := by
  have hlines : (sourceLines text).length ≤ (lines text).length := length_sourceLines_le text
  refine ⟨fun n line hline => ?_, fun parsed hparse f => ?_, fun ls position => ⟨fun h => ?_, fun h => ?_⟩⟩
  · have hn : n < (sourceLines text).length := (List.getElem?_eq_some_iff.1 hline).1
    omega
  · have hline := f.line_le hparse
    have hposition : f.line Subtype.val - 1 ≤ (lines text).length := by omega
    rw [readUpwards?_of_le hposition, List.append_nil]
    rfl
  · refine ⟨commentsAbove ls (position + 1), ?_, runAbove_iff.2 rfl⟩
    rw [readUpwards?_of_le h, List.append_nil]
  · exact readUpwards?_of_lt h []

/-- a decorated function below a comment; its lines are ended in two ways, the last is not, and a comment in it holds a
form feed -/
def mixedSource : List Char := "# @router /ping\r\n@get\rdef ping(): pass # \x0cpong".toList

/-- The comment is read above the decorator, on the second line. Of its three lines the text makes four, and a reading
from below them breaks off. -/
theorem comments_inside_text_mixed :
    (sourceLines mixedSource)[2]? = some "def ping(): pass # \x0cpong".toList ∧ (lines mixedSource).length = 4 ∧
      2 + 1 ≤ (lines mixedSource).length ∧
      (∃ parsed f, parse mixedSource = .ok parsed ∧ parsed.body.flatMap functionDefs = [f] ∧
      f.line Subtype.val = 2 ∧
        readUpwards? (lines mixedSource) (f.line Subtype.val - 1) []
          = some (commentsAbove (lines mixedSource) (f.line Subtype.val)) ∧
        commentsAbove (lines mixedSource) (f.line Subtype.val) = ["# @router /ping".toList]) ∧
      (∃ block, readUpwards? (lines mixedSource) 1 [] = some block ∧ RunAbove (lines mixedSource) 2 block) ∧
      readUpwards? (lines mixedSource) 5 [] = none := by
  have hlast : (sourceLines mixedSource)[2]? = some "def ping(): pass # \x0cpong".toList := by decide +kernel
  have hlength : (lines mixedSource).length = 4 := by decide +kernel
  have hline : (match parse mixedSource with
      | .ok parsed => (parsed.body.flatMap functionDefs).map (FunctionDef.line Subtype.val)
      | .error _ => []) = [2] := by decide +kernel
  obtain ⟨hnumbers, hfunctions, hpositions⟩ := comments_inside_text mixedSource
  refine ⟨hlast, hlength, hnumbers 2 _ hlast, ?_, (hpositions _ 1).1 (by omega), (hpositions _ 5).2 (by omega)⟩
  cases hparse : parse mixedSource with
  | error e =>
    rw [hparse] at hline
    cases hline
  | ok parsed =>
    rw [hparse] at hline
    obtain ⟨f, rest, hdefs, hf, hrest⟩ := List.map_eq_cons_iff.1 hline
    obtain rfl := List.map_eq_nil_iff.1 hrest
    refine ⟨parsed, f, rfl, hdefs, hf, hfunctions parsed hparse f, ?_⟩
    rw [hf]
    decide +kernel

end RouteDocs.Source
