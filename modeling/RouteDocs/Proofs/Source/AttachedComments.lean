/-
The comments of a function: the comment lines directly above it, and after them the lines of its docstring.

A function is numbered by the lines of its source file, which end at line feeds and carriage returns. Its comments are
looked for among the lines of the text, which end at further characters too. So a function gets the comments above the
line of the text that has its number. They are the ones above the function itself as long as no line above it holds a
character that ends lines of a text only.

- `runAbove_iff`: what is looked up is the longest run of comment lines directly above a line.
- `scan_comments`: which comments the candidates of a module have.
- `scan_comments_formFeed`: a function that loses its comments to a form feed.
-/
import Mathlib.Data.List.Forall2
import RouteDocs.Proofs.Project.Scanning
import RouteDocs.Proofs.Text.Blank
import RouteDocs.Proofs.Text.Lines

namespace RouteDocs.Source

open Text

/-! ## Runs of comments -/

/-- a line whose first character that is no blank is a hash sign -/
def CommentLine (line : List Char) : Prop := ∃ left rest, Blanks left ∧ line = left ++ '#' :: rest

theorem isComment_iff {line : List Char} : isComment line = true ↔ CommentLine line := by
  rw [isComment, beq_iff_eq]
  constructor
  · intro h
    have hleft : Blanks (line.takeWhile isBlank) := fun c hc => List.mem_takeWhile_imp hc
    have hline := List.takeWhile_append_dropWhile (p := isBlank) (l := line)
    rw [← hline, trim_append_left hleft] at h
    cases hrest : line.dropWhile isBlank with
    | nil =>
      rw [hrest] at h
      cases h
    | cons c rest =>
      have hc : isBlank c = false := by
        have := List.head_dropWhile_not isBlank (by rw [hrest]; exact List.cons_ne_nil c rest)
        simpa [hrest] using this
      rw [hrest, trim_cons hc, List.head?_cons] at h
      rw [← hline, hrest, Option.some.inj h]
      exact ⟨_, rest, hleft, rfl⟩
  · rintro ⟨left, rest, hleft, rfl⟩
    rw [trim_append_left hleft, trim_cons (by decide)]
    rfl

/-- a block is the longest run of comment lines directly above the line of a number -/
def RunAbove (lines : List (List Char)) (line : Nat) (block : List (List Char)) : Prop :=
  ∃ before, lines.take (line - 1) = before ++ block ∧ (∀ l ∈ block, CommentLine l) ∧
    ∀ l ∈ before.getLast?, ¬ CommentLine l

/-- what is looked up is the longest run of comment lines directly above a line -/
theorem runAbove_iff {lines : List (List Char)} {line : Nat} {block : List (List Char)} :
    RunAbove lines line block ↔ commentsAbove lines line = block := by
  unfold RunAbove commentsAbove
  simp only [← isComment_iff, Bool.not_eq_true]
  generalize lines.take (line - 1) = above
  constructor
  · rintro ⟨before, rfl, hblock, hbefore⟩
    rw [List.reverse_append, takeWhile_run (by simpa using hblock) (by simpa using hbefore), List.reverse_reverse]
  · rintro rfl
    refine ⟨above.rdropWhile isComment, (List.rdropWhile_append_rtakeWhile ..).symm,
      fun l hl => List.mem_rtakeWhile_imp hl, fun l hl => ?_⟩
    have hne : above.rdropWhile isComment ≠ [] := by
      intro h
      rw [h] at hl
      cases hl
    have hlast := List.rdropWhile_last_not isComment above hne
    rw [List.getLast?_eq_getLast_of_ne_nil hne] at hl
    rw [← Option.some.inj hl]
    exact Bool.eq_false_iff.2 hlast

/-! ## The functions of a module -/

variable {π : Type}

/-- a function definition, and the name of the class that it stands in -/
structure FunctionDef (π : Type) where
  owner : Option String
  /-- where its first keyword stands -/
  place : π
  name : String
  decorators : List (Decorator π)
  body : List (Stmt π)

namespace FunctionDef

/-- the name of the function, with that of its class before it -/
def qualname (f : FunctionDef π) : String :=
  match f.owner with
  | some c => c ++ "." ++ f.name
  | none => f.name

/-- the first of the lines on which the expressions of its decorators and its first keyword begin -/
def line (lineOf : π → Nat) (f : FunctionDef π) : Nat := firstLine lineOf f.place f.decorators

/-- comments are the run of comment lines directly above the function, and after it the lines of its docstring -/
def HasComments (lineOf : π → Nat) (lines : List (List Char)) (f : FunctionDef π) (comments : List String) : Prop :=
  ∃ block, RunAbove lines (f.line lineOf) block ∧ comments = block.map String.ofList ++ Docstring.linesOf f.body

end FunctionDef

def functionDef? (owner : Option String) : Stmt π → Option (FunctionDef π)
  | .function place name _ decorators body => some ⟨owner, place, name, decorators, body⟩
  | _ => none

/-- the functions that a statement at the top of a module defines, or holds directly as a class -/
def functionDefs : Stmt π → List (FunctionDef π)
  | .classDef name _ body => body.filterMap (functionDef? (some name))
  | s => (functionDef? none s).toList

/-- a candidate is made for a function, with the comments that it has -/
structure MadeFor (module : String) (lineOf : π → Nat) (lines : List (List Char)) (f : FunctionDef π)
    (c : Candidate) : Prop where
  module : c.signature.module = module
  name : c.signature.name = f.name
  qualname : c.signature.qualname = f.qualname
  comments : f.HasComments lineOf lines c.comments

theorem candidate_madeFor (module : String) (lines : List (List Char)) (lineOf : π → Nat) (owner : Option String)
    (s : Stmt π) :
    Option.Rel (MadeFor module lineOf lines) (functionDef? owner s) (candidate? module lines lineOf owner s) := by
  cases s with
  | function place name params decorators body =>
    refine .some ⟨rfl, rfl, rfl, _, runAbove_iff.2 rfl, rfl⟩
  | _ => exact .none

theorem candidates_madeFor (module : String) (lines : List (List Char)) (lineOf : π → Nat) (s : Stmt π) :
    List.Forall₂ (MadeFor module lineOf lines) (functionDefs s) (candidates module lines lineOf s) := by
  have htop := candidate_madeFor module lines lineOf none s
  have hone {f : Option (FunctionDef π)} {c : Option Candidate} (h : Option.Rel (MadeFor module lineOf lines) f c) :
      List.Forall₂ (MadeFor module lineOf lines) f.toList c.toList := by
    cases h with
    | none => exact .nil
    | some h => exact .cons h .nil
  cases s with
  | classDef name bases body =>
    refine List.rel_filterMap (R := Eq) ?_ (List.forall₂_same.2 fun _ _ => rfl)
    rintro s _ rfl
    exact candidate_madeFor module lines lineOf (some name) s
  | _ => exact hone htop

/-- **Comments attached to functions.** The candidates of a module are its functions at the top and directly in
classes, in their order. The comments of each are the longest run of comment lines directly above the line of the text
that has the number of the function, and the lines of its docstring. This is the line of the source file on which the
function begins, as long as the lines above it hold nothing that ends a line of a text. -/
theorem scan_comments {module : String} {text : List Char} {contents : ModuleContents}
    (h : scan module text = .ok contents) :
    ∃ parsed, parse text = .ok parsed ∧
      List.Forall₂ (fun f c => MadeFor module Subtype.val (lines text) f c ∧
          ((∀ l ∈ (sourceLines text).take (f.line Subtype.val - 1), ∀ ch ∈ l, endsTextLine ch = false) →
            f.HasComments Subtype.val (sourceLines text) c.comments))
        (parsed.body.flatMap functionDefs) contents.handlers := by
  cases hparse : parse text with
  | error e =>
    rw [scan, hparse] at h
    cases h
  | ok parsed =>
    refine ⟨parsed, rfl, ?_⟩
    have hhandlers : contents.handlers = parsed.body.flatMap (candidates module (lines text) Subtype.val) := by
      rw [scan, hparse] at h
      cases hshown : (parsed.body.flatMap shownExprs).all Expr.hasText with
      | false => simp [bind, Except.bind, hshown] at h
      | true =>
        simp only [bind, Except.bind, hshown] at h
        exact (congrArg ModuleContents.handlers (Except.ok.inj h)).symm
    have hmade : List.Forall₂ (MadeFor module Subtype.val (lines text)) (parsed.body.flatMap functionDefs)
        contents.handlers := by
      rw [hhandlers]
      refine List.rel_flatMap (R := Eq) (List.forall₂_same.2 fun _ _ => rfl) ?_
      rintro s _ rfl
      exact candidates_madeFor module (lines text) Subtype.val s
    refine hmade.imp fun f c hfc => ⟨hfc, fun hplain => ?_⟩
    obtain ⟨block, ⟨before, hsplit, hrun⟩, hcomments⟩ := hfc.comments
    rw [take_lines_eq_iff.2 hplain] at hsplit
    exact ⟨block, ⟨before, hsplit, hrun⟩, hcomments⟩

/-- two functions, the first of them decorated and in a class -/
def petSource : List Char :=
  ("class Pets:\n    # @router /pets\n    # list them\n    @get\n    def index(self): pass\n\n"
    ++ "# @router /ping\ndef ping(): 'alive'\n").toList

def petCandidates : List Candidate := [
  ⟨⟨"index", "Pets.index", "app", [], ["get"]⟩, ["    # @router /pets", "    # list them"]⟩,
  ⟨⟨"ping", "ping", "app", [], []⟩, ["# @router /ping", "alive"]⟩]

/-- A method has the comments above its decorator, and a function those above it and its docstring. -/
theorem scan_comments_pets :
    scan "app" petSource = .ok ⟨petCandidates, [⟨"Pets", "app", [], []⟩]⟩ ∧
      ∃ parsed, parse petSource = .ok parsed ∧
        List.Forall₂ (fun f c => MadeFor "app" Subtype.val (lines petSource) f c ∧
            ((∀ l ∈ (sourceLines petSource).take (f.line Subtype.val - 1),
                ∀ ch ∈ l, endsTextLine ch = false) →
              f.HasComments Subtype.val (sourceLines petSource) c.comments))
          (parsed.body.flatMap functionDefs) petCandidates := by
  have hscan : scan "app" petSource = .ok ⟨petCandidates, [⟨"Pets", "app", [], []⟩]⟩ := by decide +kernel
  exact ⟨hscan, scan_comments hscan⟩

/-- a function with a comment, below a line that holds nothing but a form feed -/
def formFeedSource : List Char := "\x0c\n# @router /ping\ndef ping(ctx: Context):\n    pass\n".toList

/-- **A lost comment.** The comment stands directly above the function, which is on the third line of the source file.
The third line of the text is the comment itself, so the function gets none. -/
theorem scan_comments_formFeed :
    ∃ parsed f c, parse formFeedSource = .ok parsed ∧ parsed.body.flatMap functionDefs = [f] ∧
      scan "app" formFeedSource = .ok ⟨[c], []⟩ ∧
      RunAbove (sourceLines formFeedSource) (f.line Subtype.val) ["# @router /ping".toList] ∧ c.comments = [] ∧
      ¬ f.HasComments Subtype.val (sourceLines formFeedSource) c.comments := by
  have hlines : (match parse formFeedSource with
      | .ok parsed => (parsed.body.flatMap functionDefs).map (FunctionDef.line Subtype.val)
      | .error _ => []) = [3] := by decide +kernel
  have hrun : RunAbove (sourceLines formFeedSource) 3 ["# @router /ping".toList] :=
    runAbove_iff.2 (by decide +kernel)
  cases hparse : parse formFeedSource with
  | error e =>
    rw [hparse] at hlines
    cases hlines
  | ok parsed =>
    rw [hparse] at hlines
    obtain ⟨f, rest, hdefs, hline, hrest⟩ := List.map_eq_cons_iff.1 hlines
    obtain rfl := List.map_eq_nil_iff.1 hrest
    refine ⟨parsed, f, ⟨⟨"ping", "ping", "app", ["Context"], []⟩, []⟩, rfl, hdefs,
      by decide +kernel, ?_, rfl, ?_⟩
    · rw [hline]
      exact hrun
    · rintro ⟨block, hblock, hcomments⟩
      rw [hline, runAbove_iff, runAbove_iff.1 hrun] at hblock
      rw [← hblock] at hcomments
      cases hcomments

end RouteDocs.Source
