import RouteDocs.Generation
import RouteDocs.Source.Docstring
import RouteDocs.Source.Grammar.Statement
import RouteDocs.Source.Lexer
import RouteDocs.Source.Printer

/-!
What a source text holds: functions with the comments attached to them, and classes with annotated fields. Functions
are looked for at the top and directly in classes, classes at the top only.
-/

namespace RouteDocs.Source

open Schema Text

/-- why a text has no statements -/
inductive SourceError where
  /-- the text holds the null character -/
  | nullCharacter
  /-- the text is not well formed -/
  | malformed
  /-- an expression of the text cannot be written as text again -/
  | unwritable
deriving DecidableEq

/-! ## Statements of a text -/

/-- a line on which one of the tokens begins -/
abbrev LineOf (ts : List (Token Nat)) := { n : Nat // n ∈ ts.map Token.place }

/-- tokens whose places are known to be lines of tokens -/
def locate (ts : List (Token Nat)) : List (Token (LineOf ts)) :=
  ts.attach.map fun t => ⟨t.1.lexeme, t.1.place, List.mem_map_of_mem t.2⟩

/-- the statements of a text, and the tokens that they are made of -/
structure Parsed where
  tokens : List (Token Nat)
  body : List (Stmt (LineOf tokens))

def parse (text : List Char) : Except SourceError Parsed :=
  if text.contains '\x00' then .error .nullCharacter
  else match tokens? text with
    | none => .error .malformed
    | some ts => match module? (locate ts) with
      | none => .error .malformed
      | some body => .ok ⟨ts, body⟩

/-! ## Comments -/

def isComment (line : List Char) : Bool := (trim line).head? == some '#'

/-- the comment lines directly before the line of a number -/
def commentsAbove (lines : List (List Char)) (line : Nat) : List (List Char) :=
  ((lines.take (line - 1)).reverse.takeWhile isComment).reverse

/-! ## Functions and classes -/

variable {π : Type}

/-- the line on which a function begins, that of its first decorator included -/
def firstLine (lineOf : π → Nat) (place : π) (decorators : List (Decorator π)) : Nat :=
  (decorators.map fun d => lineOf d.place).foldl min (lineOf place)

/-- is the parameter one that a caller names or counts, and not a collection of the remaining ones? -/
def Param.isSingle (p : Param) : Bool := p.kind != .rest && p.kind != .restNames

def annotationTexts (params : List Param) : List String :=
  (params.filter Param.isSingle).filterMap fun p => p.type.map Expr.text

/-- the candidate for a function, given the lines of the text and the name of the class around the function -/
def candidate? (module : String) (lines : List (List Char)) (lineOf : π → Nat) (owner : Option String) :
    Stmt π → Option Candidate
  | .function place name params decorators body =>
    some {
      signature := {
        name := name
        qualname := match owner with
          | some c => c ++ "." ++ name
          | none => name
        module := module
        annotations := annotationTexts params
        decorators := decorators.map fun d => d.expr.text }
      comments := (commentsAbove lines (firstLine lineOf place decorators)).map String.ofList
        ++ Docstring.linesOf body }
  | _ => none

/-- are these the first letters of an annotation that does not stand for a field? -/
def isClassVariable (type : String) : Bool :=
  "ClassVar".toList.isPrefixOf type.toList || "typing.ClassVar".toList.isPrefixOf type.toList

/-- the field that a statement of a class declares -/
def field? : Stmt π → Option Field
  | .annotated (.name name) type hasValue =>
    let type := type.text
    if ['_'].isPrefixOf name.toList || isClassVariable type then none else some ⟨name, type, !hasValue⟩
  | _ => none

def definition? (module : String) : Stmt π → Option Definition
  | .classDef name bases body => some ⟨name, module, bases.map Expr.text, body.filterMap field?⟩
  | _ => none

/-- the candidates that a statement at the top of a module gives -/
def candidates (module : String) (lines : List (List Char)) (lineOf : π → Nat) : Stmt π → List Candidate
  | .classDef name _ body => body.filterMap (candidate? module lines lineOf (some name))
  | s => (candidate? module lines lineOf none s).toList

/-- the expressions of a function that its candidate shows -/
def signatureExprs (params : List Param) (decorators : List (Decorator π)) : List Expr :=
  (params.filter Param.isSingle).filterMap Param.type ++ decorators.map Decorator.expr

/-- the expressions that a statement of a class shows -/
def memberExprs : Stmt π → List Expr
  | .function _ _ params decorators _ => signatureExprs params decorators
  | .annotated (.name _) type _ => [type]
  | _ => []

/-- the expressions that a statement at the top of a module shows -/
def shownExprs : Stmt π → List Expr
  | .function _ _ params decorators _ => signatureExprs params decorators
  | .classDef _ bases body => bases ++ body.flatMap memberExprs
  | _ => []

/-- what a module holds -/
structure ModuleContents where
  handlers : List Candidate
  types : List Definition
deriving DecidableEq

def scan (module : String) (text : List Char) : Except SourceError ModuleContents := do
  let parsed ← parse text
  let lines := lines text
  if !(parsed.body.flatMap shownExprs).all Expr.hasText then throw .unwritable
  return {
    handlers := parsed.body.flatMap (candidates module lines Subtype.val)
    types := parsed.body.filterMap (definition? module) }

/-- the comment lines of a text and the lines of the docstring at its beginning -/
def annotationLines (text : List Char) : Except SourceError (List String) := do
  let parsed ← parse text
  return ((lines text).filter isComment).map String.ofList ++ Docstring.linesOf parsed.body

end RouteDocs.Source
