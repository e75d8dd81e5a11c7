import RouteDocs.Numeral.Integer
import RouteDocs.Text.Blank
import RouteDocs.Text.Quoted
import RouteDocs.Text.Upper
import RouteDocs.Text.Word

/-!
Directives: the comment lines that document a handler.

    # @Title getPet
    # @Description find a pet by id
    # @Param id path int true "pet id"
    # @Success 200 {object} Pet
    # @Failure 404 Pet not found
    # @Accept json,xml
    # @router /pets/{id} [get]

A line is a directive if its first word, after the comment marker, is one of the seven tokens; every other line is
prose. `Directive.ofLine` reads a line without looking at anything but the line.
-/

namespace RouteDocs

open Text

inductive DirectiveKind where
  | router
  | title
  | description
  | success
  | param
  | failure
  | accept
deriving DecidableEq

namespace DirectiveKind

def token : DirectiveKind → String
  | router => "@router"
  | title => "@Title"
  | description => "@Description"
  | success => "@Success"
  | param => "@Param"
  | failure => "@Failure"
  | accept => "@Accept"

def all : List DirectiveKind := [router, title, description, success, param, failure, accept]

def ofToken? (token : List Char) : Option DirectiveKind := all.find? fun k => k.token.toList == token

end DirectiveKind

/-- what a directive says -/
inductive Directive where
  | router (path method : String)
  | title (text : String)
  | description (text : String)
  | param (name paramType dataType : String) (required : Bool) (description : String)
  | failure (code : Int) (message : String)
  | successMessage (code : Int) (message : String)
  /-- a response whose body is of a type, or an array of it -/
  | successType (code : Int) (isArray : Bool) (ref : String)
  | accept (tokens : List String)
deriving DecidableEq

/-- what is wrong with a directive -/
inductive DirectiveFault where
  | missingPath
  | missingCode
  | nonIntegerCode (token : String)
  /-- the marker of an object or array is not followed by a type -/
  | missingType (marker : String)
  | malformedParam
deriving DecidableEq

structure DirectiveError where
  kind : DirectiveKind
  line : String
  fault : DirectiveFault
deriving DecidableEq

def DirectiveFault.reason : DirectiveFault → String
  | missingPath => "route path is required"
  | missingCode => "status code is required"
  | nonIntegerCode token => s!"status code {quoted token} is not an integer"
  | missingType marker => s!"{marker} must be followed by a type"
  | malformedParam => "expected: name paramType dataType required \"description\""

def DirectiveError.message (e : DirectiveError) : String :=
  s!"{e.kind.token}: {e.fault.reason} (line: {quoted e.line})"

/-- a comment line without its marker, any run of `#` and `/`, and without the blanks around what remains -/
def stripMarker (line : List Char) : List Char :=
  trim ((trim line).dropWhile fun c => c == '#' || c == '/')

namespace Directive

/-! ## The grammars of the directives -/

def isBracket (c : Char) : Bool := c == '[' || c == ']'

/-- a path, and a method that may stand in brackets -/
def parseRouter (rest : List Char) : Except DirectiveFault Directive :=
  match words rest with
  | [] => .error .missingPath
  | [path] => .ok (.router (String.ofList path) "GET")
  | path :: method :: _ =>
    .ok (.router (String.ofList path) (String.ofList (upper (trimWhile isBracket method))))

def parseCode (token : List Char) : Except DirectiveFault Int :=
  match Numeral.integer? token with
  | some n => .ok n
  | none => .error (.nonIntegerCode (String.ofList token))

/-- the marker of a response that is one object -/
def objectMarker : List Char := "\x7bobject\x7d".toList

/-- the marker of a response that is an array -/
def arrayMarker : List Char := "\x7barray\x7d".toList

/-- a status code, then a marker with a type, or a message whose first word of several is left out -/
def parseSuccess (rest : List Char) : Except DirectiveFault Directive :=
  match words rest with
  | [] => .error .missingCode
  | token :: parts => do
    let code ← parseCode token
    match parts with
    | [] => return .successMessage code ""
    | marker :: others =>
      if marker = objectMarker ∨ marker = arrayMarker then
        match others with
        | [] => .error (.missingType (String.ofList marker))
        | ref :: _ => return .successType code (marker = arrayMarker) (String.ofList ref)
      else
        match others with
        | [] => return .successMessage code (String.ofList marker)
        | _ => return .successMessage code (String.ofList (join [' '] others))

def parseFailure (rest : List Char) : Except DirectiveFault Directive :=
  match firstWord rest with
  | ([], _) => .error .missingCode
  | (token, message) => do return .failure (← parseCode token) (String.ofList (trim message))

/-- a run of characters in a class with blanks after it, both of them not empty -/
def spaced? (p : Char → Bool) (s : List Char) : Option (List Char × List Char) :=
  let word := s.takeWhile p
  let rest := s.dropWhile p
  let after := rest.dropWhile isBlank
  if word.isEmpty || rest.length == after.length then none else some (word, after)

/-- a character of a data type: a word character, a point or a bracket -/
def isTypeChar (c : Char) : Bool := isWord c || c == '.' || isBracket c

/-- is the word `true`, in small or capital letters? -/
def isTrue (word : List Char) : Bool := word.map Char.toLower == ['t', 'r', 'u', 'e']

/-- the five parts of a parameter at the front of a text -/
def paramAt? (s : List Char) : Option Directive := do
  let (name, s) ← spaced? isWord s
  let (paramType, s) ← spaced? isWord s
  let (dataType, s) ← spaced? isTypeChar s
  let (required, s) ← spaced? isWord s
  match s with
  | '"' :: s =>
    let description := s.takeWhile (· != '"')
    if description.isEmpty || (s.dropWhile (· != '"')).isEmpty then none
    else
      return .param (String.ofList name) (String.ofList paramType) (String.ofList dataType) (isTrue required)
        (String.ofList description)
  | _ => none

/-- the first place of a text where the five parts of a parameter stand -/
def findParam? : List Char → Option Directive
  | [] => none
  | c :: rest => (paramAt? (c :: rest)).or (findParam? rest)

/-- a parameter, wherever it stands -/
def parseParam (rest : List Char) : Except DirectiveFault Directive :=
  match findParam? rest with
  | some d => .ok d
  | none => .error .malformedParam

def parseAccept (rest : List Char) : Directive :=
  .accept ((((pieces (· == ',') rest).map trim).filter fun t => !t.isEmpty).map String.ofList)

/-- read the text after the token of a directive -/
def parse : DirectiveKind → List Char → Except DirectiveFault Directive
  | .router, rest => parseRouter rest
  | .title, rest => .ok (.title (String.ofList rest))
  | .description, rest => .ok (.description (String.ofList rest))
  | .success, rest => parseSuccess rest
  | .param, rest => parseParam rest
  | .failure, rest => parseFailure rest
  | .accept, rest => .ok (parseAccept rest)

/-- the kind of a line without its marker, and the text after the token -/
def dispatch (line : List Char) : Option (DirectiveKind × List Char) :=
  (DirectiveKind.ofToken? (line.takeWhile (!isBlank ·))).map fun kind => (kind, trim (line.dropWhile (!isBlank ·)))

/-- read a comment line: nothing for prose -/
def ofLine (raw : String) : Option (Except DirectiveError Directive) :=
  let line := stripMarker raw.toList
  (dispatch line).map fun (kind, rest) =>
    (parse kind rest).mapError fun fault => ⟨kind, String.ofList line, fault⟩

end Directive

end RouteDocs
