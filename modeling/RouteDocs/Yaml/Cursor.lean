import RouteDocs.Text.Lines

/-!
Places in a YAML text, and readers of characters, which move from one place on to a later one.
-/

namespace RouteDocs.Yaml

/-- why a text has no value -/
inductive Fault where
  /-- the text is not well formed -/
  | malformed
  /-- a scalar is written like one of its kind, and there is none such -/
  | badScalar
  /-- the code point of an escape has more than 31 bits -/
  | hugeCodePoint
  /-- a number has no digits and no sign -/
  | emptyNumber
  /-- a word means neither yes nor no -/
  | unknownWord (word : String)
  /-- a text is no date -/
  | notDate
  /-- something else than a scalar is given for a date -/
  | dateOfMapping
  /-- a number that is not whole has too many parts of sixty -/
  | tooManyParts
deriving DecidableEq

def Fault.message : Fault → String
  | .malformed => "not well-formed YAML"
  | .badScalar => "a scalar is out of range"
  | .hugeCodePoint => "an escape stands for no character"
  | .emptyNumber => "a number has no digits"
  | .unknownWord word => s!"{word} means neither yes nor no"
  | .notDate => "a date is not written as one"
  | .dateOfMapping => "a date is not a text"
  | .tooManyParts => "a number has too many parts"

def isBreak (c : Char) : Bool := c == '\n' || c == '\x85' || c == '\u2028' || c == '\u2029'

/-- a space or a tab -/
def isGap (c : Char) : Bool := c == ' ' || c == '\t'

/-- is this the end of a text, a line end or a space? -/
def endsWord : Option Char → Bool
  | none => true
  | some c => c == ' ' || isBreak c

/-- is this the end of a text, a line end, a space or a tab? -/
def endsToken : Option Char → Bool
  | none => true
  | some c => isGap c || isBreak c

/-- is this the end of a text or a line end? -/
def endsLine : Option Char → Bool
  | none => true
  | some c => isBreak c

/-- do three equal marks that separate documents stand at the front? -/
def atMark (mark : Char) : List Char → Bool
  | a :: b :: c :: rest => a == mark && b == mark && c == mark && endsToken rest.head?
  | _ => false

/-- does a mark that separates documents stand at the front? -/
def atSeparator (s : List Char) : Bool := atMark '-' s || atMark '.' s

/-- a place in a text: what comes after it, and how many characters, lines and columns come before it -/
structure Cursor where
  rest : List Char
  index : Nat
  line : Nat
  column : Nat
deriving DecidableEq

namespace Cursor

def start (s : List Char) : Cursor := ⟨s, 0, 0, 0⟩

/-- the place after the next character; a byte order mark takes no column -/
def next (c : Cursor) : Cursor :=
  match c.rest with
  | [] => c
  | ch :: rest =>
    if isBreak ch then ⟨rest, c.index + 1, c.line + 1, 0⟩
    else if ch == '\ufeff' then ⟨rest, c.index + 1, c.line, c.column⟩
    else ⟨rest, c.index + 1, c.line, c.column + 1⟩

def forward : Nat → Cursor → Cursor
  | 0, c => c
  | n + 1, c => forward n c.next

end Cursor

abbrev CharReader (α : Type) := StateT Cursor (Except Fault) α

namespace CharReader

def fail {α : Type} : CharReader α := fun _ => .error .malformed

def remaining : CharReader (List Char) := do return (← get).rest

def peek : CharReader (Option Char) := do return (← remaining).head?

def skip (n : Nat) : CharReader Unit := modify (Cursor.forward n)

/-- move on while characters satisfy `p`, and give them -/
def takeWhile (p : Char → Bool) : CharReader (List Char) := do
  let run := (← remaining).takeWhile p
  skip run.length
  return run

def skipWhile (p : Char → Bool) : CharReader Unit := do
  let _ ← takeWhile p

/-- move on past a line end, if there is one; a line or paragraph separator stays what it is -/
def lineBreak : CharReader (List Char) := do
  match ← peek with
  | none => return []
  | some c =>
    if isBreak c then
      skip 1
      return [if c == '\x85' then '\n' else c]
    else return []

/-- move on to the end of the line if a comment is next -/
def skipComment : CharReader Unit := do
  if (← peek) == some '#' then skipWhile (!isBreak ·)

/-- move on past the end of a line that holds nothing more than spaces and a comment -/
def finishLine : CharReader Unit := do
  skipWhile (· == ' ')
  skipComment
  if endsLine (← peek) then
    let _ ← lineBreak
  else fail

end CharReader

end RouteDocs.Yaml
