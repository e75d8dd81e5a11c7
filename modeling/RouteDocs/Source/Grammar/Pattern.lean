import RouteDocs.Source.Grammar.Expression

/-!
Readers for the patterns of a case. What a pattern is, nobody asks: it only has to be well formed.
-/

namespace RouteDocs.Source.Grammar

variable {π : Type}

/-! ## Names and constants -/

/-- a name with names after points -/
def dottedName : Reader π Unit := do
  let _ ← sepBy "." identifier

def isImaginary (raw : List Char) : Bool := raw.getLast? == some 'j' || raw.getLast? == some 'J'

/-- a number that has a value, and whether it is imaginary -/
def patternNumber : Reader π Bool := do
  match ← next with
  | .number raw => if (Literal.number? raw).isSome then return isImaginary raw else fail
  | _ => fail

/-- a number with a sign perhaps; after a real one an imaginary part may be added -/
def numberPattern : Reader π Unit := do
  let _ ← acceptOp "-"
  let imaginary ← patternNumber
  if ← acceptOpIn ["+", "-"] then
    let added ← patternNumber
    if imaginary || !added then fail

/-- a constant: a number, a string, or one of the words for constants -/
def constantPattern (r : Rules π) : Reader π Unit := do
  match ← peek with
  | some (.name s) =>
    if s ∈ ["None", "True", "False"] then
      let _ ← next
    else fail
  | some (.text ..) | some .formatStart =>
    let _ ← strings r
  | _ => numberPattern

/-- something that is not followed by a point, an opening bracket or an equals sign -/
def standsAlone (p : Reader π Unit) : Reader π Unit := do
  p
  match ← peek with
  | some (.op s) => if s ∈ [".", "(", "="] then fail
  | _ => return

/-- a name that takes a value; the underscore is none -/
def capture : Reader π Unit := do
  if ← atWord "_" then fail
  standsAlone do
    let _ ← identifier

/-- a name after at least one other name and a point -/
def longName : Reader π Unit := do
  let names ← sepBy "." identifier
  if names.length < 2 then fail

/-! ## Patterns with others inside -/

/-- patterns with commas between them, one at least -/
def commaPatterns (p : Reader π Unit) : Reader π Unit := do
  p
  let _ ← many (optional do
    op ","
    p)

/-- a pattern, or a star and a name -/
def starPattern (p : Reader π Unit) : Reader π Unit := do
  if ← acceptOp "*" then either (word "_") capture else p

/-- a pattern, or several with commas between them, some of them starred perhaps; a starred one has a comma after it -/
def oneOrMore (p : Reader π Unit) : Reader π Unit := do
  let starred ← atOp "*"
  starPattern p
  if ← acceptOp "," then
    let _ ← optional (commaPatterns (starPattern p))
    let _ ← acceptOp ","
  else if starred then fail

/-- an entry of a mapping: a key and a pattern -/
def entryPattern (r : Rules π) (p : Reader π Unit) : Reader π Unit := do
  either (constantPattern r) longName
  op ":"
  p

/-- the rest of a mapping, and a comma perhaps -/
def restPattern : Reader π Unit := do
  op "**"
  capture
  let _ ← acceptOp ","

/-- a mapping: entries, and a name for the rest at the end perhaps -/
def mappingPattern (r : Rules π) (p : Reader π Unit) : Reader π Unit := do
  op "\x7b"
  let _ ← optional (either restPattern do
    commaPatterns (entryPattern r p)
    let _ ← optional (do
      op ","
      restPattern)
    let _ ← acceptOp ",")
  op "\x7d"

/-- an argument by name -/
def keywordPattern (p : Reader π Unit) : Reader π Unit := do
  let _ ← identifier
  op "="
  p

/-- the arguments of a class, those by position first -/
def classArguments (p : Reader π Unit) : Reader π Unit := do
  let finish : Reader π Unit := do
    let _ ← acceptOp ","
    op ")"
  let keywords : Reader π Unit := do
    commaPatterns (keywordPattern p)
    finish
  op "("
  if ← acceptOp ")" then return
  either (do
    commaPatterns p
    either finish do
      op ","
      keywords) keywords

def classPattern (p : Reader π Unit) : Reader π Unit := do
  dottedName
  classArguments p

def bracketPattern (p : Reader π Unit) : Reader π Unit := do
  if ← acceptOp "[" then
    let _ ← optional (do
      commaPatterns (starPattern p)
      let _ ← acceptOp ",")
    op "]"
  else
    op "("
    if ← acceptOp ")" then return
    oneOrMore p
    op ")"

/-- A pattern without alternatives, given the reader of nested patterns. An underscore alone matches anything, and no
longer pattern begins with it. -/
def closedPattern (r : Rules π) (p : Reader π Unit) : Reader π Unit := do
  match ← peek with
  | some (.name "_") => word "_"
  | some (.op "(") | some (.op "[") => bracketPattern p
  | some (.op "\x7b") => mappingPattern r p
  | _ => either (constantPattern r) (either capture (either (standsAlone longName) (classPattern p)))

/-- a pattern, nested at most `depth` deep: alternatives, and a name for what they match perhaps -/
def pattern (r : Rules π) : (depth : Nat) → Reader π Unit
  | 0 => fail
  | depth + 1 => fun ts => alternatives (closedPattern r (pattern r depth)) ts
where
  /-- alternatives, and a name for what they match perhaps -/
  alternatives (p : Reader π Unit) : Reader π Unit := do
    let _ ← sepBy "|" p
    if ← acceptWord "as" then capture

def casePattern (r : Rules π) (depth : Nat) : Reader π Unit := oneOrMore (pattern r depth)

end RouteDocs.Source.Grammar
