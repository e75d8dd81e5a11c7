import RouteDocs.Source.Grammar.Pattern

/-!
Readers for statements and whole modules.
-/

namespace RouteDocs.Source

namespace Grammar

variable {π : Type}

/-! ## Simple statements -/

def starsOrYield (r : Rules π) : Reader π Expr := do
  if ← atWord "yield" then yield r else stars r

def atStatementEnd : Reader π Bool := do
  match ← peek with
  | some (.op ";") | some .newline => return true
  | _ => return false

/-- the operators that change a target -/
def augmentedOps : List String :=
  ["+=", "-=", "*=", "@=", "/=", "%=", "&=", "|=", "^=", "<<=", ">>=", "**=", "//="]

/-- the values after the first equals sign of an assignment: all but the last are targets -/
def assignedValues (r : Rules π) : Reader π (List Expr) := many do
  if ← acceptOp "=" then return some (← starsOrYield r) else return none

/-- an annotated assignment whose target has been read -/
def annotatedRest (r : Rules π) (target : Expr) : Reader π (Stmt π) := do
  op ":"
  let type ← expression r
  if ← acceptOp "=" then
    let _ ← starsOrYield r
    return .annotated target type true
  else return .annotated target type false

/-- an assignment, or an expression by itself -/
def expressionStatement (r : Rules π) : Reader π (Stmt π) := do
  let first ← starsOrYield r
  match ← peek with
  | some (.op s) =>
    if s = ":" then
      if isSingleTarget first then annotatedRest r first else fail
    else if s = "=" then
      let values ← assignedValues r
      let targets := first :: values.dropLast
      match values.getLast? with
      | some value => if targets.all isTarget then return .assigned targets value else fail
      | none => fail
    else if s ∈ augmentedOps then
      if isSingleTarget first then
        op s
        let _ ← starsOrYield r
        return .other
      else fail
    else return .expression first
  | _ => return .expression first

def aliased (p : Reader π Unit) : Reader π Unit := do
  p
  if ← acceptWord "as" then let _ ← identifier

/-- what is imported from a module -/
def importTargets : Reader π Unit := do
  let one : Reader π Unit := aliased do let _ ← identifier
  if ← acceptOp "*" then return ()
  if ← acceptOp "(" then
    let _ ← commaList (closing ")") one
    op ")"
  else
    let _ ← sepBy "," one

/-- an import from a module -/
def importFrom : Reader π Unit := do
  word "from"
  let dots ← many do
    if ← acceptOpIn [".", "..."] then return some () else return none
  if !(← atWord "import") then dottedName
  else if dots.isEmpty then fail
  word "import"
  importTargets

/-- the statements that begin with a keyword of their own -/
def keywordStatement (r : Rules π) (s : String) : Option (Reader π Unit) :=
  match s with
  | "pass" | "break" | "continue" => some (word s)
  | "return" => some do
    word s
    if !(← atStatementEnd) then let _ ← stars r
  | "raise" => some do
    word s
    if !(← atStatementEnd) then
      let _ ← expression r
      if ← acceptWord "from" then let _ ← expression r
  | "global" | "nonlocal" => some do
    word s
    let _ ← sepBy "," identifier
  | "del" => some do
    word s
    let _ ← suchThat isDeletable (tupleOf atStatementEnd (primary r))
    if !(← atStatementEnd) then fail
  | "assert" => some do
    word s
    let _ ← expression r
    if ← acceptOp "," then let _ ← expression r
  | "import" => some do
    word s
    let _ ← sepBy "," (aliased dottedName)
  | "from" => some importFrom
  | _ => none

/-- a statement without a block -/
def simpleStatement (r : Rules π) : Reader π (Stmt π) := do
  match ← peek with
  | some (.name s) =>
    match keywordStatement r s with
    | some p =>
      p
      return .other
    | none => expressionStatement r
  | _ => expressionStatement r

/-- simple statements on one line -/
def simpleStatements (r : Rules π) : Reader π (List (Stmt π)) := do
  let first ← simpleStatement r
  let rest ← many do
    if ← acceptOp ";" then
      if ← at_ .newline then return some [] else return some [← simpleStatement r]
    else return none
  expect .newline
  return first :: rest.flatten

/-! ## Compound statements -/

/-- a reader of statements that belong together -/
abbrev Block (π : Type) := Reader π (List (Stmt π))

/-- a colon and a block -/
def suite (block : Block π) : Reader π (List (Stmt π)) := do
  op ":"
  block

/-- a block after a keyword, if it is next -/
def optionalBlock (keyword : String) (block : Block π) : Reader π Bool := do
  if ← acceptWord keyword then
    let _ ← suite block
    return true
  else return false

/-- a condition and its block, with the blocks of other conditions -/
def ifStatement (r : Rules π) (block : Block π) : Reader π Unit := do
  word "if"
  let _ ← named r
  let _ ← suite block
  let _ ← many do
    if ← acceptWord "elif" then
      let _ ← named r
      return some (← suite block)
    else return none
  let _ ← optionalBlock "else" block

def whileStatement (r : Rules π) (block : Block π) : Reader π Unit := do
  word "while"
  let _ ← named r
  let _ ← suite block
  let _ ← optionalBlock "else" block

def forStatement (r : Rules π) (block : Block π) : Reader π Unit := do
  word "for"
  let _ ← targets r
  word "in"
  let _ ← stars r
  let _ ← suite block
  let _ ← optionalBlock "else" block

def withItem (r : Rules π) : Reader π Unit := do
  let _ ← expression r
  if ← acceptWord "as" then let _ ← suchThat isTarget (starOr r (bitOr r))

/-- contexts in brackets of their own, up to the colon -/
def bracketedItems (r : Rules π) : Reader π Unit := do
  op "("
  let _ ← commaList (closing ")") (withItem r)
  op ")"
  if !(← atOp ":") then fail

/-- a block in contexts -/
def withStatement (r : Rules π) (block : Block π) : Reader π Unit := do
  word "with"
  either (bracketedItems r) (do let _ ← sepBy "," (withItem r))
  let _ ← suite block

/-- a handler of a try statement, if one is next: does it handle groups? -/
def handler (r : Rules π) (block : Block π) : Reader π (Option Bool) := do
  if ← acceptWord "except" then
    let group ← acceptOp "*"
    if group || !(← atOp ":") then
      let _ ← expression r
      if ← acceptWord "as" then let _ ← identifier
    let _ ← suite block
    return some group
  else return none

def tryStatement (r : Rules π) (block : Block π) : Reader π Unit := do
  word "try"
  let _ ← suite block
  let groups ← many (handler r block)
  if groups.any id && !groups.all id then fail
  if !groups.isEmpty then let _ ← optionalBlock "else" block
  let final ← optionalBlock "finally" block
  if groups.isEmpty && !final then fail

/-- a case of a match statement, if one is next -/
def caseBlock (r : Rules π) (depth : Nat) (block : Block π) : Reader π (Option Unit) := do
  if ← acceptWord "case" then
    casePattern r depth
    if ← acceptWord "if" then let _ ← named r
    let _ ← suite block
    return some ()
  else return none

/-- a value and the cases that it is matched with -/
def matchStatement (r : Rules π) (depth : Nat) (block : Block π) : Reader π Unit := do
  word "match"
  let subject ← tupleOf (atOp ":") (starOr r (named r))
  if isStarred subject then fail
  op ":"
  expect .newline
  expect .indent
  let cases ← many (caseBlock r depth block)
  if cases.isEmpty then fail
  expect .dedent

def classDefinition (r : Rules π) (block : Block π) : Reader π (Stmt π) := do
  word "class"
  let name ← identifier
  let bases ← if ← acceptOp "(" then do
      let (bases, _) ← arguments r false
      pure bases
    else pure []
  return .classDef name bases (← suite block)

/-- a function; its place is that of its first keyword -/
def functionDefinition (r : Rules π) (decorators : List (Decorator π)) (block : Block π) : Reader π (Stmt π) := do
  let place ← here
  let _ ← acceptWord "async"
  word "def"
  let name ← identifier
  op "("
  let ps ← params r true ")"
  op ")"
  if ← acceptOp "->" then let _ ← expression r
  return .function place name ps decorators (← suite block)

/-- the place of the first token of an expression that is not a bracket around the whole of it -/
def innerPlace (r : Rules π) : (limit : Nat) → Reader π π
  | 0 => here
  | limit + 1 => fun ts =>
    let group : Reader π Unit := do
      op "("
      if ← atWord "yield" then let _ ← yield r else let _ ← named r
      op ")"
      if !((← at_ .newline) || (← atOp ")")) then fail
    match group ts with
    | some _ => (innerPlace r limit (ts.drop 1)).map fun p => (p.1, ts)
    | none => here ts

/-- a decorator, if one is next -/
def decorator (r : Rules π) : Reader π (Option (Decorator π)) := do
  if ← acceptOp "@" then
    let place ← innerPlace r (← remaining).length
    let e ← named r
    expect .newline
    return some ⟨place, e⟩
  else return none

def decorated (r : Rules π) (block : Block π) : Reader π (Stmt π) := do
  let decorators ← many (decorator r)
  if ← atWord "class" then classDefinition r block else functionDefinition r decorators block

/-- a statement after `async` -/
def asyncStatement (r : Rules π) (block : Block π) : Reader π (Stmt π) := do
  match ← peekSecond with
  | some (.name "def") => functionDefinition r [] block
  | some (.name "for") =>
    word "async"
    forStatement r block
    return .other
  | _ =>
    word "async"
    withStatement r block
    return .other

/-- a match statement, or simple statements that begin with a name of the same spelling -/
def matchOrSimple (r : Rules π) (depth : Nat) (block : Block π) : Reader π (List (Stmt π)) :=
  either (do matchStatement r depth block; return [.other]) (simpleStatements r)

/-- a statement with a block, or a line of simple statements -/
def statementWith (r : Rules π) (depth : Nat) (block : Block π) : Reader π (List (Stmt π)) := do
  let other (p : Reader π Unit) : Reader π (List (Stmt π)) := do
    p
    return [.other]
  match ← peek with
  | some (.op "@") => return [← decorated r block]
  | some (.name s) =>
    match s with
    | "def" => return [← functionDefinition r [] block]
    | "class" => return [← classDefinition r block]
    | "async" => return [← asyncStatement r block]
    | "if" => other (ifStatement r block)
    | "while" => other (whileStatement r block)
    | "for" => other (forStatement r block)
    | "with" => other (withStatement r block)
    | "try" => other (tryStatement r block)
    | "match" => matchOrSimple r depth block
    | _ => simpleStatements r
  | _ => simpleStatements r

/-- a block: simple statements on the same line, or lines further in -/
def blockWith (r : Rules π) (line : Block π) : Reader π (List (Stmt π)) := do
  if ← accept .newline then
    expect .indent
    let lines ← many do
      match ← peek with
      | none | some .dedent => return none
      | _ => return some (← line)
    if lines.isEmpty then fail
    expect .dedent
    return lines.flatten
  else simpleStatements r

/-- statements nested at most `depth` deep -/
def statement (r : Rules π) : (depth : Nat) → Reader π (List (Stmt π))
  | 0 => fail
  | depth + 1 => fun ts => statementWith r (depth + 1) (blockWith r (statement r depth)) ts

/-- a line of a module; nothing at the end -/
def moduleLine (r : Rules π) (depth : Nat) : Reader π (Option (List (Stmt π))) := do
  match ← peek with
  | none => return none
  | some _ => return some (← statement r depth)

def moduleBody (r : Rules π) (depth : Nat) : Reader π (List (Stmt π)) := do
  let lines ← many (moduleLine r depth)
  return lines.flatten

end Grammar

/-- the statements of a module, given its tokens; nothing if they do not form one -/
def module? {π : Type} (ts : List (Token π)) : Option (List (Stmt π)) :=
  let depth := ts.length + 1
  match Grammar.moduleBody (Grammar.rules depth) depth ts with
  | some (body, []) => some body
  | _ => none

end RouteDocs.Source
