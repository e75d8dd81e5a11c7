import RouteDocs.Source.Grammar.Basic
import RouteDocs.Source.Stmt

/-!
Readers for expressions.

The readers call each other in a circle, which `Rules` cuts: every reader gets a table of the readers that it may use
after it has taken a token. `rules n` is such a table for expressions nested at most `n` deep, and a text can not be
nested more deeply than it has tokens.
-/

namespace RouteDocs.Source

/-- the readers that others may use once they have taken a token -/
structure Rules (π : Type) where
  /-- any expression but an assignment -/
  expression : Reader π Expr
  /-- an expression that may be an assignment -/
  named : Reader π Expr
  /-- expressions with commas between them, which may be starred -/
  stars : Reader π Expr
  /-- an expression without a condition -/
  disjunction : Reader π Expr
  /-- the operand of a negation -/
  inversion : Reader π Expr
  /-- an expression of operators that bind more tightly than comparisons -/
  bitOr : Reader π Expr
  /-- the operand of a sign -/
  factor : Reader π Expr
  /-- an expression without operators -/
  primary : Reader π Expr

namespace Grammar

variable {π : Type}

/-! ## Targets -/

mutual

def isTarget : Expr → Bool
  | .name _ | .attribute .. | .subscript .. => true
  | .tuple es | .list es => areTargets es
  | .starred (.starred _) => false
  | .starred e => isTarget e
  | _ => false

/-- can something be assigned to each of the expressions? -/
def areTargets : List Expr → Bool
  | [] => true
  | e :: es => isTarget e && areTargets es

end

def isSingleTarget : Expr → Bool
  | .name _ | .attribute .. | .subscript .. => true
  | _ => false

mutual

def isDeletable : Expr → Bool
  | .name _ | .attribute .. | .subscript .. => true
  | .tuple es | .list es => areDeletable es
  | _ => false

def areDeletable : List Expr → Bool
  | [] => true
  | e :: es => isDeletable e && areDeletable es

end

/-- an expression with a property -/
def suchThat (p : Expr → Bool) (reader : Reader π Expr) : Reader π Expr := do
  let e ← reader
  if p e then return e else fail

/-! ## Strings -/

def isBytes : Expr → Bool
  | .constant (.bytes _) => true
  | _ => false

/-- put literal text before the parts of a formatted string -/
def addLiteral (s : List Char) : List Expr → List Expr
  | .constant (.str t marked) :: rest => .constant (.str (s ++ t) marked) :: rest
  | parts => if s.isEmpty then parts else .constant (.str s false) :: parts

/-- the parts of adjacent strings, literal texts joined -/
def joinParts : List Expr → List Expr
  | [] => []
  | .constant (.str s _) :: rest => addLiteral s (joinParts rest)
  | .formatted parts :: rest => parts.foldr addPart (joinParts rest)
  | e :: rest => e :: joinParts rest
where
  /-- put a part before others -/
  addPart (part : Expr) (rest : List Expr) : List Expr :=
    match part with
    | .constant (.str s _) => addLiteral s rest
    | e => e :: rest

/-- adjacent strings as one; texts and bytes do not mix -/
def joinStrings (parts : List Expr) : Option Expr :=
  match parts with
  | [] => none
  | first :: _ =>
    if parts.any isBytes then
      if parts.all isBytes then
        some (.constant (.bytes (parts.flatMap fun | .constant (.bytes bs) => bs | _ => [])))
      else none
    else if parts.any (fun | .formatted _ => true | _ => false) then some (.formatted (joinParts parts))
    else
      let marked := match first with
        | .constant (.str _ m) => m
        | _ => false
      some (.constant (.str (parts.flatMap fun | .constant (.str s _) => s | _ => []) marked))

/-- take the conversion of a field if there is one -/
def fieldConversion : Reader π (Option Char) := do
  match ← peek with
  | some (.fieldConversion c) => let _ ← next; return some c
  | _ => return none

/-- take the echo of a field if there is one -/
def fieldEchoText : Reader π (Option (List Char)) := do
  match ← peek with
  | some (.fieldEcho s) => let _ ← next; return some s
  | _ => return none

/-- the parts of a formatted string up to the token that ends it, given the reader of format specifications -/
def formatPartsWith (r : Rules π) (spec : Reader π (Option Expr)) : Reader π (List Expr) := do
  let parts ← many do
    match ← peek with
    | some (.formatText s) => let _ ← next; return some [Expr.constant (.str s false)]
    | some .fieldStart =>
      let _ ← next
      let value ← r.stars
      let echo ← fieldEchoText
      let conversion ← fieldConversion
      let spec ← spec
      expect .fieldEnd
      let conversion := if echo.isSome && spec.isNone && conversion.isNone then some 'r' else conversion
      let before := match echo with
        | some s => [Expr.constant (.str s false)]
        | none => []
      return some (before ++ [.field value conversion spec])
    | _ => return none
  return parts.flatten

/-- the parts of a formatted string whose format specifications are nested at most `depth` deep -/
def formatParts (r : Rules π) : (depth : Nat) → Reader π (List Expr)
  | 0 => formatPartsWith r (return none)
  | depth + 1 => formatPartsWith r do
    if ← accept .specStart then
      let parts ← formatParts r depth
      expect .specEnd
      return some (.formatted (joinParts parts))
    else return none

def stringPart (r : Rules π) : Reader π (Option Expr) := do
  match ← peek with
  | some (.text marks body) =>
    let _ ← next
    match Literal.text? marks body with
    | some c => return some (.constant c)
    | none => fail
  | some .formatStart =>
    let _ ← next
    let parts ← formatParts r 2
    expect .formatEnd
    return some (.formatted parts)
  | _ => return none

def strings (r : Rules π) : Reader π Expr := do
  match joinStrings (← many (stringPart r)) with
  | some e => return e
  | none => fail

/-! ## Comprehensions -/

/-- an expression that may be starred, with the operators that a star allows -/
def starOr (r : Rules π) (plain : Reader π Expr) : Reader π Expr := do
  if ← acceptOp "*" then return .starred (← r.bitOr) else plain

/-- one expression of several, or all of them with commas between them -/
def tupleOf (stop : Reader π Bool) (p : Reader π Expr) : Reader π Expr := do
  match ← commaList stop p with
  | ([e], false) => return e
  | (es, _) => return .tuple es

/-- does the next token end a list of targets? -/
def endsTargets : Reader π Bool := do
  match ← peek with
  | some (.op s) => return s ∈ ["=", ")", "]", ":", "\x7d"]
  | some (.name s) => return s = "in"
  | _ => return true

def targets (r : Rules π) : Reader π Expr := suchThat isTarget (tupleOf endsTargets (starOr r r.bitOr))

def atClause : Reader π Bool := do
  match ← peek with
  | some (.name "for") => return true
  | some (.name "async") => return (← peekSecond) == some (.name "for")
  | _ => return false

/-- a clause of a comprehension, if there is one -/
def clause (r : Rules π) : Reader π (Option Expr) := do
  if ← atClause then
    let isAsync ← acceptWord "async"
    word "for"
    let target ← targets r
    word "in"
    let source ← r.disjunction
    let conditions ← many do
      if ← acceptWord "if" then return some (← r.disjunction) else return none
    return some (.clause isAsync target source conditions)
  else return none

def clauses (r : Rules π) : Reader π (List Expr) := many (clause r)

/-! ## Brackets -/

def closing (bracket : String) : Reader π Bool := atOp bracket

def yield (r : Rules π) : Reader π Expr := do
  word "yield"
  if ← acceptWord "from" then return .yieldFrom (← r.expression)
  match ← peek with
  | some (.op s) =>
    if s ∈ [")", "]", "\x7d", "=", ";", ":"] then return .yield none else return .yield (some (← r.stars))
  | some .newline | none => return .yield none
  | _ => return .yield (some (← r.stars))

def isStarred : Expr → Bool
  | .starred _ => true
  | _ => false

/-- the further values after a first one, with commas between them, up to the closing bracket, which is taken -/
def more {α : Type} (bracket : String) (p : Reader π α) : Reader π (List α) := do
  if ← acceptOp "," then
    if ← acceptOp bracket then return []
    let (rest, _) ← commaList (closing bracket) p
    op bracket
    return rest
  else
    op bracket
    return []

/-- what stands between round brackets: nothing, a group, a tuple or a generator -/
def round (r : Rules π) : Reader π Expr := do
  op "("
  if ← acceptOp ")" then return .tuple []
  if ← atWord "yield" then
    let e ← yield r
    op ")"
    return e
  let first ← starOr r r.named
  if ← acceptOp ")" then
    if isStarred first then fail else return first
  else if ← atClause then
    if isStarred first then fail
    let cs ← clauses r
    op ")"
    return .comprehension .generator first cs
  else
    if ← atOp "," then return .tuple (first :: (← more ")" (starOr r r.named))) else fail

/-- what stands between square brackets: a list, or a comprehension of one -/
def square (r : Rules π) : Reader π Expr := do
  op "["
  if ← acceptOp "]" then return .list []
  let (es, trailing) ← commaList (closing "]") (starOr r r.named)
  match es, trailing, ← atClause with
  | [e], false, true =>
    if isStarred e then fail
    let cs ← clauses r
    op "]"
    return .comprehension .list e cs
  | _, _, _ =>
    op "]"
    return .list es

def entry (r : Rules π) : Reader π (Option Expr × Expr) := do
  if ← acceptOp "**" then return (none, ← r.bitOr)
  let key ← r.expression
  op ":"
  return (some key, ← r.expression)

/-- does an assignment begin here? -/
def atNamed : Reader π Bool := do
  match ← peek, ← peekSecond with
  | some (.name _), some (.op ":=") => return true
  | _, _ => return false

/-- what stands between braces: a mapping, a set, or a comprehension of one -/
def braces (r : Rules π) : Reader π Expr := do
  op "\x7b"
  if ← acceptOp "\x7d" then return .dict []
  if ← atOp "**" then
    let first ← entry r
    return .dict (first :: (← more "\x7d" (entry r)))
  let canBeKey := !(← atNamed)
  let first ← starOr r r.named
  let isKey ← if canBeKey && !isStarred first then acceptOp ":" else pure false
  if isKey then
    let value ← r.expression
    if ← atClause then
      let cs ← clauses r
      op "\x7d"
      return .dictComprehension first value cs
    else return .dict ((some first, value) :: (← more "\x7d" (entry r)))
  else if ← atClause then
    if isStarred first then fail
    let cs ← clauses r
    op "\x7d"
    return .comprehension .set first cs
  else return .set (first :: (← more "\x7d" (starOr r r.named)))

/-! ## Atoms and what follows them -/

/-- an expression without operators and without anything after it -/
def atom (r : Rules π) : Reader π Expr := do
  match ← peek with
  | some (.name s) =>
    if s = "None" then let _ ← next; return .constant .none
    else if s = "True" then let _ ← next; return .constant .true
    else if s = "False" then let _ ← next; return .constant .false
    else return .name (← identifier)
  | some (.number raw) =>
    let _ ← next
    match Literal.number? raw with
    | some c => return .constant c
    | none => fail
  | some (.text ..) | some .formatStart => strings r
  | some (.op s) =>
    if s = "(" then round r
    else if s = "[" then square r
    else if s = "\x7b" then braces r
    else if s = "..." then let _ ← next; return .constant .ellipsis
    else fail
  | _ => fail

inductive Argument where
  | positional (e : Expr)
  | starred (e : Expr)
  | keyword (name : String) (e : Expr)
  | doubleStarred (e : Expr)

def argument (r : Rules π) : Reader π Argument := do
  if ← acceptOp "*" then return .starred (← r.expression)
  if ← acceptOp "**" then return .doubleStarred (← r.expression)
  match ← peek, ← peekSecond with
  | some (.name _), some (.op "=") =>
    let name ← identifier
    op "="
    return .keyword name (← r.expression)
  | _, _ => return .positional (← r.named)

/-- Do the arguments stand in an allowed order? Nothing is given by position after a name, and no star follows two. -/
def inOrder : (named doubled : Bool) → List Argument → Bool
  | _, _, [] => true
  | named, doubled, .positional _ :: rest => !named && inOrder named doubled rest
  | named, doubled, .starred _ :: rest => !doubled && inOrder named doubled rest
  | _, doubled, .keyword _ _ :: rest => inOrder true doubled rest
  | _, _, .doubleStarred _ :: rest => inOrder true true rest

def Argument.positional? : Argument → Option Expr
  | .positional e => some e
  | .starred e => some (.starred e)
  | _ => none

def Argument.keyword? : Argument → Option (Option String × Expr)
  | .keyword name e => some (some name, e)
  | .doubleStarred e => some (none, e)
  | _ => none

/-- The arguments up to the closing bracket, by position and by name. A generator may stand alone, if it is allowed
at all. -/
def arguments (r : Rules π) (allowGenerator : Bool) : Reader π (List Expr × List (Option String × Expr)) := do
  if ← acceptOp ")" then return ([], [])
  let first ← argument r
  if ← atClause then
    match first, allowGenerator with
    | .positional e, true =>
      let cs ← clauses r
      op ")"
      return ([.comprehension .generator e cs], [])
    | _, _ => fail
  else
    let args := first :: (← more ")" (argument r))
    if inOrder false false args then
      return (args.filterMap Argument.positional?, args.filterMap Argument.keyword?)
    else fail

def slice (r : Rules π) : Reader π Expr := do
  let bound : Reader π (Option Expr) := do
    match ← peek with
    | some (.op s) => if s ∈ [":", ",", "]"] then return none else return some (← r.expression)
    | _ => return some (← r.expression)
  if ← acceptOp "*" then return .starred (← r.expression)
  if ← atNamed then return ← r.named
  let lower ← bound
  if ← acceptOp ":" then
    let upper ← bound
    let step ← if ← acceptOp ":" then bound else pure none
    return .slice lower upper step
  else match lower with
    | some e => return e
    | none => fail

/-- what stands in the brackets of a subscript; several indices, or a starred one, make a tuple -/
def index (r : Rules π) : Reader π Expr := do
  match ← commaList (closing "]") (slice r) with
  | ([e], false) => return if isStarred e then .tuple [e] else e
  | (es, _) => return .tuple es

/-- what follows an atom, if anything does: a name after a point, arguments or an index -/
def trailer (r : Rules π) (e : Expr) : Reader π (Option Expr) := do
  if ← acceptOp "." then return some (.attribute e (← identifier))
  else if ← acceptOp "(" then
    let (args, keywords) ← arguments r true
    return some (.call e args keywords)
  else if ← acceptOp "[" then
    let i ← index r
    op "]"
    return some (.subscript e i)
  else return none

/-- an atom and what follows it -/
def primary (r : Rules π) : Reader π Expr := do extend (trailer r) (← atom r)

/-! ## Operators -/

/-- an operand, which may be awaited, and a power of it -/
def power (r : Rules π) : Reader π Expr := do
  let base ← if ← acceptWord "await" then pure (.await (← r.primary)) else primary r
  if ← acceptOp "**" then return .binary .pow base (← r.factor) else return base

/-- an operand with signs before it -/
def factor (r : Rules π) : Reader π Expr := do
  if ← acceptOp "+" then return .unary .plus (← r.factor)
  else if ← acceptOp "-" then return .unary .minus (← r.factor)
  else if ← acceptOp "~" then return .unary .invert (← r.factor)
  else power r

/-- the operators of a list, grouped from the left -/
def leftAssoc (operators : List (String × BinaryOp)) (operand : Reader π Expr) : Reader π Expr := do
  let first ← operand
  extend (fun left => do
    match ← peek with
    | some (.op s) =>
      match operators.lookup s with
      | some o =>
        op s
        return some (.binary o left (← operand))
      | none => return none
    | _ => return none) first

/-- products -/
def term (r : Rules π) : Reader π Expr :=
  leftAssoc [("*", .mul), ("/", .div), ("//", .floorDiv), ("%", .mod), ("@", .matMul)] (factor r)

def sum (r : Rules π) : Reader π Expr := leftAssoc [("+", .add), ("-", .sub)] (term r)

def shift (r : Rules π) : Reader π Expr := leftAssoc [("<<", .shiftLeft), (">>", .shiftRight)] (sum r)

def bitAnd (r : Rules π) : Reader π Expr := leftAssoc [("&", .bitAnd)] (shift r)

def bitXor (r : Rules π) : Reader π Expr := leftAssoc [("^", .bitXor)] (bitAnd r)

def bitOr (r : Rules π) : Reader π Expr := leftAssoc [("|", .bitOr)] (bitXor r)

def comparisons : List (String × CompareOp) :=
  [("==", .eq), ("!=", .ne), ("<", .lt), ("<=", .le), (">", .gt), (">=", .ge)]

def compareOp : Reader π (Option CompareOp) := do
  match ← peek with
  | some (.op s) =>
    match comparisons.lookup s with
    | some o => op s; return some o
    | none => return none
  | some (.name "in") => word "in"; return some .in
  | some (.name "not") =>
    if (← peekSecond) == some (.name "in") then
      word "not"
      word "in"
      return some .notIn
    else return none
  | some (.name "is") =>
    word "is"
    if ← acceptWord "not" then return some .isNot else return some .is
  | _ => return none

def comparison (r : Rules π) : Reader π Expr := do
  let left ← bitOr r
  let rest ← many do
    match ← compareOp with
    | some o => return some (o, ← bitOr r)
    | none => return none
  return if rest.isEmpty then left else .compare left rest

def inversion (r : Rules π) : Reader π Expr := do
  if ← acceptWord "not" then return .unary .not (← r.inversion) else comparison r

/-- operands of a connective -/
def connected (connective : String) (o : BoolOp) (operand : Reader π Expr) : Reader π Expr := do
  let first ← operand
  let rest ← many do
    if ← acceptWord connective then return some (← operand) else return none
  return if rest.isEmpty then first else .bool o (first :: rest)

def conjunction (r : Rules π) : Reader π Expr := connected "and" .and (inversion r)

def disjunction (r : Rules π) : Reader π Expr := connected "or" .or (conjunction r)

/-! ## Parameters -/

def atEnd (stop : String) : Reader π Bool := atOp stop

/-- an annotation, if annotations are allowed and there is one -/
def typeOf (r : Rules π) (annotated starred : Bool) : Reader π (Option Expr) := do
  if annotated then
    if ← acceptOp ":" then
      let isStarred ← if starred then acceptOp "*" else pure false
      if isStarred then return some (.starred (← r.bitOr)) else return some (← r.expression)
    else return none
  else return none

def defaultValue (r : Rules π) : Reader π (Option Expr) := do
  if ← acceptOp "=" then return some (← r.expression) else return none

/-- a mark or a parameter in a list of them -/
inductive ParamItem where
  | slash
  | star
  | param (p : Param)

/-- a mark or a parameter -/
def paramItem (r : Rules π) (annotated : Bool) : Reader π ParamItem := do
  if ← acceptOp "/" then return .slash
  else if ← acceptOp "**" then
    let name ← identifier
    return .param ⟨.restNames, name, ← typeOf r annotated false, none⟩
  else if ← acceptOp "*" then
    if ← atOp "," then return .star
    let name ← identifier
    return .param ⟨.rest, name, ← typeOf r annotated true, none⟩
  else
    let name ← identifier
    let a ← typeOf r annotated false
    return .param ⟨.plain, name, a, ← defaultValue r⟩

/-- Parameters by position, then the rest, in an allowed order: a parameter without a default does not follow one with
a default, the slash stands once and not first, and a lone star has a name after it. -/
def arrange : (before : List Param) → (slashed : Bool) → List ParamItem → Option (List Param)
  | before, _, [] => some before
  | before, slashed, .slash :: rest =>
    if slashed || before.isEmpty then none
    else arrange (before.map fun p => { p with kind := .positionOnly }) true rest
  | before, _, .star :: .param p :: rest =>
    if p.kind = .plain then (arrangeNames (.param p :: rest)).map (before ++ ·) else none
  | _, _, .star :: _ => none
  | before, slashed, .param p :: rest =>
    match p.kind with
    | .plain =>
      if p.default.isNone && before.any (·.default.isSome) then none else arrange (before ++ [p]) slashed rest
    | .rest => (arrangeNames rest).map (before ++ p :: ·)
    | .restNames => if rest.isEmpty then some (before ++ [p]) else none
    | _ => none
where
  /-- parameters by name, and then those that take the remaining names -/
  arrangeNames : List ParamItem → Option (List Param)
    | [] => some []
    | .param p :: rest =>
      match p.kind with
      | .plain => (arrangeNames rest).map ({ p with kind := .nameOnly } :: ·)
      | .restNames => if rest.isEmpty then some [p] else none
      | _ => none
    | _ => none

/-- the parameters of a function up to the token that ends them, which is not taken -/
def params (r : Rules π) (annotated : Bool) (stop : String) : Reader π (List Param) := do
  if ← atEnd stop then return []
  let (items, _) ← commaList (atEnd stop) (paramItem r annotated)
  match arrange [] false items with
  | some ps => return ps
  | none => fail

def lambda (r : Rules π) : Reader π Expr := do
  word "lambda"
  let ps ← params r false ":"
  op ":"
  return .lambda (ps.map fun p => (p.kind, p.name, p.default)) (← r.expression)

/-! ## Expressions -/

/-- any expression but an assignment -/
def expression (r : Rules π) : Reader π Expr := do
  if ← atWord "lambda" then lambda r
  else
    let yes ← disjunction r
    if ← acceptWord "if" then
      let condition ← r.disjunction
      word "else"
      return .conditional condition yes (← r.expression)
    else return yes

/-- an expression that may be an assignment -/
def named (r : Rules π) : Reader π Expr := do
  match ← peek, ← peekSecond with
  | some (.name _), some (.op ":=") =>
    let target ← identifier
    op ":="
    return .named (.name target) (← r.expression)
  | _, _ =>
    let e ← expression r
    if ← atOp ":=" then fail else return e

/-- does the next token end a list of expressions? -/
def endsStars : Reader π Bool := do
  match ← peek with
  | some (.op s) => return s ∈ ["=", ")", "]", "\x7d", ":", ";"] || s.endsWith "="
  | some (.name _) | some (.number _) | some (.text ..) | some .formatStart => return false
  | _ => return true

/-- expressions with commas between them, which may be starred -/
def stars (r : Rules π) : Reader π Expr := tupleOf endsStars (starOr r (expression r))

/-- the readers of expressions that are nested a number of times at most -/
def rules : (depth : Nat) → Rules π
  | 0 => ⟨fail, fail, fail, fail, fail, fail, fail, fail⟩
  | depth + 1 =>
    let r := rules depth
    { expression := expression r
      named := named r
      stars := stars r
      disjunction := disjunction r
      inversion := inversion r
      bitOr := bitOr r
      factor := factor r
      primary := primary r }

end Grammar

end RouteDocs.Source
