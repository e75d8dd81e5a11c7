import RouteDocs.Source.Expr
import RouteDocs.Text.Blank
import RouteDocs.Text.Quoted

/-!
Expressions as text, in a canonical form: one blank around binary operators, one after commas, and parentheses only
where the precedence of operators asks for them.
-/

namespace RouteDocs.Source

/-! ## Precedence -/

/-- how tightly the parts of an expression hold together; a part that holds less tightly than its place asks for gets
parentheses -/
abbrev Precedence := Nat

namespace Precedence

def named : Precedence := 0
def tuple : Precedence := 1
def yield : Precedence := 2
def test : Precedence := 3
def or : Precedence := 4
def and : Precedence := 5
def not : Precedence := 6
def compare : Precedence := 7
def bitOr : Precedence := 8
def bitXor : Precedence := 9
def bitAnd : Precedence := 10
def shift : Precedence := 11
def arith : Precedence := 12
def term : Precedence := 13
def factor : Precedence := 14
def power : Precedence := 15
def await : Precedence := 16
def atom : Precedence := 17

def next (p : Precedence) : Precedence := min (p + 1) atom

end Precedence

/-- the text and the precedence of an operator -/
def UnaryOp.spelling : UnaryOp → List Char × Precedence
  | .invert => (['~'], .factor)
  | .not => ("not ".toList, .not)
  | .plus => (['+'], .factor)
  | .minus => (['-'], .factor)

/-- the text and the precedence of an operator -/
def BinaryOp.spelling : BinaryOp → List Char × Precedence
  | .add => (" + ".toList, .arith)
  | .sub => (" - ".toList, .arith)
  | .mul => (" * ".toList, .term)
  | .matMul => (" @ ".toList, .term)
  | .div => (" / ".toList, .term)
  | .floorDiv => (" // ".toList, .term)
  | .mod => (" % ".toList, .term)
  | .pow => (" ** ".toList, .power)
  | .shiftLeft => (" << ".toList, .shift)
  | .shiftRight => (" >> ".toList, .shift)
  | .bitOr => (" | ".toList, .bitOr)
  | .bitXor => (" ^ ".toList, .bitXor)
  | .bitAnd => (" & ".toList, .bitAnd)

/-- the text and the precedence of a connective -/
def BoolOp.spelling : BoolOp → List Char × Precedence
  | .and => (" and ".toList, .and)
  | .or => (" or ".toList, .or)

def CompareOp.spelling : CompareOp → List Char
  | .eq => " == ".toList
  | .ne => " != ".toList
  | .lt => " < ".toList
  | .le => " <= ".toList
  | .gt => " > ".toList
  | .ge => " >= ".toList
  | .is => " is ".toList
  | .isNot => " is not ".toList
  | .in => " in ".toList
  | .notIn => " not in ".toList

/-- the brackets around what a comprehension builds -/
def Collection.brackets : Collection → Char × Char
  | .list => ('[', ']')
  | .set => ('\x7b', '\x7d')
  | .generator => ('(', ')')

namespace Printer

open Text

def parenthesize (needed : Bool) (s : List Char) : List Char := if needed then '(' :: s ++ [')'] else s

/-- an infinite number, as a numeral that is too large -/
def infinity : List Char := "1e309".toList

/-- does a blank have to stand between the constant and a point? -/
def isInteger : Expr → Bool
  | .constant (.int _) | .constant .true | .constant .false => true
  | _ => false

/-! ## Formatted strings -/

/-- the quotes that a formatted string may have, the preferred ones first -/
def allQuotes : List (List Char) :=
  [['\''], ['"'], ['"', '"', '"'], ['\'', '\'', '\'']]

/-- a character of a formatted string; line feeds and tabs stand for themselves inside fields -/
def escapeFormatChar (isLiteral : Bool) (c : Char) : List Char :=
  if !isLiteral && (c == '\n' || c == '\t') then [c]
  else if c == '\\' then ['\\', '\\']
  else Quoted.encodeChar '\\' c

/-- A part of a formatted string, and the quotes out of the given ones that the whole may have. A final quote is
escaped if it would belong to the closing ones. -/
def formatPart (isLiteral : Bool) (quotes : List (List Char)) (s : List Char) : List Char × List (List Char) :=
  let escaped := s.flatMap (escapeFormatChar isLiteral)
  let possible := if escaped.contains '\n' then quotes.filter (·.length == 3) else quotes
  let possible := possible.filter (!occursIn · escaped)
  match possible with
  | [] =>
    let literal := Quoted.encode s
    let quote := (quotes.find? fun q => q.head? == literal.head?).getD (literal.take 1)
    ((literal.drop 1).dropLast, [quote])
  | _ =>
    match escaped.getLast? with
    | none => (escaped, possible)
    | some last =>
      let sorted := possible.filter (·.head? != some last) ++ possible.filter (·.head? == some last)
      if (sorted.head?.bind List.head?) == some last then (escaped.dropLast ++ ['\\', last], sorted)
      else (escaped, sorted)

/-- a text within quotes, in a field of a formatted string: the quotes are chosen so that nothing in the text has to be
escaped, if some are left to choose -/
def quoteInField (s : List Char) : List Char :=
  let (text, quotes) := formatPart false allQuotes s
  let quote := quotes.headD ['\'']
  quote ++ text ++ quote

/-- the parts of a formatted string one after another, and the quotes that suit all of them; nothing if no quotes do -/
def formatPartsFrom (quotes : List (List Char)) : List (Bool × List Char) → Option (List Char × List (List Char))
  | [] => some ([], quotes)
  | (isLiteral, s) :: rest =>
    let (text, left) := formatPart isLiteral quotes s
    if left.any (quotes.contains ·) then (formatPartsFrom left rest).map fun r => (text ++ r.1, r.2) else none

/-- the parts of a formatted string within its quotes; three single ones where no quotes suit all parts -/
def formatString (parts : List (Bool × List Char)) : List Char :=
  match formatPartsFrom allQuotes parts with
  | some (text, quotes) =>
    let quote := quotes.headD ['\'']
    'f' :: quote ++ text ++ quote
  | none =>
    let quote := ['\'', '\'', '\'']
    'f' :: quote ++ parts.flatMap (fun part => part.2.flatMap (Quoted.encodeChar '\'')) ++ quote

/-- double the braces of a literal text -/
def doubleBraces (s : List Char) : List Char :=
  s.flatMap fun c => if c == '\x7b' || c == '\x7d' then [c, c] else [c]

/-! ## Constants and lists -/

/-- a constant; `inField` if it stands in a field of a formatted string -/
def constant (inField : Bool) : Constant → List Char
  | .none => "None".toList
  | .true => "True".toList
  | .false => "False".toList
  | .ellipsis => "...".toList
  | .int n => Numeral.decimal n
  | .float x => x.text ['.', '0'] infinity
  | .imaginary x => x.text [] infinity ++ ['j']
  | .str s marked => (if marked then ['u'] else []) ++ (if inField then quoteInField s else Quoted.encode s)
  | .bytes bs => Quoted.encodeBytes bs

def separated (separator : List Char) : List (List Char) → List Char
  | [] => []
  | [s] => s
  | s :: rest => s ++ separator ++ separated separator rest

/-- texts separated by commas; a single one has a comma after it -/
def items (parts : List (List Char)) : List Char :=
  match parts with
  | [s] => s ++ [',']
  | _ => separated [',', ' '] parts

/-- the marks between the parameters of a function: after those by position only, and before those by name only -/
def parameters : (afterSlash afterStar : Bool) → List (ParamKind × List Char) → List (List Char)
  | afterSlash, _, [] => if afterSlash then [] else [['/']]
  | afterSlash, afterStar, (kind, s) :: rest =>
    match kind with
    | .positionOnly => s :: parameters false afterStar rest
    | .plain => slash afterSlash (s :: parameters true afterStar rest)
    | .rest => slash afterSlash (('*' :: s) :: parameters true true rest)
    | .nameOnly => slash afterSlash ((if afterStar then [] else [['*']]) ++ s :: parameters true true rest)
    | .restNames => slash afterSlash (('*' :: '*' :: s) :: parameters true afterStar rest)
where
  /-- the mark that ends the parameters by position only, unless it has been written -/
  slash (afterSlash : Bool) (rest : List (List Char)) : List (List Char) := if afterSlash then rest else ['/'] :: rest

end Printer

open Printer in
mutual

/-- an expression at a place that asks for a precedence; `inField` if it stands in a field of a formatted string -/
def Expr.print (inField : Bool) (p : Precedence) : Expr → List Char
  | .name s => s.toList
  | .constant c => Printer.constant inField c
  | .formatted parts =>
    let ps := Expr.printParts parts
    if inField then 'f' :: quoteInField (ps.map Prod.snd).flatten else formatString ps
  | .field value conversion spec =>
    let s := value.print true Precedence.test.next
    '\x7b' :: (if s.head? == some '\x7b' then ' ' :: s else s)
      ++ (match conversion with | none => [] | some c => ['!', c]) ++ Expr.printSpec spec ++ ['\x7d']
  | .attribute value id =>
    value.print inField .atom ++ (if isInteger value then [' '] else []) ++ '.' :: id.toList
  | .subscript value (.tuple []) => value.print inField .atom ++ "[()]".toList
  | .subscript value (.tuple (e :: es)) =>
    value.print inField .atom ++ '[' :: items (Expr.printAll inField .test (e :: es)) ++ [']']
  | .subscript value index => value.print inField .atom ++ '[' :: index.print inField .test ++ [']']
  | .call function args keywords =>
    function.print inField .atom
      ++ '(' :: separated [',', ' '] (Expr.printAll inField .test args ++ Expr.printKeywords inField keywords)
      ++ [')']
  | .tuple es => parenthesize (es.isEmpty || p > Precedence.tuple) (items (Expr.printAll inField .test es))
  | .list es => '[' :: separated [',', ' '] (Expr.printAll inField .test es) ++ [']']
  | .set es => '\x7b' :: separated [',', ' '] (Expr.printAll inField .test es) ++ ['\x7d']
  | .dict entries => '\x7b' :: separated [',', ' '] (Expr.printEntries inField entries) ++ ['\x7d']
  | .unary op operand =>
    parenthesize (p > op.spelling.2) (op.spelling.1 ++ operand.print inField op.spelling.2)
  | .binary op left right =>
    let (s, q) := op.spelling
    parenthesize (p > q)
      (left.print inField (if op = .pow then q.next else q) ++ s
        ++ right.print inField (if op = .pow then q else q.next))
  | .bool op operands =>
    let (s, q) := op.spelling
    parenthesize (p > q) (separated s (Expr.printRising inField q.next operands))
  | .compare left rest =>
    parenthesize (p > Precedence.compare)
      (left.print inField Precedence.compare.next ++ Expr.printComparisons inField rest)
  | .conditional condition yes no =>
    parenthesize (p > Precedence.test)
      (yes.print inField Precedence.test.next ++ " if ".toList ++ condition.print inField Precedence.test.next
        ++ " else ".toList ++ no.print inField .test)
  | .lambda params body =>
    let ps := separated [',', ' '] (parameters true false (Expr.printParams inField params))
    parenthesize (p > Precedence.test)
      ("lambda".toList ++ (if ps.isEmpty then [] else ' ' :: ps) ++ [':', ' '] ++ body.print inField .test)
  | .starred value => '*' :: value.print inField .bitOr
  | .await value => parenthesize (p > Precedence.await) ("await ".toList ++ value.print inField .atom)
  | .yield none => parenthesize (p > Precedence.yield) "yield".toList
  | .yield (some value) => parenthesize (p > Precedence.yield) ("yield ".toList ++ value.print inField .atom)
  | .yieldFrom value => parenthesize (p > Precedence.yield) ("yield from ".toList ++ value.print inField .atom)
  | .named target value =>
    parenthesize (p > Precedence.named)
      (target.print inField .atom ++ " := ".toList ++ value.print inField .atom)
  | .slice lower upper step =>
    Expr.printOptional inField lower ++ ':' :: Expr.printOptional inField upper
      ++ (match step with | none => [] | some e => ':' :: e.print inField .test)
  | .comprehension kind item clauses =>
    kind.brackets.1 :: item.print inField .test ++ (Expr.printAll inField .test clauses).flatten
      ++ [kind.brackets.2]
  | .dictComprehension key value clauses =>
    '\x7b' :: key.print inField .test ++ [':', ' '] ++ value.print inField .test
      ++ (Expr.printAll inField .test clauses).flatten ++ ['\x7d']
  | .clause isAsync target source conditions =>
    (if isAsync then " async for ".toList else " for ".toList) ++ target.print inField .tuple ++ " in ".toList
      ++ source.print inField Precedence.test.next ++ (Expr.printConditions inField conditions).flatten

/-- expressions at places that ask for the same precedence -/
def Expr.printAll (inField : Bool) (p : Precedence) : List Expr → List (List Char)
  | [] => []
  | e :: rest => e.print inField p :: Expr.printAll inField p rest

/-- expressions at places that ask for a higher precedence each -/
def Expr.printRising (inField : Bool) (p : Precedence) : List Expr → List (List Char)
  | [] => []
  | e :: rest => e.print inField p :: Expr.printRising inField p.next rest

def Expr.printConditions (inField : Bool) : List Expr → List (List Char)
  | [] => []
  | e :: rest => (" if ".toList ++ e.print inField Precedence.test.next) :: Expr.printConditions inField rest

def Expr.printOptional (inField : Bool) : Option Expr → List Char
  | none => []
  | some e => e.print inField .test

def Expr.printKeywords (inField : Bool) : List (Option String × Expr) → List (List Char)
  | [] => []
  | (none, e) :: rest => ('*' :: '*' :: e.print inField .test) :: Expr.printKeywords inField rest
  | (some id, e) :: rest => (id.toList ++ '=' :: e.print inField .test) :: Expr.printKeywords inField rest

def Expr.printEntries (inField : Bool) : List (Option Expr × Expr) → List (List Char)
  | [] => []
  | (none, e) :: rest => ('*' :: '*' :: e.print inField .bitOr) :: Expr.printEntries inField rest
  | (some k, e) :: rest =>
    (k.print inField .test ++ [':', ' '] ++ e.print inField .test) :: Expr.printEntries inField rest

def Expr.printComparisons (inField : Bool) : List (CompareOp × Expr) → List Char
  | [] => []
  | (op, e) :: rest => op.spelling ++ e.print inField Precedence.compare.next ++ Expr.printComparisons inField rest

def Expr.printParams (inField : Bool) : List (ParamKind × String × Option Expr) → List (ParamKind × List Char)
  | [] => []
  | (kind, id, none) :: rest => (kind, id.toList) :: Expr.printParams inField rest
  | (kind, id, some e) :: rest =>
    (kind, id.toList ++ '=' :: e.print inField .test) :: Expr.printParams inField rest

def Expr.printSpec : Option Expr → List Char
  | some (.formatted parts) => ':' :: ((Expr.printParts parts).map Prod.snd).flatten
  | _ => []

/-- the parts of a formatted string, and whether they are literal -/
def Expr.printParts : List Expr → List (Bool × List Char)
  | [] => []
  | .constant (.str s _) :: rest => (true, doubleBraces s) :: Expr.printParts rest
  | e :: rest => (false, e.print true .test) :: Expr.printParts rest

end

/-! ## Names and what stands after them -/

section

variable (inField : Bool) (p : Precedence)

theorem Expr.print_name (s : String) : (Expr.name s).print inField p = s.toList := by rw [Expr.print]

theorem Expr.print_constant (c : Constant) : (Expr.constant c).print inField p = Printer.constant inField c := by
  rw [Expr.print]

/-- a point stands directly behind anything but a whole number -/
theorem Expr.print_attribute {value : Expr} (h : Printer.isInteger value = false) (id : String) :
    (Expr.attribute value id).print inField p = value.print inField .atom ++ '.' :: id.toList := by
  rw [Expr.print, h, if_neg Bool.false_ne_true, List.append_nil]

/-- whatever stands between brackets, they are written around it -/
theorem Expr.print_subscript (value index : Expr) : ∃ args,
    (Expr.subscript value index).print inField p = value.print inField .atom ++ '[' :: (args ++ [']']) := by
  by_cases htuple : ∃ items, index = .tuple items
  · obtain ⟨_ | ⟨e, es⟩, rfl⟩ := htuple
    · exact ⟨['(', ')'], by rw [Expr.print]; rfl⟩
    · exact ⟨Printer.items (Expr.printAll inField .test (e :: es)), by rw [Expr.print, List.append_assoc]; rfl⟩
  · refine ⟨index.print inField .test, ?_⟩
    rw [Expr.print, List.append_assoc]
    · rfl
    · exact fun h => htuple ⟨_, h⟩
    · exact fun e es h => htuple ⟨_, h⟩

/-- a union is written with a bar, in parentheses where its place asks for them -/
theorem Expr.print_union (left right : Expr) :
    (Expr.binary .bitOr left right).print inField p = Printer.parenthesize (p > Precedence.bitOr)
      (left.print inField .bitOr ++ " | ".toList ++ right.print inField (Precedence.next .bitOr)) := by
  rw [Expr.print]
  rfl

end

/-! ## Whole expressions -/

/-- Can the expression be written as text? Its numbers may have so many decimal digits only, and no field of a
formatted string may hold a backslash. -/
def Expr.hasText (e : Expr) : Bool := e.all fun
  | .constant (.int n) => (Numeral.decimal n).length ≤ Numeral.maxDigits
  | .field value _ _ => !(value.print true Precedence.test.next).contains '\\'
  | _ => true

def Expr.text (e : Expr) : String := String.ofList (e.print false .test)

end RouteDocs.Source
