import RouteDocs.Source.Literal
import RouteDocs.Source.Token
import RouteDocs.Text.Lines
import RouteDocs.Text.Quoted
import RouteDocs.Text.Word

/-!
The tokens of a source text.

Indentation is measured twice, with tabs that reach to multiples of eight columns and with tabs of one column; both
measures have to order the lines in the same way. Inside brackets neither line ends nor indentation count. A backslash
before a line end joins two lines. Blank lines and comments leave no token.

Main definition: `tokens?`. The place of a token is the number of the line on which it begins.
-/

namespace RouteDocs.Source

open Text

/-! ## Characters -/

/-- can a name start with the character, as far as the lexer looks? Beyond ASCII the whole name is checked later. -/
def startsName (c : Char) : Bool := c.isAlpha || c == '_' || 128 ≤ c.toNat

/-- can a name go on with the character, as far as the lexer looks? -/
def extendsName (c : Char) : Bool := c.isAlphanum || c == '_' || 128 ≤ c.toNat

def isIdentifier : List Char → Bool
  | [] => false
  | c :: rest => startsIdentifier c && rest.all extendsIdentifier

/-- a hexadecimal digit -/
def isHexDigit (c : Char) : Bool := (hexValue? c).isSome

/-- an octal digit -/
def isOctalDigit (c : Char) : Bool := '0' ≤ c && c ≤ '7'

def isBinaryDigit (c : Char) : Bool := c == '0' || c == '1'

/-! ## Numbers -/

/-- the longest run of digits at the front, single underscores before digits included; nothing if an underscore is not
followed by a digit -/
def digitRun (p : Char → Bool) : List Char → Option (List Char × List Char)
  | [] => some ([], [])
  | ['_'] => none
  | '_' :: c :: rest =>
    if p c then (digitRun p (c :: rest)).map fun r => ('_' :: r.1, r.2) else none
  | c :: rest => if p c then (digitRun p rest).map fun r => (c :: r.1, r.2) else some ([], c :: rest)

/-- the words that may follow a number without a blank -/
def wordsAfterNumber : List (List Char) :=
  ["and".toList, "else".toList, "for".toList, "if".toList, "in".toList, "is".toList, "or".toList, "not".toList]

def numberEnds (s : List Char) : Bool :=
  wordsAfterNumber.any (·.isPrefixOf s) || !(s.head?.any extendsName)

/-- a number that must end where it does -/
def endNumber (r : List Char × List Char) : Option (List Char × List Char) :=
  if numberEnds r.2 then some r else none

/-- a number after its base mark: at least one digit -/
def scanBased (p : Char → Bool) (mark : List Char) (s : List Char) : Option (List Char × List Char) := do
  let (digits, rest) ← digitRun p s
  if digits.isEmpty then none
  if rest.head?.any Char.isDigit then none
  endNumber (mark ++ digits, rest)

/-- the imaginary mark, if there is one, after what has been read of a number -/
def scanImaginary (read : List Char) (s : List Char) : Option (List Char × List Char) :=
  match s with
  | c :: rest => if c == 'j' || c == 'J' then endNumber (read ++ [c], rest) else endNumber (read, s)
  | [] => some (read, [])

/-- the exponent, if there is one, after what has been read of a number -/
def scanExponent (read : List Char) (s : List Char) : Option (List Char × List Char) :=
  match s with
  | e :: rest =>
    if e == 'e' || e == 'E' then
      match rest with
      | sign :: c :: _ =>
        if sign == '+' || sign == '-' then
          if c.isDigit then do
            let (digits, rest) ← digitRun Char.isDigit (rest.drop 1)
            scanImaginary (read ++ [e, sign] ++ digits) rest
          else none
        else if sign.isDigit then do
          let (digits, rest) ← digitRun Char.isDigit rest
          scanImaginary (read ++ [e] ++ digits) rest
        else endNumber (read, s)
      | [c] =>
        if c.isDigit then scanImaginary (read ++ [e, c]) []
        else if c == '+' || c == '-' then none
        else endNumber (read, s)
      | [] => endNumber (read, s)
    else scanImaginary read s
  | [] => some (read, [])

/-- the fraction, if there is one, after a point -/
def scanFraction (read : List Char) (s : List Char) : Option (List Char × List Char) :=
  if s.head?.any Char.isDigit then do
    let (digits, rest) ← digitRun Char.isDigit s
    scanExponent (read ++ digits) rest
  else scanExponent read s

/-- a number without a base mark -/
def scanDecimal (s : List Char) : Option (List Char × List Char) := do
  let (digits, rest) ← digitRun Char.isDigit s
  -- a number that begins with a zero holds nothing but zeros, unless it goes on like one that is not whole
  let padded := digits.head? == some '0' && digits.any fun d => d != '0' && d != '_'
  match rest with
  | '.' :: after => scanFraction (digits ++ ['.']) after
  | c :: _ =>
    if padded && !(c == 'e' || c == 'E' || c == 'j' || c == 'J') then none else scanExponent digits rest
  | [] => if padded then none else some (digits, [])

/-- the number at the front of a text that begins with a digit, or with a point and a digit -/
def scanNumber : List Char → Option (List Char × List Char)
  | '.' :: rest => scanFraction ['.'] rest
  | '0' :: m :: rest =>
    if m == 'x' || m == 'X' then scanBased isHexDigit ['0', m] rest
    else if m == 'o' || m == 'O' then scanBased isOctalDigit ['0', m] rest
    else if m == 'b' || m == 'B' then scanBased isBinaryDigit ['0', m] rest
    else scanDecimal ('0' :: m :: rest)
  | s => scanDecimal s

/-! ## Strings -/

/-- the letters that may stand before the quotes of a string, in small letters -/
def stringMarks : List (List Char) :=
  [[], ['b'], ['r'], ['u'], ['f'], ['b', 'r'], ['r', 'b'], ['f', 'r'], ['r', 'f']]

/-- the body of a string up to its quote, which may not stand on another line unless a backslash precedes the line
end -/
def scanShort (quote : Char) : List Char → Option (List Char × List Char)
  | [] => none
  | ['\\'] => none
  | '\\' :: c :: rest => (scanShort quote rest).map fun r => ('\\' :: c :: r.1, r.2)
  | c :: rest =>
    if c == quote then some ([], rest)
    else if c == '\n' then none
    else (scanShort quote rest).map fun r => (c :: r.1, r.2)

/-- the body of a string up to three quotes in a row -/
def scanLong (quote : Char) : List Char → Option (List Char × List Char)
  | [] => none
  | ['\\'] => none
  | '\\' :: c :: rest => (scanLong quote rest).map fun r => ('\\' :: c :: r.1, r.2)
  | c :: rest =>
    if [quote, quote, quote].isPrefixOf (c :: rest) then some ([], rest.drop 2)
    else (scanLong quote rest).map fun r => (c :: r.1, r.2)

/-- the string at the front of a text that begins with a quote -/
def scanString : List Char → Option (List Char × List Char)
  | quote :: rest =>
    if [quote, quote].isPrefixOf rest then scanLong quote (rest.drop 2) else scanShort quote rest
  | [] => none

/-- the letters before the quotes and the rest, if the text begins with a string -/
def stringStart? (s : List Char) : Option (List Char × List Char) :=
  let marks := s.takeWhile Char.isAlpha
  let rest := s.dropWhile Char.isAlpha
  if stringMarks.contains (marks.map Char.toLower) && (rest.head? == some '\'' || rest.head? == some '"') then
    some (marks, rest)
  else none

/-! ## Operators -/

/-- the operators, the longer ones first -/
def operators : List String := [
  "**=", "//=", ">>=", "<<=", "...",
  "!=", "%=", "&=", "**", "*=", "+=", "-=", "->", "//", "/=", ":=", "<<", "<=", "<>", "==", ">=", ">>", "@=", "^=",
  "|=",
  "%", "&", "(", ")", "*", "+", ",", "-", ".", "/", ":", ";", "<", "=", ">", "@", "[", "]", "^", "\x7b", "|", "\x7d",
  "~"]

def operator? (s : List Char) : Option (String × List Char) :=
  (operators.find? fun o => o.toList.isPrefixOf s).map fun o => (o, s.drop o.length)

def opener? (c : String) : Option String :=
  if c = ")" then some "(" else if c = "]" then some "[" else if c = "\x7d" then some "\x7b" else none

def isOpener (s : String) : Bool := s == "(" || s == "[" || s == "\x7b"

def maxBrackets : Nat := 200

def maxIndents : Nat := 100

/-- the open brackets after an operator, innermost first -/
def brackets? (op : String) (open_ : List String) : Option (List String) :=
  if isOpener op then
    if open_.length < maxBrackets then some (op :: open_) else none
  else match opener? op with
    | none => some open_
    | some o => match open_ with
      | p :: rest => if p = o then some rest else none
      | [] => none

/-! ## Indentation -/

/-- the depth of a line, measured with wide and with narrow tabs -/
structure Depth where
  wide : Nat
  narrow : Nat
deriving DecidableEq

def Depth.zero : Depth := ⟨0, 0⟩

/-- A line's depth, the number of lines that backslashes join to it, and the text after the blanks. The columns before
the first backslash count, unless there are none. -/
def measure (depth : Depth) (kept joined : Nat) : List Char → Option (Depth × Nat × List Char)
  | ' ' :: s => measure ⟨depth.wide + 1, depth.narrow + 1⟩ kept joined s
  | '\t' :: s => measure ⟨(depth.wide / 8 + 1) * 8, depth.narrow + 1⟩ kept joined s
  | '\x0c' :: s => measure .zero kept joined s
  | '\\' :: '\n' :: c :: s => measure depth (if kept = 0 then depth.wide else kept) (joined + 1) (c :: s)
  | '\\' :: _ => none
  | s => some (if kept = 0 then depth else ⟨kept, kept⟩, joined, s)

/-- the levels that a line of the given depth closes, and the open levels then; the line must be as deep as one -/
def closeLevels (d : Depth) : List Depth → Option (List Lexeme × List Depth)
  | [] => none
  | top :: rest =>
    if d.wide < top.wide then (closeLevels d rest).map fun r => (.dedent :: r.1, r.2)
    else if d = top then some ([], top :: rest)
    else none

/-- the levels that a line of the given depth opens or closes, and the open levels then, innermost first -/
def reindent (d : Depth) (levels : List Depth) : Option (List Lexeme × List Depth) :=
  match levels with
  | [] => none
  | top :: _ =>
    if d.wide > top.wide then
      if levels.length < maxIndents ∧ d.narrow > top.narrow then some ([.indent], d :: levels) else none
    else closeLevels d levels

/-! ## Formatted strings -/

/-- the literal text of a formatted string up to a brace; a doubled brace stands for itself unless the text is a
format specification, and the braces around the name of a character end nothing -/
def formatLiteral (raw nested : Bool) : (inName : Bool) → List Char → List Char × List Char
  | _, [] => ([], [])
  | inName, '\\' :: '\\' :: rest =>
    let r := formatLiteral raw nested inName rest
    ('\\' :: '\\' :: r.1, r.2)
  | inName, '\\' :: 'N' :: '\x7b' :: rest =>
    if raw then
      let r := formatLiteral raw nested inName ('\x7b' :: rest)
      ('\\' :: 'N' :: r.1, r.2)
    else
      let r := formatLiteral raw nested true rest
      ('\\' :: 'N' :: '\x7b' :: r.1, r.2)
  | true, c :: rest =>
    let r := formatLiteral raw nested (c != '\x7d') rest
    (c :: r.1, r.2)
  | false, c :: rest =>
    if c == '\x7b' || c == '\x7d' then
      if !nested && rest.head? == some c then ([c], rest.drop 1) else ([], c :: rest)
    else
      let r := formatLiteral raw nested false rest
      (c :: r.1, r.2)

/-- the characters that end the expression of a field -/
def endsField (c : Char) : Bool := c == '!' || c == ':' || c == '\x7d' || c == '='

/-- the comparison operators that do not end the expression of a field -/
def isComparison (c d : Char) : Bool := d == '=' && (c == '!' || c == '=' || c == '<' || c == '>')

/-- The expression of a field, up to what ends it outside brackets and strings. Backslashes and number signs may not
stand in it. -/
def fieldExpression (open_ : List String) : (quote : Option (Char × Bool)) → (fuel : Nat) → List Char →
    Option (List Char × List Char)
  | _, 0, _ => none
  | _, _ + 1, [] => none
  | _, _ + 1, '\\' :: _ => none
  | some (q, long), fuel + 1, c :: rest =>
    if c == q then
      if long then
        if [q, q].isPrefixOf rest then
          (fieldExpression open_ none fuel (rest.drop 2)).map fun r => (q :: q :: q :: r.1, r.2)
        else (fieldExpression open_ (some (q, long)) fuel rest).map fun r => (c :: r.1, r.2)
      else (fieldExpression open_ none fuel rest).map fun r => (c :: r.1, r.2)
    else (fieldExpression open_ (some (q, long)) fuel rest).map fun r => (c :: r.1, r.2)
  | none, fuel + 1, c :: rest =>
    if c == '\'' || c == '"' then
      if [c, c].isPrefixOf rest then
        (fieldExpression open_ (some (c, true)) fuel (rest.drop 2)).map fun r => (c :: c :: c :: r.1, r.2)
      else (fieldExpression open_ (some (c, false)) fuel rest).map fun r => (c :: r.1, r.2)
    else if c == '#' then none
    else
      match open_, rest with
      | [], d :: after =>
        if isComparison c d then (fieldExpression open_ none fuel after).map fun r => (c :: d :: r.1, r.2)
        else if endsField c then some ([], c :: rest)
        else goOn open_ fuel c rest
      | _, _ => if open_.isEmpty && endsField c then some ([], c :: rest) else goOn open_ fuel c rest
where
  /-- a character of the expression that ends nothing -/
  goOn (open_ : List String) (fuel : Nat) (c : Char) (rest : List Char) : Option (List Char × List Char) := do
    let open_ ← brackets? (String.singleton c) open_
    let r ← fieldExpression open_ none fuel rest
    return (c :: r.1, r.2)

/-- is the character a blank in the eyes of the lexer? -/
def isGap (c : Char) : Bool := c == ' ' || c == '\t' || c == '\x0c'

/-- the echo of a field and the text after it -/
def fieldEcho (expression : List Char) : List Char → List Lexeme × List Char
  | '=' :: rest =>
    let gap := rest.takeWhile fun c => isGap c || c == '\n' || c == '\r' || c == '\x0b'
    ([.fieldEcho (expression ++ '=' :: gap)], rest.drop gap.length)
  | s => ([], s)

/-- the conversion of a field and the text after it -/
def fieldConversion : List Char → Option (List Lexeme × List Char)
  | '!' :: c :: rest => if c == 's' || c == 'r' || c == 'a' then some ([.fieldConversion c], rest) else none
  | '!' :: [] => none
  | s => some ([], s)

/-- The parts of a formatted string. `lexField` gives the tokens of an expression, and `level` is the number of fields
around the text: a format specification ends at its brace, and fields in it can not have fields in theirs. -/
def formatParts (lexField : List Char → Option (List Lexeme)) (raw : Bool) :
    (level : Nat) → (fuel : Nat) → List Char → Option (List Lexeme × List Char)
  | _, 0, _ => none
  | level, fuel + 1, s => do
    let (literal, rest) := formatLiteral raw (level > 0) false s
    let value ← if raw then some literal else Literal.unescape literal
    let before : List Lexeme := if literal.isEmpty then [] else [.formatText value]
    match rest with
    | [] => return (before, [])
    | c :: after =>
      if c == '\x7d' && level > 0 then return (before, rest)
      else if c == '\x7d' && literal.isEmpty then none
      else if c == '\x7b' && s.length == rest.length + literal.length then
        if level ≥ 2 then none
        let (expression, rest) ← fieldExpression [] none (after.length + 1) after
        if expression.all fun c => isGap c || c == '\n' then none
        let tokens ← lexField expression
        let (echo, rest) := fieldEcho expression rest
        let (conversion, rest) ← fieldConversion rest
        let (spec, rest) ← match rest with
          | ':' :: rest => do
            let (spec, rest) ← formatParts lexField raw (level + 1) fuel rest
            pure (.specStart :: spec ++ [.specEnd], rest)
          | _ => pure ([], rest)
        match rest with
        | '\x7d' :: rest =>
          let (more, rest) ← formatParts lexField raw level fuel rest
          return (before ++ .fieldStart :: tokens ++ echo ++ conversion ++ spec ++ .fieldEnd :: more, rest)
        | _ => none
      else
        let (more, rest) ← formatParts lexField raw level fuel rest
        return (before ++ more, rest)

/-! ## Tokens -/

/-- where the lexer stands -/
structure LexState where
  /-- the number of the line -/
  line : Nat
  /-- at the beginning of a line? -/
  atStart : Bool
  /-- the open levels of indentation, innermost first -/
  levels : List Depth
  /-- the open brackets, innermost first -/
  brackets : List String

def LexState.start : LexState := ⟨1, true, [.zero], []⟩

/-- one step further: what stands at the front of the text, if it is a token -/
inductive LexStep where
  | failed
  | finished (last : List Lexeme)
  | next (tokens : List Lexeme) (state : LexState) (rest : List Char)

def stepStart (st : LexState) (s : List Char) : LexStep :=
  match measure .zero 0 0 s with
  | none => .failed
  | some (depth, joined, rest) =>
    let st := { st with line := st.line + joined }
    match rest with
    | [] => if st.brackets.isEmpty then .finished (List.replicate (st.levels.length - 1) .dedent) else .failed
    | c :: _ =>
      if c == '#' || c == '\n' then
        .next [] { st with line := st.line + 1 } ((rest.dropWhile (· != '\n')).drop 1)
      else if st.brackets.isEmpty then
        match reindent depth st.levels with
        | none => .failed
        | some (tokens, levels) => .next tokens { st with atStart := false, levels := levels } rest
      else .next [] { st with atStart := false } rest

def lineEnds (s : List Char) : Nat := s.count '\n'

def stepText (lexField : List Char → Option (List Lexeme)) (st : LexState) (marks rest : List Char) : LexStep :=
  match scanString rest with
  | none => .failed
  | some (body, rest) =>
    let st := { st with line := st.line + lineEnds body }
    if Literal.hasMark marks 'f' then
      match formatParts lexField (Literal.hasMark marks 'r') 0 (body.length + 1) body with
      | some (parts, []) => .next (.formatStart :: parts ++ [.formatEnd]) st rest
      | _ => .failed
    else .next [.text marks body] st rest

/-- the step for a token that begins with the character `c` -/
def stepToken (lexField : List Char → Option (List Lexeme)) (st : LexState) (c : Char) (rest : List Char) : LexStep :=
  let s := c :: rest
  match stringStart? s with
  | some (marks, rest) => stepText lexField st marks rest
  | none =>
    if startsName c then
      let name := s.takeWhile extendsName
      if isIdentifier name then .next [.name (String.ofList name)] st (s.dropWhile extendsName) else .failed
    else if c.isDigit || (c == '.' && rest.head?.any Char.isDigit) then
      match scanNumber s with
      | some (raw, rest) => .next [.number raw] st rest
      | none => .failed
    else
      match operator? s with
      | none => .failed
      | some (op, rest) =>
        match brackets? op st.brackets with
        | none => .failed
        | some brackets => .next [.op op] { st with brackets := brackets } rest

def stepInside (lexField : List Char → Option (List Lexeme)) (st : LexState) (s : List Char) : LexStep :=
  match s.dropWhile isGap with
  | [] => .failed
  | c :: rest =>
    if c == '#' then .next [] st ((c :: rest).dropWhile (· != '\n'))
    else if c == '\n' then
      .next (if st.brackets.isEmpty then [.newline] else []) { st with line := st.line + 1, atStart := true } rest
    else if c == '\\' then
      match rest with
      | '\n' :: d :: rest => .next [] { st with line := st.line + 1 } (d :: rest)
      | _ => .failed
    else stepToken lexField st c rest

/-- the tokens of a text, with the lines on which they begin; `fuel` bounds the number of steps -/
def lexWith : (fuel : Nat) → LexState → List Char → Option (List (Token Nat))
  | 0, _, _ => none
  | fuel + 1, st, s =>
    let lexField (expression : List Char) : Option (List Lexeme) :=
      (lexWith fuel .start ('(' :: expression ++ [')', '\n'])).map fun ts =>
        (ts.map Token.lexeme).filter (· != .newline)
    let step := if st.atStart then stepStart st s else stepInside lexField st s
    match step with
    | .failed => none
    | .finished tokens => some (tokens.map (⟨·, st.line⟩))
    | .next tokens st' rest => do
      -- the place of a token that spans lines is its first one
      let line := if st.atStart then st'.line else st.line
      return tokens.map (⟨·, line⟩) ++ (← lexWith fuel st' rest)

/-- a text that ends in a line end -/
def endLine (s : List Char) : List Char := if s.getLast?.any (· != '\n') then s ++ ['\n'] else s

/-- the tokens of a source text; nothing if it is malformed -/
def tokens? (text : List Char) : Option (List (Token Nat)) :=
  let s := endLine (unifyNewlines text)
  lexWith (2 * s.length + 2) .start s

end RouteDocs.Source
