import RouteDocs.Text.Digit
import RouteDocs.Yaml.Cursor

/-!
The three ways to write a scalar: a block of lines after a mark, text between quotes, and text as it is. A line end
inside a quoted or a plain scalar stands for a space, and more of them for one line end less than there are.
-/

namespace RouteDocs.Yaml.Scalar

open CharReader

/-- what line ends stand for: a single line feed for a space, further ones for themselves -/
def fold (first more : List Char) : List Char :=
  if first != ['\n'] then first ++ more else if more.isEmpty then [' '] else more

/-! ## Blocks of lines -/

/-- what becomes of the line ends at the end of a block -/
inductive Chomping where
  /-- none is kept -/
  | strip
  /-- the first is kept -/
  | clip
  /-- all are kept -/
  | keep
deriving DecidableEq

/-- the mark for keeping or dropping line ends, if there is one -/
def chomping? : CharReader (Option Chomping) := do
  match ← peek with
  | some '+' =>
    skip 1
    return some .keep
  | some '-' =>
    skip 1
    return some .strip
  | _ => return none

/-- the digit for the depth of a block, if there is one; it must not be zero -/
def depthMark? : CharReader (Option Nat) := do
  match ← peek with
  | none => return none
  | some c =>
    if c.isDigit then
      if c == '0' then fail
      skip 1
      return some (c.toNat - 48)
    else return none

/-- the line with the mark of a block, after the mark: how to end the block, and how deep it is -/
def blockHeader : CharReader (Chomping × Option Nat) := do
  let marks ← do
    match ← chomping? with
    | some k => pure (k, ← depthMark?)
    | none =>
      match ← depthMark? with
      | some n => pure ((← chomping?).getD .clip, some n)
      | none => pure (.clip, none)
  if !endsWord (← peek) then fail
  finishLine
  return marks

/-- the line ends before the first line of a block, and the greatest column among the spaces before it -/
def leadingBreaks : (fuel : Nat) → CharReader (List Char × Nat)
  | 0 => return ([], 0)
  | fuel + 1 => do
    match ← peek with
    | none => return ([], 0)
    | some c =>
      if c == ' ' then
        skip 1
        let column := (← get).column
        let (breaks, deepest) ← leadingBreaks fuel
        return (breaks, max column deepest)
      else if isBreak c then
        let b ← lineBreak
        let (breaks, deepest) ← leadingBreaks fuel
        return (b ++ breaks, deepest)
      else return ([], 0)

def skipIndent (column : Nat) : CharReader Unit := do
  let c ← get
  skip (min (c.rest.takeWhile (· == ' ')).length (column - c.column))

/-- the line ends of empty lines before a line that begins at a column or before it -/
def emptyLines (column : Nat) : (fuel : Nat) → CharReader (List Char)
  | 0 => return []
  | fuel + 1 => do
    skipIndent column
    if (← peek).any isBreak then
      let b ← lineBreak
      return b ++ (← emptyLines column fuel)
    else return []

/-- the lines of a block that begin at a column, given the line ends before them; what stands at the end of the block
is given apart: the end of its last line, and the line ends after that -/
def blockLines (folded : Bool) (column : Nat) :
    (fuel : Nat) → (ending breaks : List Char) → CharReader (List Char × List Char × List Char)
  | 0, ending, breaks => return ([], ending, breaks)
  | fuel + 1, ending, breaks => do
    let c ← get
    if c.column != column || c.rest.isEmpty then return ([], ending, breaks)
    let line ← takeWhile (!isBreak ·)
    let after ← lineBreak
    let more ← emptyLines column (fuel + 1)
    let c ← get
    if c.column != column || c.rest.isEmpty then return (breaks ++ line, after, more)
    -- only lines that begin with no gap are joined
    let joined := folded && after == ['\n'] && !(line.head?.any isGap) && !(c.rest.head?.any isGap)
    let glue := if !joined then after else if more.isEmpty then [' '] else []
    let (text, rest) ← blockLines folded column fuel after more
    return (breaks ++ line ++ glue ++ text, rest)

/-- a block of lines, after its mark; `inner` is the least column of lines that belong to it -/
def block (folded : Bool) (inner : Nat) : CharReader (List Char) := do
  let (chomping, depth) ← blockHeader
  let least := max inner 1
  let fuel := (← remaining).length + 1
  let (column, breaks) ← do
    match depth with
    | some n =>
      let column := least + n - 1
      pure (column, ← emptyLines column fuel)
    | none =>
      let (breaks, deepest) ← leadingBreaks fuel
      pure (max least deepest, breaks)
  let (text, ending, more) ← blockLines folded column fuel [] breaks
  return match chomping with
    | .strip => text
    | .clip => text ++ ending
    | .keep => text ++ ending ++ more

/-! ## Quoted text -/

def escape? (c : Char) : Option Char :=
  [('0', '\x00'), ('a', '\x07'), ('b', '\x08'), ('t', '\t'), ('\t', '\t'), ('n', '\n'), ('v', '\x0b'), ('f', '\x0c'),
    ('r', '\r'), ('e', '\x1b'), (' ', ' '), ('"', '"'), ('\\', '\\'), ('/', '/'), ('N', '\x85'), ('_', '\xa0'),
    ('L', '\u2028'), ('P', '\u2029')].lookup c

/-- how many digits follow the letter of an escape that gives a code point -/
def escapeWidth? (c : Char) : Option Nat := [('x', 2), ('u', 4), ('U', 8)].lookup c

def hexNumber? (digits : List Char) : Option Nat :=
  digits.foldlM (fun n c => (Text.hexValue? c).map (16 * n + ·)) 0

/-- the character of a code point in an escape -/
def codePoint (width : Nat) : CharReader Char := do
  let digits := (← remaining).take width
  match hexNumber? digits with
  | none => fail
  | some n =>
    if digits.length < width then fail
    else if h : n.isValidChar then
      skip width
      return Char.ofNatAux n h
    else if n < 0x110000 then fail
    else throw (if n < Nat.pow 2 31 then .badScalar else .hugeCodePoint)

/-- the line ends after the first one inside quotes; no documents may be separated there -/
def quotedBreaks : (fuel : Nat) → CharReader (List Char)
  | 0 => return []
  | fuel + 1 => do
    if atSeparator (← remaining) then fail
    skipWhile isGap
    if (← peek).any isBreak then
      let b ← lineBreak
      return b ++ (← quotedBreaks fuel)
    else return []

/-- what an escape stands for, after its backslash -/
def escape : CharReader (List Char) := do
  match ← peek with
  | none => fail
  | some c =>
    match escape? c, escapeWidth? c with
    | some e, _ =>
      skip 1
      return [e]
    | none, some width =>
      skip 1
      return [← codePoint width]
    | none, none =>
      if isBreak c then
        let _ ← lineBreak
        quotedBreaks ((← remaining).length + 1)
      else fail

/-- text up to a gap, a line end or the closing quote -/
def quotedText (double : Bool) : (fuel : Nat) → CharReader (List Char)
  | 0 => return []
  | fuel + 1 => do
    let run ← takeWhile fun c => !(isGap c || isBreak c || c == '\'' || c == '"' || c == '\\')
    match ← remaining with
    | '\'' :: rest =>
      if double then
        skip 1
        return run ++ '\'' :: (← quotedText double fuel)
      else if rest.head? == some '\'' then
        skip 2
        return run ++ '\'' :: (← quotedText double fuel)
      else return run
    | '"' :: _ =>
      if double then return run
      else
        skip 1
        return run ++ '"' :: (← quotedText double fuel)
    | '\\' :: _ =>
      skip 1
      let e ← if double then escape else pure ['\\']
      return run ++ e ++ (← quotedText double fuel)
    | _ => return run

def quotedGap : CharReader (List Char) := do
  let gap ← takeWhile isGap
  match ← peek with
  | none => fail
  | some c =>
    if isBreak c then
      let first ← lineBreak
      return fold first (← quotedBreaks ((← remaining).length + 1))
    else return gap

/-- gaps and text in turn, up to the closing quote -/
def quotedRest (double : Bool) : (fuel : Nat) → CharReader (List Char)
  | 0 => fail
  | fuel + 1 => do
    if (← peek) == some (if double then '"' else '\'') then
      skip 1
      return []
    else
      let gap ← quotedGap
      let text ← quotedText double ((← remaining).length + 1)
      return gap ++ text ++ (← quotedRest double fuel)

/-- text between quotes, after the opening one -/
def quoted (double : Bool) : CharReader (List Char) := do
  let fuel := (← remaining).length + 1
  let text ← quotedText double fuel
  return text ++ (← quotedRest double fuel)

/-! ## Plain text -/

/-- a character that ends plain text inside brackets -/
def endsInFlow (c : Char) : Bool := [',', '?', '[', ']', '\x7b', '\x7d'].contains c

/-- does a colon before this end plain text? -/
def endsKey (inFlow : Bool) (next : Option Char) : Bool :=
  endsToken next || (inFlow && next.any fun c => [',', '[', ']', '\x7b', '\x7d'].contains c)

/-- plain text up to a gap or a line end, or a character that cannot belong to it -/
def plainRun (inFlow : Bool) : List Char → List Char
  | [] => []
  | c :: rest =>
    if isGap c || isBreak c || (c == ':' && endsKey inFlow rest.head?) || (inFlow && endsInFlow c) then []
    else c :: plainRun inFlow rest

/-- the line ends after the first one in plain text; nothing if documents are separated there -/
def plainBreaks : (fuel : Nat) → CharReader (Option (List Char))
  | 0 => return some []
  | fuel + 1 => do
    if atSeparator (← remaining) then return none
    skipWhile (· == ' ')
    if (← peek).any isBreak then
      let b ← lineBreak
      return (← plainBreaks fuel).map (b ++ ·)
    else return some []

/-- a gap or line ends in plain text, and whether there is a line end; the gap is empty where the text ends -/
def plainGap : CharReader (List Char × Bool) := do
  let gap ← takeWhile (· == ' ')
  if (← peek).any isBreak then
    let first ← lineBreak
    match ← plainBreaks ((← remaining).length + 1) with
    | none => return ([], true)
    | some more => return (fold first more, true)
  else return (gap, false)

/-- plain text after a gap, and whether a line end comes after it -/
def plainRest (inFlow : Bool) (inner : Nat) :
    (fuel : Nat) → (gap : List Char) → (broken : Bool) → CharReader (List Char × Bool)
  | 0, _, broken => return ([], broken)
  | fuel + 1, gap, broken => do
    let s ← remaining
    let run := plainRun inFlow s
    if s.head? == some '#' || run.isEmpty then return ([], broken)
    skip run.length
    let (next, broken) ← plainGap
    let c ← get
    if next.isEmpty || c.rest.head? == some '#' || (!inFlow && c.column < inner) then return (gap ++ run, broken)
    let (text, broken) ← plainRest inFlow inner fuel next broken
    return (gap ++ run ++ text, broken)

/-- plain text, whose further lines begin at the column `inner` or after it, and whether a line end comes after it -/
def plain (inFlow : Bool) (inner : Nat) : CharReader (List Char × Bool) := do
  plainRest inFlow inner ((← remaining).length + 1) [] false

end RouteDocs.Yaml.Scalar
