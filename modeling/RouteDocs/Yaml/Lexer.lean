import RouteDocs.Yaml.Scalar
import RouteDocs.Yaml.Token

/-!
The tokens of a YAML text.

Blocks begin and end by indentation: a block of entries begins where an entry stands further in than the block around
it, and ends where something stands further out. What is a key shows only at its colon. Where a key may begin, the place
is remembered, and the tokens that begin a key are put there when a colon follows on the same line.

Main definition: `Tokens.ofText`.
-/

namespace RouteDocs.Yaml

/-- a place at which a key may have begun -/
structure KeyPlace where
  /-- how many tokens come before it -/
  number : Nat
  /-- the text is not well formed if it turns out not to be a key -/
  isRequired : Bool
  index : Nat
  line : Nat
  column : Nat
deriving DecidableEq

/-- where the lexer stands -/
structure Lexer where
  cursor : Cursor
  /-- the tokens so far, the newest first -/
  tokens : List Token
  /-- the columns of the open blocks, innermost first -/
  blocks : List Nat
  /-- may a key begin here? -/
  allowsKey : Bool
  /-- the possible key inside the innermost brackets -/
  pending : Option KeyPlace
  /-- the possible keys outside of each pair of open brackets, innermost first -/
  outer : List (Option KeyPlace)
deriving DecidableEq

namespace Lexer

def start (s : List Char) : Lexer := ⟨.start s, [], [], true, none, []⟩

def inFlow (l : Lexer) : Bool := !l.outer.isEmpty

/-- the least column of what is inside the innermost block -/
def inner (l : Lexer) : Nat :=
  match l.blocks with
  | [] => 0
  | column :: _ => column + 1

abbrev Step := StateT Lexer (Except Fault)

def fail {α : Type} : Step α := fun _ => .error .malformed

def read {α : Type} (r : CharReader α) : Step α := do
  let l ← get
  match r l.cursor with
  | .error e => throw e
  | .ok (a, cursor) =>
    set { l with cursor := cursor }
    return a

def emit (t : Token) : Step Unit := modify fun l => { l with tokens := t :: l.tokens }

def allowKey (b : Bool) : Step Unit := modify fun l => { l with allowsKey := b }

/-! ## Possible keys -/

/-- how far a colon may be from the beginning of its key -/
def maxKeyLength : Nat := 1024

/-- has the lexer gone too far for the place to be that of a key? -/
def KeyPlace.isStale (k : KeyPlace) (c : Cursor) : Bool := k.line != c.line || c.index - k.index > maxKeyLength

/-- a possible key, if the lexer has not gone too far from it; a required one must not be lost -/
def keepFresh (c : Cursor) : Option KeyPlace → Except Fault (Option KeyPlace)
  | none => .ok none
  | some k =>
    if KeyPlace.isStale k c then if k.isRequired then .error .malformed else .ok none
    else .ok (some k)

/-- forget the possible keys that the lexer has gone too far from -/
def dropStale : Step Unit := do
  let l ← get
  let pending ← (keepFresh l.cursor l.pending : Except Fault _)
  let outer ← (l.outer.mapM (keepFresh l.cursor) : Except Fault _)
  set { l with pending := pending, outer := outer }

def dropKey : Step Unit := do
  if (← get).pending.any KeyPlace.isRequired then fail
  modify fun l => { l with pending := none }

/-- remember this place as one where a key may begin; at the column of the innermost block there must be one -/
def rememberKey : Step Unit := do
  if (← get).allowsKey then
    dropKey
    modify fun l =>
      let c := l.cursor
      let isRequired := !l.inFlow && l.blocks.head? == some c.column
      { l with pending := some ⟨l.tokens.length, isRequired, c.index, c.line, c.column⟩ }

/-! ## Blocks -/

/-- close the blocks that lie further in than a column; no column closes all -/
def closeBlocks (column : Option Nat) : Step Unit := modify fun l =>
  if l.inFlow then l
  else
    let isClosed (b : Nat) : Bool := column.all (· < b)
    let closed := l.blocks.takeWhile isClosed
    { l with
      tokens := closed.map (fun _ => .blockEnd) ++ l.tokens
      blocks := l.blocks.dropWhile isClosed }

def opensBlock (l : Lexer) (column : Nat) : Bool := l.blocks.head?.all (· < column)

/-- begin a block here unless there is one at this column -/
def openBlock (t : Token) : Step Unit := do
  let l ← get
  let column := l.cursor.column
  if l.opensBlock column then
    set { l with blocks := column :: l.blocks }
    emit t

/-! ## Tokens -/

/-- the end of all blocks, before a mark between documents or the end of the text -/
def endDocument : Step Unit := do
  closeBlocks none
  dropKey
  allowKey false

def openFlow (t : Token) : Step Unit := do
  rememberKey
  modify fun l => { l with pending := none, outer := l.pending :: l.outer }
  allowKey true
  read (CharReader.skip 1)
  emit t

def closeFlow (t : Token) : Step Unit := do
  dropKey
  match (← get).outer with
  | [] => fail
  | k :: outer => modify fun l => { l with pending := k, outer := outer }
  allowKey false
  read (CharReader.skip 1)
  emit t

def flowEntry : Step Unit := do
  allowKey true
  dropKey
  read (CharReader.skip 1)
  emit .flowEntry

def blockEntry : Step Unit := do
  let l ← get
  if !l.inFlow then
    if !l.allowsKey then fail
    openBlock .blockSequenceStart
  allowKey true
  dropKey
  read (CharReader.skip 1)
  emit .blockEntry

def markedKey : Step Unit := do
  let l ← get
  if !l.inFlow then
    if !l.allowsKey then fail
    openBlock .blockMappingStart
  allowKey (!l.inFlow)
  dropKey
  read (CharReader.skip 1)
  emit .key

/-- put the tokens that begin a key before the tokens of the key -/
def insertKey (k : KeyPlace) : Step Unit := do
  let l ← get
  let opens := !l.inFlow && l.opensBlock k.column
  let tokens := if opens then [.key, .blockMappingStart] else [.key]
  let after := l.tokens.length - k.number
  set { l with
    tokens := l.tokens.take after ++ tokens ++ l.tokens.drop after
    blocks := if opens then k.column :: l.blocks else l.blocks
    pending := none }

def value : Step Unit := do
  let l ← get
  match l.pending with
  | some k =>
    insertKey k
    allowKey false
  | none =>
    if !l.inFlow then
      if !l.allowsKey then fail
      openBlock .blockMappingStart
    allowKey (!l.inFlow)
  read (CharReader.skip 1)
  emit .value

/-- something that may be a key, or begin one -/
def keyLike (r : CharReader Token) : Step Unit := do
  rememberKey
  allowKey false
  emit (← read r)

/-- a block of lines -/
def blockScalar (folded : Bool) : Step Unit := do
  allowKey true
  dropKey
  read (CharReader.skip 1)
  let l ← get
  emit (.scalar (String.ofList (← read (Scalar.block folded l.inner))) false)

def quotedScalar (double : Bool) : Step Unit := keyLike do
  CharReader.skip 1
  return .scalar (String.ofList (← Scalar.quoted double)) false

/-- text as it is; after a line end behind it a key may begin -/
def plainScalar : Step Unit := do
  rememberKey
  let l ← get
  let (text, broken) ← read (Scalar.plain l.inFlow l.inner)
  allowKey broken
  emit (.scalar (String.ofList text) true)

def documentMark (t : Token) : Step Unit := do
  endDocument
  read (CharReader.skip 3)
  emit t

/-- a character that plain text cannot begin with -/
def isIndicator (c : Char) : Bool := "-?:,[]\x7b\x7d#&*!|>'\"%@\x60".toList.contains c

def startsPlain (inFlow : Bool) (c : Char) (next : Option Char) : Bool :=
  !(isGap c || isBreak c || isIndicator c)
    || (!endsToken next && (c == '-' || (!inFlow && (c == '?' || c == ':'))))

/-- move on to the next token, past gaps, comments and line ends, and say whether there is a line end -/
def skipGaps : (fuel : Nat) → CharReader Bool
  | 0 => return false
  | fuel + 1 => do
    CharReader.skipWhile (· == ' ')
    CharReader.skipComment
    let b ← CharReader.lineBreak
    if b.isEmpty then return false
    let _ ← skipGaps fuel
    return true

/-- move on to the next token; a byte order mark may stand at the front of the text -/
def findToken : Step Unit := do
  let l ← get
  if l.cursor.index == 0 && l.cursor.rest.head? == some '\ufeff' then read (CharReader.skip 1)
  let broken ← read (skipGaps (l.cursor.rest.length + 1))
  if broken && !l.inFlow then allowKey true

/-- the token that begins with a character, before the rest of the text -/
def tokenAt (c : Char) (rest : List Char) : Step Unit := do
  let l ← get
  let next := rest.head?
  let inFlow := l.inFlow
  let atStart := l.cursor.column == 0
  if c == '%' && atStart then
    endDocument
    emit (.directive (← read do
      CharReader.skip 1
      Token.directiveLine))
  else if atStart && atMark '-' (c :: rest) then documentMark .documentStart
  else if atStart && atMark '.' (c :: rest) then documentMark .documentEnd
  else if c == '[' then openFlow .flowSequenceStart
  else if c == '\x7b' then openFlow .flowMappingStart
  else if c == ']' then closeFlow .flowSequenceEnd
  else if c == '\x7d' then closeFlow .flowMappingEnd
  else if c == ',' then flowEntry
  else if c == '-' && endsToken next then blockEntry
  else if c == '?' && (inFlow || endsToken next) then markedKey
  else if c == ':' && (inFlow || endsToken next) then value
  else if c == '*' then keyLike do
    CharReader.skip 1
    return .alias (← Token.name)
  else if c == '&' then keyLike do
    CharReader.skip 1
    return .anchor (← Token.name)
  else if c == '!' then keyLike do return .tag (← Token.tagName)
  else if c == '|' && !inFlow then blockScalar false
  else if c == '>' && !inFlow then blockScalar true
  else if c == '\'' then quotedScalar false
  else if c == '"' then quotedScalar true
  else if startsPlain inFlow c next then plainScalar
  else fail

/-- one step: everything up to the next token and that token, and whether there was one -/
def step : Step Bool := do
  findToken
  dropStale
  closeBlocks (some (← get).cursor.column)
  match (← get).cursor.rest with
  | [] =>
    endDocument
    return false
  | c :: rest =>
    tokenAt c rest
    return true

/-- Steps up to the end of the text, each of which takes a character at least: where the lexer stands then, or where it
stood before a step that fails, and why that one does. -/
def run : (fuel : Nat) → Lexer → Lexer × Option Fault
  | 0, l => (l, some .malformed)
  | fuel + 1, l =>
    match step l with
    | .error e => (l, some e)
    | .ok (true, l) => run fuel l
    | .ok (false, l) => (l, none)

/-- how many tokens come before the first place where a key may have begun -/
def settledCount (l : Lexer) : Nat :=
  ((l.pending :: l.outer).filterMap id).foldl
    (fun n k => if KeyPlace.isStale k l.cursor then n else min n k.number) l.tokens.length

end Lexer

def isPrintable (c : Char) : Bool :=
  let n := c.toNat
  n == 0x9 || n == 0xA || n == 0xD || (0x20 ≤ n && n ≤ 0x7E) || n == 0x85 ||
    (0xA0 ≤ n && n ≤ 0xFFFD) || 0x10000 ≤ n

/-- the tokens of a text, and why there are no more of them if the text goes on -/
structure Tokens where
  tokens : List Token
  fault : Option Fault

/-- The tokens of a text. Up to a fault, those count that are settled before it: no key can begin at them any more. -/
def Tokens.ofText (text : List Char) : Tokens :=
  let s := Text.unifyNewlines text
  if !s.all isPrintable then ⟨[], some .malformed⟩
  else
    let (l, fault) := Lexer.run (s.length + 1) (.start s)
    match fault with
    | none => ⟨l.tokens.reverse, none⟩
    | some e => ⟨l.tokens.reverse.take l.settledCount, some e⟩

end RouteDocs.Yaml
