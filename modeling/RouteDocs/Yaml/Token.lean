import RouteDocs.Numeral.Integer
import RouteDocs.Text.Utf8
import RouteDocs.Yaml.Cursor

/-!
The tokens of a YAML text, and readers for those that are names, tags and directives.
-/

namespace RouteDocs.Yaml

/-- a tag as it is written: a handle, if it has one, and what comes after it -/
structure TagName where
  handle : Option String
  suffix : String
deriving DecidableEq

/-- a line that says how the next document is to be read -/
inductive Directive where
  /-- the version of the format; its first number is one, or it is not -/
  | version (isFirst : Bool)
  /-- what the handle of a tag stands for -/
  | handle (name meaning : String)
  | other
deriving DecidableEq

inductive Token where
  | directive (d : Directive)
  | documentStart
  | documentEnd
  | blockSequenceStart
  | blockMappingStart
  | blockEnd
  | flowSequenceStart
  | flowSequenceEnd
  | flowMappingStart
  | flowMappingEnd
  | blockEntry
  | flowEntry
  | key
  | value
  | alias (name : String)
  | anchor (name : String)
  | tag (name : TagName)
  | scalar (text : String) (isPlain : Bool)
deriving DecidableEq

namespace Token

open CharReader

def isNameChar (c : Char) : Bool := c.isAlphanum || c == '-' || c == '_'

def isTagChar (c : Char) : Bool :=
  c.isAlphanum || ("-;/?:@&=+$,_.!~*'()[]%".toList.contains c)

def endsName (next : Option Char) : Bool :=
  endsToken next || next.any fun c => ['?', ':', ',', ']', '\x7d', '%', '@', '\x60'].contains c

/-- the name after the mark of an anchor or an alias -/
def name : CharReader String := do
  let name ← takeWhile isNameChar
  if name.isEmpty || !endsName (← peek) then fail
  return String.ofList name

/-! ## Tags -/

def escapedBytes : (fuel : Nat) → CharReader (List UInt8)
  | 0 => return []
  | fuel + 1 => do
    match ← remaining with
    | '%' :: a :: b :: _ =>
      match Text.hexValue? a, Text.hexValue? b with
      | some x, some y =>
        skip 3
        return UInt8.ofNat (16 * x + y) :: (← escapedBytes fuel)
      | _, _ => fail
    | '%' :: _ => fail
    | _ => return []

def tagChars : (fuel : Nat) → CharReader (List Char)
  | 0 => return []
  | fuel + 1 => do
    let run ← takeWhile fun c => isTagChar c && c != '%'
    if (← peek) == some '%' then
      match Text.Utf8.decode (← escapedBytes ((← remaining).length + 1)) with
      | .error _ => fail
      | .ok s => return run ++ s ++ (← tagChars fuel)
    else return run

/-- a tag after its handle, which must not be empty -/
def tagSuffix : CharReader String := do
  let before ← remaining
  let s ← tagChars (before.length + 1)
  if (← remaining).length = before.length then fail
  return String.ofList s

/-- the handle of a tag: an exclamation mark, or a name between two of them -/
def tagHandle : CharReader String := do
  match ← remaining with
  | '!' :: rest =>
    if rest.head? == some ' ' then
      skip 1
      return "!"
    else
      let name := rest.takeWhile isNameChar
      if rest[name.length]? != some '!' then fail
      skip (name.length + 2)
      return String.ofList ('!' :: name ++ ['!'])
  | _ => fail

/-- does a further exclamation mark stand in a word, after its first character? -/
def hasHandle (s : List Char) : Bool := ((s.drop 1).takeWhile fun c => !endsWord (some c)).contains '!'

/-- a tag, its exclamation mark included -/
def tagName : CharReader TagName := do
  let s ← remaining
  let tag ← do
    if (s[1]?) == some '<' then
      skip 2
      let suffix ← tagSuffix
      if (← peek) != some '>' then fail
      skip 1
      pure ⟨none, suffix⟩
    else if endsToken s[1]? then
      skip 1
      pure ⟨none, "!"⟩
    else if hasHandle s then
      let handle ← tagHandle
      pure ⟨some handle, ← tagSuffix⟩
    else
      skip 1
      pure ⟨some "!", ← tagSuffix⟩
  if !endsWord (← peek) then fail
  return tag

/-! ## Directives -/

def number : CharReader Nat := do
  let digits ← takeWhile Char.isDigit
  if digits.isEmpty then fail
  match Numeral.natural? digits with
  | some n => return n
  | none => throw .badScalar

def version : CharReader Directive := do
  skipWhile (· == ' ')
  let first ← number
  if (← peek) != some '.' then fail
  skip 1
  let _ ← number
  if !endsWord (← peek) then fail
  return .version (first == 1)

def handleMeaning : CharReader Directive := do
  skipWhile (· == ' ')
  let handle ← tagHandle
  if (← peek) != some ' ' then fail
  skipWhile (· == ' ')
  let meaning ← tagSuffix
  if !endsWord (← peek) then fail
  return .handle handle meaning

def directiveLine : CharReader Directive := do
  let name ← takeWhile isNameChar
  if name.isEmpty || !endsWord (← peek) then fail
  let d ← do
    if name = "YAML".toList then version
    else if name = "TAG".toList then handleMeaning
    else
      skipWhile (!isBreak ·)
      pure .other
  finishLine
  return d

end Token

end RouteDocs.Yaml
