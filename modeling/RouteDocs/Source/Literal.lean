import RouteDocs.Numeral.Binary64
import RouteDocs.Text.CharName

/-!
The values of literals: numbers in four bases, fractions and imaginary ones, and the escapes in strings of characters
and of bytes.
-/

namespace RouteDocs.Source

inductive Constant where
  | none
  | true
  | false
  | ellipsis
  | int (n : Nat)
  | float (x : Numeral.Binary64)
  | imaginary (x : Numeral.Binary64)
  /-- a text; `marked` if it is written with a `u` before its quotes -/
  | str (s : List Char) (marked : Bool)
  | bytes (bs : List UInt8)
deriving DecidableEq, Inhabited

namespace Literal

open Numeral (inBase)

/-! ## Numbers -/

/-- The value of a number as it is written. A decimal one may have so many digits only; zeros before other digits make
it a number that is not whole. -/
def number? (raw : List Char) : Option Constant :=
  let s := raw.filter (· != '_')
  match s with
  | '0' :: m :: digits =>
    if m == 'x' || m == 'X' then some (.int (inBase 16 digits))
    else if m == 'o' || m == 'O' then some (.int (inBase 8 digits))
    else if m == 'b' || m == 'B' then some (.int (inBase 2 digits))
    else decimal? s
  | _ => decimal? s
where
  /-- the value of a number without a base mark -/
  decimal? (s : List Char) : Option Constant :=
    match s.getLast? with
    | some 'j' | some 'J' => some (.imaginary (.ofText s.dropLast))
    | _ =>
      if s.all (· == '0') then some (.int 0)
      else if s.all Char.isDigit && s.head? != some '0' then
        if s.length ≤ Numeral.maxDigits then some (.int (inBase 10 s)) else none
      else some (.float (.ofText s))

/-! ## Escapes -/

def simpleEscape? (c : Char) : Option Char :=
  if c == '\\' || c == '\'' || c == '"' then some c
  else if c == 'a' then some '\x07'
  else if c == 'b' then some '\x08'
  else if c == 'f' then some '\x0c'
  else if c == 'n' then some '\n'
  else if c == 'r' then some '\r'
  else if c == 't' then some '\t'
  else if c == 'v' then some '\x0b'
  else none

/-- the number that `width` hexadecimal digits at the front stand for -/
def hex? : (width : Nat) → (value : Nat) → List Char → Option (Nat × List Char)
  | 0, value, s => some (value, s)
  | width + 1, value, c :: rest => do hex? width (16 * value + (← Text.hexValue? c)) rest
  | _ + 1, _, [] => none

/-- an octal number at the front, of `width` digits at most -/
def octal : (width : Nat) → (value : Nat) → List Char → Nat × List Char
  | 0, value, s => (value, s)
  | _ + 1, value, [] => (value, [])
  | width + 1, value, c :: rest =>
    if '0' ≤ c ∧ c ≤ '7' then octal width (8 * value + (c.toNat - 48)) rest else (value, c :: rest)

/-- the character of a code point, if there is one -/
def codePoint? (n : Nat) : Option Char :=
  if h : n.isValidChar then some (Char.ofNatAux n h) else if n < 0x110000 then some '\ufffd' else none

/-- the character whose name stands between braces at the front -/
def named? : List Char → Option (Char × List Char)
  | '\x7b' :: rest => do
    let name := rest.takeWhile (· != '\x7d')
    if name.length = rest.length then none
    return (← Text.ofCharName? name, rest.drop (name.length + 1))
  | _ => none

/-- the value of a string body with escapes, `fuel` being at least its length -/
def unescapeWith : (fuel : Nat) → List Char → Option (List Char)
  | 0, _ => some []
  | _ + 1, [] => some []
  | fuel + 1, '\\' :: c :: rest =>
    match simpleEscape? c with
    | some d => (unescapeWith fuel rest).map (d :: ·)
    | none =>
      if c == '\n' then unescapeWith fuel rest
      else if '0' ≤ c ∧ c ≤ '7' then do
        let (n, rest) := octal 3 0 (c :: rest)
        return (← codePoint? n) :: (← unescapeWith fuel rest)
      else if c == 'x' then do
        let (n, rest) ← hex? 2 0 rest
        return (← codePoint? n) :: (← unescapeWith fuel rest)
      else if c == 'u' then do
        let (n, rest) ← hex? 4 0 rest
        return (← codePoint? n) :: (← unescapeWith fuel rest)
      else if c == 'U' then do
        let (n, rest) ← hex? 8 0 rest
        return (← codePoint? n) :: (← unescapeWith fuel rest)
      else if c == 'N' then do
        let (d, rest) ← named? rest
        return d :: (← unescapeWith fuel rest)
      else (unescapeWith fuel rest).map fun s => '\\' :: c :: s
  | fuel + 1, c :: rest => (unescapeWith fuel rest).map (c :: ·)

/-- the value of a string body with escapes; an escape that means nothing stands for itself -/
def unescape (body : List Char) : Option (List Char) := unescapeWith body.length body

/-- the value of the body of a byte string with escapes, `fuel` being at least its length -/
def unescapeBytesWith : (fuel : Nat) → List Char → Option (List UInt8)
  | 0, _ => some []
  | _ + 1, [] => some []
  | fuel + 1, '\\' :: c :: rest =>
    match simpleEscape? c with
    | some d => (unescapeBytesWith fuel rest).map (d.toNat.toUInt8 :: ·)
    | none =>
      if c == '\n' then unescapeBytesWith fuel rest
      else if '0' ≤ c ∧ c ≤ '7' then
        let (n, rest) := octal 3 0 (c :: rest)
        (unescapeBytesWith fuel rest).map (n.toUInt8 :: ·)
      else if c == 'x' then do
        let (n, rest) ← hex? 2 0 rest
        return n.toUInt8 :: (← unescapeBytesWith fuel rest)
      else (unescapeBytesWith fuel rest).map fun s => 92 :: c.toNat.toUInt8 :: s
  | fuel + 1, c :: rest => (unescapeBytesWith fuel rest).map (c.toNat.toUInt8 :: ·)

/-- the value of the body of a byte string with escapes; only ASCII characters may stand in it -/
def unescapeBytes (body : List Char) : Option (List UInt8) :=
  if body.all (·.toNat < 128) then unescapeBytesWith body.length body else none

/-- is the letter among the marks before a string, in small or capital? -/
def hasMark (marks : List Char) (c : Char) : Bool := marks.any fun m => m.toLower == c

/-- the value of a string that is not a formatted one -/
def text? (marks body : List Char) : Option Constant :=
  let raw := hasMark marks 'r'
  if hasMark marks 'b' then
    if raw then
      if body.all (·.toNat < 128) then some (.bytes (body.map fun c => c.toNat.toUInt8)) else none
    else (unescapeBytes body).map .bytes
  else
    let value := if raw then some body else unescape body
    value.map fun s => .str s (marks.head? == some 'u')

end Literal

end RouteDocs.Source
