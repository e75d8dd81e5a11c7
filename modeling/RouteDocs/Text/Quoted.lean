import RouteDocs.Text.PrintableTable

/-!
Quoted literals: how a text or a run of bytes is written between quotes. The quote is a single one unless the
content holds single quotes and no double ones; backslashes, the quote in use and whatever has no glyph of its own
are escaped.
-/

namespace RouteDocs.Text

/-- does the character have a glyph of its own (or is it the plain blank)? -/
def isPrintable (c : Char) : Bool :=
  let n := c.toNat
  if n < 128 then 32 ≤ n && n < 127 else !unprintableRanges.contains c

/-- a hexadecimal digit in lower case -/
def hexDigit (n : Nat) : Char := Nat.digitChar (n % 16)

def hexDigits : (width : Nat) → Nat → List Char
  | 0, _ => []
  | width + 1, n => hexDigits width (n / 16) ++ [hexDigit n]

namespace Quoted

def quoteFor (s : List Char) : Char :=
  if s.contains '\'' && !s.contains '"' then '"' else '\''

/-- the escapes that have a letter of their own -/
def named (c : Char) : Option (List Char) :=
  if c == '\n' then some ['\\', 'n']
  else if c == '\r' then some ['\\', 'r']
  else if c == '\t' then some ['\\', 't']
  else none

/-- a character as it stands in a literal with the given quote -/
def encodeChar (quote : Char) (c : Char) : List Char :=
  if c == '\\' || c == quote then ['\\', c]
  else match named c with
    | some escape => escape
    | none =>
      if isPrintable c then [c]
      else if c.toNat < 0x100 then '\\' :: 'x' :: hexDigits 2 c.toNat
      else if c.toNat < 0x10000 then '\\' :: 'u' :: hexDigits 4 c.toNat
      else '\\' :: 'U' :: hexDigits 8 c.toNat

/-- a text as a literal -/
def encode (s : List Char) : List Char :=
  let quote := quoteFor s
  quote :: s.flatMap (encodeChar quote) ++ [quote]

/-- a byte as it stands in a literal: like an ASCII character, and escaped from 127 on -/
def encodeByte (quote : Char) (b : UInt8) : List Char :=
  if b < 127 then encodeChar quote (Char.ofNat b.toNat) else '\\' :: 'x' :: hexDigits 2 b.toNat

/-- bytes as a literal, marked by a `b` before the quote -/
def encodeBytes (bytes : List UInt8) : List Char :=
  let quote := quoteFor (bytes.map fun b => Char.ofNat b.toNat)
  'b' :: quote :: bytes.flatMap (encodeByte quote) ++ [quote]

end Quoted

def quoted (s : String) : String := String.ofList (Quoted.encode s.toList)

end RouteDocs.Text
