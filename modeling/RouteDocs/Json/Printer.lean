import RouteDocs.Json.Basic
import RouteDocs.Text.Quoted

/-!
Trees as text in pure ASCII: every other character is written as the escape of its UTF-16 units. The indented layout
puts each member and item on a line of its own, four blanks further in than its container.
-/

namespace RouteDocs.Json

/-- how a tree is laid out: on indented lines, or without any blank -/
inductive Layout where
  | indented
  | compact
deriving DecidableEq

def escapeUnit (n : Nat) : List Char := '\\' :: 'u' :: Text.hexDigits 4 n

def escapeChar (c : Char) : List Char :=
  if c == '"' then ['\\', '"']
  else if c == '\\' then ['\\', '\\']
  else if c == '\n' then ['\\', 'n']
  else if c == '\r' then ['\\', 'r']
  else if c == '\t' then ['\\', 't']
  else if c == '\x0c' then ['\\', 'f']
  else if c == '\x08' then ['\\', 'b']
  else
    let n := c.toNat
    if 32 ≤ n && n < 127 then [c]
    else if n < 0x10000 then escapeUnit n
    else
      let n := n - 0x10000
      escapeUnit (0xD800 + n / 0x400) ++ escapeUnit (0xDC00 + n % 0x400)

def printString (s : String) : List Char := '"' :: s.toList.flatMap escapeChar ++ ['"']

/-- what stands before an item or member at the given depth -/
def Layout.newline : Layout → Nat → List Char
  | .indented, depth => '\n' :: List.replicate (4 * depth) ' '
  | .compact, _ => []

/-- what stands between a member's name and its value -/
def Layout.colon : Layout → List Char
  | .indented => [':', ' ']
  | .compact => [':']

mutual

/-- a tree as text; `depth` is the number of containers around it -/
def print (layout : Layout) (depth : Nat) : Json → List Char
  | .null => ['n', 'u', 'l', 'l']
  | .bool true => ['t', 'r', 'u', 'e']
  | .bool false => ['f', 'a', 'l', 's', 'e']
  | .int n => Numeral.decimalInt n
  | .real x => x.text ['.', '0'] ['I', 'n', 'f', 'i', 'n', 'i', 't', 'y']
  | .str s => printString s
  | .arr [] => ['[', ']']
  | .arr (v :: rest) =>
    '[' :: layout.newline (depth + 1) ++ print layout (depth + 1) v ++ printItems layout (depth + 1) rest
      ++ layout.newline depth ++ [']']
  | .obj [] => ['\x7b', '\x7d']
  | .obj ((k, v) :: rest) =>
    '\x7b' :: layout.newline (depth + 1) ++ printString k ++ layout.colon ++ print layout (depth + 1) v
      ++ printMembers layout (depth + 1) rest ++ layout.newline depth ++ ['\x7d']

/-- the items after the first, each with its comma -/
def printItems (layout : Layout) (depth : Nat) : List Json → List Char
  | [] => []
  | v :: rest => ',' :: layout.newline depth ++ print layout depth v ++ printItems layout depth rest

/-- the members after the first, each with its comma -/
def printMembers (layout : Layout) (depth : Nat) : List (String × Json) → List Char
  | [] => []
  | (k, v) :: rest =>
    ',' :: layout.newline depth ++ printString k ++ layout.colon ++ print layout depth v
      ++ printMembers layout depth rest

end

def pretty (v : Json) : String := String.ofList (v.print .indented 0)

def compact (v : Json) : String := String.ofList (v.print .compact 0)

end RouteDocs.Json
