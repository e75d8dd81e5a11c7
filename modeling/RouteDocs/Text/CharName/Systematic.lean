import RouteDocs.Text.CodeRanges
import RouteDocs.Text.Digit

/-!
Names that follow from code points: those of ideographs, which end in the code point, and those of Korean syllables,
which spell the letters of the syllable.
-/

namespace RouteDocs.Text.CharName

/-! ## Code points in names -/

def unifiedIdeographs : CodeRanges := [
  (0x3400, 0x4DBF), (0x4E00, 0x9FFF), (0x20000, 0x2A6DF), (0x2A700, 0x2B738), (0x2B740, 0x2B81D),
  (0x2B820, 0x2CEA1), (0x2CEB0, 0x2EBE0), (0x30000, 0x3134A)]

/-- the beginnings of further names that end in code points, and which characters have them -/
def numberedNames : List (String × CodeRanges) := [
  ("CJK COMPATIBILITY IDEOGRAPH-", [(0xF900, 0xFA6D), (0xFA70, 0xFAD9), (0x2F800, 0x2FA1D)]),
  ("KHITAN SMALL SCRIPT CHARACTER-", [(0x18B00, 0x18CD5)]),
  ("NUSHU CHARACTER-", [(0x1B170, 0x1B2FB)])]

/-- what comes after the given characters at the front -/
def after? : (front s : List Char) → Option (List Char)
  | [], s => some s
  | c :: front, d :: s => if c == d then after? front s else none
  | _ :: _, [] => none

def isCapitalHex (c : Char) : Bool := c.isDigit || ('A' ≤ c && c ≤ 'F')

/-- the code point that is written in so many capital hexadecimal digits -/
def hexCode? (widths : List Nat) (digits : List Char) : Option Nat :=
  if digits.length ∈ widths ∧ digits.all isCapitalHex then
    some (digits.foldl (fun n c => 16 * n + (hexValue? c).getD 0) 0)
  else none

def holds (ranges : CodeRanges) (code : Nat) : Bool := ranges.any fun r => r.1 ≤ code && code ≤ r.2

/-- the ideograph of a name; only capital letters may stand in it, and four digits may have a zero before them -/
def ideograph? (name : List Char) : Option Nat := do
  let code ← hexCode? [4, 5] (← after? "CJK UNIFIED IDEOGRAPH-".toList name)
  if holds unifiedIdeographs code then some code else none

/-- the character of one of the further names that end in code points -/
def numbered? (name : List Char) : Option Nat :=
  numberedNames.findSome? fun (front, ranges) => do
    let digits ← after? front.toList name
    let code ← hexCode? [if digits.head? == some '1' || digits.head? == some '2' then 5 else 4] digits
    if holds ranges code then some code else none

/-! ## Korean syllables -/

def firstLetters : List String :=
  ["G", "GG", "N", "D", "DD", "R", "M", "B", "BB", "S", "SS", "", "J", "JJ", "C", "K", "T", "P", "H"]

def vowels : List String :=
  ["A", "AE", "YA", "YAE", "EO", "E", "YEO", "YE", "O", "WA", "WAE", "OE", "YO", "U", "WEO", "WE", "WI", "YU", "EU",
    "YI", "I"]

def lastLetters : List String :=
  ["", "G", "GG", "GS", "N", "NJ", "NH", "D", "L", "LG", "LM", "LB", "LS", "LT", "LP", "LH", "M", "B", "BS", "S", "SS",
    "NG", "J", "C", "K", "T", "P", "H"]

/-- the number of the longest of the letters that stand at the front, and what comes after them -/
def longest? (letters : List String) (s : List Char) : Option (Nat × List Char) :=
  letters.zipIdx.foldl (fun best (letter, i) =>
    match after? letter.toList s, best with
    | none, best => best
    | some rest, none => some (i, rest)
    | some rest, some b => if rest.length < b.2.length then some (i, rest) else some b) none

/-- the syllable of a name; only capital letters may stand in it -/
def syllable? (name : List Char) : Option Nat := do
  let (first, rest) ← longest? firstLetters (← after? "HANGUL SYLLABLE ".toList name)
  let (vowel, rest) ← longest? vowels rest
  let (last, rest) ← longest? lastLetters rest
  if rest.isEmpty then some (0xAC00 + (first * vowels.length + vowel) * lastLetters.length + last) else none

end RouteDocs.Text.CharName
