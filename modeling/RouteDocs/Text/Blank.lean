/-!
Blanks, and what is cut at them: trimming a text at its ends and taking it apart into words; and other cuts of texts.
All of it is structural recursion over the characters, so that each law is one induction.
-/

namespace RouteDocs.Text

/-- a blank: the ASCII spaces and separators, the no-break space, and the space separators of Unicode -/
def isBlank (c : Char) : Bool :=
  let n := c.toNat
  (9 ≤ n && n ≤ 13) || (28 ≤ n && n ≤ 32) || n == 0x85 || n == 0xA0 || n == 0x1680
    || (0x2000 ≤ n && n ≤ 0x200A) || n == 0x2028 || n == 0x2029 || n == 0x202F || n == 0x205F || n == 0x3000

/-- a blank that is no separator of ASCII -/
def isSpace (c : Char) : Bool := isBlank c && !(28 ≤ c.toNat && c.toNat ≤ 31)

/-- drop the longest end of a list that satisfies `p` -/
def dropWhileEnd {α : Type} (p : α → Bool) (s : List α) : List α :=
  (s.reverse.dropWhile p).reverse

/-- drop at both ends what satisfies `p` -/
def trimWhile {α : Type} (p : α → Bool) (s : List α) : List α :=
  dropWhileEnd p (s.dropWhile p)

/-- a text without the blanks at its ends -/
def trim (s : List Char) : List Char := trimWhile isBlank s

/-- put a character in front of pieces: into the first one, or between a new empty one and them if it satisfies `p` -/
def pushPiece (p : Char → Bool) (c : Char) : List (List Char) → List (List Char)
  | [] => if p c then [[]] else [[c]]
  | piece :: others => if p c then [] :: piece :: others else (c :: piece) :: others

/-- the pieces between the characters that satisfy `p`; there is one more of them than of those characters -/
def pieces (p : Char → Bool) (s : List Char) : List (List Char) := s.foldr (pushPiece p) [[]]

/-- the words of a text: its longest pieces without a blank -/
def words (s : List Char) : List (List Char) :=
  (pieces isBlank s).filter fun w => !w.isEmpty

/-- the first word of a text, and what comes after it and the blanks that end it -/
def firstWord (s : List Char) : List Char × List Char :=
  let s := s.dropWhile isBlank
  (s.takeWhile (!isBlank ·), (s.dropWhile (!isBlank ·)).dropWhile isBlank)

/-- the words of a list joined by a separator -/
def join (separator : List Char) (parts : List (List Char)) : List Char :=
  (parts.intersperse separator).flatten

/-- cut at the last occurrence of `sep`: what stands before it (nothing if there is none) and after it -/
def cutLast (sep : Char) (s : List Char) : List Char × List Char :=
  let tail := (s.reverse.takeWhile (· != sep)).reverse
  (s.take (s.length - tail.length - 1), tail)

def occursIn (needle : List Char) : List Char → Bool
  | [] => needle.isEmpty
  | c :: rest => needle.isPrefixOf (c :: rest) || occursIn needle rest

end RouteDocs.Text
