import RouteDocs.Text.Blank

/-!
Lists of names of consecutive characters, in which a name is written as far as it differs from the one before it.

Main definition: `Block.find?`.
-/

namespace RouteDocs.Text.CharName

/-- Names of consecutive characters, given the first code point, with semicolons or line feeds between them. A name is
written as a digit and words: the digit says with how many words of the name before it begins. A code point without a
name has an empty place. -/
abbrev Block := Nat × String

def Block.places (b : Block) : List (List Char) := pieces (fun c => c == ';' || c == '\n') b.2.toList

/-- how many words two names share at their front -/
def sharedWords : List (List Char) → List (List Char) → Nat
  | w :: ws, v :: vs => if w == v then sharedWords ws vs + 1 else 0
  | _, _ => 0

/-- The words of a place after those that it takes from the name before it, and how many those are. -/
def readPlace : List Char → Nat × List (List Char)
  | [] => (0, [])
  | [d] => (d.toNat - 48, [])
  | d :: rest => (d.toNat - 48, pieces (· == ' ') rest)

/-- the code point of the name that has the given words; `shared` is how many of them the name before the places begins
with -/
def findFrom (words : List (List Char)) : (code shared : Nat) → List (List Char) → Option Nat
  | _, _, [] => none
  | code, shared, [] :: rest => findFrom words (code + 1) shared rest
  | code, shared, place :: rest =>
    let taken := (place.headD '0').toNat - 48
    -- a name that takes more than is shared differs where the name before it differs
    if taken > shared then findFrom words (code + 1) shared rest
    else
      let own := (readPlace place).2
      let left := words.drop taken
      if own == left then some code else findFrom words (code + 1) (taken + sharedWords own left) rest

/-- the code point of a name, given by its words -/
def Block.find? (words : List (List Char)) (b : Block) : Option Nat := findFrom words b.1 0 b.places

end RouteDocs.Text.CharName
