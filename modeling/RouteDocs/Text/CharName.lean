import RouteDocs.Text.CharName.Alias
import RouteDocs.Text.CharName.Alphabets
import RouteDocs.Text.CharName.EastAsian
import RouteDocs.Text.CharName.OldScripts
import RouteDocs.Text.CharName.Pictures
import RouteDocs.Text.CharName.RareScripts
import RouteDocs.Text.CharName.Symbols
import RouteDocs.Text.CharName.Systematic

/-!
Names of characters, as Unicode 14 gives them.

Main definition: `ofCharName?`.
-/

namespace RouteDocs.Text

namespace CharName

def blocks : List Block := alphabets ++ symbols ++ eastAsian ++ oldScripts ++ rareScripts ++ pictures

/-- the code point of a name in a list of names, given in capital letters -/
def listed? (name : List Char) : Option Nat := blocks.findSome? (Block.find? (pieces (· == ' ') name))

def code? (name : List Char) : Option Nat :=
  let capitals := name.map Char.toUpper
  if name.isEmpty then none
  else (syllable? name).or ((ideograph? name).or ((alias? capitals).or ((numbered? capitals).or (listed? capitals))))

end CharName

/-- The character of a name. Capital and small letters count as the same, except in the names of ideographs and of
Korean syllables, which are in capital letters. -/
def ofCharName? (name : List Char) : Option Char := (CharName.code? name).map Char.ofNat

end RouteDocs.Text
