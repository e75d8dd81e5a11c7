import RouteDocs.Text.WordTable
import RouteDocs.Text.IdentifierTable

/-!
Word characters (letters, numerals and the underscore) and the characters of an identifier.
-/

namespace RouteDocs.Text

/-- a letter or a numeral of any script, or the underscore -/
def isWord (c : Char) : Bool :=
  if c.toNat < 128 then c.isAlphanum || c == '_' else wordRanges.contains c

def startsIdentifier (c : Char) : Bool :=
  if c.toNat < 128 then c.isAlpha || c == '_' else identifierStartRanges.contains c

def extendsIdentifier (c : Char) : Bool :=
  if c.toNat < 128 then c.isAlphanum || c == '_'
  else identifierStartRanges.contains c || identifierExtendRanges.contains c

end RouteDocs.Text
