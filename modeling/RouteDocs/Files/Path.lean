import RouteDocs.Text.Blank

/-!
Paths. A path is kept in a normal form: repeated slashes and single points leave no trace, double points stay.
-/

namespace RouteDocs.Files

structure Path where
  /-- empty for a relative path, one slash for an absolute one, or two -/
  root : String
  parts : List String
deriving DecidableEq

namespace Path

/-- the slashes that a path begins with count as none, one or two -/
def rootOf (s : List Char) : String :=
  let slashes := (s.takeWhile (· == '/')).length
  if slashes = 0 then "" else if slashes = 2 then "//" else "/"

def ofText (s : String) : Path where
  root := rootOf s.toList
  parts := ((Text.pieces (· == '/') s.toList).map String.ofList).filter fun p => !(p.isEmpty || p == ".")

def text (p : Path) : String :=
  if p.parts.isEmpty && p.root.isEmpty then "." else p.root ++ "/".intercalate p.parts

/-- the last part, empty if there is none -/
def name (p : Path) : String := p.parts.getLastD ""

def parent (p : Path) : Path := { p with parts := p.parts.dropLast }

/-- does the path hold a null character? -/
def hasNull (p : Path) : Bool := p.parts.any fun part => part.toList.contains '\x00'

def extend (p : Path) (parts : List String) : Path := { p with parts := p.parts ++ parts }

/-- a name cut before its last point, unless nothing stands before or after that -/
def splitSuffix (name : String) : String × String :=
  let (stem, suffix) := Text.cutLast '.' name.toList
  if stem.isEmpty || suffix.isEmpty then (name, "") else (String.ofList stem, String.ofList ('.' :: suffix))

/-- the last part without its suffix -/
def stem (p : Path) : String := (splitSuffix p.name).1

/-- the parts of a path below another one; nothing if it is not below it -/
def relativeTo? (p base : Path) : Option (List String) :=
  if p.root == base.root && base.parts.isPrefixOf p.parts then some (p.parts.drop base.parts.length) else none

end Path

end RouteDocs.Files
