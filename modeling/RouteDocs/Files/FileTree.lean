import RouteDocs.Files.Path
import RouteDocs.OrderedMap
import RouteDocs.Text.Quoted

/-!
A tree of files as it is seen from a working directory, and what the operations on it do or why they fail.
-/

namespace RouteDocs.Files

/-- what a name in the tree stands for -/
inductive Entry where
  | file (content : List UInt8)
  | directory
deriving DecidableEq

/-- A tree of files. A place is written as the names that lead to it from the working directory, after double points for
the way up. -/
structure FileTree where
  /-- what stands where, apart from the working directory and those above it, which are always there -/
  entries : OrderedMap (List String) Entry
  /-- the names that lead from the root to the working directory -/
  above : List String
deriving DecidableEq

/-! ## Failures -/

inductive OsErrorKind where
  | notFound
  | busy
  | exists
  | notDirectory
  | isDirectory
  | nameTooLong
deriving DecidableEq

def OsErrorKind.number : OsErrorKind → Nat
  | .notFound => 2
  | .busy => 16
  | .exists => 17
  | .notDirectory => 20
  | .isDirectory => 21
  | .nameTooLong => 36

def OsErrorKind.wording : OsErrorKind → String
  | .notFound => "No such file or directory"
  | .busy => "Device or resource busy"
  | .exists => "File exists"
  | .notDirectory => "Not a directory"
  | .isDirectory => "Is a directory"
  | .nameTooLong => "File name too long"

/-- a file operation that failed -/
inductive OsError where
  /-- at a path -/
  | at (kind : OsErrorKind) (path : Path)
  /-- when a temporary file was to be made -/
  | temporary (kind : OsErrorKind)
  /-- when a temporary file was to take the place of a path -/
  | replacing (kind : OsErrorKind) (path : Path)
  /-- a path holds a null character, so it is no name of a file -/
  | nullCharacter
deriving DecidableEq

def OsError.kind? : OsError → Option OsErrorKind
  | .at kind _ | .temporary kind | .replacing kind _ => some kind
  | .nullCharacter => none

/-- the wording of a failure; the name of a temporary file does not matter -/
def OsError.message : OsError → String
  | .at kind path => s!"[Errno {kind.number}] {kind.wording}: {Text.quoted path.text}"
  | .temporary kind => s!"[Errno {kind.number}] {kind.wording}: <tmp>"
  | .replacing kind path => s!"[Errno {kind.number}] {kind.wording}: <tmp> -> {Text.quoted path.text}"
  | .nullCharacter => "a path holds a null character"

namespace FileTree

def empty (above : List String := ["tmp", "work"]) : FileTree := ⟨∅, above⟩

/-- is the place the working directory, or one above it? -/
def isTop (place : List String) : Bool := place.all (· == "..")

def entry? (t : FileTree) (place : List String) : Option Entry :=
  if isTop place then some .directory else t.entries.get? place

def isFree (t : FileTree) (place : List String) : Bool := t.entry? place == none

def put (t : FileTree) (place : List String) (e : Entry) : FileTree := { t with entries := t.entries.insert place e }

/-- a directory at a place, with those above it -/
def putDirectories (t : FileTree) (place : List String) : FileTree :=
  (List.range place.length).foldl (fun t n => t.put (place.take (n + 1)) .directory) t

/-- a file at a place, with the directories above it -/
def putFile (t : FileTree) (place : List String) (content : List UInt8) : FileTree :=
  (t.putDirectories place.dropLast).put place (.file content)

/-! ## Looking up -/

def maxNameSize : Nat := 255

def maxPathSize : Nat := 4095

/-- what a path leads to -/
inductive Location where
  | directory (place : List String)
  | file (place : List String) (content : List UInt8)
  /-- a name that its directory does not hold -/
  | missing (place : List String)
  /-- the path needs a directory that is not there -/
  | lost
  /-- the path needs a directory where a file is -/
  | blocked
  /-- the path, or a name in it, is too long -/
  | tooLong
  /-- the path holds a null character -/
  | unusable
deriving DecidableEq

def top (t : FileTree) : List String := List.replicate t.above.length ".."

/-- the place above a directory; the root is above itself -/
def up (t : FileTree) (place : List String) : List String :=
  if isTop place then (if place.length < t.above.length then place ++ [".."] else place) else place.dropLast

/-- the place of a name in a directory; above the working directory one name leads back down -/
def down (t : FileTree) (place : List String) (name : String) : List String :=
  if isTop place && t.above[t.above.length - place.length]? == some name then place.dropLast else place ++ [name]

def follow (t : FileTree) (place : List String) : List String → Location
  | [] => .directory place
  | p :: rest =>
    if p = ".." then t.follow (t.up place) rest
    else if p.utf8ByteSize > maxNameSize then .tooLong
    else match t.entry? (t.down place p) with
      | some .directory => t.follow (t.down place p) rest
      | some (.file content) => if rest.isEmpty then .file (t.down place p) content else .blocked
      | none => if rest.isEmpty then .missing (t.down place p) else .lost

/-- where a path begins: at the root, or in the working directory -/
def start (t : FileTree) (p : Path) : List String := if p.root.isEmpty then [] else t.top

/-- what a path leads to -/
def locate (t : FileTree) (p : Path) : Location :=
  if p.hasNull then .unusable
  else if p.text.utf8ByteSize > maxPathSize then .tooLong
  else t.follow (t.start p) p.parts

/-- what a path leads to, if the system can tell -/
def find (t : FileTree) (p : Path) : Except OsError Location :=
  match t.locate p with
  | .tooLong => .error (.at .nameTooLong p)
  | l => .ok l

def Location.isFile : Location → Bool
  | .file _ _ => true
  | _ => false

/-- is it the location of a file or a directory? -/
def Location.isThere : Location → Bool
  | .file _ _ | .directory _ => true
  | _ => false

def isFile (t : FileTree) (p : Path) : Except OsError Bool := (t.find p).map Location.isFile

/-- does the path lead to a file or a directory? -/
def isThere (t : FileTree) (p : Path) : Except OsError Bool := (t.find p).map Location.isThere

/-- does a path, as it is written, lead to a file or a directory? One that ends in a slash or a point means a directory,
and an empty one nothing. -/
def existsText (t : FileTree) (s : String) : Bool :=
  s.utf8ByteSize ≤ maxPathSize && match t.locate (.ofText s) with
  | .directory _ => !s.isEmpty
  | .file _ _ =>
    let last := ((Text.pieces (· == '/') s.toList).getLast?).getD []
    !(last.isEmpty || last == ['.'])
  | _ => false

/-- the content of the file at a path -/
def read (t : FileTree) (p : Path) : Except OsError (List UInt8) :=
  match t.locate p with
  | .file _ content => .ok content
  | .directory _ => .error (.at .isDirectory p)
  | .missing _ | .lost => .error (.at .notFound p)
  | .blocked => .error (.at .notDirectory p)
  | .tooLong => .error (.at .nameTooLong p)
  | .unusable => .error .nullCharacter

/-- the names that lead from the root to a place -/
def names (t : FileTree) (place : List String) : List String :=
  t.above.take (t.above.length - (place.takeWhile (· == "..")).length) ++ place.dropWhile (· == "..")

/-- the names that lead from the root to each entry, and to each directory from the root to the working directory -/
def allNames (t : FileTree) : List (List String) :=
  (List.range (t.above.length + 1)).map t.above.take ++ t.entries.keys.map t.names

/-- the names that lead from a directory to what stands below it, where the last one satisfies `p` -/
def below (t : FileTree) (place : List String) (p : String → Bool) : List (List String) :=
  let inner := (t.allNames.filter (t.names place).isPrefixOf).map (·.drop (t.names place).length)
  inner.filter fun k => !k.isEmpty && p (k.getLastD "")

/-! ## Writing -/

/-- make a directory in one that is there; a directory that is there already may stay -/
def makeOne (t : FileTree) (p : Path) : FileTree × Option OsError :=
  match t.locate p with
  | .directory _ => (t, none)
  | .missing place => (t.put place .directory, none)
  | .file _ _ => (t, some (.at .exists p))
  | .blocked => (t, some (.at .notDirectory p))
  | .lost => (t, some (.at .notFound p))
  | .tooLong => (t, some (.at .nameTooLong p))
  | .unusable => (t, some .nullCharacter)

/-- how many bytes the name of a temporary file has more than that of the file whose place it takes: three points,
eight letters and `tmp` -/
def temporarySize : Nat := 14

/-- is a path too long for a temporary file beside it? -/
def isCrowded (p : Path) : Bool :=
  p.name.utf8ByteSize + temporarySize > maxNameSize || p.text.utf8ByteSize + temporarySize > maxPathSize

/-- make a directory, and up to `depth` of those above it -/
def makeDirectory (t : FileTree) (p : Path) : (depth : Nat) → FileTree × Option OsError
  | 0 => t.makeOne p
  | depth + 1 =>
    if t.locate p = .lost then
      match t.makeDirectory p.parent depth with
      | (t, some e) => (t, some e)
      | (t, none) => t.makeOne p
    else t.makeOne p

/-- the name of a temporary file beside a path: the name that the path ends in, with letters of its own -/
def temporaryName (p : Path) (letters : String) : String := "." ++ p.name ++ "." ++ letters ++ ".tmp"

/-- what a write meets -/
structure Conditions where
  /-- the letters that are tried for the name of the temporary file -/
  letters : List String
  /-- an error that breaks the writing of the content off after so many bytes -/
  fault? : Option (Nat × OsError)
deriving DecidableEq

/-- what a write is taken to meet: any letter eight times, and no error -/
def Conditions.usual : Conditions where
  letters := "abcdefghijklmnopqrstuvwxyz0123456789_".toList.map fun c => String.ofList (List.replicate 8 c)
  fault? := none

/-- make an empty file in the directory of a path, under the first name that is free; its place is given too -/
def makeTemporary (t : FileTree) (p : Path) (letters : List String) : Except OsError (FileTree × List String) :=
  if p.hasNull then .error .nullCharacter
  else if isCrowded p then .error (.temporary .nameTooLong)
  else match t.locate p.parent with
    | .directory place =>
      match (letters.map fun l => t.down place (temporaryName p l)).find? t.isFree with
      | some q => .ok (t.put q (.file []), q)
      | none => .error (.temporary .exists)
    | _ => .error (.temporary .notFound)

def fill (t : FileTree) (place : List String) (content : List UInt8) (fault? : Option (Nat × OsError)) :
    FileTree × Option OsError :=
  match fault? with
  | some (n, e) => (t.put place (.file (content.take n)), some e)
  | none => (t.put place (.file content), none)

def remove (t : FileTree) (place : List String) : FileTree := { t with entries := t.entries.erase place }

/-- move a file to where a path leads, in the place of a file that is there -/
def move (t : FileTree) (source : List String) (p : Path) : FileTree × Option OsError :=
  match t.entry? source with
  | some (.file content) =>
    if p.name.isEmpty || p.name == ".." then (t, some (.replacing .busy p))
    else match t.locate p with
      | .directory _ => (t, some (.replacing .isDirectory p))
      | .file place _ | .missing place => ((t.remove source).put place (.file content), none)
      | .lost => (t, some (.replacing .notFound p))
      | .blocked => (t, some (.replacing .notDirectory p))
      | .tooLong => (t, some (.replacing .nameTooLong p))
      | .unusable => (t, some .nullCharacter)
  | _ => (t, some (.replacing .notFound p))

/-- fill a temporary file and move it to where a path leads; if that fails, the temporary file is taken away -/
def settle (t : FileTree) (temporary : List String) (p : Path) (content : List UInt8)
    (fault? : Option (Nat × OsError)) : FileTree × Option OsError :=
  match t.fill temporary content fault? with
  | (t, some e) => (t.remove temporary, some e)
  | (t, none) =>
    match t.move temporary p with
    | (t, some e) => (t.remove temporary, some e)
    | (t, none) => (t, none)

/-- Write a file whole: its directory is made first, then a temporary file, which takes its place when the content is
written. -/
def write (t : FileTree) (p : Path) (content : List UInt8) (c : Conditions := .usual) : FileTree × Option OsError :=
  match t.makeDirectory p.parent p.parts.length with
  | (t, some e) => (t, some e)
  | (t, none) =>
    match t.makeTemporary p c.letters with
    | .error e => (t, some e)
    | .ok (t, temporary) => t.settle temporary p content c.fault?

end FileTree

end RouteDocs.Files
