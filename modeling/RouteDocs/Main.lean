import RouteDocs.CommandLine.Run

/-!
The program: a run on the files that its arguments and its configuration name. What the run changes is written back, and
what it prints and reports goes to the standard streams.
-/

namespace RouteDocs.CommandLine

open Files

def helpText : String :=
  "Usage: api-doc-gen [-v | --verbose] COMMAND [OPTIONS]\n\n"
    ++ "Build Swagger documents from the annotations in handler comments.\n\n"
    ++ "Commands:\n"
    ++ "  generate  Write a module with the documents.\n"
    ++ "  show      Print the documents.\n\n"
    ++ "Options of the commands:\n"
    ++ "  --config PATH         Configuration file.\n"
    ++ "  --api-package PATH    Directory with the handlers.\n"
    ++ "  --main-api-file PATH  File with the general information.\n"
    ++ "  --base-path TEXT      Base path of the service.\n"
    ++ "  -o, --output PATH     Module to write (generate only).\n"
    ++ "  --help                Show this text and exit.\n"

/-- the text for arguments that do not form a request -/
def misuseText : String := "Try 'api-doc-gen --help' for help.\n"

/-- what stands at a place of the disk, unless it is neither a file nor a directory -/
def entryOnDisk? (place : List String) : IO (Option Entry) := do
  let path := place.foldl (· / ·) (← IO.currentDir)
  if !(← path.pathExists) then return none
  match (← path.metadata).type with
  | .dir => return some .directory
  | .file => return some (.file (← IO.FS.readBinFile path).toList)
  | _ => return none

/-- put what a path leads to into a tree, with the directories on the way -/
def loadPath (t : FileTree) (p : Path) : IO FileTree := do
  if p.hasNull then return t
  let mut t := t
  let mut place := t.start p
  for name in p.parts do
    if name = ".." then place := t.up place
    else
      place := t.down place name
      if !FileTree.isTop place then
        match ← entryOnDisk? place with
        | some entry => t := t.put place entry
        | none => return t
  return t

/-- put what stands below a directory into a tree -/
partial def loadBelow (t : FileTree) (place : List String) : IO FileTree := do
  let mut t := t
  for entry in (← (place.foldl (· / ·) (← IO.currentDir)).readDir) do
    let inner := t.down place entry.fileName
    match (← entry.path.symlinkMetadata).type with
    | .dir =>
      if !FileTree.isTop inner then t := t.put inner .directory
      t ← loadBelow t inner
    | .file => t := t.put inner (.file (← IO.FS.readBinFile entry.path).toList)
    | _ => pure ()
  return t

/-- a tree with what a run with these arguments looks at -/
def load (args : List String) : IO FileTree := do
  let mut t := FileTree.empty ((← IO.currentDir).components.filter fun name => !name.isEmpty)
  -- the value of an option is an argument by itself, or it stands behind an equals sign
  for arg in args do
    for value in [arg.toList, (arg.toList.dropWhile (· != '=')).drop 1] do
      t ← loadPath t (.ofText (String.ofList value))
  let .run i := Libraries.own.request t args | return t
  let .ok config := configOf .own t i.options | return t
  for path in [config.apiPackage, config.mainApiFile, some config.output].filterMap id do
    t ← loadPath t path
  let some package := config.apiPackage | return t
  match t.locate package with
  | .directory place => loadBelow t place
  | _ => return t

/-- write the entries of a tree that are not in an older one -/
def saveTree (old new : FileTree) : IO Unit := do
  for (place, entry) in new.entries.entries do
    if old.entry? place != some entry then
      match entry with
      | .directory => IO.FS.createDirAll ("/".intercalate place)
      | .file content => IO.FS.writeBinFile ("/".intercalate place) ⟨content.toArray⟩

def tell (r : Run) : IO Unit := do
  IO.print r.output
  IO.eprint r.log
  match r.ending with
  | .done => return
  | .help => IO.print helpText
  | .misuse => IO.eprint misuseText
  | .failed e => IO.eprintln (if e.isReported then s!"Error: {e.message}" else e.message)

end RouteDocs.CommandLine

def main (args : List String) : IO UInt32 := do
  let files ← RouteDocs.CommandLine.load args
  let r := RouteDocs.CommandLine.run files args
  RouteDocs.CommandLine.saveTree files r.files
  RouteDocs.CommandLine.tell r
  return r.ending.status.toUInt32
