import RouteDocs.Config
import RouteDocs.Files.FileTree
import RouteDocs.Source.Scan
import RouteDocs.Text.Utf8

/-!
Documents from a tree of source files: the files of a package in the order of their paths, and a main file with general
information.
-/

namespace RouteDocs

open Files Schema Source

inductive ProjectError where
  | os (e : OsError)
  /-- the package is not there -/
  | noPackage (path : Path)
  /-- a file is not a text; `offset` is where its first malformed byte is -/
  | undecodable (path : Path) (offset : Nat)
  | source (e : SourceError)
  /-- a path has no module name -/
  | unnamed (path : Path)
  /-- no package or no main file is configured -/
  | incomplete
  | generation (e : GenerationError)
deriving DecidableEq

/-- why a file is not a text -/
def undecodableReason (offset : Nat) : String := s!"not valid UTF-8 at byte {offset}"

def ProjectError.message : ProjectError → String
  | .os e => e.message
  | .noPackage path => s!"No such file or directory: {Text.quoted path.text}"
  | .undecodable path offset => s!"Can not read {path.text}: {undecodableReason offset}"
  | .source .nullCharacter => "source code string cannot contain null bytes"
  | .source .malformed => "invalid syntax"
  | .source .unwritable => "an expression can not be written as text"
  | .unnamed path => s!"{Text.quoted path.text} has no module name"
  | .incomplete => "api_package and main_api_file are required"
  | .generation e => e.message

/-! ## Files of a package -/

/-- the directories whose files are left out -/
def ignoredDirectories : List String :=
  [".git", "__pycache__", ".venv", "venv", "build", "dist", "node_modules"]

/-- does a name end as the name of a source file does? -/
def isSourceName (name : String) : Bool := ".py".toList.isSuffixOf name.toList

/-- the order of paths by their parts -/
def partsLe : List String → List String → Bool
  | [], _ => true
  | _ :: _, [] => false
  | a :: as, b :: bs => if a = b then partsLe as bs else decide (a < b)

/-- the source files of a package, or the one file that it is, in the order of their paths -/
def sourceFiles (files : FileTree) (root : Path) : Except ProjectError (List Path) := do
  match ← (files.find root).mapError .os with
  | .file _ _ => return [root]
  | .directory place =>
    let found := (files.below place isSourceName).filter fun parts => !(parts.any (· ∈ ignoredDirectories))
    return (found.mergeSort partsLe).map root.extend
  | _ => return []

/-- a text with points in the place of dashes -/
def dashesToUnderscores (s : String) : String := String.ofList (s.toList.map fun c => if c = '-' then '_' else c)

/-- the parts of a module name for the parts of a path below a package -/
def moduleParts (parts : List String) : List String :=
  let parts := parts.dropLast ++ [(Path.splitSuffix (parts.getLastD "")).1]
  if parts.getLast? = some "__init__" then parts.dropLast else parts

/-- the name of the module in a file of a package -/
def moduleName (files : FileTree) (root path : Path) : Except ProjectError String := do
  if ← (files.isFile root).mapError .os then return path.stem
  match path.relativeTo? root with
  | none | some [] => throw (.unnamed path)
  | some parts => return dashesToUnderscores (".".intercalate (root.name :: moduleParts parts))

/-- the text of a source file, every line ended by a line feed alone -/
def readSource (files : FileTree) (path : Path) : Except ProjectError (List Char) :=
  match files.read path with
  | .error e => .error (.os e)
  | .ok bytes => match Text.Utf8.decode bytes with
    | .error offset => .error (.undecodable path offset)
    | .ok text => .ok (Text.unifyNewlines text)

def scanFile (files : FileTree) (root path : Path) : Except ProjectError ModuleContents := do
  let module ← moduleName files root path
  let text ← readSource files path
  (scan module text).mapError .source

def scanPackage (files : FileTree) (root : Path) : Except ProjectError ModuleContents := do
  let contents ← (← sourceFiles files root).mapM (scanFile files root)
  return ⟨contents.flatMap ModuleContents.handlers, contents.flatMap ModuleContents.types⟩

/-- the comment lines of a file and the lines of the docstring at its beginning -/
def readAnnotationLines (files : FileTree) (path : Path) : Except ProjectError (List String) := do
  (annotationLines (← readSource files path)).mapError .source

/-! ## Generation -/

/-- the base path that a configuration and the general information give -/
def chooseBasePath (config : Config) (info : ApiInfo) : String :=
  match config.basePath with
  | some p => if p.isEmpty then ofInfo else p
  | none => ofInfo
where
  /-- the base path of the general information, or the one where none is given -/
  ofInfo : String := if info.basePath.isEmpty then Config.fallbackBasePath else info.basePath

/-- the outcome of a generation -/
structure Outcome where
  answer : Except ProjectError GeneratedDocs
  log : List Event

/-- the documents of a package with general information from a main file -/
def generateFrom (files : FileTree) (config : Config) (package main : Path) : Outcome :=
  let started := [Event.started package.text]
  match readAnnotationLines files main with
  | .error e => ⟨.error e, started⟩
  | .ok lines =>
    match scanPackage files package with
    | .error e => ⟨.error e, started⟩
    | .ok contents =>
      let info := ApiInfo.ofLines lines
      let generator :=
        Generator.new (SymbolTable.mk contents.types) config.typeAliases info (chooseBasePath config info)
      let (g, docs) := generator.generate (Signature.mentions config.handlerMarkers) contents.handlers
      ⟨docs.mapError .generation, started ++ g.log⟩

def generateDocs (files : FileTree) (config : Config) : Outcome :=
  match config.apiPackage, config.mainApiFile with
  | some package, some main =>
    match files.isThere package with
    | .error e => ⟨.error (.os e), []⟩
    | .ok false => ⟨.error (.noPackage package), []⟩
    | .ok true => generateFrom files config package main
  | _, _ => ⟨.error .incomplete, []⟩

end RouteDocs
