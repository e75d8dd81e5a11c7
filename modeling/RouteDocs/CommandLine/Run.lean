import RouteDocs.CommandLine.Libraries
import RouteDocs.Project

/-!
Carrying out a command on a tree of files: what is printed and reported, how the run ends, and what the files are after
it.

Main definition: `run`.
-/

namespace RouteDocs.CommandLine

open Files

inductive Failure where
  /-- the value of an option can not be read -/
  | argument (value : String)
  | config (path : Path) (e : ConfigError)
  | project (e : ProjectError)
  | writing (path : Path) (e : OsError)
deriving DecidableEq

def Failure.message : Failure → String
  | .argument value => s!"{Text.quoted value} can not be read"
  | .config path e => s!"Invalid config {path.text}: {e.message}"
  | .project e => e.message
  | .writing path e => s!"Can not write {path.text}: {e.message}"

/-- is the failure one that is reported in a line? The others break the run off. -/
def Failure.isReported : Failure → Bool
  | .argument _ => false
  | .config _ (.yaml .malformed) | .config _ .invalid => true
  | .config _ _ => false
  | .project (.source .malformed) => true
  | .project (.source _) | .project (.unnamed _) | .project .incomplete | .project (.os .nullCharacter) => false
  | .project _ => true
  | .writing _ e => e.kind?.isSome

inductive Ending where
  | done
  /-- the help text is all there is to print -/
  | help
  /-- the arguments are wrong -/
  | misuse
  | failed (e : Failure)
deriving DecidableEq

def Ending.status : Ending → Nat
  | .done | .help => 0
  | .failed _ => 1
  | .misuse => 2

structure Run where
  ending : Ending
  printed : List String
  reported : List Event
  files : FileTree
deriving DecidableEq

namespace Run

def output (r : Run) : String := String.join (r.printed.map (· ++ "\n"))

def log (r : Run) : String := String.join (r.reported.map fun e => e.line ++ "\n")

end Run

/-! ## Configuration -/

/-- a configuration with what the options say instead -/
def override (config : Config) (o : SourceOptions) : Config where
  apiPackage := o.apiPackage.or config.apiPackage
  mainApiFile := o.mainApiFile.or config.mainApiFile
  basePath := o.basePath.or config.basePath
  output := o.output.getD config.output
  typeAliases := config.typeAliases
  handlerMarkers := config.handlerMarkers

def configOf (l : Libraries) (files : FileTree) (o : SourceOptions) : Except Failure Config :=
  match o.config with
  | none => .ok (override .default o)
  | some path => match Config.ofFile files path l.toDecoder with
    | .error e => .error (.config path e)
    | .ok config => .ok (override config o)

/-! ## Commands -/

def shown (texts : DocumentTexts) : List String :=
  texts.listing :: texts.descriptions.entries.flatMap fun e => [s!"\n## {e.1}\n", e.2]

/-- the line that says how much was found -/
def summary (docs : GeneratedDocs) : String :=
  s!"Found {docs.operations} operations in {docs.texts.descriptions.size} resources."

def save (c : FileTree.Conditions) (files : FileTree) (config : Config) (docs : GeneratedDocs)
    (printed : List String) (log : List Event) : Run :=
  match files.write config.output (Text.Utf8.encode (renderModule docs.texts)) c with
  | (files, some e) => ⟨.failed (.writing config.output e), printed, log, files⟩
  | (files, none) => ⟨.done, printed ++ [s!"Documentation saved to {config.output.text}"], log, files⟩

/-- carry out a command with a package and a main file -/
def perform (c : FileTree.Conditions) (files : FileTree) (command : Command) (config : Config)
    (package : Path) : Run :=
  let outcome := generateDocs files config
  let begun := match command with
    | .generate => [s!"Parsing {package.text}..."]
    | .show => []
  match outcome.answer with
  | .error e => ⟨.failed (.project e), begun, outcome.log, files⟩
  | .ok docs =>
    match command with
    | .generate => save c files config docs (begun ++ [summary docs]) outcome.log
    | .show => ⟨.done, shown docs.texts, outcome.log, files⟩

def invoke (l : Libraries) (c : FileTree.Conditions) (files : FileTree) (i : Invocation) : Run :=
  match configOf l files i.options with
  | .error e => ⟨.failed e, [], [], files⟩
  | .ok config =>
    match config.apiPackage, config.mainApiFile with
    | some package, some _ =>
      let r := perform c files i.command config package
      { r with reported := r.reported.filter fun e => i.isVerbose || e.level == .warning }
    | _, _ => ⟨.help, [], [], files⟩

/-- run the program with arguments; the conditions matter if it writes -/
def run (files : FileTree) (args : List String) (c : FileTree.Conditions := .usual) (l : Libraries := .own) : Run :=
  match l.request files args with
  | .run i => invoke l c files i
  | .help => ⟨.help, [], [], files⟩
  | .unclear => ⟨.misuse, [], [], files⟩
  | .broken value => ⟨.failed (.argument value), [], [], files⟩

end RouteDocs.CommandLine
