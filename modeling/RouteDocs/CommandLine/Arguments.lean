import RouteDocs.CommandLine.Request
import RouteDocs.Files.FileTree

/-!
What the arguments of the program ask for. Options of the program come before the name of a command, those of the
command after it. The value of an option is the next argument, whatever it looks like, or it stands in the same one:
after an equals sign for a long name, directly for a letter. Of several values for one option the last counts. The
path of a source has to lead to something.

Main definition: `Request.ofArgs`.
-/

namespace RouteDocs.CommandLine

open Files

inductive Flag where
  | verbose
  | help
  | config
  | apiPackage
  | mainApiFile
  | basePath
  | output
deriving DecidableEq

/-! ## Options -/

def Flag.takesValue : Flag → Bool
  | verbose | help => false
  | _ => true

def Flag.isPath : Flag → Bool
  | config | apiPackage | mainApiFile | output => true
  | _ => false

structure Names where
  long : List (String × Flag)
  letters : List (Char × Flag)
  /-- may arguments that are no options stand before options? -/
  isMixed : Bool

def programNames : Names := ⟨[("--verbose", .verbose), ("--help", .help)], [('v', .verbose)], false⟩

def commandNames : Command → Names
  | .generate => ⟨("--output", .output) :: common, [('o', .output)], true⟩
  | .show => ⟨common, [], true⟩
where
  /-- the options of every command -/
  common : List (String × Flag) :=
    [("--config", .config), ("--base-path", .basePath), ("--main-api-file", .mainApiFile),
      ("--api-package", .apiPackage), ("--help", .help)]

/-- what one argument with options says: options without a value, and perhaps one with a value, if it holds that -/
structure Argument where
  flags : List Flag
  valued : Option (Flag × Option String)
deriving DecidableEq

/-- letters after a dash: options without a value, up to one with a value, which is what comes after its letter -/
def letters? (names : Names) : List Char → Option Argument
  | [] => some ⟨[], none⟩
  | c :: rest =>
    match names.letters.lookup c with
    | none => none
    | some f =>
      if f.takesValue then some ⟨[], some (f, if rest.isEmpty then none else some (String.ofList rest))⟩
      else (letters? names rest).map fun a => { a with flags := f :: a.flags }

/-- an argument with a long name, or with letters -/
def argument? (names : Names) (arg : List Char) : Option Argument :=
  let name := String.ofList (arg.takeWhile (· != '='))
  let given := if arg.contains '=' then some (String.ofList ((arg.dropWhile (· != '=')).drop 1)) else none
  match names.long.lookup name with
  | some f =>
    if f.takesValue then some ⟨[], some (f, given)⟩
    else if given.isSome then none else some ⟨[f], none⟩
  | none => if ['-', '-'].isPrefixOf arg then none else letters? names (arg.drop 1)

/-- does an argument hold options? A dash by itself does not. -/
def holdsOptions (arg : String) : Bool := ['-'].isPrefixOf arg.toList && arg != "-"

/-- options with their values, and the arguments that are no options. Two dashes end the options. -/
def split? (names : Names) : List String → Option (List (Flag × String) × List String)
  | [] => some ([], [])
  | arg :: rest =>
    if arg = "--" then some ([], rest)
    else if holdsOptions arg then
      match argument? names arg.toList with
      | none => none
      | some ⟨flags, valued⟩ =>
        let flags := flags.map (·, "")
        match valued with
        | none => (split? names rest).map fun r => (flags ++ r.1, r.2)
        | some (f, some value) => (split? names rest).map fun r => (flags ++ (f, value) :: r.1, r.2)
        | some (f, none) =>
          match rest with
          | [] => none
          | value :: rest => (split? names rest).map fun r => (flags ++ (f, value) :: r.1, r.2)
    else if names.isMixed then (split? names rest).map fun r => (r.1, arg :: r.2)
    else some ([], arg :: rest)

/-! ## Requests -/

def wantsHelp (flags : List (Flag × String)) : Bool := flags.any (·.1 == .help)

/-- the value of an option, the last one that is given -/
def value? (flags : List (Flag × String)) (f : Flag) : Option String := flags.reverse.lookup f

/-- what is asked for instead if the value of an option will not do: it is no path, or it leads to nothing although it
is not the path of the output file -/
def fault? (files : FileTree) (flags : List (Flag × String)) (f : Flag) : Option Request :=
  if f.isPath then
    (value? flags f).bind fun p =>
      if p.toList.contains '\x00' then some (.broken p)
      else if f == .output || files.existsText p then none
      else some .unclear
  else none

def SourceOptions.ofFlags (flags : List (Flag × String)) : SourceOptions where
  config := (value? flags .config).map Path.ofText
  apiPackage := (value? flags .apiPackage).map Path.ofText
  mainApiFile := (value? flags .mainApiFile).map Path.ofText
  basePath := value? flags .basePath
  output := (value? flags .output).map Path.ofText

def Command.ofName? (name : String) : Option Command :=
  if name = "generate" then some .generate else if name = "show" then some .show else none

def Request.ofCommandArgs (files : FileTree) (isVerbose : Bool) (command : Command) (args : List String) : Request :=
  match split? (commandNames command) args with
  | none => .unclear
  | some (flags, extra) =>
    if wantsHelp flags then .help
    else match flags.findSome? fun f => fault? files flags f.1 with
      | some fault => fault
      | none => if extra.isEmpty then .run ⟨isVerbose, command, .ofFlags flags⟩ else .unclear

/-- what the arguments of the program ask for -/
def Request.ofArgs (files : FileTree) (args : List String) : Request :=
  match split? programNames args with
  | none => .unclear
  | some (flags, rest) =>
    if wantsHelp flags then .help
    else match rest with
      | [] => .unclear
      | name :: args =>
        match Command.ofName? name with
        | some command => .ofCommandArgs files (flags.any (·.1 == .verbose)) command args
        | none =>
          -- after two dashes options may stand where the command should be
          match split? programNames rest with
          | some (flags, _) => if wantsHelp flags then .help else .unclear
          | none => .unclear

end RouteDocs.CommandLine
