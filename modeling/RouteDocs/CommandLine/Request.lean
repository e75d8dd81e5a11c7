import RouteDocs.Files.Path

/-!
What the program is asked for.
-/

namespace RouteDocs.CommandLine

open Files

inductive Command where
  /-- write a module with the documents -/
  | generate
  /-- print the documents -/
  | show
deriving DecidableEq

/-- what a command works on -/
structure SourceOptions where
  config : Option Path
  apiPackage : Option Path
  mainApiFile : Option Path
  basePath : Option String
  output : Option Path
deriving DecidableEq

/-- the paths that a command reads from, not the one that it writes to -/
def SourceOptions.sources (o : SourceOptions) : List Path := [o.config, o.apiPackage, o.mainApiFile].filterMap id

/-- a command to be carried out -/
structure Invocation where
  /-- is everything reported, and not only warnings? -/
  isVerbose : Bool
  command : Command
  options : SourceOptions
deriving DecidableEq

/-- what the arguments ask for -/
inductive Request where
  | run (i : Invocation)
  | help
  /-- the arguments do not form a request -/
  | unclear
  /-- the arguments can not be read, because of the value of an option -/
  | broken (value : String)
deriving DecidableEq

end RouteDocs.CommandLine
