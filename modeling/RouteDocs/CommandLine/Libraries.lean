import RouteDocs.CommandLine.Arguments
import RouteDocs.Config.Decode

/-!
What the program leaves to libraries: to read its arguments, to take a text for a value, and to check settings.

Main definitions: `Libraries`, what is relied on of them in `Libraries.Documented`, and `Libraries.own`.
-/

namespace RouteDocs.CommandLine

open Files

/-- what arguments and configurations are read with -/
structure Libraries extends Config.Decoder where
  /-- what the arguments ask for, where the files are these -/
  request : FileTree → List String → Request

namespace Libraries

/-- what is relied on of libraries -/
structure Documented (l : Libraries) : Prop where
  /-- a command is only carried out if what the options name as its sources is there -/
  there : ∀ {files : FileTree} {args : List String} {i : Invocation}, l.request files args = .run i →
    ∀ p ∈ i.options.sources, (files.locate p).isThere = true

/-- the libraries that come with the program -/
def own : Libraries := { Config.Decoder.own with request := Request.ofArgs }

end Libraries

end RouteDocs.CommandLine
