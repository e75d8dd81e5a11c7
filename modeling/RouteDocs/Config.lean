import RouteDocs.Files.Path
import RouteDocs.Schema.Primitive

/-!
What a generation is configured with.
-/

namespace RouteDocs

structure Config where
  /-- the directory with the handlers -/
  apiPackage : Option Files.Path
  /-- the file with the general information -/
  mainApiFile : Option Files.Path
  basePath : Option String
  /-- where the generated module goes -/
  output : Files.Path
  typeAliases : Schema.Aliases
  /-- what an annotation or a decorator of a handler mentions -/
  handlerMarkers : List String
deriving DecidableEq

namespace Config

/-- the base path where none is given -/
def fallbackBasePath : String := "http://127.0.0.1:3000"

def default : Config where
  apiPackage := none
  mainApiFile := none
  basePath := none
  output := .ofText "api_docs.py"
  typeAliases := Schema.defaultAliases
  handlerMarkers := ["Request", "Context"]

end Config

end RouteDocs
