import RouteDocs.Config
import RouteDocs.Text.Utf8
import RouteDocs.Yaml.Value

/-!
The values that settings may have. Settings that are not given keep their defaults, and names that are no settings are
ignored.

Main definition: `Config.ofSettings?`.
-/

namespace RouteDocs.Config

open Files Yaml

/-! ## Values of settings -/

def name? : Value → Option String
  | .str s => some s
  | _ => none

/-- a text, which may be given as its bytes -/
def text? : Value → Option String
  | .str s => some s
  | .bytes b => match Text.Utf8.decode b with
    | .ok s => some (String.ofList s)
    | .error _ => none
  | _ => none

def path? (v : Value) : Option Path := (name? v).map Path.ofText

def orNull {α : Type} (read : Value → Option α) : Value → Option (Option α)
  | .null => some none
  | v => (read v).map some

def texts? : Value → Option (List String)
  | .list items | .set items => items.mapM text?
  | _ => none

def textMap? : Value → Option (OrderedMap String String)
  | .map entries => do
    return OrderedMap.ofList (← entries.mapM fun e => do return (← text? e.1, ← text? e.2))
  | _ => none

/-! ## Configurations -/

/-- the value of a setting, or its default if it is not given -/
def setting? {α : Type} (settings : List (String × Value)) (name : String) (read : Value → Option α)
    (default : α) : Option α :=
  match settings.lookup name with
  | none => some default
  | some v => read v

def ofSettings? (settings : List (String × Value)) : Option Config := do
  return {
    apiPackage := ← setting? settings "api_package" (orNull path?) default.apiPackage
    mainApiFile := ← setting? settings "main_api_file" (orNull path?) default.mainApiFile
    basePath := ← setting? settings "base_path" (orNull text?) default.basePath
    output := ← setting? settings "output" path? default.output
    typeAliases := ← setting? settings "type_aliases" textMap? default.typeAliases
    handlerMarkers := ← setting? settings "handler_markers" texts? default.handlerMarkers }

end RouteDocs.Config
