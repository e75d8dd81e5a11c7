import RouteDocs.ApiInfo
import RouteDocs.Document.Basic
import RouteDocs.Text.Blank

/-!
Reading values back from trees. A member may have its name on the wire or the plain name of its field, and the one on
the wire comes first; members of other names are ignored, and an absent one has the default of its field, if there is
one. Numbers and flags are also read from texts that say the same.
-/

namespace RouteDocs

/-- a way to read a value from a tree; a tree of the wrong kind has none -/
abbrev Decoder (α : Type) := Json → Option α

namespace Decoder

def text : Decoder String
  | .str s => some s
  | _ => none

/-- a sign and what comes after it; a plus counts as none -/
def splitSign : List Char → Bool × List Char
  | '-' :: rest => (true, rest)
  | '+' :: rest => (false, rest)
  | s => (false, s)

/-- a numeral without the zeros in front of its first other digit, and without underscores among them; the last of
them stays if no digit follows -/
def dropZeros? (s : List Char) : Option (List Char) :=
  let isFiller (c : Char) : Bool := c == '0' || c == '_'
  let last := (s.takeWhile isFiller).getLastD '0'
  match s.head?, s.dropWhile isFiller with
  | some '0', [] => some [last]
  | some '0', '.' :: rest => some (last :: '.' :: rest)
  | some '0', c :: rest => if c.isDigit then some (c :: rest) else none
  | some c, _ => if c.isDigit then some s else none
  | none, _ => none

/-- a numeral without a point that no other digits than zeros follow -/
def dropFraction (s : List Char) : List Char :=
  if ((s.dropWhile (· != '.')).drop 1).all (· == '0') then s.takeWhile (· != '.') else s

/-- a whole number in a text: a sign, ASCII digits, single underscores between them, and a point with zeros at the end;
a minus takes the place of a digit -/
def integerText? (s : String) : Option Int := do
  let (negative, s) := splitSign (Text.trimWhile Text.isSpace s.toList)
  let s := dropFraction (← dropZeros? s)
  if !(s.all fun c => c.isDigit || c == '_') then none
  let n ← Numeral.natural? s
  if negative && s.countP Char.isDigit = Numeral.maxDigits then none
  return if negative then -(n : Int) else n

/-- the whole number that a floating-point one is, if it has 64 bits with its sign -/
def ofReal? (x : Numeral.Binary64) : Option Int :=
  x.whole?.bind fun n => if n.natAbs < Nat.pow 2 63 then some n else none

def integer : Decoder Int
  | .int n => some n
  | .bool b => some (if b then 1 else 0)
  | .real x => ofReal? x
  | .str s => integerText? s
  | _ => none

def yesTexts : List String := ["1", "on", "t", "true", "y", "yes"]

def noTexts : List String := ["0", "off", "f", "false", "n", "no"]

def flagOfNumber? (n : Int) : Option Bool :=
  if n = 1 then some true else if n = 0 then some false else none

def flag : Decoder Bool
  | .bool b => some b
  | .int n => flagOfNumber? n
  | .real x => x.whole?.bind flagOfNumber?
  | .str s =>
    let s := String.ofList (s.toList.map Char.toLower)
    if s ∈ yesTexts then some true else if s ∈ noTexts then some false else none
  | _ => none

def list {α : Type} (d : Decoder α) : Decoder (List α)
  | .arr items => items.mapM d
  | _ => none

def members : Decoder (List (String × Json))
  | .obj ms => some ms
  | _ => none

def map {α : Type} (d : Decoder α) : Decoder (OrderedMap String α) := fun v => do
  return OrderedMap.ofList (← (← members v).mapM fun m => do return (m.1, ← d m.2))

def optional {α : Type} (d : Decoder α) : Decoder (Option α)
  | .null => some none
  | v => (d v).map some

/-- the member of a field, by its name on the wire or by its plain name -/
def field? (ms : List (String × Json)) (wireName plainName : String) : Option Json :=
  (Json.member? ms wireName).or (Json.member? ms plainName)

def required {α : Type} (d : Decoder α) (ms : List (String × Json)) (wireName plainName : String) : Option α :=
  (field? ms wireName plainName).bind d

def withDefault {α : Type} (d : Decoder α) (default : α) (ms : List (String × Json)) (wireName plainName : String) :
    Option α :=
  match field? ms wireName plainName with
  | none => some default
  | some v => d v

/-- a text that is empty by default -/
def textField (ms : List (String × Json)) (wireName plainName : String) : Option String :=
  withDefault text "" ms wireName plainName

/-- a text that is absent by default -/
def optionalText (ms : List (String × Json)) (wireName plainName : String) : Option (Option String) :=
  withDefault (optional text) none ms wireName plainName

/-- a list that is empty by default -/
def listField {α : Type} (d : Decoder α) (ms : List (String × Json)) (wireName plainName : String) :
    Option (List α) :=
  withDefault (list d) [] ms wireName plainName

def items : Decoder Schema.Items := fun v => do
  let ms ← members v
  return ⟨← optionalText ms "$ref" "ref", ← optionalText ms "type" "type"⟩

def parameter : Decoder Parameter := fun v => do
  let ms ← members v
  return {
    name := ← required text ms "name" "name"
    paramType := ← required text ms "paramType" "param_type"
    type := ← required text ms "type" "type"
    dataType := ← required text ms "dataType" "data_type"
    required := ← withDefault flag false ms "required" "required"
    description := ← textField ms "description" "description" }

def response : Decoder Response := fun v => do
  let ms ← members v
  return {
    code := ← required integer ms "code" "code"
    message := ← textField ms "message" "message"
    model := ← optionalText ms "responseModel" "response_model" }

def property : Decoder Schema.Property := fun v => do
  let ms ← members v
  return {
    type := ← optionalText ms "type" "type"
    format := ← optionalText ms "format" "format"
    ref := ← optionalText ms "$ref" "ref"
    items := ← withDefault (optional items) none ms "items" "items" }

def model : Decoder Schema.Model := fun v => do
  let ms ← members v
  return {
    id := ← required text ms "id" "id"
    required := ← listField text ms "required" "required"
    properties := ← withDefault (map property) ∅ ms "properties" "properties" }

def operation : Decoder Operation := fun v => do
  let ms ← members v
  return {
    method := ← withDefault text "GET" ms "httpMethod" "http_method"
    nickname := ← textField ms "nickname" "nickname"
    type := ← textField ms "type" "type"
    items := ← withDefault (optional items) none ms "items" "items"
    summary := ← textField ms "summary" "summary"
    notes := ← textField ms "notes" "notes"
    parameters := ← listField parameter ms "parameters" "parameters"
    responses := ← listField response ms "responseMessages" "response_messages"
    consumes := ← listField text ms "consumes" "consumes"
    produces := ← listField text ms "produces" "produces"
    authorizations := ← listField members ms "authorizations" "authorizations"
    protocols := ← listField text ms "protocols" "protocols"
    path := ← textField ms "path" "path"
    models := ← listField model ms "models" "models" }

def apiInfo : Decoder ApiInfo := fun v => do
  let ms ← members v
  return {
    apiVersion := ← textField ms "apiVersion" "api_version"
    title := ← textField ms "title" "title"
    description := ← textField ms "description" "description"
    basePath := ← textField ms "basePath" "base_path"
    contact := ← textField ms "contact" "contact"
    termsOfServiceUrl := ← textField ms "termsOfServiceUrl" "terms_of_service_url"
    license := ← textField ms "license" "license"
    licenseUrl := ← textField ms "licenseUrl" "license_url" }

def api : Decoder Api := fun v => do
  let ms ← members v
  return {
    path := ← required text ms "path" "path"
    description := ← textField ms "description" "description"
    operations := ← listField operation ms "operations" "operations" }

def declaration : Decoder Declaration := fun v => do
  let ms ← members v
  return {
    apiVersion := ← textField ms "apiVersion" "api_version"
    swaggerVersion := ← withDefault text RouteDocs.swaggerVersion ms "swaggerVersion" "swagger_version"
    basePath := ← textField ms "basePath" "base_path"
    resourcePath := ← required text ms "resourcePath" "resource_path"
    apis := ← listField api ms "apis" "apis"
    models := ← withDefault (map model) ∅ ms "models" "models" }

def resourceRef : Decoder ResourceRef := fun v => do
  let ms ← members v
  return {
    path := ← required text ms "path" "path"
    description := ← textField ms "description" "description" }

def listing : Decoder Listing := fun v => do
  let ms ← members v
  return {
    apiVersion := ← textField ms "apiVersion" "api_version"
    swaggerVersion := ← withDefault text RouteDocs.swaggerVersion ms "swaggerVersion" "swagger_version"
    basePath := ← textField ms "basePath" "base_path"
    apis := ← listField resourceRef ms "apis" "apis"
    info := ← withDefault (map text) ∅ ms "info" "info" }

end Decoder

end RouteDocs
