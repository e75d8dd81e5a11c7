import RouteDocs.Operation.Directive

/-!
General information about an interface, read from tags in the main file. Of several lines with one tag the last wins.
-/

namespace RouteDocs

/-- what is said about the interface as a whole -/
structure ApiInfo where
  apiVersion : String := ""
  title : String := ""
  description : String := ""
  basePath : String := ""
  contact : String := ""
  termsOfServiceUrl : String := ""
  license : String := ""
  licenseUrl : String := ""
deriving DecidableEq

namespace ApiInfo

def blank : ApiInfo := {}

/-- the fields that a tag can give -/
inductive Tag where
  | apiVersion
  | title
  | description
  | basePath
  | contact
  | termsOfServiceUrl
  | license
  | licenseUrl
deriving DecidableEq

def Tag.token : Tag → String
  | apiVersion => "@APIVersion"
  | title => "@APITitle"
  | description => "@APIDescription"
  | basePath => "@BasePath"
  | contact => "@Contact"
  | termsOfServiceUrl => "@TermsOfServiceUrl"
  | license => "@License"
  | licenseUrl => "@LicenseUrl"

def Tag.all : List Tag :=
  [apiVersion, title, description, basePath, contact, termsOfServiceUrl, license, licenseUrl]

def set (info : ApiInfo) : Tag → String → ApiInfo
  | .apiVersion, v => { info with apiVersion := v }
  | .title, v => { info with title := v }
  | .description, v => { info with description := v }
  | .basePath, v => { info with basePath := v }
  | .contact, v => { info with contact := v }
  | .termsOfServiceUrl, v => { info with termsOfServiceUrl := v }
  | .license, v => { info with license := v }
  | .licenseUrl, v => { info with licenseUrl := v }

def get (info : ApiInfo) : Tag → String
  | .apiVersion => info.apiVersion
  | .title => info.title
  | .description => info.description
  | .basePath => info.basePath
  | .contact => info.contact
  | .termsOfServiceUrl => info.termsOfServiceUrl
  | .license => info.license
  | .licenseUrl => info.licenseUrl

/-- The tag of a comment line and its value. The tag is an at sign with all the word characters after it; the value is
the rest of the line, without the blanks around it, and holds no line feed. -/
def tagOfLine? (raw : String) : Option (Tag × String) :=
  match stripMarker raw.toList with
  | '@' :: rest =>
    let token := '@' :: rest.takeWhile Text.isWord
    let value := (rest.dropWhile Text.isWord).dropWhile Text.isBlank
    if value.contains '\n' then none
    else (Tag.all.find? fun t => t.token.toList == token).map fun t => (t, String.ofList (Text.trim value))
  | _ => none

/-- information with what a comment line adds -/
def readLine (info : ApiInfo) (raw : String) : ApiInfo :=
  match tagOfLine? raw with
  | some (tag, value) => info.set tag value
  | none => info

def ofLines (lines : List String) : ApiInfo := lines.foldl readLine blank

end ApiInfo

end RouteDocs
