import RouteDocs.ApiInfo
import RouteDocs.Document.Basic
import RouteDocs.Log
import RouteDocs.Schema.Resolver

/-!
Operations grouped by resource, and the documents made of the groups.

The resource of a path is its first segment. Each resource has its operations in the order in which they were added
and a registry of the models that they reach; two different models of one name can not be in one registry.
-/

namespace RouteDocs

open Schema

/-- the resource of a path: its first segment that is not empty -/
def resourceKey (path : String) : String :=
  String.ofList (((Text.pieces (· == '/') path.toList).find? fun s => !s.isEmpty).getD [])

/-! ## Model registries -/

/-- the models of a resource, by name -/
structure Registry where
  models : OrderedMap String Model
deriving DecidableEq

namespace Registry

def empty : Registry := ⟨∅⟩

/-- register a model; one that is registered already may come again -/
def merge (r : Registry) (m : Model) : Except ResolveError Registry :=
  match r.models.get? m.id with
  | none => .ok ⟨r.models.insert m.id m⟩
  | some known => if known.agrees m then .ok r else .error (.collision m.id)

/-- register models in order, up to the first collision -/
def mergeAll (r : Registry) : List Model → Registry × Option ResolveError
  | [] => (r, none)
  | m :: rest =>
    match r.merge m with
    | .ok r => r.mergeAll rest
    | .error e => (r, some e)

end Registry

/-! ## The builder -/

/-- why an operation can not be added, or a document not made -/
inductive BuildError where
  | noPath
  | model (e : ResolveError)
  | unknownResource (key : String)
deriving DecidableEq

def BuildError.message : BuildError → String
  | .noPath => "operation has no path"
  | .model e => e.message
  | .unknownResource key => Text.quoted key

/-- the operations of each resource with their models, and what the documents say of the interface -/
structure Builder where
  info : ApiInfo
  basePath : String
  operations : OrderedMap String (List Operation)
  registries : OrderedMap String Registry
deriving DecidableEq

namespace Builder

/-- a builder without operations; an empty base path leaves that of the general information -/
def new (info : ApiInfo) (basePath : String) : Builder :=
  ⟨info, if basePath.isEmpty then info.basePath else basePath, ∅, ∅⟩

/-- The builder with one more operation. The operation is recorded first and its models are registered then, up to
the first that collides. -/
def add (b : Builder) (o : Operation) : Builder × Except BuildError Event :=
  if o.path.isEmpty then (b, .error .noPath)
  else
    let key := resourceKey o.path
    let (registry, e) := Registry.mergeAll ((b.registries.get? key).getD .empty) o.models
    let b := { b with
      operations := b.operations.insert key ((b.operations.get? key).getD [] ++ [o])
      registries := b.registries.insert key registry }
    match e with
    | none => (b, .ok (.operationAdded o.method o.path key))
    | some e => (b, .error (.model e))

def resources (b : Builder) : List String := b.operations.keys.mergeSort textLe

/-- operations grouped by path, in the order in which the paths first occur -/
def groupByPath (operations : List Operation) : OrderedMap String (List Operation) :=
  operations.foldl (fun groups o => groups.insert o.path ((groups.get? o.path).getD [] ++ [o])) ∅

/-- the document of a resource with the given operations and models -/
def declarationOf (b : Builder) (key : String) (operations : List Operation) (registry : Registry) : Declaration where
  apiVersion := b.info.apiVersion
  swaggerVersion := swaggerVersion
  basePath := b.basePath
  resourcePath := "/" ++ key
  apis := (groupByPath operations).entries.map fun e => ⟨e.1, "", e.2⟩
  models := registry.models.sortKeys textLe

def declaration (b : Builder) (key : String) : Except BuildError Declaration :=
  match b.operations.get? key with
  | none => .error (.unknownResource key)
  | some operations => .ok (b.declarationOf key operations ((b.registries.get? key).getD .empty))

/-- the first summary among operations that is not empty -/
def firstSummary (operations : List Operation) : String :=
  ((operations.map Operation.summary).find? fun s => !s.isEmpty).getD ""

def description (b : Builder) (key : String) : Except BuildError String :=
  match b.operations.get? key with
  | none => .error (.unknownResource key)
  | some operations => .ok (firstSummary operations)

/-- the documents of all resources, sorted -/
def declarations (b : Builder) : OrderedMap String Declaration :=
  OrderedMap.ofList ((b.operations.sortKeys textLe).entries.map fun e =>
    (e.1, b.declarationOf e.1 e.2 ((b.registries.get? e.1).getD .empty)))

/-- the general information that the listing repeats, less what is empty -/
def listedInfo (info : ApiInfo) : OrderedMap String String :=
  OrderedMap.ofList ([
    ("title", info.title),
    ("description", info.description),
    ("contact", info.contact),
    ("termsOfServiceUrl", info.termsOfServiceUrl),
    ("license", info.license),
    ("licenseUrl", info.licenseUrl)].filter fun e => !e.2.isEmpty)

def listing (b : Builder) : Listing where
  apiVersion := b.info.apiVersion
  swaggerVersion := swaggerVersion
  basePath := b.basePath
  apis := (b.operations.sortKeys textLe).entries.map fun e => ⟨"/" ++ e.1, firstSummary e.2⟩
  info := listedInfo b.info

end Builder

end RouteDocs
