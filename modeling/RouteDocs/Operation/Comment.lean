import RouteDocs.Log
import RouteDocs.Operation.Basic
import RouteDocs.Operation.Directive
import RouteDocs.Schema.Resolver

/-!
Operations from comment blocks. The directives of a block are applied in order to an operation about which nothing is
known yet; the first one that fails ends the block. A block without a route documents no operation.
-/

namespace RouteDocs

open Schema

inductive CommentError where
  /-- there is no comment -/
  | empty
  /-- no route is given -/
  | noRoute
  | directive (e : DirectiveError)
  | resolve (e : ResolveError)
deriving DecidableEq

namespace CommentError

def message : CommentError → String
  | empty => "function has no comment block"
  | noRoute => "comment block has no @router directive"
  | directive e => e.message
  | resolve e => e.message

/-- does the failure only say that the function is not documented? -/
def isUndocumented : CommentError → Bool
  | empty | noRoute => true
  | directive _ | resolve _ => false

end CommentError

/-- the content types that may be named -/
def contentTypes : List (String × String) := [
  ("json", "application/json"),
  ("xml", "application/xml"),
  ("plain", "text/plain"),
  ("html", "text/html")]

variable {τ : Type} [TypeLookup τ]

/-- an operation in the making, with the resolver that it shares with others and what has been reported -/
structure Draft (τ : Type) where
  operation : Operation
  resolver : Resolver τ
  log : List Event
deriving DecidableEq

namespace Draft

def edit (d : Draft τ) (f : Operation → Operation) : Draft τ := { d with operation := f d.operation }

/-- add a content type, or report that it has no meaning -/
def acceptToken (line : String) (d : Draft τ) (token : String) : Draft τ :=
  match contentTypes.lookup token with
  | some t => d.edit fun o => { o with consumes := o.consumes ++ [t], produces := o.produces ++ [t] }
  | none => { d with log := d.log ++ [.contentTypeSkipped token line] }

end Draft

/-- models with further ones, less those that are there already -/
def addModels (known : List Model) (models : List Model) : List Model :=
  models.foldl (fun known m => if known.any (·.agrees m) then known else known ++ [m]) known

/-- an operation that answers with a primitive type, or an array of it -/
def Operation.answerPrimitive (o : Operation) (isArray : Bool) (name : String) : Operation :=
  if isArray then { o with type := "array", items := some ⟨none, some name⟩ } else { o with type := name }

/-- an operation that answers with a model, or an array of it -/
def Operation.answerModel (o : Operation) (isArray : Bool) (id : String) : Operation :=
  if isArray then { o with type := "array", items := some ⟨some id, none⟩ } else { o with type := id }

def Operation.respond (o : Operation) (r : Response) : Operation := { o with responses := o.responses ++ [r] }

/-- Apply one directive. `line` is the line that it stands on, and `package` the module that it is seen from. -/
def Draft.apply (package line : String) (d : Draft τ) : Directive → Draft τ × Option CommentError
  | .router path method => (d.edit fun o => { o with path, method }, none)
  | .title text => (d.edit fun o => { o with nickname := text }, none)
  | .description text => (d.edit fun o => { o with summary := text }, none)
  | .param name paramType dataType required description =>
    let p : Parameter := ⟨name, paramType, dataType, dataType, required, description⟩
    (d.edit fun o => { o with parameters := o.parameters ++ [p] }, none)
  | .failure code message | .successMessage code message => (d.edit fun o => o.respond ⟨code, message, none⟩, none)
  | .accept tokens => (tokens.foldl (Draft.acceptToken line) d, none)
  | .successType code isArray ref =>
    match d.resolver.primitiveName? ref with
    | some name => (d.edit fun o => (o.answerPrimitive isArray name).respond ⟨code, "", none⟩, none)
    | none =>
      let r := d.resolver.resolve ref package
      let d := { d with resolver := r.resolver, log := d.log ++ r.completed.map fun m => .modelResolved m.1 m.2 }
      match r.answer with
      | .error e => (d, some (.resolve e))
      | .ok [] => (d, some (.resolve (.unresolved ref package)))
      | .ok (m :: ms) =>
        (d.edit fun o =>
          ({ o with models := addModels o.models (m :: ms) }.answerModel isArray m.id).respond
            ⟨code, "", some m.id⟩,
          none)

def Draft.applyLine (package : String) (d : Draft τ) (raw : String) : Draft τ × Option CommentError :=
  match Directive.ofLine raw with
  | none => (d, none)
  | some (.error e) => (d, some (.directive e))
  | some (.ok directive) => d.apply package (String.ofList (stripMarker raw.toList)) directive

/-- apply comment lines in order, up to the first that fails -/
def Draft.applyLines (package : String) : Draft τ → List String → Draft τ × Option CommentError
  | d, [] => (d, none)
  | d, raw :: rest =>
    match d.applyLine package raw with
    | (d, none) => d.applyLines package rest
    | (d, some e) => (d, some e)

/-- the outcome of reading a comment block -/
structure Reading (τ : Type) where
  answer : Except CommentError Operation
  resolver : Resolver τ
  log : List Event

/-- the operation that a comment block documents, with types seen from a module -/
def readComment (comments : List String) (resolver : Resolver τ) (package : String) : Reading τ :=
  if comments.isEmpty then ⟨.error .empty, resolver, []⟩
  else
    match Draft.applyLines package ⟨.blank, resolver, []⟩ comments with
    | (d, some e) => ⟨.error e, d.resolver, d.log⟩
    | (d, none) =>
      ⟨if d.operation.path.isEmpty then .error .noRoute else .ok d.operation, d.resolver, d.log⟩

end RouteDocs
