import RouteDocs.ApiInfo
import RouteDocs.Document.Basic

/-!
Documents as trees. Every field has its member, in a fixed order; `wire` then drops the members that are empty.
-/

namespace RouteDocs

def Json.ofText? : Option String → Json
  | none => .null
  | some s => .str s

def Json.ofTexts (texts : List String) : Json := .arr (texts.map .str)

/-- what has a tree with one member for each of its fields -/
class Tree (α : Type) where
  tree : α → Json

export Tree (tree)

def treeItems {α : Type} [Tree α] (xs : List α) : Json := .arr (xs.map tree)

def treeMembers {α : Type} [Tree α] (m : OrderedMap String α) : Json := .obj (m.entries.map fun e => (e.1, tree e.2))

def tree? {α : Type} [Tree α] : Option α → Json
  | none => .null
  | some x => tree x

instance : Tree Schema.Items where
  tree i := .obj [("$ref", Json.ofText? i.ref), ("type", Json.ofText? i.type)]

instance : Tree Parameter where
  tree p := .obj [
    ("name", .str p.name),
    ("paramType", .str p.paramType),
    ("type", .str p.type),
    ("dataType", .str p.dataType),
    ("required", .bool p.required),
    ("description", .str p.description)]

instance : Tree Response where
  tree r := .obj [
    ("code", .int r.code),
    ("message", .str r.message),
    ("responseModel", Json.ofText? r.model)]

instance : Tree Schema.Property where
  tree p := .obj [
    ("type", Json.ofText? p.type),
    ("format", Json.ofText? p.format),
    ("$ref", Json.ofText? p.ref),
    ("items", tree? p.items)]

instance : Tree Schema.Model where
  tree m := .obj [
    ("id", .str m.id),
    ("required", Json.ofTexts m.required),
    ("properties", treeMembers m.properties)]

instance : Tree Operation where
  tree o := .obj [
    ("httpMethod", .str o.method),
    ("nickname", .str o.nickname),
    ("type", .str o.type),
    ("items", tree? o.items),
    ("summary", .str o.summary),
    ("notes", .str o.notes),
    ("parameters", treeItems o.parameters),
    ("responseMessages", treeItems o.responses),
    ("consumes", Json.ofTexts o.consumes),
    ("produces", Json.ofTexts o.produces),
    ("authorizations", .arr (o.authorizations.map .obj)),
    ("protocols", Json.ofTexts o.protocols),
    ("path", .str o.path)]

instance : Tree ApiInfo where
  tree i := .obj [
    ("apiVersion", .str i.apiVersion),
    ("title", .str i.title),
    ("description", .str i.description),
    ("basePath", .str i.basePath),
    ("contact", .str i.contact),
    ("termsOfServiceUrl", .str i.termsOfServiceUrl),
    ("license", .str i.license),
    ("licenseUrl", .str i.licenseUrl)]

instance : Tree Api where
  tree a := .obj [
    ("path", .str a.path),
    ("description", .str a.description),
    ("operations", treeItems a.operations)]

instance : Tree Declaration where
  tree d := .obj [
    ("apiVersion", .str d.apiVersion),
    ("swaggerVersion", .str d.swaggerVersion),
    ("basePath", .str d.basePath),
    ("resourcePath", .str d.resourcePath),
    ("apis", treeItems d.apis),
    ("models", treeMembers d.models)]

instance : Tree ResourceRef where
  tree r := .obj [
    ("path", .str r.path),
    ("description", .str r.description)]

instance : Tree Listing where
  tree l := .obj [
    ("apiVersion", .str l.apiVersion),
    ("swaggerVersion", .str l.swaggerVersion),
    ("basePath", .str l.basePath),
    ("apis", treeItems l.apis),
    ("info", .obj (l.info.entries.map fun e => (e.1, .str e.2)))]

/-- a value as it is written into a document: its tree without empty members -/
def wire {α : Type} [Tree α] (x : α) : Json := (tree x).dropEmpty

end RouteDocs
