import RouteDocs.OrderedMap
import RouteDocs.Schema.Primitive
import RouteDocs.Schema.SymbolTable
import RouteDocs.Schema.TypeExpr

/-!
Models: what a document says of a class. A model lists the properties of its class and refers to other models by
their names.
-/

namespace RouteDocs.Schema

/-- the elements of an array: a primitive type, or a reference to a model -/
structure Items where
  ref : Option String
  type : Option String
deriving DecidableEq

structure Property where
  type : Option String
  format : Option String
  ref : Option String
  items : Option Items
deriving DecidableEq

def Property.blank : Property := ⟨none, none, none, none⟩

def Property.primitive (t : WireType) : Property := { Property.blank with type := some t.type, format := t.format }

/-- a property that is an array of a primitive type -/
def Property.primitives (t : WireType) : Property :=
  { Property.blank with type := some "array", items := some ⟨none, some t.type⟩ }

def Property.model (id : String) : Property := { Property.blank with ref := some id }

def Property.models (id : String) : Property :=
  { Property.blank with type := some "array", items := some ⟨some id, none⟩ }

/-- the property of a primitive type, or of an array of it -/
def Property.ofPrimitive (t : WireType) (isArray : Bool) : Property :=
  if isArray then .primitives t else .primitive t

/-- the property that refers to a model, or to an array of it -/
def Property.ofModel (id : String) (isArray : Bool) : Property :=
  if isArray then .models id else .model id

/-- the schema of a class -/
structure Model where
  id : String
  required : List String
  properties : OrderedMap String Property
deriving DecidableEq

/-- are two models the same, but for the order of their properties? -/
def Model.agrees (a b : Model) : Bool :=
  a.id == b.id && a.required == b.required && a.properties.sameEntries b.properties

/-! ## Types of fields -/

/-- what the type of a field comes down to -/
inductive FieldType where
  | primitive (type : WireType) (isArray : Bool)
  | composite (ref : String) (isArray : Bool)
deriving DecidableEq

def Field.typeIn (aliases : Aliases) (f : Field) : FieldType :=
  let t := elementType f.type
  match (primitiveName? aliases t.name).bind wireType? with
  | some wire => .primitive wire t.isArray
  | none => .composite t.name t.isArray

end RouteDocs.Schema
