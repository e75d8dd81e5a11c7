import RouteDocs.OrderedMap
import RouteDocs.Text.Blank

/-!
Primitive types: the names that need no model of their own, each with its type and format on the wire, and the
aliases under which wrapper types count as one of them.
-/

namespace RouteDocs.Schema

/-- how a primitive type is described in a document -/
structure WireType where
  type : String
  format : Option String
deriving DecidableEq

def primitives : List (String × WireType) := [
  ("int", ⟨"integer", some "int64"⟩),
  ("integer", ⟨"integer", some "int32"⟩),
  ("int32", ⟨"integer", some "int32"⟩),
  ("int64", ⟨"integer", some "int64"⟩),
  ("long", ⟨"integer", some "int64"⟩),
  ("float", ⟨"number", some "double"⟩),
  ("number", ⟨"number", some "float"⟩),
  ("float32", ⟨"number", some "float"⟩),
  ("float64", ⟨"number", some "double"⟩),
  ("double", ⟨"number", some "double"⟩),
  ("str", ⟨"string", none⟩),
  ("string", ⟨"string", none⟩),
  ("bytes", ⟨"string", some "byte"⟩),
  ("byte", ⟨"string", some "byte"⟩),
  ("bool", ⟨"boolean", none⟩),
  ("boolean", ⟨"boolean", none⟩),
  ("date", ⟨"string", some "date"⟩),
  ("datetime", ⟨"string", some "date-time"⟩),
  ("date-time", ⟨"string", some "date-time"⟩),
  ("time", ⟨"string", some "time"⟩),
  ("timedelta", ⟨"string", some "duration"⟩),
  ("dict", ⟨"object", none⟩),
  ("object", ⟨"object", none⟩),
  ("Any", ⟨"object", none⟩)]

def wireType? (name : String) : Option WireType := primitives.lookup name

/-- names that stand for another one -/
abbrev Aliases := OrderedMap String String

/-- the wrapper types that count as primitive unless a configuration says otherwise -/
def defaultAliases : Aliases := OrderedMap.ofList [
  ("Decimal", "float"),
  ("UUID", "str"),
  ("SecretStr", "str"),
  ("EmailStr", "str"),
  ("HttpUrl", "str"),
  ("AnyUrl", "str")]

/-- a name itself, or what it is an alias of -/
def Aliases.expand (aliases : Aliases) (name : String) : String := (aliases.get? name).getD name

def lastSegment (ref : List Char) : List Char := (Text.cutLast '.' ref).2

/-- the primitive that a reference names: by its whole text if that is one, else by its last segment -/
def primitiveName? (aliases : Aliases) (ref : String) : Option String :=
  let name := Text.trim ref.toList
  [name, lastSegment name].map (fun candidate => aliases.expand (String.ofList candidate))
    |>.find? fun candidate => (wireType? candidate).isSome

end RouteDocs.Schema
