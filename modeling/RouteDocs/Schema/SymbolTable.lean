import RouteDocs.Text.Blank

/-!
Class definitions and the table in which a reference to one is looked up.

A reference is seen from a module. Among the classes of its name the one of that module comes first, then one of a
module with the same parent, then the one whose module has the least name.
-/

namespace RouteDocs.Schema

/-- an annotated field of a class -/
structure Field where
  name : String
  /-- the text of the annotation -/
  type : String
  required : Bool
deriving DecidableEq

/-- a class of the source tree -/
structure Definition where
  name : String
  /-- the module that holds the class -/
  module : String
  /-- the texts of the base class expressions -/
  bases : List String
  fields : List Field
deriving DecidableEq

/-- the class definitions, in the order in which they were found -/
structure SymbolTable where
  definitions : List Definition
deriving DecidableEq

namespace SymbolTable

def empty : SymbolTable := ⟨[]⟩

def add (table : SymbolTable) (d : Definition) : SymbolTable := ⟨table.definitions ++ [d]⟩

end SymbolTable

/-- a reference taken apart: the module it names, if any, and the class name -/
structure Reference where
  qualifier : String
  name : String
deriving DecidableEq

/-- a reference as it is written: the class name follows the last point -/
def Reference.ofText (ref : String) : Reference :=
  let (qualifier, name) := Text.cutLast '.' (Text.trim ref.toList)
  ⟨String.ofList qualifier, String.ofList name⟩

/-- what stands before the last point of a module name -/
def parentModule (module : String) : String := String.ofList (Text.cutLast '.' module.toList).1

/-- does the module have the name, or end in it after a point? -/
def endsInModule (module qualifier : String) : Bool :=
  module == qualifier || ('.' :: qualifier.toList).isSuffixOf module.toList

/-- does the reference allow the definition? An unqualified one allows every class of the name. -/
def Reference.allows (r : Reference) (d : Definition) : Bool :=
  d.name == r.name && (r.qualifier.isEmpty || endsInModule d.module r.qualifier)

/-- how far a definition is from the module that refers to it -/
structure Distance where
  otherModule : Bool
  otherParent : Bool
  module : String
deriving DecidableEq

def Distance.of (package : String) (d : Definition) : Distance :=
  ⟨d.module != package, parentModule d.module != parentModule package, d.module⟩

def Distance.lt (a b : Distance) : Bool :=
  if a.otherModule != b.otherModule then b.otherModule
  else if a.otherParent != b.otherParent then b.otherParent
  else decide (a.module < b.module)

/-- the first of the definitions at the least distance -/
def nearest (package : String) : List Definition → Option Definition
  | [] => none
  | d :: rest =>
    match nearest package rest with
    | none => some d
    | some e => if (Distance.of package e).lt (Distance.of package d) then some e else some d

/-- the definition that a reference means, as seen from a module -/
def SymbolTable.lookup (table : SymbolTable) (ref package : String) : Option Definition :=
  nearest package (table.definitions.filter (Reference.ofText ref).allows)

theorem mem_of_nearest {package : String} {ds : List Definition} {d : Definition} (h : nearest package ds = some d) :
    d ∈ ds := by
  induction ds generalizing d with
  | nil => simp [nearest] at h
  | cons a rest ih =>
    rw [nearest] at h
    split at h
    · simp_all
    · next e he =>
      split at h
      · exact List.mem_cons_of_mem _ (ih (by rw [he]; exact h))
      · simp_all

/-- what is looked up is in the table and has the name of the reference -/
theorem SymbolTable.mem_of_lookup {table : SymbolTable} {ref package : String} {d : Definition}
    (h : table.lookup ref package = some d) : d ∈ table.definitions ∧ (Reference.ofText ref).allows d = true :=
  List.mem_filter.1 (mem_of_nearest h)

end RouteDocs.Schema
