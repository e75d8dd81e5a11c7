import RouteDocs.Schema.SymbolTable

/-!
Tables in which a reference to a class is looked up, as seen from a module.

Being asked may change a table, so it may answer a question differently the next time. All that it can answer is
among finitely many definitions. That is no restriction on a pass that ends, since such a pass puts finitely many
questions: the list of the answers that it got is itself such a table. A symbol table never changes, and a growing table
gets to know a further definition with each question.
-/

namespace RouteDocs.Schema

/-- a table of class definitions -/
class TypeLookup (τ : Type) where
  /-- the definition that a reference means, as seen from a module, and the table after the question -/
  ask : τ → (ref package : String) → Option Definition × τ
  /-- the definitions that may be answered -/
  range : τ → List Definition
  mem_range : ∀ {table : τ} {ref package : String} {d : Definition},
    (ask table ref package).1 = some d → d ∈ range table
  range_ask : ∀ (table : τ) (ref package : String), range (ask table ref package).2 = range table

instance : TypeLookup SymbolTable where
  ask table ref package := (table.lookup ref package, table)
  range := SymbolTable.definitions
  mem_range h := (SymbolTable.mem_of_lookup h).1
  range_ask _ _ _ := rfl

theorem SymbolTable.ask_eq (table : SymbolTable) (ref package : String) :
    TypeLookup.ask table ref package = (table.lookup ref package, table) := rfl

/-- a symbol table that is still being filled -/
structure GrowingTable where
  known : SymbolTable
  /-- the definitions that are added next, one after each question -/
  coming : List Definition
deriving DecidableEq

def GrowingTable.grow : GrowingTable → GrowingTable
  | ⟨known, []⟩ => ⟨known, []⟩
  | ⟨known, d :: coming⟩ => ⟨known.add d, coming⟩

instance : TypeLookup GrowingTable where
  ask table ref package := (table.known.lookup ref package, table.grow)
  range table := table.known.definitions ++ table.coming
  mem_range h := List.mem_append_left _ (SymbolTable.mem_of_lookup h).1
  range_ask table _ _ := by
    obtain ⟨known, coming⟩ := table
    cases coming with
    | nil => rfl
    | cons d coming => exact List.append_cons known.definitions d coming ▸ rfl

end RouteDocs.Schema
