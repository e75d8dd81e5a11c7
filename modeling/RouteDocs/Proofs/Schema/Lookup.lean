/-
What a look-up answers, without the order in which definitions are compared.

A reference means the classes of its last segment, and a qualified one only those in a module that its qualifier names.
Of these the answer is the least one in a linear order, in which distances from the module that refers are compared
(`nearest_eq_argmin`); where definitions are equally far they are definitions of one class, and the first of them is the
answer.

- `Reference.allows_iff`: which classes a reference means.
- `SymbolTable.lookup_none_iff`, `SymbolTable.lookup_some_iff`: a look-up answers just what the table has nearest to the
  module.
- `SymbolTable.Distinct.lookup_perm`: definitions of different classes may be added in any order.
-/
import Mathlib.Data.List.MinMax
import Mathlib.Data.Prod.Lex
import Mathlib.Data.String.Basic
import RouteDocs.Proofs.Schema.ClassGraph
import RouteDocs.Proofs.Text.Blank

namespace RouteDocs.Schema

variable {table : SymbolTable} {ref package : String}

/-! ## What a reference means -/

/-- The last segment of the reference is the name of the class. What stands before it, if anything, is the module of the
class, or the end of that after a point. -/
def Definition.MeantBy (d : Definition) (ref : String) : Prop :=
  ∃ qualifier, Text.CutsLast '.' (Text.trim ref.toList) qualifier d.name.toList ∧
    (qualifier ≠ [] → d.module.toList = qualifier ∨ ('.' :: qualifier) <:+ d.module.toList)

theorem endsInModule_iff {module : String} {qualifier : List Char} :
    endsInModule module (String.ofList qualifier) = true ↔
      module.toList = qualifier ∨ ('.' :: qualifier) <:+ module.toList := by
  have hmodule : module = String.ofList qualifier ↔ module.toList = qualifier :=
    ⟨fun h => by rw [h, String.toList_ofList], fun h => by rw [← h, String.ofList_toList]⟩
  rw [endsInModule, Bool.or_eq_true, beq_iff_eq, String.toList_ofList, List.isSuffixOf_iff_suffix, hmodule]

/-- **Meaning of references.** The reference taken apart allows just the classes that it means. -/
theorem Reference.allows_iff {d : Definition} : (Reference.ofText ref).allows d = true ↔ d.MeantBy ref := by
  have hcut := Text.cutsLast_cutLast '.' (Text.trim ref.toList)
  rw [allows, ofText]
  generalize Text.cutLast '.' (Text.trim ref.toList) = parts at hcut
  obtain ⟨qualifier, name⟩ := parts
  simp only [Bool.and_eq_true, Bool.or_eq_true, beq_iff_eq, endsInModule_iff]
  constructor
  · rintro ⟨hname, hmodule⟩
    refine ⟨qualifier, ?_, fun hqualifier => hmodule.resolve_left ?_⟩
    · rw [hname, String.toList_ofList]
      exact hcut
    · simpa using hqualifier
  · rintro ⟨qualifier', hcut', hmodule⟩
    obtain ⟨rfl, hname⟩ := Prod.mk.inj (hcut'.cutLast_eq.symm.trans hcut.cutLast_eq)
    obtain rfl : d.name.toList = name := hname
    refine ⟨String.ofList_toList.symm, ?_⟩
    by_cases hqualifier : qualifier' = []
    · exact Or.inl (by simp [hqualifier])
    · exact Or.inr (hmodule hqualifier)

/-- a reference means classes of one name -/
theorem Definition.MeantBy.name_eq {d e : Definition} (hd : d.MeantBy ref) (he : e.MeantBy ref) : d.name = e.name := by
  obtain ⟨_, hcut, -⟩ := hd
  obtain ⟨_, hcut', -⟩ := he
  exact String.toList_injective (Prod.mk.inj (hcut.cutLast_eq.symm.trans hcut'.cutLast_eq)).2

/-! ## Distances -/

/-- a distance as an element of a linear order -/
def Distance.rank (a : Distance) : Bool ×ₗ Bool ×ₗ String :=
  toLex (a.otherModule, toLex (a.otherParent, a.module))

theorem Distance.lt_iff {a b : Distance} : a.lt b = true ↔ a.rank < b.rank := by
  obtain ⟨module, parent, name⟩ := a
  obtain ⟨module', parent', name'⟩ := b
  rw [rank, rank, Prod.Lex.toLex_lt_toLex, Prod.Lex.toLex_lt_toLex, lt]
  cases module <;> cases module' <;> cases parent <;> cases parent' <;> simp

def Definition.rank (package : String) (d : Definition) : Bool ×ₗ Bool ×ₗ String := (Distance.of package d).rank

theorem nearest_eq_argmin (package : String) (ds : List Definition) :
    nearest package ds = ds.argmin (Definition.rank package) := by
  induction ds with
  | nil => rfl
  | cons d rest ih =>
    rw [nearest, ih, List.argmin_cons]
    cases rest.argmin (Definition.rank package) with
    | none => rfl
    | some e => simp only [Distance.lt_iff]; rfl

/-- Seen from a module, the first definition is not farther away than the second one: a class of the module itself comes
first, then one of a module with the same parent, then one of a module with a lesser name. -/
@[mk_iff]
structure Definition.NoFarther (package : String) (d e : Definition) : Prop where
  own : e.module = package → d.module = package
  sibling : d.module ≠ package → parentModule e.module = parentModule package →
    parentModule d.module = parentModule package
  least : d.module ≠ package →
    (parentModule d.module = parentModule package ↔ parentModule e.module = parentModule package) →
    d.module ≤ e.module

theorem Definition.rank_le_iff {d e : Definition} : d.rank package ≤ e.rank package ↔ NoFarther package d e := by
  simp only [noFarther_iff, rank, Distance.rank, Distance.of, Prod.Lex.toLex_le_toLex, bne, beq_eq_decide]
  by_cases hd : d.module = package <;> by_cases he : e.module = package <;>
    by_cases hp : parentModule d.module = parentModule package <;>
    by_cases hq : parentModule e.module = parentModule package <;> simp [*]

/-! ## Look-ups -/

namespace SymbolTable

/-- what the table has nearest to a module for a reference: of the classes that it means one that no other one is nearer
than, and the first definition of that class -/
structure Nearest (table : SymbolTable) (ref package : String) (d : Definition) : Prop where
  meant : d.MeantBy ref
  noFarther : ∀ e ∈ table.definitions, e.MeantBy ref → d.NoFarther package e
  first : table.Visible d

/-- at most one definition is the nearest -/
theorem Nearest.unique {d e : Definition} (hd : table.Nearest ref package d) (he : table.Nearest ref package e) :
    d = e := by
  have hle := Definition.rank_le_iff.2 (hd.noFarther e he.first.mem he.meant)
  have hge := Definition.rank_le_iff.2 (he.noFarther d hd.first.mem hd.meant)
  have hmodule : d.module = e.module := congrArg (fun rank => (ofLex (ofLex rank).2).2) (le_antisymm hle hge)
  exact hd.first.eq he.first (hd.meant.name_eq he.meant) hmodule

/-- a look-up answers nothing just if the table has no class that the reference means -/
theorem lookup_none_iff : table.lookup ref package = none ↔ ∀ d ∈ table.definitions, ¬ d.MeantBy ref := by
  rw [lookup, nearest_eq_argmin, List.argmin_eq_none, List.filter_eq_nil_iff]
  simp only [Reference.allows_iff]

theorem nearest_of_lookup {d : Definition} (h : table.lookup ref package = some d) : table.Nearest ref package d where
  meant := Reference.allows_iff.1 (mem_of_lookup h).2
  noFarther e he hmeant := by
    rw [lookup, nearest_eq_argmin] at h
    exact Definition.rank_le_iff.1 (List.le_of_mem_argmin (List.mem_filter.2 ⟨he, Reference.allows_iff.2 hmeant⟩) h)
  first := visible_of_lookup h

/-- **Look-ups answer the nearest.** A look-up answers just what the table has nearest to the module. -/
theorem lookup_some_iff {d : Definition} : table.lookup ref package = some d ↔ table.Nearest ref package d := by
  refine ⟨nearest_of_lookup, fun h => ?_⟩
  cases hlookup : table.lookup ref package with
  | none => exact absurd h.meant (lookup_none_iff.1 hlookup d h.first.mem)
  | some e => rw [(nearest_of_lookup hlookup).unique h]

/-! ## The order of definitions -/

/-- no two definitions have the same name and module -/
def Distinct (table : SymbolTable) : Prop := (table.definitions.map fun d => (d.name, d.module)).Nodup

/-- every definition of such a table is the first of its class -/
theorem Distinct.visible_iff {d : Definition} (h : table.Distinct) : table.Visible d ↔ d ∈ table.definitions := by
  refine ⟨Visible.mem, fun hd => ?_⟩
  cases hfind : table.definitions.find? (fun e => e.module == d.module && e.name == d.name) with
  | none => simpa using List.find?_eq_none.1 hfind d hd
  | some e =>
    have hsame := List.find?_some hfind
    simp only [Bool.and_eq_true, beq_iff_eq] at hsame
    obtain rfl : e = d :=
      List.inj_on_of_nodup_map h (List.mem_of_find?_eq_some hfind) hd (Prod.ext hsame.2 hsame.1)
    exact hfind

variable {other : SymbolTable}

theorem Distinct.perm (h : table.Distinct) (hperm : table.definitions.Perm other.definitions) : other.Distinct :=
  (hperm.map _).nodup_iff.1 h

/-- **Look-ups do not see an order.** Definitions of different classes may be added to a table in any order. -/
theorem Distinct.lookup_perm (h : table.Distinct) (hperm : table.definitions.Perm other.definitions)
    (ref package : String) : table.lookup ref package = other.lookup ref package := by
  have hnearest (d : Definition) : table.Nearest ref package d ↔ other.Nearest ref package d := by
    have hvisible : table.Visible d ↔ other.Visible d := by
      rw [h.visible_iff, (h.perm hperm).visible_iff, hperm.mem_iff]
    exact ⟨fun hd => ⟨hd.meant, fun e he => hd.noFarther e (hperm.mem_iff.2 he), hvisible.1 hd.first⟩,
      fun hd => ⟨hd.meant, fun e he => hd.noFarther e (hperm.mem_iff.1 he), hvisible.2 hd.first⟩⟩
  refine Option.ext fun d => ?_
  rw [lookup_some_iff, lookup_some_iff, hnearest]

end SymbolTable

end RouteDocs.Schema
