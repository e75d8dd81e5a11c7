import RouteDocs.OrderedMap
import RouteDocs.Schema.TypeExpr
import RouteDocs.Schema.TypeLookup

/-!
The fields of a class together with those of its known base classes. The bases are walked depth first, each class
once; a field that comes later replaces one of the same name in its place.
-/

namespace RouteDocs.Schema

/-- the name of a class with its module in front -/
def Definition.fullName (d : Definition) : String := d.module ++ "." ++ d.name

abbrev FieldMap := OrderedMap String Field

def FieldMap.addAll (m : FieldMap) (fields : List Field) : FieldMap :=
  OrderedMap.insertAll m (fields.map fun f => (f.name, f))

/-- the fields collected so far, and the full names of the classes visited so far -/
structure Collected where
  fields : FieldMap
  seen : List String
deriving DecidableEq

variable {τ : Type} [TypeLookup τ]

/-- Fields with those of a base class of a class in `package`, if that base is known and has not been visited. `sub`
collects the fields of the base. -/
def Collected.addBase (sub : Definition → List String → τ → Collected × τ) (package : String)
    (acc : Collected × τ)
    (base : String) : Collected × τ :=
  match TypeLookup.ask acc.2 (elementType base).name package with
  | (none, table) => (acc.1, table)
  | (some b, table) =>
    if b.fullName ∈ acc.1.seen then (acc.1, table)
    else
      let (found, table) := sub b acc.1.seen table
      (⟨FieldMap.addAll acc.1.fields found.fields.values, found.seen⟩, table)

/-- The fields of `d` after those of its bases, given the classes seen before. At most `depth` classes derive from
each other on the way down; a class is entered once, so the number of definitions bounds that. -/
def collect : (depth : Nat) → Definition → List String → τ → Collected × τ
  | 0, d, seen, table => (⟨FieldMap.addAll ∅ d.fields, d.fullName :: seen⟩, table)
  | depth + 1, d, seen, table =>
    let (inherited, table) :=
      d.bases.foldl (Collected.addBase (collect depth) d.module) (⟨∅, d.fullName :: seen⟩, table)
    (⟨FieldMap.addAll inherited.fields d.fields, inherited.seen⟩, table)

def fieldsOf (table : τ) (d : Definition) : List Field × τ :=
  let (found, table) := collect (TypeLookup.range table).length d [] table
  (found.fields.values, table)

theorem range_addBase {sub : Definition → List String → τ → Collected × τ} {package base : String}
    {acc : Collected × τ}
    (hsub : ∀ d seen table, TypeLookup.range (sub d seen table).2 = TypeLookup.range table) :
    TypeLookup.range (Collected.addBase sub package acc base).2 = TypeLookup.range acc.2 := by
  have h := TypeLookup.range_ask acc.2 (elementType base).name package
  unfold Collected.addBase
  split
  · next he => rw [he] at h; exact h
  · next he =>
    rw [he] at h
    split
    · exact h
    · exact (hsub _ _ _).trans h

/-- collecting fields does not change what a table may answer -/
theorem range_collect (depth : Nat) (d : Definition) (seen : List String) (table : τ) :
    TypeLookup.range (collect depth d seen table).2 = TypeLookup.range table := by
  induction depth generalizing d seen table with
  | zero => rfl
  | succ depth ih =>
    have hfold : ∀ (bases : List String) (acc : Collected × τ),
        TypeLookup.range (bases.foldl (Collected.addBase (collect depth) d.module) acc).2
          = TypeLookup.range acc.2 := by
      intro bases
      induction bases with
      | nil => intro acc; rfl
      | cons base rest ihb =>
        intro acc
        rw [List.foldl_cons, ihb]
        exact range_addBase ih
    exact hfold d.bases _

theorem range_fieldsOf (table : τ) (d : Definition) :
    TypeLookup.range (fieldsOf table d).2 = TypeLookup.range table := range_collect _ d [] table

/-! ### The number of fields -/

/-- the names of the fields of definitions, one for each field -/
def fieldNames (ds : List Definition) : List String := ds.flatMap fun d => d.fields.map Field.name

/-- the fields and the names that they stand under are among some names -/
def FieldMap.NamedIn (names : List String) (m : FieldMap) : Prop :=
  ∀ e ∈ m.entries, e.1 ∈ names ∧ e.2.name ∈ names

theorem FieldMap.NamedIn.addAll {names : List String} {m : FieldMap} {fields : List Field} (hm : m.NamedIn names)
    (hfields : ∀ f ∈ fields, f.name ∈ names) : (FieldMap.addAll m fields).NamedIn names := by
  unfold FieldMap.addAll OrderedMap.insertAll
  induction fields generalizing m with
  | nil => exact hm
  | cons f rest ih =>
    refine ih (fun e he => ?_) fun g hg => hfields g (List.mem_cons_of_mem _ hg)
    rcases OrderedMap.mem_put he with rfl | he
    · exact ⟨hfields f List.mem_cons_self, hfields f List.mem_cons_self⟩
    · exact hm e he

theorem FieldMap.namedIn_empty (names : List String) : FieldMap.NamedIn names ∅ := fun _ he => nomatch he

theorem name_mem_fieldNames {ds : List Definition} {d : Definition} (hd : d ∈ ds) {f : Field} (hf : f ∈ d.fields) :
    f.name ∈ fieldNames ds :=
  List.mem_flatMap.2 ⟨d, hd, List.mem_map_of_mem hf⟩

theorem namedIn_addBase {ds : List Definition} {sub : Definition → List String → τ → Collected × τ}
    {package base : String} {acc : Collected × τ}
    (hsub : ∀ d ∈ ds, ∀ seen table, TypeLookup.range table = ds →
    (sub d seen table).1.fields.NamedIn (fieldNames ds))
    (hrange : TypeLookup.range acc.2 = ds) (hacc : acc.1.fields.NamedIn (fieldNames ds)) :
    (Collected.addBase sub package acc base).1.fields.NamedIn (fieldNames ds) := by
  have h := TypeLookup.range_ask acc.2 (elementType base).name package
  unfold Collected.addBase
  split
  · exact hacc
  · next b table he =>
    have hb : b ∈ ds := hrange ▸ TypeLookup.mem_range (by rw [he])
    rw [he, hrange] at h
    split
    · exact hacc
    · refine hacc.addAll fun f hf => ?_
      obtain ⟨e, hmem, rfl⟩ := List.mem_map.1 hf
      exact (hsub b hb acc.1.seen table h e hmem).2

theorem namedIn_collect {ds : List Definition} (depth : Nat) {d : Definition} (hd : d ∈ ds) (seen : List String)
    {table : τ} (hrange : TypeLookup.range table = ds) :
    (collect depth d seen table).1.fields.NamedIn (fieldNames ds) := by
  have hown : ∀ f ∈ d.fields, f.name ∈ fieldNames ds := fun _ => name_mem_fieldNames hd
  induction depth generalizing d seen table with
  | zero => exact (FieldMap.namedIn_empty _).addAll hown
  | succ depth ih =>
    have hfold : ∀ (bases : List String) (acc : Collected × τ), TypeLookup.range acc.2 = ds →
        acc.1.fields.NamedIn (fieldNames ds) →
        (bases.foldl (Collected.addBase (collect depth) d.module) acc).1.fields.NamedIn (fieldNames ds) := by
      intro bases
      induction bases with
      | nil => intro acc _ hacc; exact hacc
      | cons base rest ihb =>
        intro acc hacc hnamed
        refine ihb _ ((range_addBase (range_collect depth)).trans hacc) (namedIn_addBase ?_ hacc hnamed)
        exact fun b hb seen table ht => ih hb seen ht fun _ => name_mem_fieldNames hb
    exact (hfold d.bases _ hrange (FieldMap.namedIn_empty _)).addAll hown

/-- a class has no more fields than all definitions have -/
theorem length_fieldsOf_le {table : τ} {d : Definition} (hd : d ∈ TypeLookup.range table) :
    (fieldsOf table d).1.length ≤ (fieldNames (TypeLookup.range table)).length := by
  have hfields : (fieldsOf table d).1 = (collect (TypeLookup.range table).length d [] table).1.fields.values := rfl
  have hnamed := namedIn_collect (TypeLookup.range table).length hd [] rfl
  generalize (collect (TypeLookup.range table).length d [] table).1.fields = found at hfields hnamed
  rw [hfields, OrderedMap.values, List.length_map, ← List.length_map Prod.fst]
  refine found.distinct.length_le_of_subset fun k hk => ?_
  obtain ⟨e, he, rfl⟩ := List.mem_map.1 hk
  exact (hnamed e he).1

end RouteDocs.Schema
