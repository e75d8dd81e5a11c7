/-
Inherited fields: which class a field of a class comes from, and from which module its type is looked up.

The fields of a class are those of its lineage: the known base classes, depth first and each one once, and the class
itself at the end, where a later field replaces an earlier one of its name. Which class declares a field is forgotten on
the way. So the type of an inherited field is looked up from the module of the class that inherits it, and not from the
one in which its annotation was written.

- `collect_eq`: collecting the fields of a class is putting in the fields of its lineage, one class after the other.
- `SymbolTable.mem_fieldsOf`: the fields of a class are those that some class of its lineage provides.
- `SymbolTable.Provides.declared`: a class that provides a field declares it.
- `Resolver.inherited_refers`: what the property of an inherited field refers to.
- `Resolver.owner_of_entity`: a class that inherits a field refers to another class than the one that declares it.
-/
import RouteDocs.Proofs.Schema.CacheTransparency
import RouteDocs.Proofs.Schema.ModelShape

namespace RouteDocs.Schema

variable {table : SymbolTable} {aliases : Aliases}

/-! ## Lineages -/

/-- the classes that contribute fields, in order, and the full names of the classes visited so far -/
structure Lineage where
  classes : List Definition
  seen : List String

/-- A lineage with that of a base class of a class in `package`, if that base is known and has not been visited. `sub`
gives the lineage of the base. -/
def Lineage.addBase (table : SymbolTable) (sub : Definition → List String → Lineage) (package : String)
    (acc : Lineage) (base : String) : Lineage :=
  match table.lookup (elementType base).name package with
  | none => acc
  | some b =>
    if b.fullName ∈ acc.seen then acc
    else ⟨acc.classes ++ (sub b acc.seen).classes, (sub b acc.seen).seen⟩

namespace SymbolTable

/-- the lineage of a class, given the classes seen before: its bases in turn, each with its own, and then the class -/
def lineageFrom (table : SymbolTable) : (depth : Nat) → Definition → List String → Lineage
  | 0, d, seen => ⟨[d], d.fullName :: seen⟩
  | depth + 1, d, seen =>
    let inherited :=
      d.bases.foldl (Lineage.addBase table (table.lineageFrom depth) d.module) ⟨[], d.fullName :: seen⟩
    ⟨inherited.classes ++ [d], inherited.seen⟩

/-- the classes that contribute fields to a class, in the order in which they do; the class itself is the last -/
def lineage (table : SymbolTable) (d : Definition) : List Definition :=
  (table.lineageFrom table.definitions.length d []).classes

/-- the fields that come together in a class, each with the class that declares it -/
def contributions (table : SymbolTable) (d : Definition) : List (Definition × Field) :=
  (table.lineage d).flatMap fun b => b.fields.map (b, ·)

/-- a class has a field from a class of its lineage, and nothing that contributes later overrides it -/
def Provides (table : SymbolTable) (d b : Definition) (f : Field) : Prop :=
  ∃ earlier later, table.contributions d = earlier ++ (b, f) :: later ∧ ∀ e ∈ later, e.2.name ≠ f.name

end SymbolTable

namespace FieldMap

theorem addAll_append (m : FieldMap) (fs gs : List Field) : m.addAll (fs ++ gs) = (m.addAll fs).addAll gs := by
  rw [addAll, List.map_append]
  exact List.foldl_append

/-- putting in the fields of a map that was made of a list is putting in the list -/
theorem addAll_values (m : FieldMap) (fs : List Field) : m.addAll (FieldMap.addAll ∅ fs).values = m.addAll fs := by
  have hentries : (FieldMap.addAll ∅ fs).values.map (fun f => (f.name, f)) = (FieldMap.addAll ∅ fs).entries := by
    rw [OrderedMap.values, List.map_map]
    refine (List.map_congr_left fun e he => ?_).trans (List.map_id _)
    exact Prod.ext (named_empty.addAll fs e he).symm rfl
  rw [addAll, hentries]
  exact OrderedMap.insertAll_ofList m _

end FieldMap

def Lineage.fields (l : Lineage) : List Field := l.classes.flatMap Definition.fields

/-- what has been collected when a lineage has been visited -/
def Lineage.collected (l : Lineage) : Collected := ⟨FieldMap.addAll ∅ l.fields, l.seen⟩

theorem addBase_collected {sub : Definition → List String → SymbolTable → Collected × SymbolTable}
    {subLineage : Definition → List String → Lineage}
    (hsub : ∀ d seen, sub d seen table = ((subLineage d seen).collected, table)) (package base : String)
    (acc : Lineage) :
    Collected.addBase sub package (acc.collected, table) base
      = ((Lineage.addBase table subLineage package acc base).collected, table) := by
  unfold Collected.addBase Lineage.addBase
  rw [SymbolTable.ask_eq]
  cases table.lookup (elementType base).name package with
  | none => rfl
  | some b =>
    dsimp only
    have hseen : acc.collected.seen = acc.seen := rfl
    rw [hseen]
    split
    · rfl
    · rw [hsub, Lineage.collected, Lineage.collected, Lineage.collected, FieldMap.addAll_values,
        ← FieldMap.addAll_append, Lineage.fields, Lineage.fields, ← List.flatMap_append]
      rfl

/-- **The fields of a lineage.** Collecting the fields of a class is putting in the fields of its lineage, one class
after the other. -/
theorem collect_eq (depth : Nat) (d : Definition) (seen : List String) :
    collect depth d seen table = ((table.lineageFrom depth d seen).collected, table) := by
  induction depth generalizing d seen with
  | zero => simp [collect, SymbolTable.lineageFrom, Lineage.collected, Lineage.fields]
  | succ depth ih =>
    have hfold (bases : List String) (acc : Lineage) :
        bases.foldl (Collected.addBase (collect depth) d.module) (acc.collected, table)
          = ((bases.foldl (Lineage.addBase table (table.lineageFrom depth) d.module) acc).collected, table) := by
      induction bases generalizing acc with
      | nil => rfl
      | cons base rest ihb => rw [List.foldl_cons, addBase_collected ih, ihb, List.foldl_cons]
    have hbases := hfold d.bases ⟨[], d.fullName :: seen⟩
    have hstart : (⟨∅, d.fullName :: seen⟩ : Collected) = Lineage.collected ⟨[], d.fullName :: seen⟩ := rfl
    rw [collect, hstart, hbases, SymbolTable.lineageFrom]
    simp only [Lineage.collected, Lineage.fields, List.flatMap_append, FieldMap.addAll_append, List.flatMap_singleton]

namespace SymbolTable

theorem fieldsOf_eq (table : SymbolTable) (d : Definition) :
    (fieldsOf table d).1 = (FieldMap.addAll ∅ ((table.contributions d).map Prod.snd)).values := by
  have hfields : (table.contributions d).map Prod.snd = (table.lineageFrom table.definitions.length d []).fields := by
    simp [contributions, Lineage.fields, lineage, List.map_flatMap, Function.comp_def]
  have hcollect : collect table.definitions.length d [] table = _ := collect_eq table.definitions.length d []
  have hrange : TypeLookup.range table = table.definitions := rfl
  rw [hfields, fieldsOf, hrange, hcollect]
  rfl

/-- the fields of a class are those that some class of its lineage provides -/
theorem mem_fieldsOf {d : Definition} {f : Field} : f ∈ (fieldsOf table d).1 ↔ ∃ b, table.Provides d b f := by
  rw [fieldsOf_eq, OrderedMap.mem_values]
  constructor
  · rintro ⟨k, hk⟩
    obtain ⟨earlier, later, hsplit, hlater⟩ := OrderedMap.get?_ofList_eq_some.1 hk
    rw [List.map_map] at hsplit
    obtain ⟨before, rest, hparts, -, hrest⟩ := List.map_eq_append_iff.1 hsplit
    obtain ⟨⟨b, g⟩, after, rfl, hg, rfl⟩ := List.map_eq_cons_iff.1 hrest
    obtain ⟨rfl, rfl⟩ := Prod.mk.inj hg
    exact ⟨b, before, after, hparts, fun e he => hlater _ (List.mem_map_of_mem he)⟩
  · rintro ⟨b, earlier, later, hsplit, hlater⟩
    refine ⟨f.name, OrderedMap.get?_ofList_eq_some.2
      ⟨earlier.map fun e => (e.2.name, e.2), later.map fun e => (e.2.name, e.2), ?_, ?_⟩⟩
    · rw [hsplit, List.map_map, List.map_append, List.map_cons]
      rfl
    · intro e he
      obtain ⟨c, hc, rfl⟩ := List.mem_map.1 he
      exact hlater c hc

/-- a class that provides a field is in the lineage and declares it -/
theorem Provides.declared {d b : Definition} {f : Field} (h : table.Provides d b f) :
    b ∈ table.lineage d ∧ f ∈ b.fields := by
  obtain ⟨earlier, later, hsplit, -⟩ := h
  have hmem : (b, f) ∈ table.contributions d := by simp [hsplit]
  obtain ⟨c, hc, hfield⟩ := List.mem_flatMap.1 hmem
  obtain ⟨g, hg, heq⟩ := List.mem_map.1 hfield
  obtain ⟨rfl, rfl⟩ := Prod.mk.inj heq
  exact ⟨hc, hg⟩

/-- the property of a field of a class is the one that its type gives -/
theorem property_modelOf {d : Definition} {f : Field} (h : f ∈ (fieldsOf table d).1) :
    (table.modelOf aliases d).properties.get? f.name = some (f.typeIn aliases).property := by
  have hnames : (((fieldsOf table d).1.map fun f => (f.name, (f.typeIn aliases).property)).map Prod.fst).Nodup := by
    rw [List.map_map]
    exact nodup_names_fieldsOf table d
  rw [OrderedMap.get?_eq_some, SymbolTable.modelOf, propertiesOf, OrderedMap.entries_ofList hnames]
  exact List.mem_map_of_mem h

end SymbolTable

/-! ## What an inherited field refers to -/

/-- the model under a name has a property that refers to the model of a class, and that class is the one recorded -/
def Cache.PropertyRefers (c : Cache) (id property : String) (isArray : Bool) (d : Definition) : Prop :=
  ∃ m, c.models.get? id = some m ∧ m.properties.get? property = some (.ofModel d.name isArray) ∧
    c.origins.get? d.name = some d.module

theorem Property.ofModel_inj {a b : String} {isArray : Bool} (h : Property.ofModel a isArray = .ofModel b isArray) :
    a = b := by
  cases isArray with
  | false => exact Option.some.inj (congrArg Property.ref h)
  | true => exact Option.some.inj (congrArg Items.ref (Option.some.inj (congrArg Property.items h)))

/-- one class is meant by a property -/
theorem Cache.PropertyRefers.eq {c : Cache} {id property : String} {isArray : Bool} {d e : Definition}
    (hd : c.PropertyRefers id property isArray d) (he : c.PropertyRefers id property isArray e)
    (hdv : table.Visible d) (hev : table.Visible e) : d = e := by
  obtain ⟨m, hm, hprop, horigin⟩ := hd
  obtain ⟨m', hm', hprop', horigin'⟩ := he
  obtain rfl := Option.some.inj (hm.symm.trans hm')
  have hname : d.name = e.name := Property.ofModel_inj (Option.some.inj (hprop.symm.trans hprop'))
  rw [hname] at horigin
  exact hdv.eq hev hname (Option.some.inj (horigin.symm.trans horigin'))

/-- the property of a composite field refers to the class that is visible from the module of the class -/
theorem Cache.Holds.propertyRefers {c : Cache} {d : Definition} (h : c.Holds table aliases d) {f : Field}
    (hf : f ∈ (fieldsOf table d).1) {element : String} {isArray : Bool}
    (typed : f.typeIn aliases = .composite element isArray) :
    ∃ e, table.lookup element d.module = some e ∧ c.PropertyRefers d.name f.name isArray e := by
  have hmentioned : element ∈ table.mentions aliases d := List.mem_filterMap.2 ⟨f, hf, by rw [typed]; rfl⟩
  obtain ⟨e, hlookup, horigin⟩ := h.covered element hmentioned
  refine ⟨e, hlookup, _, h.model, ?_, horigin⟩
  rw [SymbolTable.property_modelOf hf, typed, SymbolTable.name_of_lookup hlookup]
  rfl

namespace Resolver

/-- **What an inherited field refers to.** When a reference to a class has been resolved, the property of a composite
field refers to the class that is visible from the module of the class that has the field. That is the one visible from
the module of the base class that declares it exactly when the two look-ups agree. -/
theorem inherited_refers (table : SymbolTable) (aliases : Aliases) (calls : List (String × String))
    {ref package : String} {d b : Definition} {f : Field} {element : String} {isArray : Bool} {ms : List Model}
    (hclass : table.lookup ref package = some d) (hprim : Schema.primitiveName? aliases ref = none)
    (hresolved : (((new table aliases).after calls).resolve ref package).answer = .ok ms)
    (hfield : table.Provides d b f) (htyped : f.typeIn aliases = .composite element isArray) :
    let c := (((new table aliases).after calls).resolve ref package).resolver.cache
    (∃ e, table.lookup element d.module = some e ∧ c.PropertyRefers d.name f.name isArray e) ∧
      ((∃ e, table.lookup element b.module = some e ∧ c.PropertyRefers d.name f.name isArray e) ↔
        table.lookup element b.module = table.lookup element d.module) := by
  intro c
  have hused := (faithful_new table aliases).after calls
  have hfaithful : c.Faithful table aliases := (hused.resolve ref package).faithful
  have hcovers : c.Covers table ref package := hused.covers ((hused.primitiveName?_eq ref).trans hprim) hresolved
  obtain ⟨d', hlookup, horigin⟩ := hcovers
  obtain rfl := Option.some.inj (hclass.symm.trans hlookup)
  have hholds : c.Holds table aliases d := hfaithful.holds (SymbolTable.visible_of_lookup hclass) horigin
  have hrefers := hholds.propertyRefers (SymbolTable.mem_fieldsOf.2 ⟨b, hfield⟩) htyped
  obtain ⟨e, he, hproperty⟩ := hrefers
  refine ⟨⟨e, he, hproperty⟩, ⟨?_, fun hsame => ⟨e, hsame.trans he, hproperty⟩⟩⟩
  rintro ⟨e', he', hproperty'⟩
  obtain rfl := hproperty'.eq hproperty (SymbolTable.visible_of_lookup he') (SymbolTable.visible_of_lookup he)
  rw [he', he]

/-- the class that declares the field of the example -/
def entityClass : Definition := ⟨"Entity", "app.base", [], [⟨"owner", "Owner", true⟩]⟩

def petClass : Definition := ⟨"Pet", "shop.models", ["base.Entity"], []⟩

/-- the class of the name that stands beside the one declaring the field -/
def baseOwner : Definition := ⟨"Owner", "app.base", [], [⟨"name", "str", true⟩]⟩

/-- the class of the name that stands beside the one inheriting the field -/
def shopOwner : Definition := ⟨"Owner", "shop.models", [], [⟨"id", "int", true⟩]⟩

/-- A field is inherited into a module that has a class of its own of the name that the field gives. -/
def ownerClasses : SymbolTable := ⟨[baseOwner, entityClass, shopOwner, petClass]⟩

theorem ownerClasses_provides : ownerClasses.Provides petClass entityClass ⟨"owner", "Owner", true⟩ :=
  ⟨[], [], by decide +kernel, by simp⟩

/-- The pet has the owner of its shop, and not the one that the entity has. -/
theorem inherited_refers_pet :
    let c := ((new ownerClasses ∅).resolve "Pet" "shop.models").resolver.cache
    (∃ e, ownerClasses.lookup "Owner" "shop.models" = some e ∧ c.PropertyRefers "Pet" "owner" false e) ∧
      ((∃ e, ownerClasses.lookup "Owner" "app.base" = some e ∧ c.PropertyRefers "Pet" "owner" false e) ↔
        ownerClasses.lookup "Owner" "app.base" = ownerClasses.lookup "Owner" "shop.models") := by
  have hresolved : ∃ ms, ((new ownerClasses ∅).resolve "Pet" "shop.models").answer = .ok ms :=
    ⟨[⟨"Pet", ["owner"], .ofList [("owner", .model "Owner")]⟩,
      ⟨"Owner", ["id"], .ofList [("id", .primitive ⟨"integer", some "int64"⟩)]⟩], by decide +kernel⟩
  obtain ⟨ms, hms⟩ := hresolved
  exact inherited_refers ownerClasses ∅ [] (d := petClass) (by decide +kernel) (by decide +kernel) hms
    ownerClasses_provides (by decide +kernel)

/-- **A field that changes its meaning.** The field is declared beside one owner, which is what its declaring class
refers to; the class that inherits it refers to another owner. -/
theorem owner_of_entity :
    ownerClasses.Provides petClass entityClass ⟨"owner", "Owner", true⟩ ∧
      ownerClasses.lookup "Owner" "app.base" = some baseOwner ∧
      ((new ownerClasses ∅).resolve "Entity" "app.base").resolver.cache.PropertyRefers "Entity" "owner" false
        baseOwner ∧
      ((new ownerClasses ∅).resolve "Pet" "shop.models").resolver.cache.PropertyRefers "Pet" "owner" false
        shopOwner ∧
      ¬ ((new ownerClasses ∅).resolve "Pet" "shop.models").resolver.cache.PropertyRefers "Pet" "owner" false
        baseOwner := by
  refine ⟨ownerClasses_provides, by decide +kernel, ?_, ?_, ?_⟩
  · refine ⟨⟨"Entity", ["owner"], .ofList [("owner", .model "Owner")]⟩, ?_, ?_, ?_⟩ <;> decide +kernel
  · refine ⟨⟨"Pet", ["owner"], .ofList [("owner", .model "Owner")]⟩, ?_, ?_, ?_⟩ <;> decide +kernel
  · rintro ⟨m, -, -, h⟩
    revert h
    decide +kernel

end Resolver

end RouteDocs.Schema
