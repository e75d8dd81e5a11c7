/-
The classes of a symbol table as a graph, with no resolver and no cache: a class leads to the classes that its fields
refer to, as seen from its module.

- `SymbolTable.visible_of_lookup`, `SymbolTable.Visible.eq`: a look-up answers with the first definition of a module and
  name, so what it answers is determined by its module and name.
- `SymbolTable.modelOf`: the model of a class, made of its fields alone.
- `SymbolTable.breadthFirst`: the classes that are reached from some, nearest first.
- `SymbolTable.reachedModels`: the answer to a reference that needs no cache.
- `SymbolTable.breadthFirst_skip`: a class that is listed, or comes earlier in the queue, may be left out of the queue.
-/
import RouteDocs.Proofs.OrderedMap
import RouteDocs.Schema.Resolver

namespace RouteDocs.Schema

/-! ## Look-ups -/

theorem find?_of_nearest {package : String} {ds : List Definition} {d : Definition} (h : nearest package ds = some d) :
    ds.find? (fun e => e.module == d.module) = some d := by
  induction ds generalizing d with
  | nil => cases h
  | cons a rest ih =>
    rw [nearest] at h
    split at h
    · cases h
      simp
    · next e he =>
      split at h
      · next hlt =>
        obtain rfl : e = d := Option.some.inj h
        -- a definition of the same module is at the same distance, so it is not farther away
        have hne : a.module ≠ e.module := fun hm => by
          simp [Distance.of, Distance.lt, hm] at hlt
        rw [List.find?_cons_of_neg (by simpa using hne)]
        exact ih he
      · cases h
        simp

namespace SymbolTable

variable {table : SymbolTable} {aliases : Aliases}

/-- the definition is the first of its module and name -/
def Visible (table : SymbolTable) (d : Definition) : Prop :=
  table.definitions.find? (fun e => e.module == d.module && e.name == d.name) = some d

theorem name_of_lookup {ref package : String} {d : Definition} (h : table.lookup ref package = some d) :
    d.name = (Reference.ofText ref).name := by
  have hallows := (mem_of_lookup h).2
  simp only [Reference.allows, Bool.and_eq_true, beq_iff_eq] at hallows
  exact hallows.1

/-- a look-up answers with the first definition of a module and name -/
theorem visible_of_lookup {ref package : String} {d : Definition} (h : table.lookup ref package = some d) :
    table.Visible d := by
  have hfind := find?_of_nearest h
  rw [List.find?_filter] at hfind
  have hallows := (mem_of_lookup h).2
  have hsame : (fun e : Definition => decide ((Reference.ofText ref).allows e = true ∧ (e.module == d.module) = true))
      = fun e => e.module == d.module && e.name == d.name := by
    funext e
    by_cases hm : e.module = d.module
    · simp only [Reference.allows, Bool.and_eq_true, beq_iff_eq] at hallows
      simp [Reference.allows, hm, hallows, Bool.beq_eq_decide_eq]
    · simp [hm]
  rw [hsame] at hfind
  exact hfind

theorem Visible.mem {d : Definition} (h : table.Visible d) : d ∈ table.definitions := List.mem_of_find?_eq_some h

/-- a visible definition is determined by its module and name -/
theorem Visible.eq {d e : Definition} (hd : table.Visible d) (he : table.Visible e) (hn : d.name = e.name)
    (hm : d.module = e.module) : d = e := by
  rw [Visible, hn, hm] at hd
  exact Option.some.inj (hd.symm.trans he)

/-- two classes of the name are in the table, in different modules -/
def Clashes (table : SymbolTable) (name : String) : Prop :=
  ∃ d ∈ table.definitions, ∃ e ∈ table.definitions, d.name = name ∧ e.name = name ∧ d.module ≠ e.module

theorem addBase_table (sub : Definition → List String → SymbolTable → Collected × SymbolTable)
    (hsub : ∀ d seen t, (sub d seen t).2 = t) (package base : String) (acc : Collected × SymbolTable) :
    (Collected.addBase sub package acc base).2 = acc.2 := by
  unfold Collected.addBase
  rw [ask_eq]
  split
  · next h => exact (Prod.mk.inj h).2.symm
  · next h =>
    obtain ⟨-, rfl⟩ := Prod.mk.inj h
    split
    · rfl
    · exact hsub _ _ _

theorem collect_table (depth : Nat) (d : Definition) (seen : List String) (table : SymbolTable) :
    (collect depth d seen table).2 = table := by
  induction depth generalizing d seen table with
  | zero => rfl
  | succ depth ih =>
    have hfold : ∀ (bases : List String) (acc : Collected × SymbolTable),
        (bases.foldl (Collected.addBase (collect depth) d.module) acc).2 = acc.2 := by
      intro bases
      induction bases with
      | nil => intro acc; rfl
      | cons base rest ihb => intro acc; rw [List.foldl_cons, ihb, addBase_table _ ih]
    exact hfold d.bases _

theorem fieldsOf_table (table : SymbolTable) (d : Definition) : (fieldsOf table d).2 = table :=
  collect_table _ d [] table

end SymbolTable

/-! ## The graph -/

def FieldType.reference? : FieldType → Option String
  | .primitive _ _ => none
  | .composite ref _ => some ref

/-- the property for a type; a model is named by the class name of the reference -/
def FieldType.property : FieldType → Property
  | .primitive type isArray => .ofPrimitive type isArray
  | .composite ref isArray => .ofModel (Reference.ofText ref).name isArray

/-- the references to other classes among the types of fields, in order -/
def compositeRefs (aliases : Aliases) (fields : List Field) : List String :=
  fields.filterMap fun f => (f.typeIn aliases).reference?

def propertiesOf (aliases : Aliases) (fields : List Field) : OrderedMap String Property :=
  .ofList (fields.map fun f => (f.name, (f.typeIn aliases).property))

def classNames (refs : List String) : List String :=
  (refs.map fun ref => (Reference.ofText ref).name).foldl addReference []

theorem compositeRefs_concat (aliases : Aliases) (fields : List Field) (f : Field) :
    compositeRefs aliases (fields ++ [f]) = compositeRefs aliases fields ++ (f.typeIn aliases).reference?.toList := by
  rw [compositeRefs, List.filterMap_append, compositeRefs, List.filterMap_cons, List.filterMap_nil]
  cases (f.typeIn aliases).reference? <;> rfl

theorem propertiesOf_concat (aliases : Aliases) (fields : List Field) (f : Field) :
    propertiesOf aliases (fields ++ [f])
      = (propertiesOf aliases fields).insert f.name (f.typeIn aliases).property := by
  simp [propertiesOf, OrderedMap.ofList, OrderedMap.insertAll]

theorem classNames_concat (refs : List String) (ref : String) :
    classNames (refs ++ [ref]) = addReference (classNames refs) (Reference.ofText ref).name := by
  simp [classNames]

namespace SymbolTable

/-- the references to other classes in the fields of a class -/
def mentions (table : SymbolTable) (aliases : Aliases) (d : Definition) : List String :=
  compositeRefs aliases (fieldsOf table d).1

/-- the classes that the fields of a class refer to, as seen from its module -/
def successors (table : SymbolTable) (aliases : Aliases) (d : Definition) : List Definition :=
  (table.mentions aliases d).filterMap (table.lookup · d.module)

/-- the model of a class, made of its fields alone -/
def modelOf (table : SymbolTable) (aliases : Aliases) (d : Definition) : Model where
  id := d.name
  required := ((fieldsOf table d).1.filter Field.required).map Field.name
  properties := propertiesOf aliases (fieldsOf table d).1

theorem id_modelOf (table : SymbolTable) (aliases : Aliases) (d : Definition) : (table.modelOf aliases d).id = d.name :=
  rfl

def unlisted (table : SymbolTable) (listed : List Definition) : List Definition :=
  table.definitions.filter (· ∉ listed)

theorem length_unlisted_append {table : SymbolTable} {listed : List Definition} {d : Definition}
    (hd : d ∈ table.definitions) (hl : d ∉ listed) :
    (table.unlisted (listed ++ [d])).length < (table.unlisted listed).length := by
  have hsub : table.unlisted (listed ++ [d]) = (table.unlisted listed).filter (· ≠ d) := by
    unfold unlisted
    rw [List.filter_filter]
    congr 1
    funext e
    simp [Bool.and_comm]
  rw [hsub]
  refine List.length_filter_lt_length_iff_exists.2 ⟨d, List.mem_filter.2 ⟨hd, by simpa using hl⟩, by simp⟩

/-- Breadth first: what was listed, and after it the classes that are reached from those in the queue, nearest first.
A definition of another table is left out. -/
def breadthFirst (table : SymbolTable) (aliases : Aliases) : (queue listed : List Definition) → List Definition
  | [], listed => listed
  | d :: queue, listed =>
    if _h : d ∈ table.definitions ∧ d ∉ listed then
      table.breadthFirst aliases (queue ++ table.successors aliases d) (listed ++ [d])
    else table.breadthFirst aliases queue listed
termination_by queue listed => ((table.unlisted listed).length, queue.length)
decreasing_by
  · exact .left _ _ (length_unlisted_append _h.1 _h.2)
  · exact .right _ (by simp)

/-- The models that a reference reaches, as seen from a module: that of the class which it means and those of all
classes reached from there, nearest first. A primitive reaches none. Nothing is the answer to a reference that means no
class. -/
def reachedModels (table : SymbolTable) (aliases : Aliases) (ref package : String) : Option (List Model) :=
  if (primitiveName? aliases ref).isSome then some []
  else (table.lookup ref package).map fun d => (table.breadthFirst aliases [d] []).map (table.modelOf aliases)

variable {table : SymbolTable} {aliases : Aliases} {d : Definition} {queue listed : List Definition}

theorem breadthFirst_new (hd : d ∈ table.definitions) (hl : d ∉ listed) :
    table.breadthFirst aliases (d :: queue) listed =
      table.breadthFirst aliases (queue ++ table.successors aliases d) (listed ++ [d]) := by
  rw [breadthFirst, dif_pos ⟨hd, hl⟩]

theorem breadthFirst_old (h : ¬ (d ∈ table.definitions ∧ d ∉ listed)) :
    table.breadthFirst aliases (d :: queue) listed = table.breadthFirst aliases queue listed := by
  rw [breadthFirst, dif_neg h]

/-- a class that is listed, or comes earlier in the queue, may be left out of the queue -/
theorem breadthFirst_skip (front back : List Definition)
    (h : d ∈ table.definitions → d ∈ listed ∨ d ∈ front) :
    table.breadthFirst aliases (front ++ d :: back) listed = table.breadthFirst aliases (front ++ back) listed := by
  have hold (listed : List Definition) (h : d ∈ table.definitions → d ∈ listed ∨ d ∈ []) :
      ¬ (d ∈ table.definitions ∧ d ∉ listed) := fun hc => hc.2 ((h hc.1).resolve_right List.not_mem_nil)
  generalize hq : front ++ back = queue
  fun_induction breadthFirst table aliases queue listed generalizing front back with
  | case1 listed =>
    obtain ⟨rfl, rfl⟩ := List.append_eq_nil_iff.1 hq
    rw [List.nil_append, breadthFirst_old (hold listed h), breadthFirst]
  | case2 e queue listed hnew ih =>
    cases front with
    | nil =>
      obtain rfl : back = e :: queue := hq
      rw [List.nil_append, breadthFirst_old (hold listed h), breadthFirst_new hnew.1 hnew.2]
    | cons a front =>
      obtain ⟨rfl, rfl⟩ := List.cons.inj hq
      rw [List.cons_append, breadthFirst_new hnew.1 hnew.2, List.append_assoc, List.cons_append]
      refine ih front (back ++ table.successors aliases a) (fun hd => ?_) (List.append_assoc _ _ _).symm
      rcases h hd with h | h
      · exact Or.inl (List.mem_append_left _ h)
      · rcases List.mem_cons.1 h with rfl | h
        · exact Or.inl (List.mem_append_right _ List.mem_cons_self)
        · exact Or.inr h
  | case3 e queue listed he ih =>
    cases front with
    | nil =>
      obtain rfl : back = e :: queue := hq
      rw [List.nil_append, breadthFirst_old (hold listed h), breadthFirst_old he]
    | cons a front =>
      obtain ⟨rfl, rfl⟩ := List.cons.inj hq
      rw [List.cons_append, breadthFirst_old he]
      refine ih front back (fun hd => ?_) rfl
      rcases h hd with h | h
      · exact Or.inl h
      · rcases List.mem_cons.1 h with rfl | h
        · exact Or.inl (Classical.not_not.1 fun hl => he ⟨hd, hl⟩)
        · exact Or.inr h

/-- a list of definitions with one more, unless it is there already -/
def addNew (ds : List Definition) (d : Definition) : List Definition := if d ∈ ds then ds else ds ++ [d]

/-- repetitions in the queue have no effect -/
theorem breadthFirst_distinct (queue more listed : List Definition) :
    table.breadthFirst aliases (queue ++ more.foldl addNew []) listed
      = table.breadthFirst aliases (queue ++ more) listed := by
  have hall (acc : List Definition) : table.breadthFirst aliases (queue ++ more.foldl addNew acc) listed
      = table.breadthFirst aliases (queue ++ (acc ++ more)) listed := by
    induction more generalizing acc with
    | nil => rw [List.foldl_nil, List.append_nil]
    | cons d rest ih =>
      rw [List.foldl_cons, ih, addNew]
      split
      · next hd =>
        have hskip : table.breadthFirst aliases (queue ++ acc ++ d :: rest) listed
            = table.breadthFirst aliases (queue ++ acc ++ rest) listed :=
          breadthFirst_skip (queue ++ acc) rest fun _ => Or.inr (List.mem_append_right _ hd)
        rw [List.append_assoc, List.append_assoc] at hskip
        exact hskip.symm
      · rw [List.append_assoc, List.singleton_append]
  exact hall []

end SymbolTable

end RouteDocs.Schema
