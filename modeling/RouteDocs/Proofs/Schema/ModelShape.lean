/-
The shape of the models in a cache, whatever table the classes are looked up in.

A class has one field of a name, so each of its fields gets a property of its own. The model of a class is therefore
`Exact`: it is recorded with the distinct models that its properties refer to, in the order of their first mention, its
required names are some of the names of its properties, in their order, and every property has one of three shapes.

- `nodup_names_fieldsOf`: no two fields of a class have one name.
- `Frame.Exact.extend`: the properties of an open class are exact as far as its next field.
- `Moves.exact`: a step of a walk keeps all models exact.
-/
import RouteDocs.Proofs.Schema.Resolution

namespace RouteDocs.Schema

/-! ## The names of fields -/

/-- every field stands under its own name -/
def FieldMap.Named (m : FieldMap) : Prop := ∀ e ∈ m.entries, e.1 = e.2.name

theorem FieldMap.Named.addAll {m : FieldMap} (hm : m.Named) (fields : List Field) : (m.addAll fields).Named := by
  unfold FieldMap.addAll OrderedMap.insertAll
  induction fields generalizing m with
  | nil => exact hm
  | cons f rest ih =>
    refine ih fun e he => ?_
    rcases OrderedMap.mem_put he with rfl | he
    · rfl
    · exact hm e he

theorem FieldMap.named_empty : FieldMap.Named ∅ := fun _ he => nomatch he

section

variable {τ : Type} [TypeLookup τ]

theorem named_addBase (sub : Definition → List String → τ → Collected × τ) (package base : String)
    {acc : Collected × τ} (hacc : acc.1.fields.Named) :
    (Collected.addBase sub package acc base).1.fields.Named := by
  unfold Collected.addBase
  split
  · exact hacc
  · split
    · exact hacc
    · exact hacc.addAll _

theorem named_collect (depth : Nat) (d : Definition) (seen : List String) (table : τ) :
    (collect depth d seen table).1.fields.Named := by
  cases depth with
  | zero => exact FieldMap.named_empty.addAll d.fields
  | succ depth =>
    have hfold : ∀ (bases : List String) (acc : Collected × τ), acc.1.fields.Named →
        (bases.foldl (Collected.addBase (collect depth) d.module) acc).1.fields.Named := by
      intro bases
      induction bases with
      | nil => intro acc hacc; exact hacc
      | cons base rest ih => intro acc hacc; exact ih _ (named_addBase _ _ _ hacc)
    exact (hfold d.bases _ FieldMap.named_empty).addAll d.fields

/-- no two fields of a class have one name -/
theorem nodup_names_fieldsOf (table : τ) (d : Definition) : ((fieldsOf table d).1.map Field.name).Nodup := by
  have hfields : (fieldsOf table d).1 = (collect (TypeLookup.range table).length d [] table).1.fields.values := rfl
  have hnamed := named_collect (TypeLookup.range table).length d [] table
  generalize (collect (TypeLookup.range table).length d [] table).1.fields = m at hfields hnamed
  have hkeys : m.values.map Field.name = m.keys := by
    rw [OrderedMap.values, OrderedMap.keys, List.map_map]
    exact List.map_congr_left fun e he => (hnamed e he).symm
  rw [hfields, hkeys]
  exact m.distinct

end

/-! ## Shapes of properties -/

/-- what a property may look like -/
inductive Property.Shape where
  | primitive
  | reference
  | array

/-- a list of elements is given by a primitive type or by a model, and not by both -/
def Items.HoldsOne (i : Items) : Prop := i.type.isSome = !i.ref.isSome

/-- a property has nothing but what its shape asks for -/
def Property.HasShape (p : Property) : Property.Shape → Prop
  | .primitive =>
    (∃ name t, wireType? name = some t ∧ p.type = some t.type ∧ p.format = t.format) ∧
      p.ref = none ∧ p.items = none
  | .reference => p.type = none ∧ p.format = none ∧ (∃ id, p.ref = some id) ∧ p.items = none
  | .array => p.type = some "array" ∧ p.format = none ∧ p.ref = none ∧ ∃ i, p.items = some i ∧ i.HoldsOne

theorem Property.shape_ofPrimitive {name : String} {t : WireType} (h : wireType? name = some t) (isArray : Bool) :
    ∃! s, (Property.ofPrimitive t isArray).HasShape s := by
  cases isArray with
  | false =>
    refine ⟨.primitive, ⟨⟨name, t, h, rfl, rfl⟩, rfl, rfl⟩, fun s hs => ?_⟩
    cases s with
    | primitive => rfl
    | reference => exact nomatch hs.1
    | array =>
      obtain ⟨i, hi, -⟩ := hs.2.2.2
      cases hi
  | true =>
    refine ⟨.array, ⟨rfl, rfl, rfl, _, rfl, rfl⟩, fun s hs => ?_⟩
    cases s with
    | primitive => exact nomatch hs.2.2
    | reference => exact nomatch hs.1
    | array => rfl

theorem Property.shape_ofModel (id : String) (isArray : Bool) : ∃! s, (Property.ofModel id isArray).HasShape s := by
  cases isArray with
  | false =>
    refine ⟨.reference, ⟨rfl, rfl, ⟨id, rfl⟩, rfl⟩, fun s hs => ?_⟩
    cases s with
    | primitive => exact nomatch hs.2.1
    | reference => rfl
    | array => exact nomatch hs.1
  | true =>
    refine ⟨.array, ⟨rfl, rfl, rfl, _, rfl, rfl⟩, fun s hs => ?_⟩
    cases s with
    | primitive => exact nomatch hs.2.2
    | reference => exact nomatch hs.1
    | array => rfl

/-- the primitive type of a field is the one of some primitive name -/
theorem Field.wireType_of_typeIn {aliases : Aliases} {f : Field} {t : WireType} {isArray : Bool}
    (h : f.typeIn aliases = .primitive t isArray) : ∃ name, wireType? name = some t := by
  unfold Field.typeIn at h
  dsimp only at h
  split at h
  · next wire hwire =>
    cases h
    obtain ⟨name, -, hname⟩ := Option.bind_eq_some_iff.1 hwire
    exact ⟨name, hname⟩
  · cases h

/-! ## Exact models -/

/-- the models that a property refers to, directly or as the elements of an array -/
def Property.targets (p : Property) : List String := p.ref.toList ++ (p.items.bind Items.ref).toList

/-- the models that the properties of a model refer to, one for each reference -/
def Model.targets (m : Model) : List String := m.properties.values.flatMap Property.targets

/-- a model is recorded with the distinct models that it refers to, in the order of their first mention; its required
names and its properties are as they should be -/
structure Model.Exact (m : Model) (references : List String) : Prop where
  references : references = m.targets.eraseDups
  required : m.required.Sublist m.properties.keys
  distinct : m.required.Nodup
  shapes : ∀ p ∈ m.properties.values, ∃! s, p.HasShape s

def Cache.Exact (c : Cache) : Prop :=
  ∀ id m refs, c.models.get? id = some m → c.references.get? id = some refs → m.Exact refs

theorem Cache.exact_empty : empty.Exact := fun id m refs hm => by cases hm

/-- the properties of an open class are those of the fields before the next one, and exact so far -/
structure Frame.Exact (f : Frame) : Prop where
  names : (f.fields.map Field.name).Nodup
  described : f.fields.map Field.name = f.properties.keys ++ f.todo.map Field.name
  references : f.references = (f.properties.values.flatMap Property.targets).eraseDups
  shapes : ∀ p ∈ f.properties.values, ∃! s, p.HasShape s

/-- one more name is put at the end of distinct names, unless it is among them -/
theorem addReference_eraseDups (ids : List String) (id : String) :
    addReference ids.eraseDups id = (ids ++ [id]).eraseDups := by
  rw [eraseDups_concat, addReference]
  simp only [List.mem_eraseDups]

namespace Frame

variable {f g : Frame} {field : Field} {rest : List Field}

theorem exact_start {d : Definition} {fields : List Field} (h : (fields.map Field.name).Nodup) :
    (Frame.start d fields).Exact :=
  ⟨h, rfl, rfl, fun p hp => by cases hp⟩

/-- when the next field gets a property, that is a new one, and comes last -/
theorem Exact.extend (h : f.Exact) (todo : f.todo = field :: rest) {p : Property} (shape : ∃! s, p.HasShape s)
    (fields : g.fields = f.fields) (left : g.todo = rest) (properties : g.properties = f.properties.insert field.name p)
    (references : g.references = (f.properties.values.flatMap Property.targets ++ p.targets).eraseDups) : g.Exact := by
  have hdescribed := h.described
  rw [todo, List.map_cons] at hdescribed
  have hnew : f.properties.contains field.name = false := by
    rw [Bool.eq_false_iff, ne_eq, ← OrderedMap.mem_keys]
    intro hk
    have hnames := h.names
    rw [hdescribed] at hnames
    exact List.disjoint_of_nodup_append hnames hk List.mem_cons_self
  have hentries := OrderedMap.entries_insert_new p hnew
  have hkeys : g.properties.keys = f.properties.keys ++ [field.name] := by
    rw [properties, OrderedMap.keys, hentries, List.map_append]
    rfl
  have hvalues : g.properties.values = f.properties.values ++ [p] := by
    rw [properties, OrderedMap.values, hentries, List.map_append]
    rfl
  refine ⟨fields ▸ h.names, ?_, ?_, fun q hq => ?_⟩
  · rw [fields, hdescribed, hkeys, left, List.append_assoc]
    rfl
  · rw [references, hvalues, List.flatMap_append, List.flatMap_singleton]
  · rw [hvalues] at hq
    rcases List.mem_append.1 hq with hq | hq
    · exact h.shapes q hq
    · exact List.mem_singleton.1 hq ▸ shape

theorem Exact.describe (h : f.Exact) (todo : f.todo = field :: rest) {name : String} {t : WireType}
    (hwire : wireType? name = some t) (isArray : Bool) : (f.describe field.name (.ofPrimitive t isArray)).Exact := by
  have htargets : (Property.ofPrimitive t isArray).targets = [] := by cases isArray <;> rfl
  refine h.extend todo (Property.shape_ofPrimitive hwire isArray) rfl (by rw [Frame.describe, todo]; rfl) rfl ?_
  rw [htargets, List.append_nil]
  exact h.references

theorem Exact.refer (h : f.Exact) (todo : f.todo = field :: rest) (id : String) (isArray : Bool) :
    (f.refer field.name id isArray).Exact := by
  have htargets : (Property.ofModel id isArray).targets = [id] := by cases isArray <;> rfl
  refine h.extend todo (Property.shape_ofModel id isArray) rfl (by rw [Frame.refer, Frame.describe, todo]; rfl) rfl ?_
  rw [htargets, ← addReference_eraseDups, ← h.references]
  rfl

/-- the model of a class all of whose fields have a property is exact -/
theorem Exact.model (h : f.Exact) (todo : f.todo = []) : f.model.Exact f.references := by
  have hkeys : f.model.properties.keys = f.fields.map Field.name := by
    rw [h.described, todo, List.map_nil, List.append_nil]
    rfl
  have hsub : f.model.required.Sublist (f.fields.map Field.name) := List.filter_sublist.map _
  exact ⟨h.references, hkeys ▸ hsub, h.names.sublist hsub, h.shapes⟩

end Frame

/-- recording an exact model keeps a cache exact -/
theorem Cache.Exact.complete {c : Cache} (h : c.Exact) {m : Model} {refs : List String} (hm : m.Exact refs) :
    (c.complete m refs).Exact := by
  intro id k refs' hk hrefs
  rw [Cache.complete, OrderedMap.get?_insert] at hk hrefs
  split at hk
  · next hid =>
    rw [if_pos hid] at hrefs
    obtain rfl := Option.some.inj hk
    obtain rfl := Option.some.inj hrefs
    exact hm
  · next hid =>
    rw [if_neg hid] at hrefs
    exact h id k refs' hk hrefs

/-- during a walk the recorded models are exact, and the open classes are so far -/
structure Walk.Exact {τ : Type} (w : Walk τ) : Prop where
  frames : ∀ f ∈ w.frames, f.Exact
  cache : w.cache.Exact

variable {τ : Type} [TypeLookup τ] {aliases : Aliases}

/-- **Steps keep models exact.** A step of a walk gives the next field its property, opens a class without properties,
or records the model of a class whose fields all have one. -/
theorem Moves.exact {w v : Walk τ} (h : Moves aliases w v) (hw : w.Exact) : v.Exact := by
  cases h with
  | close todo =>
    obtain ⟨hf, houter⟩ := List.forall_mem_cons.1 hw.frames
    exact ⟨houter, hw.cache.complete (hf.model todo)⟩
  | @primitive f outer c table field rest type isArray todo typed =>
    obtain ⟨hf, houter⟩ := List.forall_mem_cons.1 hw.frames
    obtain ⟨name, hwire⟩ := Field.wireType_of_typeIn typed
    exact ⟨List.forall_mem_cons.2 ⟨hf.describe todo hwire isArray, houter⟩, hw.cache⟩
  | @known f outer c table after field rest ref isArray d todo typed asked found =>
    obtain ⟨hf, houter⟩ := List.forall_mem_cons.1 hw.frames
    exact ⟨List.forall_mem_cons.2 ⟨hf.refer todo d.name isArray, houter⟩, hw.cache⟩
  | @opened f outer c table after field rest ref isArray d todo typed asked new =>
    obtain ⟨hf, houter⟩ := List.forall_mem_cons.1 hw.frames
    have hd := Frame.exact_start (d := d) (nodup_names_fieldsOf after d)
    exact ⟨List.forall_mem_cons.2 ⟨hd, List.forall_mem_cons.2 ⟨hf.refer todo d.name isArray, houter⟩⟩,
      hw.cache⟩

theorem Walk.exact_run (aliases : Aliases) {w : Walk τ} (h : w.Exact) : (w.run aliases).2.Exact := by
  refine run_invariant (fun w v hm hw => hm.exact hw) (fun w e v hf hw => ?_) w h
  -- a failing step changes nothing but the table
  cases hf with
  | unresolved todo typed asked => exact ⟨hw.frames, hw.cache⟩
  | collision todo typed asked found other => exact ⟨hw.frames, hw.cache⟩

/-- following a reference opens a class without properties, or none -/
theorem exact_follow {c : Cache} (hc : c.Exact) {table : τ} {ref package : String} {e : Entry τ}
    (h : Follows c table ref package e) : (⟨e.opened, e.cache, e.table⟩ : Walk τ).Exact := by
  cases h with
  | @opened d after asked new => exact ⟨by simpa using Frame.exact_start (nodup_names_fieldsOf after d), hc⟩
  | unresolved asked => exact ⟨by simp, hc⟩
  | collision asked found other => exact ⟨by simp, hc⟩
  | known asked found => exact ⟨by simp, hc⟩

end RouteDocs.Schema
