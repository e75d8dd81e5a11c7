/-
What a cache of models is, whatever table the classes are looked up in, and however its answers change.

Between two calls a cache is `Sound`: every recorded class has its model, of its own name, and every model that a
model refers to is recorded too. Within a call the classes that are open have no model yet (`Walk.Inv`).

- `Moves.inv`, `Moves.extends`: a step of a walk keeps the invariant and only adds to the cache.
- `Cache.rollback_eq`: what a failed walk recorded is taken back exactly.
-/
import RouteDocs.Proofs.OrderedMap
import RouteDocs.Proofs.Schema.Walk

namespace RouteDocs.Schema

/-- a property refers to a model, directly or as the elements of an array -/
def Property.RefersTo (p : Property) (id : String) : Prop :=
  p.ref = some id ∨ ∃ items, p.items = some items ∧ items.ref = some id

/-- some property of a model refers to another one -/
def Model.RefersTo (m : Model) (id : String) : Prop := ∃ p ∈ m.properties.values, p.RefersTo id

theorem Property.not_refersTo_ofPrimitive (type : WireType) (isArray : Bool) (id : String) :
    ¬ (Property.ofPrimitive type isArray).RefersTo id := by
  cases isArray <;> simp [Property.ofPrimitive, Property.primitive, Property.primitives, Property.blank, RefersTo]

theorem Property.refersTo_ofModel {target id : String} {isArray : Bool}
    (h : (Property.ofModel target isArray).RefersTo id) : id = target := by
  cases isArray <;>
    simp_all [Property.ofModel, Property.model, Property.models, Property.blank, RefersTo]

namespace Cache

/-! ## Growing caches -/

/-- `c` extends `b`: what is recorded stays, in its place -/
structure Extends (b c : Cache) : Prop where
  origins : b.origins.entries <+: c.origins.entries
  models : b.models.entries <+: c.models.entries
  references : b.references.entries <+: c.references.entries

theorem Extends.refl (c : Cache) : Extends c c := ⟨List.prefix_refl _, List.prefix_refl _, List.prefix_refl _⟩

theorem Extends.trans {a b c : Cache} (h1 : Extends a b) (h2 : Extends b c) : Extends a c :=
  ⟨h1.origins.trans h2.origins, h1.models.trans h2.models, h1.references.trans h2.references⟩

theorem Extends.contains {b c : Cache} (h : Extends b c) {id : String} (hid : b.origins.contains id = true) :
    c.origins.contains id = true := by
  obtain ⟨module, hm⟩ := OrderedMap.contains_iff.1 hid
  exact OrderedMap.contains_of_get? (OrderedMap.get?_of_prefix h.origins hm)

theorem extends_start {c : Cache} {d : Definition} (new : c.origins.get? d.name = none) : Extends c (c.start d) := by
  refine ⟨?_, List.prefix_refl _, List.prefix_refl _⟩
  rw [start, OrderedMap.entries_insert_new _ (OrderedMap.get?_eq_none.1 new)]
  exact List.prefix_append _ _

theorem extends_complete {c : Cache} {m : Model} {refs : List String} (hm : c.models.contains m.id = false)
    (hr : c.references.contains m.id = false) : Extends c (c.complete m refs) := by
  refine ⟨List.prefix_refl _, ?_, ?_⟩
  · rw [complete, OrderedMap.entries_insert_new _ hm]
    exact List.prefix_append _ _
  · rw [complete, OrderedMap.entries_insert_new _ hr]
    exact List.prefix_append _ _

/-! ## Complete classes -/

/-- a class has a model of its name, and all that the model refers to is listed and recorded -/
structure Complete (c : Cache) (id : String) (m : Model) (refs : List String) : Prop where
  model : c.models.get? id = some m
  references : c.references.get? id = some refs
  named : m.id = id
  listed : ∀ t, m.RefersTo t → t ∈ refs
  recorded : ∀ t ∈ refs, c.origins.contains t = true

theorem Complete.mono {b c : Cache} (h : Extends b c) {id : String} {m : Model} {refs : List String}
    (hc : b.Complete id m refs) : c.Complete id m refs :=
  ⟨OrderedMap.get?_of_prefix h.models hc.model, OrderedMap.get?_of_prefix h.references hc.references, hc.named,
    hc.listed, fun t ht => h.contains (hc.recorded t ht)⟩

/-- every recorded class is complete, and only recorded classes have entries -/
structure Sound (c : Cache) : Prop where
  complete : ∀ id, c.origins.contains id = true → ∃ m refs, c.Complete id m refs
  models : ∀ id, c.models.contains id = true → c.origins.contains id = true
  references : ∀ id, c.references.contains id = true → c.origins.contains id = true

theorem sound_empty : Sound empty := by constructor <;> simp [empty]

/-- the classes that have a model are those that are recorded -/
theorem Sound.contains_models {c : Cache} (hc : c.Sound) (id : String) :
    c.models.contains id = true ↔ c.origins.contains id = true := by
  refine ⟨hc.models id, fun hid => ?_⟩
  obtain ⟨m, refs, hm⟩ := hc.complete id hid
  exact OrderedMap.contains_of_get? hm.model

/-- the classes that have references are those that are recorded -/
theorem Sound.contains_references {c : Cache} (hc : c.Sound) (id : String) :
    c.references.contains id = true ↔ c.origins.contains id = true := by
  refine ⟨hc.references id, fun hid => ?_⟩
  obtain ⟨m, refs, hm⟩ := hc.complete id hid
  exact OrderedMap.contains_of_get? hm.references

end Cache

/-! ## The invariant of a walk -/

/-- an open class is recorded and has no model yet, and its properties refer to recorded classes only -/
structure Frame.Good (c : Cache) (f : Frame) : Prop where
  named : c.origins.contains f.definition.name = true
  listed : ∀ p ∈ f.properties.values, ∀ t, p.RefersTo t → t ∈ f.references
  recorded : ∀ t ∈ f.references, c.origins.contains t = true
  noModel : c.models.contains f.definition.name = false
  noReferences : c.references.contains f.definition.name = false

structure Walk.Inv {τ : Type} (w : Walk τ) : Prop where
  /-- a recorded class is complete or open -/
  entries : ∀ id, w.cache.origins.contains id = true →
    (∃ m refs, w.cache.Complete id m refs) ∨ ∃ f ∈ w.frames, f.definition.name = id
  frames : ∀ f ∈ w.frames, f.Good w.cache
  nodup : (w.frames.map (·.definition.name)).Nodup
  models : ∀ id, w.cache.models.contains id = true → w.cache.origins.contains id = true
  references : ∀ id, w.cache.references.contains id = true → w.cache.origins.contains id = true

namespace Frame.Good

variable {b c : Cache} {f : Frame}

/-- a class stays good while others are recorded and completed -/
theorem mono (hg : f.Good b) (h : b.Extends c) (hm : c.models.contains f.definition.name = false)
    (hr : c.references.contains f.definition.name = false) : f.Good c :=
  ⟨h.contains hg.named, hg.listed, fun t ht => h.contains (hg.recorded t ht), hm, hr⟩

theorem describe (hg : f.Good c) (name : String) (type : WireType) (isArray : Bool) :
    (f.describe name (.ofPrimitive type isArray)).Good c := by
  refine { hg with listed := fun p hp t ht => ?_ }
  rcases OrderedMap.mem_values_insert hp with rfl | hp
  · exact absurd ht (Property.not_refersTo_ofPrimitive type isArray t)
  · exact hg.listed p hp t ht

theorem refer (hg : f.Good c) (name : String) {id : String} (isArray : Bool) (hid : c.origins.contains id = true) :
    (f.refer name id isArray).Good c := by
  have hrefs : ∀ t, t ∈ (f.refer name id isArray).references ↔ t ∈ f.references ∨ t = id := by
    intro t
    simp only [Frame.refer, addReference]
    split <;> simp_all
  refine { hg with listed := fun p hp t ht => (hrefs t).2 ?_, recorded := fun t ht => ?_ }
  · rcases OrderedMap.mem_values_insert hp with rfl | hp
    · exact Or.inr (Property.refersTo_ofModel ht)
    · exact Or.inl (hg.listed p hp t ht)
  · rcases (hrefs t).1 ht with ht | rfl
    · exact hg.recorded t ht
    · exact hid

end Frame.Good

theorem Frame.good_start {c : Cache} {d : Definition} {fields : List Field} (named : c.origins.contains d.name = true)
    (hm : c.models.contains d.name = false) (hr : c.references.contains d.name = false) :
    (Frame.start d fields).Good c := by
  refine ⟨named, ?_, ?_, hm, hr⟩ <;> simp [Frame.start, OrderedMap.mem_values]

/-- the model of an open class, all of whose properties refer to recorded classes, completes it -/
theorem Frame.Good.complete {c : Cache} {f : Frame} (hg : f.Good c) :
    (c.complete f.model f.references).Complete f.definition.name f.model f.references where
  model := by simp [Cache.complete, OrderedMap.get?_insert, Frame.model]
  references := by simp [Cache.complete, OrderedMap.get?_insert, Frame.model]
  named := rfl
  listed := fun t ⟨p, hp, ht⟩ => hg.listed p hp t ht
  recorded := hg.recorded

/-! ## Open classes, exchanged -/

section Exchange

variable {f g : Frame} {before outer : List Frame}

/-- what holds of every open class still does when one is exchanged for another of which it holds -/
theorem Frame.forall_exchange {P : Frame → Prop} (h : ∀ o ∈ before ++ f :: outer, P o) (hg : P g) :
    ∀ o ∈ before ++ g :: outer, P o := by
  intro o ho
  rcases List.mem_append.1 ho with ho | ho
  · exact h o (List.mem_append_left _ ho)
  · rcases List.mem_cons.1 ho with rfl | ho
    · exact hg
    · exact h o (List.mem_append_right _ (List.mem_cons_of_mem _ ho))

/-- the names of the open classes when one is exchanged for another of its name -/
theorem Frame.names_exchange (hname : g.definition.name = f.definition.name) :
    (before ++ g :: outer).map (·.definition.name) = (before ++ f :: outer).map (·.definition.name) := by
  simp [hname]

/-- a class that is open still is when one is exchanged for another of its name -/
theorem Frame.exists_exchange (hname : g.definition.name = f.definition.name) {id : String}
    (h : ∃ o ∈ before ++ f :: outer, o.definition.name = id) :
    ∃ o ∈ before ++ g :: outer, o.definition.name = id := by
  have hmem : id ∈ (before ++ f :: outer).map (·.definition.name) := List.mem_map.2 h
  rw [← Frame.names_exchange hname] at hmem
  exact List.mem_map.1 hmem

end Exchange

namespace Walk.Inv

variable {τ : Type} {f g : Frame} {outer : List Frame} {c : Cache} {table : τ}

/-- an open class may get further properties -/
theorem replace (before : List Frame) (h : (⟨before ++ f :: outer, c, table⟩ : Walk τ).Inv) (hg : g.Good c)
    (hname : g.definition.name = f.definition.name) (after : τ) :
    (⟨before ++ g :: outer, c, after⟩ : Walk τ).Inv :=
  ⟨fun id hid => (h.entries id hid).imp_right (Frame.exists_exchange hname), Frame.forall_exchange h.frames hg,
    Frame.names_exchange hname ▸ h.nodup, h.models, h.references⟩

/-- a new class may be opened -/
theorem push {frames : List Frame} (h : (⟨frames, c, table⟩ : Walk τ).Inv) {d : Definition}
    (new : c.origins.get? d.name = none) (fields : List Field) (after : τ) :
    (⟨.start d fields :: frames, c.start d, after⟩ : Walk τ).Inv := by
  have hext := Cache.extends_start new
  have hnew : c.origins.contains d.name = false := OrderedMap.get?_eq_none.1 new
  have hstart : ∀ id, (c.start d).origins.contains id = true ↔ id = d.name ∨ c.origins.contains id = true := by
    intro id
    rw [contains_start, Bool.or_eq_true, decide_eq_true_eq]
  have hmodel : c.models.contains d.name = false := by
    rw [Bool.eq_false_iff]
    exact fun hm => by rw [h.models _ hm] at hnew; cases hnew
  have hreferences : c.references.contains d.name = false := by
    rw [Bool.eq_false_iff]
    exact fun hr => by rw [h.references _ hr] at hnew; cases hnew
  refine ⟨fun id hid => ?_, fun o ho => ?_, ?_, fun id hid => (hstart id).2 (Or.inr (h.models id hid)),
    fun id hid => (hstart id).2 (Or.inr (h.references id hid))⟩
  · rcases (hstart id).1 hid with rfl | hid
    · exact Or.inr ⟨_, List.mem_cons_self, rfl⟩
    · rcases h.entries id hid with ⟨m, refs, hc⟩ | ⟨o, ho, hname⟩
      · exact Or.inl ⟨m, refs, hc.mono hext⟩
      · exact Or.inr ⟨o, List.mem_cons_of_mem _ ho, hname⟩
  · rcases List.mem_cons.1 ho with rfl | ho
    · exact Frame.good_start ((hstart _).2 (Or.inl rfl)) hmodel hreferences
    · exact (h.frames o ho).mono hext (h.frames o ho).noModel (h.frames o ho).noReferences
  · refine List.nodup_cons.2 ⟨fun hmem => ?_, h.nodup⟩
    obtain ⟨o, ho, hname⟩ := List.mem_map.1 (show d.name ∈ frames.map (·.definition.name) from hmem)
    have hnamed := (h.frames o ho).named
    rw [hname, hnew] at hnamed
    cases hnamed

theorem extends_pop (h : (⟨f :: outer, c, table⟩ : Walk τ).Inv) : c.Extends (c.complete f.model f.references) :=
  Cache.extends_complete (h.frames f List.mem_cons_self).noModel (h.frames f List.mem_cons_self).noReferences

/-- the innermost class may be completed -/
theorem pop (h : (⟨f :: outer, c, table⟩ : Walk τ).Inv) :
    (⟨outer, c.complete f.model f.references, table⟩ : Walk τ).Inv := by
  have hext := h.extends_pop
  have hf : f.Good c := h.frames f List.mem_cons_self
  obtain ⟨hfresh, hnodup⟩ := List.nodup_cons.1 h.nodup
  refine ⟨fun id hid => ?_, fun o ho => ?_, hnodup, fun id hid => ?_, fun id hid => ?_⟩
  · rcases h.entries id hid with ⟨m, refs, hc⟩ | ⟨o, ho, rfl⟩
    · exact Or.inl ⟨m, refs, hc.mono hext⟩
    · rcases List.mem_cons.1 ho with rfl | ho
      · exact Or.inl ⟨_, _, hf.complete⟩
      · exact Or.inr ⟨o, ho, rfl⟩
  · have hgood := h.frames o (List.mem_cons_of_mem _ ho)
    have hne : o.definition.name ≠ f.definition.name := fun he => hfresh (List.mem_map.2 ⟨o, ho, he⟩)
    refine hgood.mono hext ?_ ?_
    · simp [Cache.complete, OrderedMap.contains_insert, Frame.model, hne, hgood.noModel]
    · simp [Cache.complete, OrderedMap.contains_insert, Frame.model, hne, hgood.noReferences]
  · simp only [Cache.complete, OrderedMap.contains_insert, Bool.or_eq_true, decide_eq_true_eq] at hid
    rcases hid with rfl | hid
    · exact hf.named
    · exact h.models id hid
  · simp only [Cache.complete, OrderedMap.contains_insert, Bool.or_eq_true, decide_eq_true_eq] at hid
    rcases hid with rfl | hid
    · exact hf.named
    · exact h.references id hid

end Walk.Inv

variable {τ : Type} [TypeLookup τ] {aliases : Aliases}

theorem Moves.extends {w v : Walk τ} (h : Moves aliases w v) (hw : w.Inv) : w.cache.Extends v.cache := by
  cases h with
  | close todo => exact hw.extends_pop
  | primitive todo typed => exact .refl _
  | known todo typed asked found => exact .refl _
  | opened todo typed asked new => exact Cache.extends_start new

theorem Moves.inv {w v : Walk τ} (h : Moves aliases w v) (hw : w.Inv) : v.Inv := by
  cases h with
  | close todo => exact hw.pop
  | @primitive f outer c table field rest type isArray todo typed =>
    have hg := (hw.frames f List.mem_cons_self).describe field.name type isArray
    exact hw.replace [] hg rfl table
  | @known f outer c table after field rest ref isArray d todo typed asked found =>
    have hg := (hw.frames f List.mem_cons_self).refer field.name isArray (OrderedMap.contains_of_get? found)
    exact hw.replace [] hg rfl after
  | @opened f outer c table after field rest ref isArray d todo typed asked new =>
    have hpush := hw.push new (fieldsOf after d).1 (fieldsOf after d).2
    have hd := (hpush.frames _ List.mem_cons_self).named
    have hg := (hpush.frames f (List.mem_cons_of_mem _ List.mem_cons_self)).refer field.name isArray hd
    exact hpush.replace [_] hg rfl _

/-- the invariant holds, and the cache extends an earlier one -/
def Walk.Grown (b : Cache) (w : Walk τ) : Prop := w.Inv ∧ b.Extends w.cache

theorem Walk.grown_run (aliases : Aliases) {b : Cache} {w : Walk τ} (h : w.Grown b) : (w.run aliases).2.Grown b := by
  refine run_invariant (fun w v hm hw => ⟨hm.inv hw.1, hw.2.trans (hm.extends hw.1)⟩) (fun w e v hf hw => ?_) w h
  -- a failing step changes nothing but the table
  cases hf with
  | unresolved todo typed asked => exact ⟨⟨hw.1.1, hw.1.2, hw.1.3, hw.1.4, hw.1.5⟩, hw.2⟩
  | collision todo typed asked found other => exact ⟨⟨hw.1.1, hw.1.2, hw.1.3, hw.1.4, hw.1.5⟩, hw.2⟩

omit [TypeLookup τ] in
/-- when no class is open, the cache is sound -/
theorem Walk.Inv.sound {w : Walk τ} (hw : w.Inv) (h : w.frames = []) : w.cache.Sound := by
  refine ⟨fun id hid => (hw.entries id hid).resolve_right ?_, hw.models, hw.references⟩
  rintro ⟨f, hf, -⟩
  rw [h] at hf
  cases hf

omit [TypeLookup τ] in
theorem Cache.Sound.inv {c : Cache} (hc : c.Sound) (table : τ) : (⟨[], c, table⟩ : Walk τ).Inv :=
  ⟨fun id hid => Or.inl (hc.complete id hid), by simp, .nil, hc.models, hc.references⟩

omit [TypeLookup τ] in
/-- what a walk recorded since a sound cache is taken back exactly -/
theorem Cache.rollback_eq {c : Cache} (hc : c.Sound) {w : Walk τ} (hw : w.Grown c) :
    Cache.rollback c w.cache = c := by
  obtain ⟨hinv, hext⟩ := hw
  have horigins := OrderedMap.filterKeys_grown hext.origins (fun _ => Iff.rfl) fun _ h => h
  have hmodels := OrderedMap.filterKeys_grown hext.models hc.contains_models hinv.models
  have hreferences := OrderedMap.filterKeys_grown hext.references hc.contains_references hinv.references
  rw [Cache.rollback]
  simp only [horigins, hmodels, hreferences]

end RouteDocs.Schema
