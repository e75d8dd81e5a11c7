/-
Caches over a symbol table: what an entry holds never depends on the calls that made it.

A cache is `Faithful` if every recorded class is held with the model that its fields alone give, and everything that
its fields refer to is recorded too. A walk keeps that of the classes that it has closed, and of the fields of the open
ones that it has dealt with (`Walk.Tracks`).

- `Moves.tracks`: a step of a walk keeps this.
- `Cache.Faithful.closure_eq`: the closure in a faithful cache is the breadth-first search that uses no cache.
-/
import RouteDocs.Proofs.Schema.ClassGraph
import RouteDocs.Proofs.Schema.Resolution

namespace RouteDocs.Schema

variable {table : SymbolTable} {aliases : Aliases}

namespace Cache

/-- a reference leads to a class that is recorded with its own module -/
def Covers (c : Cache) (table : SymbolTable) (ref package : String) : Prop :=
  ∃ d, table.lookup ref package = some d ∧ c.origins.get? d.name = some d.module

/-- a class has the model and the references that its fields alone give, and what they refer to is recorded -/
structure Holds (c : Cache) (table : SymbolTable) (aliases : Aliases) (d : Definition) : Prop where
  model : c.models.get? d.name = some (table.modelOf aliases d)
  references : c.references.get? d.name = some (classNames (table.mentions aliases d))
  covered : ∀ ref ∈ table.mentions aliases d, c.Covers table ref d.module

/-- every recorded class is a visible definition, held as its fields alone give it -/
def Faithful (c : Cache) (table : SymbolTable) (aliases : Aliases) : Prop :=
  ∀ id module, c.origins.get? id = some module →
    ∃ d, table.Visible d ∧ d.name = id ∧ d.module = module ∧ c.Holds table aliases d

/-- the classes recorded in one cache are recorded in another one, with the same modules -/
def Within (b c : Cache) : Prop := ∀ id module, b.origins.get? id = some module → c.origins.get? id = some module

theorem Within.refl (c : Cache) : c.Within c := fun _ _ h => h

theorem Within.trans {a b c : Cache} (h1 : a.Within b) (h2 : b.Within c) : a.Within c :=
  fun id module h => h2 id module (h1 id module h)

theorem Extends.within {b c : Cache} (h : b.Extends c) : b.Within c :=
  fun _ _ hid => OrderedMap.get?_of_prefix h.origins hid

theorem get?_start (c : Cache) (d : Definition) (id : String) :
    (c.start d).origins.get? id = if id = d.name then some d.module else c.origins.get? id :=
  OrderedMap.get?_insert _ _ _ _

theorem Within.start {b c : Cache} {d : Definition} (h : b.Within c) (hd : c.origins.get? d.name = some d.module) :
    (b.start d).Within c := by
  intro id module hid
  rw [get?_start] at hid
  split at hid
  · next he => rw [he, hd, hid]
  · exact h id module hid

theorem Covers.mono {b c : Cache} (h : b.Within c) {ref package : String} (hb : b.Covers table ref package) :
    c.Covers table ref package :=
  hb.imp fun _ hd => ⟨hd.1, h _ _ hd.2⟩

theorem Holds.mono {b c : Cache} (h : b.Extends c) {d : Definition} (hb : b.Holds table aliases d) :
    c.Holds table aliases d :=
  ⟨OrderedMap.get?_of_prefix h.models hb.model, OrderedMap.get?_of_prefix h.references hb.references,
    fun ref href => (hb.covered ref href).mono h.within⟩

theorem faithful_empty : empty.Faithful table aliases := by
  intro id module h
  cases h

/-- a visible definition that is recorded with its own module is held -/
theorem Faithful.holds {c : Cache} (hc : c.Faithful table aliases) {d : Definition} (hd : table.Visible d)
    (h : c.origins.get? d.name = some d.module) : c.Holds table aliases d := by
  obtain ⟨e, he, hname, hmodule, hholds⟩ := hc _ _ h
  obtain rfl := he.eq hd hname hmodule
  exact hholds

end Cache

/-! ## What a walk keeps -/

/-- the first fields of an open class, those in `done`, have been dealt with -/
structure Frame.Described (table : SymbolTable) (aliases : Aliases) (c : Cache) (f : Frame) (done : List Field) :
    Prop where
  split : f.fields = done ++ f.todo
  properties : f.properties = propertiesOf aliases done
  references : f.references = classNames (compositeRefs aliases done)
  covered : ∀ ref ∈ compositeRefs aliases done, c.Covers table ref f.definition.module

/-- an open class is a visible definition, described as far as its next field -/
structure Frame.Tracks (table : SymbolTable) (aliases : Aliases) (c : Cache) (f : Frame) : Prop where
  visible : table.Visible f.definition
  recorded : c.origins.get? f.definition.name = some f.definition.module
  fields : f.fields = (fieldsOf table f.definition).1
  described : ∃ done, f.Described table aliases c done

/-- a recorded class is held or open -/
structure Walk.Tracks (table : SymbolTable) (aliases : Aliases) (w : Walk SymbolTable) : Prop where
  sameTable : w.table = table
  entries : ∀ id module, w.cache.origins.get? id = some module →
    (∃ d, table.Visible d ∧ d.name = id ∧ d.module = module ∧ w.cache.Holds table aliases d) ∨
      ∃ f ∈ w.frames, f.definition.name = id
  frames : ∀ f ∈ w.frames, f.Tracks table aliases w.cache

namespace Frame

variable {b c : Cache} {f : Frame} {field : Field} {rest : List Field} {isArray : Bool}

theorem Tracks.mono (hf : f.Tracks table aliases b) (h : b.Extends c) : f.Tracks table aliases c := by
  obtain ⟨done, hdone⟩ := hf.described
  exact ⟨hf.visible, h.within _ _ hf.recorded, hf.fields,
    ⟨done, hdone.split, hdone.properties, hdone.references,
      fun ref href => (hdone.covered ref href).mono h.within⟩⟩

/-- the next field of an open class is one of the class -/
theorem Tracks.mem_mentions (hf : f.Tracks table aliases c) (todo : f.todo = field :: rest) {ref : String}
    (typed : field.typeIn aliases = .composite ref isArray) : ref ∈ table.mentions aliases f.definition := by
  obtain ⟨done, hdone⟩ := hf.described
  refine List.mem_filterMap.2 ⟨field, ?_, by rw [typed]; rfl⟩
  rw [← hf.fields, hdone.split, todo]
  exact List.mem_append_right _ List.mem_cons_self

theorem tracks_start {d : Definition} (hd : table.Visible d) (h : c.origins.get? d.name = some d.module) :
    (Frame.start d (fieldsOf table d).1).Tracks table aliases c :=
  ⟨hd, h, rfl, [], rfl, rfl, rfl, by simp [compositeRefs]⟩

theorem Tracks.describe (hf : f.Tracks table aliases c) (todo : f.todo = field :: rest) {type : WireType}
    (typed : field.typeIn aliases = .primitive type isArray) :
    (f.describe field.name (.ofPrimitive type isArray)).Tracks table aliases c := by
  obtain ⟨done, hdone⟩ := hf.described
  have hrefs : compositeRefs aliases (done ++ [field]) = compositeRefs aliases done := by
    rw [compositeRefs_concat, typed]
    exact List.append_nil _
  refine ⟨hf.visible, hf.recorded, hf.fields, done ++ [field], ?_, ?_, ?_, ?_⟩
  · rw [Frame.describe, hdone.split, todo, List.append_assoc]
    rfl
  · rw [propertiesOf_concat, typed, ← hdone.properties]
    rfl
  · rw [hrefs]
    exact hdone.references
  · rw [hrefs]
    exact hdone.covered

theorem Tracks.refer (hf : f.Tracks table aliases c) (todo : f.todo = field :: rest) {ref : String}
    (typed : field.typeIn aliases = .composite ref isArray) {d : Definition}
    (hd : table.lookup ref f.definition.module = some d) (hc : c.origins.get? d.name = some d.module) :
    (f.refer field.name d.name isArray).Tracks table aliases c := by
  obtain ⟨done, hdone⟩ := hf.described
  have hrefs : compositeRefs aliases (done ++ [field]) = compositeRefs aliases done ++ [ref] := by
    rw [compositeRefs_concat, typed]
    rfl
  have hname := SymbolTable.name_of_lookup hd
  refine ⟨hf.visible, hf.recorded, hf.fields, done ++ [field], ?_, ?_, ?_, ?_⟩
  · rw [Frame.refer, Frame.describe, hdone.split, todo, List.append_assoc]
    rfl
  · rw [propertiesOf_concat, typed, ← hdone.properties, FieldType.property, ← hname]
    rfl
  · rw [hrefs, classNames_concat, ← hdone.references, ← hname]
    rfl
  · intro ref' href'
    rw [hrefs] at href'
    rcases List.mem_append.1 href' with href' | href'
    · exact hdone.covered ref' href'
    · obtain rfl := List.mem_singleton.1 href'
      exact ⟨d, hd, hc⟩

/-- a class whose fields have all been dealt with is held once it is completed -/
theorem Tracks.holds (hf : f.Tracks table aliases c) (todo : f.todo = []) :
    (c.complete f.model f.references).Holds table aliases f.definition := by
  obtain ⟨done, hdone⟩ := hf.described
  obtain rfl : done = f.fields := by rw [hdone.split, todo, List.append_nil]
  have hmodel : f.model = table.modelOf aliases f.definition := by
    rw [Frame.model, SymbolTable.modelOf, hdone.properties, hf.fields]
  refine ⟨?_, ?_, fun ref href => ?_⟩
  · rw [hmodel, Cache.complete, OrderedMap.get?_insert, SymbolTable.id_modelOf, if_pos rfl]
  · rw [hmodel, Cache.complete, OrderedMap.get?_insert, SymbolTable.id_modelOf, if_pos rfl, hdone.references,
      hf.fields]
    rfl
  · rw [SymbolTable.mentions, ← hf.fields] at href
    exact hdone.covered ref href

end Frame

namespace Walk.Tracks

variable {c : Cache} {f g : Frame} {outer : List Frame}

/-- an open class may get further properties -/
theorem replace (before : List Frame) (h : (⟨before ++ f :: outer, c, table⟩ : Walk _).Tracks table aliases)
    (hg : g.Tracks table aliases c) (hname : g.definition.name = f.definition.name) :
    (⟨before ++ g :: outer, c, table⟩ : Walk _).Tracks table aliases :=
  ⟨rfl, fun id module hid => (h.entries id module hid).imp_right (Frame.exists_exchange hname),
    Frame.forall_exchange h.frames hg⟩

/-- a new visible class may be opened -/
theorem push {frames : List Frame} (h : (⟨frames, c, table⟩ : Walk _).Tracks table aliases) {d : Definition}
    (hd : table.Visible d) (new : c.origins.get? d.name = none) :
    (⟨.start d (fieldsOf table d).1 :: frames, c.start d, table⟩ : Walk _).Tracks table aliases := by
  have hext := Cache.extends_start new
  refine ⟨rfl, fun id module hid => ?_, fun o ho => ?_⟩
  · rw [Cache.get?_start] at hid
    split at hid
    · next he => exact Or.inr ⟨_, List.mem_cons_self, he.symm⟩
    · rcases h.entries id module hid with ⟨e, he, hname, hmodule, hholds⟩ | ⟨o, ho, hname⟩
      · exact Or.inl ⟨e, he, hname, hmodule, hholds.mono hext⟩
      · exact Or.inr ⟨o, List.mem_cons_of_mem _ ho, hname⟩
  · rcases List.mem_cons.1 ho with rfl | ho
    · exact Frame.tracks_start hd (by rw [Cache.get?_start, if_pos rfl])
    · exact (h.frames o ho).mono hext

/-- the innermost class may be completed when all its fields have been dealt with -/
theorem pop (h : (⟨f :: outer, c, table⟩ : Walk _).Tracks table aliases) (todo : f.todo = [])
    (hext : c.Extends (c.complete f.model f.references)) :
    (⟨outer, c.complete f.model f.references, table⟩ : Walk _).Tracks table aliases := by
  have hf := h.frames f List.mem_cons_self
  refine ⟨rfl, fun id module hid => ?_, fun o ho => (h.frames o (List.mem_cons_of_mem _ ho)).mono hext⟩
  rcases h.entries id module hid with ⟨d, hd, hname, hmodule, hholds⟩ | ⟨o, ho, rfl⟩
  · exact Or.inl ⟨d, hd, hname, hmodule, hholds.mono hext⟩
  · rcases List.mem_cons.1 ho with rfl | ho
    · have hmodule : o.definition.module = module := Option.some.inj (hf.recorded.symm.trans hid)
      exact Or.inl ⟨o.definition, hf.visible, rfl, hmodule, hf.holds todo⟩
    · exact Or.inr ⟨o, ho, rfl⟩

end Walk.Tracks

/-- **Steps keep track.** A step of a walk describes the next field, opens a visible definition, or completes a class
that is then held. -/
theorem Moves.tracks {w v : Walk SymbolTable} (h : Moves aliases w v) (hi : w.Inv) (ht : w.Tracks table aliases) :
    v.Tracks table aliases := by
  obtain rfl := ht.sameTable
  cases h with
  | close todo => exact ht.pop todo hi.extends_pop
  | @primitive f outer c table field rest type isArray todo typed =>
    exact ht.replace [] ((ht.frames f List.mem_cons_self).describe todo typed) rfl
  | @known f outer c table after field rest ref isArray d todo typed asked found =>
    obtain ⟨hlookup, rfl⟩ := Prod.mk.inj asked
    exact ht.replace [] ((ht.frames f List.mem_cons_self).refer todo typed hlookup found) rfl
  | @opened f outer c table after field rest ref isArray d todo typed asked new =>
    obtain ⟨hlookup, rfl⟩ := Prod.mk.inj asked
    have hpush := ht.push (SymbolTable.visible_of_lookup hlookup) new
    have hd := (hpush.frames _ List.mem_cons_self).recorded
    have hf := (hpush.frames f (List.mem_cons_of_mem _ List.mem_cons_self)).refer todo typed hlookup hd
    rw [SymbolTable.fieldsOf_table]
    exact hpush.replace [_] hf rfl

/-- the invariants of a walk over a symbol table -/
structure Walk.Faithful (table : SymbolTable) (aliases : Aliases) (w : Walk SymbolTable) : Prop where
  inv : w.Inv
  tracks : w.Tracks table aliases

theorem Moves.faithful {w v : Walk SymbolTable} (h : Moves aliases w v) (hw : w.Faithful table aliases) :
    v.Faithful table aliases :=
  ⟨h.inv hw.inv, h.tracks hw.inv hw.tracks⟩

/-- a failing step over a symbol table leaves the walk as it was -/
theorem Fails.same {w v : Walk SymbolTable} {e : ResolveError} (h : Fails aliases w e v) : v = w := by
  cases h with
  | unresolved todo typed asked => obtain ⟨-, rfl⟩ := Prod.mk.inj asked; rfl
  | collision todo typed asked found other => obtain ⟨-, rfl⟩ := Prod.mk.inj asked; rfl

theorem Walk.faithful_run {w : Walk SymbolTable} (h : w.Faithful table aliases) :
    (w.run aliases).2.Faithful table aliases :=
  run_invariant (fun _ _ hm hw => hm.faithful hw) (fun _ _ _ hf hw => hf.same ▸ hw) w h

/-- when no class is open, the cache is faithful -/
theorem Walk.Tracks.faithful {w : Walk SymbolTable} (h : w.Tracks table aliases) (hframes : w.frames = []) :
    w.cache.Faithful table aliases := by
  intro id module hid
  refine (h.entries id module hid).resolve_right ?_
  rintro ⟨f, hf, -⟩
  rw [hframes] at hf
  cases hf

theorem Cache.Faithful.tracks {c : Cache} (hc : c.Faithful table aliases) :
    (⟨[], c, table⟩ : Walk _).Tracks table aliases :=
  ⟨rfl, fun id module hid => Or.inl (hc id module hid), by simp⟩

/-- whatever is recorded during a walk is a visible definition -/
theorem Walk.Tracks.visible {w : Walk SymbolTable} (h : w.Tracks table aliases) {id module : String}
    (hid : w.cache.origins.get? id = some module) : ∃ d, table.Visible d ∧ d.name = id ∧ d.module = module := by
  rcases h.entries id module hid with ⟨d, hd, hname, hmodule, -⟩ | ⟨f, hf, rfl⟩
  · exact ⟨d, hd, hname, hmodule⟩
  · have hrecorded := (h.frames f hf).recorded
    exact ⟨f.definition, (h.frames f hf).visible, rfl, Option.some.inj (hrecorded.symm.trans hid)⟩

/-- a second class of a name has been met only if there are two -/
theorem Walk.Tracks.clashes {w : Walk SymbolTable} (h : w.Tracks table aliases) {ref package : String}
    {d : Definition} {module : String} (hlookup : table.lookup ref package = some d)
    (found : w.cache.origins.get? d.name = some module) (other : module ≠ d.module) : table.Clashes d.name := by
  obtain ⟨e, he, hname, rfl⟩ := h.visible found
  exact ⟨e, he.mem, d, (SymbolTable.visible_of_lookup hlookup).mem, hname, rfl, other⟩

theorem Walk.clashes_of_run {w : Walk SymbolTable} (h : w.Faithful table aliases) {id : String}
    (hrun : (w.run aliases).1 = some (.collision id)) : table.Clashes id := by
  fun_induction run aliases w with
  | case1 w hs => cases hrun
  | case2 w e v hs =>
    obtain rfl := Option.some.inj hrun
    cases fails_of_step hs with
    | @collision f outer c t after field rest ref isArray d module todo typed asked found other =>
      obtain rfl := h.tracks.sameTable
      exact h.tracks.clashes (Prod.mk.inj asked).1 found other
  | case3 w v hs ih => exact ih ((moves_of_step hs).faithful h) hrun

/-! ## Closures -/

namespace Cache

/-- a visible definition that is recorded with its own module -/
structure Records (c : Cache) (table : SymbolTable) (d : Definition) : Prop where
  visible : table.Visible d
  recorded : c.origins.get? d.name = some d.module

/-- one class of a name is recorded -/
theorem Records.eq {c : Cache} {d e : Definition} (hd : c.Records table d) (he : c.Records table e)
    (hn : d.name = e.name) : d = e := by
  refine hd.visible.eq he.visible hn (Option.some.inj (hd.recorded.symm.trans ?_))
  rw [hn, he.recorded]

/-- what the fields of a class refer to is found, under the names that the references give -/
theorem Holds.successors {c : Cache} {d : Definition} (h : c.Holds table aliases d) :
    (table.successors aliases d).map Definition.name
        = (table.mentions aliases d).map (fun ref => (Reference.ofText ref).name) ∧
      ∀ e ∈ table.successors aliases d, c.Records table e := by
  have hall (refs : List String) (href : ∀ ref ∈ refs, c.Covers table ref d.module) :
      (refs.filterMap (table.lookup · d.module)).map Definition.name
          = refs.map (fun ref => (Reference.ofText ref).name) ∧
        ∀ e ∈ refs.filterMap (table.lookup · d.module), c.Records table e := by
    induction refs with
    | nil => simp
    | cons ref rest ih =>
      obtain ⟨hnames, hrecords⟩ := ih fun ref href' => href ref (List.mem_cons_of_mem _ href')
      obtain ⟨e, he, hrecorded⟩ := href ref List.mem_cons_self
      rw [List.filterMap_cons, he]
      refine ⟨?_, fun k hk => ?_⟩
      · rw [List.map_cons, List.map_cons, hnames, SymbolTable.name_of_lookup he]
      · rcases List.mem_cons.1 hk with rfl | hk
        · exact ⟨SymbolTable.visible_of_lookup he, hrecorded⟩
        · exact hrecords k hk
  exact hall _ h.covered

/-- the names of distinct recorded classes are distinct -/
theorem map_name_addNew {c : Cache} (ds acc : List Definition) (hds : ∀ d ∈ ds, c.Records table d)
    (hacc : ∀ d ∈ acc, c.Records table d) :
    (ds.foldl SymbolTable.addNew acc).map Definition.name
        = (ds.map Definition.name).foldl addReference (acc.map Definition.name) ∧
      ∀ d ∈ ds.foldl SymbolTable.addNew acc, c.Records table d := by
  induction ds generalizing acc with
  | nil => exact ⟨rfl, hacc⟩
  | cons d rest ih =>
    have hd := hds d List.mem_cons_self
    have hstep : (SymbolTable.addNew acc d).map Definition.name = addReference (acc.map Definition.name) d.name := by
      have hmem : d.name ∈ acc.map Definition.name ↔ d ∈ acc := by
        refine ⟨fun h => ?_, List.mem_map_of_mem⟩
        obtain ⟨e, he, hname⟩ := List.mem_map.1 h
        exact (hacc e he).eq hd hname ▸ he
      by_cases h : d ∈ acc
      · rw [SymbolTable.addNew, if_pos h, addReference, if_pos (hmem.2 h)]
      · rw [SymbolTable.addNew, if_neg h, addReference, if_neg (mt hmem.1 h), List.map_append]
        rfl
    have hnew : ∀ e ∈ SymbolTable.addNew acc d, c.Records table e := by
      intro e he
      rw [SymbolTable.addNew] at he
      split at he
      · exact hacc e he
      · rcases List.mem_append.1 he with he | he
        · exact hacc e he
        · exact List.mem_singleton.1 he ▸ hd
    have := ih (SymbolTable.addNew acc d) (fun e he => hds e (List.mem_cons_of_mem _ he)) hnew
    rwa [hstep] at this

variable {c : Cache}

/-- a search over the names in a faithful cache lists the names of a search over the classes -/
theorem Faithful.reach_eq (hc : c.Faithful table aliases) (queue listed : List Definition)
    (hqueue : ∀ d ∈ queue, c.Records table d) (hlisted : ∀ d ∈ listed, c.Records table d) :
    c.reach (queue.map Definition.name) (listed.map Definition.name)
        = .ok ((table.breadthFirst aliases queue listed).map Definition.name) ∧
      ∀ d ∈ table.breadthFirst aliases queue listed, c.Records table d := by
  generalize hpending : queue.map Definition.name = pending
  generalize horder : listed.map Definition.name = order
  fun_induction reach c pending order generalizing queue listed with
  | case1 order =>
    obtain rfl := List.map_eq_nil_iff.1 hpending
    rw [SymbolTable.breadthFirst, horder]
    exact ⟨rfl, hlisted⟩
  | case2 id pending order hin ih =>
    obtain ⟨d, queue, rfl, rfl, rfl⟩ := List.map_eq_cons_iff.1 hpending
    have hd := hqueue d List.mem_cons_self
    have hl : d ∈ listed := by
      rw [← horder] at hin
      obtain ⟨e, he, hname⟩ := List.mem_map.1 hin
      exact (hlisted e he).eq hd hname ▸ he
    rw [SymbolTable.breadthFirst_old fun h => h.2 hl]
    exact ih queue listed (fun e he => hqueue e (List.mem_cons_of_mem _ he)) hlisted rfl horder
  | case3 id pending order hnot hnone =>
    obtain ⟨d, queue, rfl, rfl, rfl⟩ := List.map_eq_cons_iff.1 hpending
    have hd := hqueue d List.mem_cons_self
    rw [(hc.holds hd.visible hd.recorded).references] at hnone
    cases hnone
  | case4 id pending order hnot refs hrefs ih =>
    obtain ⟨d, queue, rfl, rfl, rfl⟩ := List.map_eq_cons_iff.1 hpending
    have hd := hqueue d List.mem_cons_self
    have hholds := hc.holds hd.visible hd.recorded
    obtain ⟨hnames, hsuccessors⟩ := hholds.successors
    obtain ⟨hdistinct, hrecords⟩ := map_name_addNew _ [] hsuccessors (by simp)
    have hl : d ∉ listed := fun h => hnot (horder ▸ List.mem_map_of_mem h)
    have hrefs' : refs = ((table.successors aliases d).foldl SymbolTable.addNew []).map Definition.name := by
      rw [hdistinct, hnames]
      exact Option.some.inj (hrefs.symm.trans hholds.references)
    have := ih (queue ++ (table.successors aliases d).foldl SymbolTable.addNew []) (listed ++ [d])
      (fun e he => (List.mem_append.1 he).elim (fun he => hqueue e (List.mem_cons_of_mem _ he)) (hrecords e))
      (fun e he => (List.mem_append.1 he).elim (hlisted e) fun he => List.mem_singleton.1 he ▸ hd)
      (by rw [List.map_append, hrefs']) (by rw [List.map_append, horder]; rfl)
    rwa [SymbolTable.breadthFirst_distinct, ← SymbolTable.breadthFirst_new hd.visible.mem hl] at this

/-- the models of recorded classes are those that their fields give -/
theorem Faithful.mapM_model (hc : c.Faithful table aliases) (ds : List Definition)
    (hds : ∀ d ∈ ds, c.Records table d) :
    (ds.map Definition.name).mapM c.model = .ok (ds.map (table.modelOf aliases)) := by
  induction ds with
  | nil => rfl
  | cons d rest ih =>
    have hd := hds d List.mem_cons_self
    have hmodel : c.model d.name = .ok (table.modelOf aliases d) := by
      rw [model, (hc.holds hd.visible hd.recorded).model]
    rw [List.map_cons, List.mapM_cons, hmodel, ih fun e he => hds e (List.mem_cons_of_mem _ he)]
    rfl

/-- **Closures need no cache.** In a faithful cache the closure of a class is the breadth-first search over the classes,
each turned into a model by its fields alone. -/
theorem Faithful.closure_eq (hc : c.Faithful table aliases) {d : Definition} (hd : c.Records table d) :
    c.closure d.name = .ok ((table.breadthFirst aliases [d] []).map (table.modelOf aliases)) := by
  obtain ⟨hreach, hrecords⟩ := hc.reach_eq [d] [] (by simpa using hd) (by simp)
  have hreach' : c.reach [d.name] [] = .ok ((table.breadthFirst aliases [d] []).map Definition.name) := hreach
  rw [closure, hreach']
  exact hc.mapM_model _ hrecords

end Cache

end RouteDocs.Schema
