/-
Which class a field comes from, and which one it would come from in the C3 linearization.

The fields of a class are put in along the depth-first post-order, and what is put in later wins; so a field comes from
the class that is the first to declare it in the reverse of that order. This and the C3 linearization are both orders in
which the class can be resolved (`SymbolTable.ResolutionOrder`). They give the same class as long as one of the classes
that declare the field inherits all the others, and may differ where none does: the linearization prefers the first of
unrelated bases, and the collected fields have that of the last.

- `ResolutionOrder.declarer?_eq_some_iff`: the first class that declares a field, by the order alone.
- `ResolutionOrder.declarer?_of_inherits`: it is the one that inherits all the others, in every such order.
- `SymbolTable.provides_of_declarer?`: the collected field is that of the first class in the reverse of the post-order.
- `Visits.knownBases_last`: the last base is left last, unless another base inherits it.
- `Visits.declarer?_last`, `Linearizes.declarer?_ne`: it is then the first that declares a field in the reverse of the
  post-order, and not in the linearization if another base declares the field too.
- `SymbolTable.declarer_of_linearization`: both classes, and when they are the same.
- `SymbolTable.last_base_wins`: two unrelated bases for which they differ.
-/
import RouteDocs.Proofs.Schema.Linearization

namespace RouteDocs.Schema

open Relation

/-! ## Declarations -/

def Definition.Declares (b : Definition) (name : String) : Prop := ∃ f ∈ b.fields, f.name = name

/-- the field of a name that a class declares; of several the last -/
def Definition.declared? (b : Definition) (name : String) : Option Field := b.fields.reverse.find? (·.name = name)

/-- the first class of an order that declares a field of the name -/
def declarer? (name : String) (order : List Definition) : Option Definition :=
  order.find? fun b => (b.declared? name).isSome

variable {table : SymbolTable} {aliases : Aliases} {d p b : Definition} {name : String} {f : Field}
  {order : List Definition}

theorem Definition.isSome_declared? : (b.declared? name).isSome = true ↔ b.Declares name := by
  rw [declared?, List.find?_isSome]
  simp [Declares]

theorem declarer?_eq_some : declarer? name order = some p ↔
    p.Declares name ∧ ∃ before later, order = before ++ p :: later ∧ ∀ b ∈ before, ¬ b.Declares name := by
  rw [declarer?, List.find?_eq_some_iff_append]
  simp [← Definition.isSome_declared?]

/-- where a declared field stands in its class -/
theorem Definition.declared?_eq_some (h : b.declared? name = some f) :
    f.name = name ∧ ∃ before later, b.fields = before ++ f :: later ∧ ∀ g ∈ later, g.name ≠ name := by
  obtain ⟨hname, later, before, hsplit, hlater⟩ := List.find?_eq_some_iff_append.1 h
  refine ⟨by simpa using hname, before.reverse, later.reverse, ?_, fun g hg => ?_⟩
  · have hfields := congrArg List.reverse hsplit
    rw [List.reverse_reverse] at hfields
    rw [hfields]
    simp
  · simpa using hlater g (List.mem_reverse.1 hg)

/-! ## The first class that declares a field -/

/-- of two entries of a list without repetitions one comes before the other, and not the other way round -/
theorem pair_asymm {α : Type} {l : List α} {a b : α} (hl : l.Nodup) (hab : [a, b].Sublist l) :
    ¬ [b, a].Sublist l := by
  intro hba
  induction l with
  | nil => cases hab
  | cons c l ih =>
    obtain ⟨hc, hl⟩ := List.nodup_cons.1 hl
    cases hab with
    | cons _ hab =>
      cases hba with
      | cons _ hba => exact ih hl hab hba
      | cons_cons _ _ => exact hc (hab.subset (by simp))
    | cons_cons _ hb =>
      cases hba with
      | cons _ hba => exact hc (hba.subset (by simp))
      | cons_cons _ ha => exact hc (List.singleton_sublist.1 ha)

namespace SymbolTable

namespace ResolutionOrder

/-- The first class that declares a field is the one that comes before all others that do. -/
theorem declarer?_eq_some_iff (h : table.ResolutionOrder d order) : declarer? name order = some p ↔
    table.Descends d p ∧ p.Declares name ∧
      ∀ b, table.Descends d b → b.Declares name → b ≠ p → [p, b].Sublist order := by
  rw [declarer?_eq_some]
  constructor
  · rintro ⟨hp, before, later, rfl, hbefore⟩
    refine ⟨(h.mem p).1 (by simp), hp, fun b hb hdeclares hne => ?_⟩
    rcases List.mem_append.1 ((h.mem b).2 hb) with hmem | hmem
    · exact absurd hdeclares (hbefore b hmem)
    · have hlater : b ∈ later := (List.mem_cons.1 hmem).resolve_left hne
      exact ((List.singleton_sublist.2 hlater).cons_cons p).trans (List.sublist_append_right _ _)
  · rintro ⟨hp, hdeclares, hfirst⟩
    obtain ⟨before, later, rfl⟩ := List.append_of_mem ((h.mem p).2 hp)
    refine ⟨hdeclares, before, later, rfl, fun b hb hdeclares' => ?_⟩
    have hbp : [b, p].Sublist (before ++ p :: later) :=
      (List.singleton_sublist.2 hb).append (List.singleton_sublist.2 List.mem_cons_self)
    have hne : b ≠ p := by
      rintro rfl
      exact List.disjoint_of_nodup_append h.nodup hb List.mem_cons_self
    exact pair_asymm h.nodup hbp (hfirst b ((h.mem b).1 (by simp [hb])) hdeclares' hne)

theorem exists_declarer (h : table.ResolutionOrder d order) (hb : table.Descends d b) (hdeclares : b.Declares name) :
    ∃ p, declarer? name order = some p := by
  refine Option.isSome_iff_exists.1 ?_
  rw [declarer?, List.find?_isSome]
  exact ⟨b, (h.mem b).2 hb, Definition.isSome_declared?.2 hdeclares⟩

/-- A class that inherits all others that declare a field is the first to declare it, in every order. -/
theorem declarer?_of_inherits (h : table.ResolutionOrder d order) (hb : table.Descends d b)
    (hdeclares : b.Declares name)
    (hinherits : ∀ c, table.Descends d c → c.Declares name → c = b ∨ table.Inherits b c) :
    declarer? name order = some b := by
  refine h.declarer?_eq_some_iff.2 ⟨hb, hdeclares, fun c hc hc' hne => ?_⟩
  exact h.before b ((h.mem b).2 hb) c ((hinherits c hc hc').resolve_left hne)

end ResolutionOrder

/-! ## The collected field -/

/-- What is collected under a name is declared by the first class in the reverse of the post-order. -/
theorem provides_of_declarer? (hlineage : table.lineage d = order ++ [d])
    (h : declarer? name (d :: order.reverse) = some p) :
    ∃ f, p.declared? name = some f ∧ f.name = name ∧ table.Provides d p f := by
  obtain ⟨hdeclares, later, before, hsplit, hlater⟩ := declarer?_eq_some.1 h
  obtain ⟨f, hf⟩ := Option.isSome_iff_exists.1 (Definition.isSome_declared?.2 hdeclares)
  obtain ⟨hname, front, back, hfields, hback⟩ := Definition.declared?_eq_some hf
  have hclasses : table.lineage d = before.reverse ++ p :: later.reverse := by
    have hreverse := congrArg List.reverse hsplit
    rw [hlineage]
    simpa using hreverse
  refine ⟨f, hf, hname, before.reverse.flatMap (fun c => c.fields.map (c, ·)) ++ front.map (p, ·),
    back.map (p, ·) ++ later.reverse.flatMap (fun c => c.fields.map (c, ·)), ?_, fun e he => ?_⟩
  · rw [contributions, hclasses, List.flatMap_append, List.flatMap_cons, hfields]
    simp
  · rw [hname]
    rcases List.mem_append.1 he with he | he
    · obtain ⟨g, hg, rfl⟩ := List.mem_map.1 he
      exact hback g hg
    · obtain ⟨c, hc, hfield⟩ := List.mem_flatMap.1 he
      obtain ⟨g, hg, rfl⟩ := List.mem_map.1 hfield
      exact fun hgname => hlater c (List.mem_reverse.1 hc) ⟨g, hg, hgname⟩

/-- what a class declares, and does not declare again later, is not overridden in it -/
theorem provides_own {before after : List Field} (hfields : d.fields = before ++ f :: after)
    (hafter : ∀ g ∈ after, g.name ≠ f.name) : table.Provides d d f := by
  obtain ⟨order, -, -, hlineage⟩ := table.visits_lineage d
  refine ⟨order.flatMap (fun c => c.fields.map (c, ·)) ++ before.map (d, ·), after.map (d, ·), ?_,
    fun e he => ?_⟩
  · rw [contributions, hlineage, List.flatMap_append, List.flatMap_singleton, hfields]
    simp
  · obtain ⟨g, hg, rfl⟩ := List.mem_map.1 he
    exact hafter g hg

/-- a collected field is required in the model of the class if it is in the class that declares it -/
theorem required_modelOf (h : f ∈ (fieldsOf table d).1) :
    f.name ∈ (table.modelOf aliases d).required ↔ f.required = true := by
  rw [modelOf, List.mem_map]
  constructor
  · rintro ⟨g, hg, hname⟩
    obtain ⟨hg, hrequired⟩ := List.mem_filter.1 hg
    rw [← List.inj_on_of_nodup_map (nodup_names_fieldsOf table d) hg h hname]
    exact hrequired
  · exact fun hrequired => ⟨f, List.mem_filter.2 ⟨h, hrequired⟩, rfl⟩

/-- what has been listed is not listed again -/
theorem breadthFirst_extends (table : SymbolTable) (aliases : Aliases) (queue listed : List Definition) :
    listed <+: table.breadthFirst aliases queue listed := by
  fun_induction breadthFirst table aliases queue listed with
  | case1 listed => exact List.prefix_refl listed
  | case2 e queue listed hnew ih => exact (List.prefix_append listed [e]).trans ih
  | case3 e queue listed hold ih => exact ih

end SymbolTable

/-- the first model of an answer is that of the class which the reference means -/
theorem Resolver.Faithful.answer_head {r : Resolver} (h : r.Faithful table aliases) {ref package : String}
    (hclass : table.lookup ref package = some d) (hprim : Schema.primitiveName? aliases ref = none) {ms : List Model}
    (hresolved : (r.resolve ref package).answer = .ok ms) : ms.head? = some (table.modelOf aliases d) := by
  have hmodels := h.answer_eq hresolved
  have hd : d ∈ table.definitions := (SymbolTable.mem_of_lookup hclass).1
  have hcomposite : ¬ (Schema.primitiveName? aliases ref).isSome = true := by rw [hprim]; simp
  rw [SymbolTable.reachedModels, if_neg hcomposite, hclass, Option.map_some,
    SymbolTable.breadthFirst_new hd List.not_mem_nil] at hmodels
  obtain ⟨others, hothers⟩ := table.breadthFirst_extends aliases ([] ++ table.successors aliases d) [d]
  rw [List.nil_append] at hmodels hothers
  rw [← Option.some.inj hmodels, List.nil_append, ← hothers]
  rfl

/-- A class has a field: it is collected, and whenever a reference to the class is resolved, the first model has the
property and the requiredness that the declaration gives. -/
def SymbolTable.Shows (table : SymbolTable) (d : Definition) (f : Field) : Prop :=
  f ∈ (fieldsOf table d).1 ∧
    ∀ (aliases : Aliases) (calls : List (String × String)) (ref package : String) (ms : List Model),
      table.lookup ref package = some d → Schema.primitiveName? aliases ref = none →
      (((Resolver.new table aliases).after calls).resolve ref package).answer = .ok ms →
      ∃ m, ms.head? = some m ∧ m.id = d.name ∧ m.properties.get? f.name = some (f.typeIn aliases).property ∧
        (f.name ∈ m.required ↔ f.required = true)

namespace SymbolTable

theorem Provides.shows (h : table.Provides d p f) : table.Shows d f := by
  have hf : f ∈ (fieldsOf table d).1 := mem_fieldsOf.2 ⟨p, h⟩
  refine ⟨hf, fun aliases calls ref package ms hclass hprim hresolved => ?_⟩
  have hhead := ((Resolver.faithful_new table aliases).after calls).answer_head hclass hprim hresolved
  exact ⟨_, hhead, rfl, property_modelOf hf, required_modelOf hf⟩

/-! ## The last base -/

/-- The last base of a class is left last, unless one of the others inherits it. -/
theorem Visits.knownBases_last {after : List String} (h : table.Visits d.module d.bases [d.fullName] order after)
    (hd : table.Found d) (hacyclic : ¬ table.Inherits d d) {front : List Definition}
    (hbases : table.knownBases d = front ++ [b]) (hfront : ∀ a ∈ front, ¬ table.Descends a b) :
    ∃ earlier, order = earlier ++ [b] := by
  have hb : table.IsBase d b := mem_knownBases.1 (by simp [hbases])
  obtain ⟨first, others, hsplit, rfl, hlast⟩ := List.filterMap_eq_append_iff.1 hbases
  obtain ⟨unknown, expr, later, rfl, hunknown, hexpr, hlater⟩ := List.filterMap_eq_cons_iff.1 hlast
  have hnone : ∀ base ∈ later, table.base? d.module base = none := List.filterMap_eq_nil_iff.1 hlater
  rw [hsplit, ← List.append_assoc] at h
  obtain ⟨left, middle, right, hleft, hright, rfl⟩ := h.split
  -- the visits before the last base do not leave it
  have hnew : b.fullName ∉ middle := by
    intro hseen
    rcases (hleft.mem_after _).1 hseen with hself | ⟨x, hx, hname⟩
    · obtain rfl := hb.found.eq hd (List.mem_singleton.1 hself)
      exact hacyclic (.single hb)
    · obtain rfl := (hleft.found x hx).eq hb.found hname
      obtain ⟨base, hbase, a, means, hdescends⟩ := hleft.sound x hx
      rcases List.mem_append.1 hbase with hbase | hbase
      · exact hfront a (List.mem_filterMap.2 ⟨base, hbase, means⟩) hdescends
      · rw [hunknown base hbase] at means
        cases means
  cases hright with
  | unknown means rest => cases means.symm.trans hexpr
  | again means old rest =>
    cases means.symm.trans hexpr
    exact absurd old hnew
  | @enter _ _ _ _ _ _ inner others b' means new inside rest =>
    obtain rfl := Option.some.inj (means.symm.trans hexpr)
    have hothers : others = [] := by
      refine List.eq_nil_iff_forall_not_mem.2 fun x hx => ?_
      obtain ⟨base, hbase, c, hc, -⟩ := rest.sound x hx
      rw [hnone base hbase] at hc
      cases hc
    exact ⟨left ++ inner, by simp [hothers]⟩

/-- It is then the first class in the reverse of the post-order that declares a field, if the class itself does not. -/
theorem Visits.declarer?_last {after : List String} (h : table.Visits d.module d.bases [d.fullName] order after)
    (hd : table.Found d) (hacyclic : ¬ table.Inherits d d) {front : List Definition}
    (hbases : table.knownBases d = front ++ [b]) (hfront : ∀ a ∈ front, ¬ table.Descends a b)
    (hnot : ¬ d.Declares name) (hdeclares : b.Declares name) : declarer? name (d :: order.reverse) = some b := by
  obtain ⟨earlier, horder⟩ := h.knownBases_last hd hacyclic hbases hfront
  refine declarer?_eq_some.2 ⟨hdeclares, [d], earlier.reverse, by simp [horder], ?_⟩
  exact List.forall_mem_singleton.2 hnot

/-- In the linearization it is not the first one, if one of the bases before it declares the field. -/
theorem Linearizes.declarer?_ne (h : table.Linearizes d order) {front : List Definition}
    (hbases : table.knownBases d = front ++ [b]) {a : Definition} (ha : a ∈ front) (hne : a ≠ b)
    (hdeclares : a.Declares name) : declarer? name order ≠ some b := by
  intro hb
  have had : table.Descends d a := .single (mem_knownBases.1 (by simp [hbases, ha]))
  have hfirst : [b, a].Sublist order := (h.resolution.declarer?_eq_some_iff.1 hb).2.2 a had hdeclares hne
  -- the bases come in their order in the linearization
  have hpair : [a, b].Sublist (table.knownBases d) := by
    rw [hbases]
    exact (List.singleton_sublist.2 ha).append (List.Sublist.refl [b])
  exact pair_asymm h.nodup hfirst (hpair.trans h.knownBases_sublist)

/-! ## Both orders -/

/-- **Overriding and the C3 linearization.** Let a class have a C3 linearization, and let some class of its hierarchy
declare a field. What is collected under that name is what the first class in the reverse of the depth-first
post-order declares that declares the field at all, and so are its property and its requiredness. That class is also
the first one in the linearization exactly if it comes first among the declaring classes in both; so it is whenever
one of them inherits all the others. Of several bases that do not inherit the last one it is the last, if that
declares the field and the class itself does not; if another of them declares the field too, it is not the first one
in the linearization. -/
theorem declarer_of_linearization {linear : List Definition} (hd : table.Found d)
    (hlinear : table.Linearizes d linear) (hname : ∃ b, table.Descends d b ∧ b.Declares name) :
    ∃ order after p q f, table.Visits d.module d.bases [d.fullName] order after ∧
      declarer? name (d :: order.reverse) = some p ∧ p.declared? name = some f ∧ f.name = name ∧
      table.Shows d f ∧
      declarer? name linear = some q ∧
      (p = q ↔ ∀ b, table.Descends d b → b.Declares name → b ≠ q → [q, b].Sublist (d :: order.reverse)) ∧
      (∀ b, table.Descends d b → b.Declares name →
        (∀ c, table.Descends d c → c.Declares name → c = b ∨ table.Inherits b c) → p = b ∧ q = b) ∧
      ∀ front b, table.knownBases d = front ++ [b] → (∀ a ∈ front, ¬ table.Descends a b) →
        ¬ d.Declares name → b.Declares name → p = b ∧ ((∃ a ∈ front, a.Declares name) → q ≠ b) := by
  obtain ⟨order, after, hvisits, hlineage⟩ := table.visits_lineage d
  obtain ⟨b, hb, hdeclares⟩ := hname
  have hacyclic := hlinear.acyclic
  have hpost := hvisits.resolution hd hacyclic
  have hc3 := hlinear.resolution
  obtain ⟨p, hp⟩ := hpost.exists_declarer hb hdeclares
  obtain ⟨q, hq⟩ := hc3.exists_declarer hb hdeclares
  obtain ⟨f, hf, hfield, hprovides⟩ := provides_of_declarer? hlineage hp
  refine ⟨order, after, p, q, f, hvisits, hp, hf, hfield, hprovides.shows, hq, ⟨?_, ?_⟩, ?_, ?_⟩
  · rintro rfl
    exact (hpost.declarer?_eq_some_iff.1 hp).2.2
  · intro hfirst
    obtain ⟨hqd, hqdeclares, -⟩ := hc3.declarer?_eq_some_iff.1 hq
    have hq' := hpost.declarer?_eq_some_iff.2 ⟨hqd, hqdeclares, hfirst⟩
    exact Option.some.inj (hp.symm.trans hq')
  · intro b hb hdeclares hinherits
    have hpost' := hpost.declarer?_of_inherits hb hdeclares hinherits
    have hc3' := hc3.declarer?_of_inherits hb hdeclares hinherits
    exact ⟨Option.some.inj (hp.symm.trans hpost'), Option.some.inj (hq.symm.trans hc3')⟩
  · intro front b hbases hfront hnot hdeclares
    have hlast := hvisits.declarer?_last hd (hacyclic d .refl) hbases hfront hnot hdeclares
    refine ⟨Option.some.inj (hp.symm.trans hlast), ?_⟩
    rintro ⟨a, ha, hadeclares⟩ rfl
    have hne : a ≠ q := by
      rintro rfl
      exact hfront a ha .refl
    exact hlinear.declarer?_ne hbases ha hne hadeclares hq

/-- a class without known bases is linearized by itself -/
theorem linearizes_root (h : table.knownBases d = []) : table.Linearizes d [d] := by
  refine .intro (fun _ => []) ?_ ?_
  · rw [h]
    exact List.forall_mem_nil _
  · rw [h]
    exact .done (List.forall_mem_singleton.2 rfl)

/-- the linearization of the visits -/
theorem linearizes_visit :
    visitClasses.Linearizes visitClass [visitClass, namedClass, datedClass, recordClass] := by
  have hrecord : visitClasses.Linearizes recordClass [recordClass] := linearizes_root (by decide +kernel)
  have hsingle (c : Definition) (h : visitClasses.knownBases c = [recordClass]) :
      visitClasses.Linearizes c [c, recordClass] := by
    refine .intro (fun _ => [recordClass]) ?_ ?_
    · rw [h]
      exact List.forall_mem_singleton.2 hrecord
    · rw [h]
      exact .take (by decide +kernel) (.done (by decide +kernel))
  have hbases : visitClasses.knownBases visitClass = [namedClass, datedClass] := by decide +kernel
  refine .intro (fun b => [b, recordClass]) ?_ ?_
  · rw [hbases]
    have hnamed := hsingle namedClass (by decide +kernel)
    have hdated := hsingle datedClass (by decide +kernel)
    exact List.forall_mem_cons.2 ⟨hnamed, List.forall_mem_singleton.2 hdated⟩
  · rw [hbases]
    exact .take (by decide +kernel) (.take (by decide +kernel) (.take (by decide +kernel) (.done (by decide +kernel))))

/-- The note of a visit is that of the named class, which inherits the only other class that declares one. -/
theorem declarer_of_linearization_visit :
    visitClasses.Found visitClass ∧
      visitClasses.Linearizes visitClass [visitClass, namedClass, datedClass, recordClass] ∧
      (∃ b, visitClasses.Descends visitClass b ∧ b.Declares "note") ∧
      ∃ order after, visitClasses.Visits visitClass.module visitClass.bases [visitClass.fullName] order after ∧
        declarer? "note" (visitClass :: order.reverse) = some namedClass ∧
        declarer? "note" [visitClass, namedClass, datedClass, recordClass] = some namedClass ∧
        visitClasses.Shows visitClass ⟨"note", "str", true⟩ := by
  have hfound : visitClasses.Found visitClass := ⟨"Visit", "app.visits", by decide +kernel⟩
  have hlinear := linearizes_visit
  have hnamed : visitClasses.Descends visitClass namedClass := (hlinear.mem_iff _).1 (by decide +kernel)
  have hrecord : visitClasses.Inherits namedClass recordClass := .single (mem_knownBases.1 (by decide +kernel))
  have hdeclares : namedClass.Declares "note" := ⟨⟨"note", "str", true⟩, by decide +kernel, rfl⟩
  have hothers : ∀ c, visitClasses.Descends visitClass c → c.Declares "note" →
      c = namedClass ∨ visitClasses.Inherits namedClass c := by
    intro c hc hnote
    have hall : ∀ c ∈ [visitClass, namedClass, datedClass, recordClass], (c.declared? "note").isSome = true →
        c = namedClass ∨ c = recordClass := by
      decide +kernel
    rcases hall c ((hlinear.mem_iff c).2 hc) (Definition.isSome_declared?.2 hnote) with rfl | rfl
    · exact Or.inl rfl
    · exact Or.inr hrecord
  obtain ⟨order, after, p, q, f, hvisits, hp, hf, -, hshows, hq, -, hinherits, -⟩ :=
    declarer_of_linearization hfound hlinear ⟨namedClass, hnamed, hdeclares⟩
  obtain ⟨rfl, rfl⟩ := hinherits namedClass hnamed hdeclares hothers
  have hnote : namedClass.declared? "note" = some ⟨"note", "str", true⟩ := by decide +kernel
  obtain rfl := Option.some.inj (hf.symm.trans hnote)
  exact ⟨hfound, hlinear, ⟨namedClass, hnamed, hdeclares⟩, order, after, hvisits, hp, hq, hshows⟩

def leftClass : Definition := ⟨"Left", "app.models", [], [⟨"x", "int", true⟩]⟩

/-- another class, which has nothing to do with that one -/
def rightClass : Definition := ⟨"Right", "app.models", [], [⟨"x", "str", false⟩]⟩

/-- a class that has both, and declares nothing -/
def bothClass : Definition := ⟨"Both", "app.models", ["Left", "Right"], []⟩

/-- Two unrelated bases declare a field of the same name. -/
def pairClasses : SymbolTable := ⟨[leftClass, rightClass, bothClass]⟩

/-- **The last base wins.** In the linearization the first base is the first that declares the field; what is collected,
and is in the model of the class, is the field of the second. -/
theorem last_base_wins :
    pairClasses.Linearizes bothClass [bothClass, leftClass, rightClass] ∧
      declarer? "x" [bothClass, leftClass, rightClass] = some leftClass ∧
      leftClass.declared? "x" = some ⟨"x", "int", true⟩ ∧
      (fieldsOf pairClasses bothClass).1 = [⟨"x", "str", false⟩] ∧
      ((Resolver.new pairClasses ∅).resolve "Both" "app.models").answer
        = .ok [⟨"Both", [], .ofList [("x", .primitive ⟨"string", none⟩)]⟩] := by
  refine ⟨?_, by decide +kernel, by decide +kernel, by decide +kernel, by decide +kernel⟩
  have hbases : pairClasses.knownBases bothClass = [leftClass, rightClass] := by decide +kernel
  refine .intro (fun b => [b]) ?_ ?_
  · rw [hbases]
    have hleft : pairClasses.Linearizes leftClass [leftClass] := linearizes_root (by decide +kernel)
    have hright : pairClasses.Linearizes rightClass [rightClass] := linearizes_root (by decide +kernel)
    exact List.forall_mem_cons.2 ⟨hleft, List.forall_mem_singleton.2 hright⟩
  · rw [hbases]
    exact .take (by decide +kernel) (.take (by decide +kernel) (.done (by decide +kernel)))

end SymbolTable

end RouteDocs.Schema
