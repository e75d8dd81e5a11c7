/-
The order in which resources are documented has no effect on the documents.

All candidates of a pass share one resolver, and a class that one of them needs can collide with a class that another
one has recorded. But a pass that does not fail has recorded a class for every name that its candidates need, each name
once; with all of that recorded beforehand every candidate is read alike in any order
(`Generator.addHandlers_admitted`), and what each resource gets depends on its own candidates only.

- `Generator.generate_rearranges`: candidates may be rearranged, as long as those of each resource keep their order.
-/
import RouteDocs.Proofs.Generation.FaithfulPass
import RouteDocs.Proofs.Operation.Route

namespace RouteDocs

open Schema

variable {table : SymbolTable} {aliases : Aliases}

/-- the resource of the last route line in the comments of a candidate -/
def Candidate.resource? (c : Candidate) : Option String := (lastRoute? c.comments).map resourceKey

/-- is the candidate one that the predicate selects, with a route of the resource? -/
def Candidate.isOf (isHandler : Signature → Bool) (key : String) (c : Candidate) : Bool :=
  isHandler c.signature && decide (c.resource? = some key)

/-- the one list is the other one in another order, in which the candidates of each resource keep their order -/
structure Rearranges (isHandler : Signature → Bool) (l l' : List Candidate) : Prop where
  perm : l.Perm l'
  resources : ∀ key, l.filter (·.isOf isHandler key) = l'.filter (·.isOf isHandler key)

theorem Rearranges.symm {isHandler : Signature → Bool} {l l' : List Candidate} (h : Rearranges isHandler l l') :
    Rearranges isHandler l' l :=
  ⟨h.perm.symm, fun key => (h.resources key).symm⟩

/-- the operation that a candidate documents for a resolver, if the predicate selects it -/
def Candidate.operation? (isHandler : Signature → Bool) (s : Resolver) (c : Candidate) : Option Operation :=
  if isHandler c.signature then (readComment c.comments s c.signature.module).answer.toOption else none

/-- a candidate that a resolver reads to its end without recording anything -/
structure Candidate.Admitted (table : SymbolTable) (aliases : Aliases) (s : Resolver) (c : Candidate) : Prop where
  admits : Admits table aliases s.cache c.signature.module c.comments
  passes : ∀ e, (readComment c.comments s c.signature.module).answer = .error e → e.isUndocumented = true

theorem Candidate.answer_of_operation? {isHandler : Signature → Bool} {s : Resolver} {c : Candidate} {o : Operation}
    (h : c.operation? isHandler s = some o) :
    isHandler c.signature = true ∧ (readComment c.comments s c.signature.module).answer = .ok o := by
  unfold operation? at h
  split at h
  · next haccepted =>
    refine ⟨haccepted, ?_⟩
    cases hanswer : (readComment c.comments s c.signature.module).answer with
    | error e => rw [hanswer] at h; cases h
    | ok o' => rw [hanswer] at h; rw [Option.some.inj h]
  · cases h

/-- an operation has the route of its candidate -/
theorem Candidate.isOf_of_operation? {isHandler : Signature → Bool} {s : Resolver} {c : Candidate} {o : Operation}
    (h : c.operation? isHandler s = some o) (key : String) :
    c.isOf isHandler key = decide (resourceKey o.path = key) := by
  obtain ⟨haccepted, hanswer⟩ := answer_of_operation? h
  rw [isOf, haccepted, Bool.true_and, resource?, path_of_read hanswer, Option.map_some]
  simp

/-- the operations of a resource are documented by the candidates of the resource -/
theorem filter_operations (isHandler : Signature → Bool) (s : Resolver) (l : List Candidate) (key : String) :
    (l.filterMap (·.operation? isHandler s)).filter (fun o => resourceKey o.path = key)
      = (l.filter (·.isOf isHandler key)).filterMap (·.operation? isHandler s) := by
  induction l with
  | nil => rfl
  | cons c rest ih =>
    rw [List.filterMap_cons, List.filter_cons]
    cases hoperation : c.operation? isHandler s with
    | none =>
      dsimp only
      split
      · rw [List.filterMap_cons, hoperation, ih]
      · exact ih
    | some o =>
      dsimp only
      rw [List.filter_cons, Candidate.isOf_of_operation? hoperation key]
      split
      · rw [List.filterMap_cons, hoperation, ih]
      · exact ih

namespace Generator

variable {isHandler : Signature → Bool} {g : Generator}

/-- a pass over admitted candidates does not fail, and adds the operations that they document -/
theorem addHandlers_admitted {s : Resolver} (hs : s.Faithful table aliases) {l : List Candidate}
    (hl : ∀ c ∈ l, isHandler c.signature = true → c.Admitted table aliases s) (hg : g.Faithful table aliases)
    (hw : g.resolver.cache.Within s.cache) :
    (g.addHandlers isHandler l).2 = none ∧
      (g.addHandlers isHandler l).1.operations = g.operations ++ l.filterMap (·.operation? isHandler s) ∧
      (g.addHandlers isHandler l).1.builder = g.builder.addAll (l.filterMap (·.operation? isHandler s)) := by
  induction l generalizing g with
  | nil => exact ⟨rfl, (List.append_nil _).symm, rfl⟩
  | cons c rest ih =>
    have hrest : ∀ k ∈ rest, isHandler k.signature = true → k.Admitted table aliases s :=
      fun k hk => hl k (List.mem_cons_of_mem _ hk)
    rw [addHandlers, List.filterMap_cons]
    by_cases haccepted : isHandler c.signature = true
    · obtain ⟨hadmits, hpasses⟩ := hl c List.mem_cons_self haccepted
      obtain ⟨hkept, hnoCollision⟩ := readComment_admitted hs hadmits
      -- the candidate is read as by the resolver that has recorded everything
      obtain ⟨hsame, hwithin⟩ := (readComment_within hg.resolver hs hw c.comments c.signature.module).resolve_left
        (not_exists.2 hnoCollision)
      rw [hkept] at hwithin
      have hhandles := handles_addHandler hg.inv c
      have hnext := hg.handles hhandles
      obtain ⟨hresolver, he, hoperations, hbuilder⟩ := hhandles.effect
      rw [show (g.reading c).answer = _ from hsame] at he hoperations hbuilder
      rw [if_pos haccepted, Candidate.operation?, if_pos haccepted]
      generalize g.addHandler c = outcome at hnext hresolver he hoperations hbuilder
      obtain ⟨g', e⟩ := outcome
      obtain rfl : e = none := he.trans (Candidate.failure?_eq_none_iff.2 hpasses)
      obtain ⟨hnone, hoperations', hbuilder'⟩ := ih hrest hnext (hresolver ▸ hwithin)
      refine ⟨hnone, ?_, ?_⟩
      · rw [hoperations', hoperations, List.append_assoc]
        cases (readComment c.comments s c.signature.module).answer <;> rfl
      · rw [hbuilder', hbuilder]
        cases (readComment c.comments s c.signature.module).answer <;> rfl
    · rw [if_neg haccepted, Candidate.operation?, if_neg haccepted]
      exact ih hrest hg hw

/-- all candidates of a pass that has not failed are admitted by its resolver -/
theorem admitted_of_addHandlers {l : List Candidate} (hg : g.Faithful table aliases)
    (h : (g.addHandlers isHandler l).2 = none) :
    g.resolver.cache.Within (g.addHandlers isHandler l).1.resolver.cache ∧
      ∀ c ∈ l, isHandler c.signature = true →
        c.Admitted table aliases (g.addHandlers isHandler l).1.resolver := by
  have hlast := (hg.addHandlers isHandler l).resolver
  induction l generalizing g with
  | nil => exact ⟨.refl _, fun c hc => (by cases hc)⟩
  | cons c rest ih =>
    rw [addHandlers] at h hlast ⊢
    by_cases haccepted : isHandler c.signature = true
    · rw [if_pos haccepted] at h hlast ⊢
      have hgrowth := hg.within_reading c
      have hhandles := handles_addHandler hg.inv c
      have hnext := hg.handles hhandles
      obtain ⟨hresolver, he, -, -⟩ := hhandles.effect
      generalize g.addHandler c = outcome at hnext hresolver he h hlast
      obtain ⟨g', e⟩ := outcome
      cases e with
      | some e => cases h
      | none =>
        have hpasses := Candidate.failure?_eq_none_iff.1 he.symm
        obtain ⟨hwithin, hadmitted⟩ := ih hnext h hlast
        rw [show g'.resolver = _ from hresolver] at hwithin
        refine ⟨hgrowth.trans hwithin, fun k hk hselected => ?_⟩
        rcases List.mem_cons.1 hk with rfl | hk
        · have hadmits := (admits_of_read hg.resolver hpasses).mono hwithin
          obtain ⟨-, hnoCollision⟩ := readComment_admitted hlast hadmits
          obtain ⟨hsame, -⟩ := (readComment_within hg.resolver hlast (hgrowth.trans hwithin) k.comments
            k.signature.module).resolve_left (not_exists.2 hnoCollision)
          exact ⟨hadmits, fun e he => hpasses e (hsame.trans he)⟩
        · exact hadmitted k hk hselected
    · rw [if_neg haccepted] at h hlast ⊢
      obtain ⟨hwithin, hadmitted⟩ := ih hg h hlast
      refine ⟨hwithin, fun k hk hselected => ?_⟩
      rcases List.mem_cons.1 hk with rfl | hk
      · exact absurd hselected haccepted
      · exact hadmitted k hk hselected

theorem generate_ok_iff {l : List Candidate} {docs : GeneratedDocs} :
    (g.generate isHandler l).2 = .ok docs ↔
      (g.addHandlers isHandler l).2 = none ∧ (g.addHandlers isHandler l).1.documents = docs := by
  rcases generate_cases isHandler g l with ⟨e, he, hgenerate⟩ | ⟨hnone, event, hgenerate⟩
  · rw [hgenerate, he]
    exact ⟨fun h => (by cases h), fun h => (by cases h.1)⟩
  · rw [hgenerate, hnone]
    exact ⟨fun h => ⟨rfl, Except.ok.inj h⟩, fun h => by rw [h.2]⟩

theorem documents_of_rearranges (table : SymbolTable) (aliases : Aliases) (info : ApiInfo) (basePath : String)
    {l l' : List Candidate} (h : Rearranges isHandler l l') {docs : GeneratedDocs}
    (hdocs : ((new table aliases info basePath).generate isHandler l).2 = .ok docs) :
    ((new table aliases info basePath).generate isHandler l').2 = .ok docs := by
  rw [generate_ok_iff] at hdocs ⊢
  obtain ⟨hnone, rfl⟩ := hdocs
  have hnew := faithful_new table aliases info basePath
  generalize new table aliases info basePath = g at hnone hnew ⊢
  have hlast := (hnew.addHandlers isHandler l).resolver
  obtain ⟨hwithin, hadmitted⟩ := admitted_of_addHandlers hnew hnone
  obtain ⟨-, hoperations, hbuilder⟩ := addHandlers_admitted hlast hadmitted hnew hwithin
  obtain ⟨hnone', hoperations', hbuilder'⟩ := addHandlers_admitted hlast
    (fun c hc => hadmitted c (h.perm.mem_iff.2 hc)) hnew hwithin
  generalize (g.addHandlers isHandler l).1.resolver = s at hoperations hbuilder hoperations' hbuilder'
  refine ⟨hnone', ?_⟩
  have hcount : (g.addHandlers isHandler l').1.operations.length = (g.addHandlers isHandler l).1.operations.length := by
    rw [hoperations, hoperations', List.length_append, List.length_append,
      (h.perm.filterMap (·.operation? isHandler s)).length_eq]
  have hpaths (l : List Candidate) : ∀ o ∈ l.filterMap (·.operation? isHandler s), o.path.isEmpty = false := by
    intro o ho
    obtain ⟨c, -, hc⟩ := List.mem_filterMap.1 ho
    obtain ⟨-, -, -, -, hpath⟩ := readComment_ok (Candidate.answer_of_operation? hc).2
    exact hpath
  have hresources (key : String) : (g.addHandlers isHandler l').1.builder.resourceAt key
      = (g.addHandlers isHandler l).1.builder.resourceAt key := by
    rw [hbuilder, hbuilder', Builder.resourceAt_addAll _ (hpaths l'), Builder.resourceAt_addAll _ (hpaths l),
      filter_operations, filter_operations, h.resources key]
  have hframe := g.builder.addAll_frame (l.filterMap (·.operation? isHandler s))
  have hframe' := g.builder.addAll_frame (l'.filterMap (·.operation? isHandler s))
  rw [← hbuilder] at hframe
  rw [← hbuilder'] at hframe'
  obtain ⟨hlisting, hdeclarations⟩ := Builder.documents_congr (hframe'.1.trans hframe.1.symm)
    (hframe'.2.trans hframe.2.symm) hresources
  rw [documents, documents, hlisting, hdeclarations, hcount]

/-- **Order independence.** A list of candidates may be rearranged, as long as the candidates of each resource keep
their order: a new pass over the one list makes the same documents of as many operations as a new pass over the other
one, and fails if and only if that one does. -/
theorem generate_rearranges (table : SymbolTable) (aliases : Aliases) (info : ApiInfo) (basePath : String)
    (isHandler : Signature → Bool) (l l' : List Candidate) (h : Rearranges isHandler l l') :
    ((∃ e, ((new table aliases info basePath).generate isHandler l).2 = .error e) ↔
      ∃ e, ((new table aliases info basePath).generate isHandler l').2 = .error e) ∧
    ∀ docs, ((new table aliases info basePath).generate isHandler l).2 = .ok docs ↔
      ((new table aliases info basePath).generate isHandler l').2 = .ok docs := by
  have hdocs (docs : GeneratedDocs) : ((new table aliases info basePath).generate isHandler l).2 = .ok docs ↔
      ((new table aliases info basePath).generate isHandler l').2 = .ok docs :=
    ⟨documents_of_rearranges table aliases info basePath h,
      documents_of_rearranges table aliases info basePath h.symm⟩
  refine ⟨?_, hdocs⟩
  generalize ((new table aliases info basePath).generate isHandler l).2 = result at hdocs
  generalize ((new table aliases info basePath).generate isHandler l').2 = result' at hdocs
  cases result with
  | ok docs => rw [← (hdocs docs).1 rfl]
  | error e =>
    cases result' with
    | ok docs => cases (hdocs docs).2 rfl
    | error e' => exact ⟨fun _ => ⟨e', rfl⟩, fun _ => ⟨e, rfl⟩⟩

/-- a function of another resource that answers with the same class -/
def favouritePet : Candidate := petHandler "favourite" ["# @Success 200 \x7bobject\x7d Pet", "# @router /favourites"]

theorem rearranges_pets : Rearranges (fun _ => true) [showPet, favouritePet] [favouritePet, showPet] := by
  refine ⟨.swap _ _ _, fun key => ?_⟩
  have hshow : showPet.resource? = some "pets" := by decide +kernel
  have hfavourite : favouritePet.resource? = some "favourites" := by decide +kernel
  by_cases hkey : key = "pets"
  · subst hkey
    simp [Candidate.isOf, hshow, hfavourite]
  · simp [List.filter_cons, Candidate.isOf, hshow, hfavourite, Ne.symm hkey]

theorem generate_rearranges_pets : ∃ docs,
    ((new petClasses ∅ .blank "").generate (fun _ => true) [showPet, favouritePet]).2 = .ok docs ∧
      ((new petClasses ∅ .blank "").generate (fun _ => true) [favouritePet, showPet]).2 = .ok docs := by
  have hdocs := (generate_rearranges petClasses ∅ .blank "" _ _ _ rearranges_pets).2
  have hmade : ((new petClasses ∅ .blank "").generate (fun _ => true) [showPet, favouritePet]).2.isOk = true := by
    decide +kernel
  cases h : ((new petClasses ∅ .blank "").generate (fun _ => true) [showPet, favouritePet]).2 with
  | error e => rw [h] at hmade; cases hmade
  | ok docs => exact ⟨docs, rfl, (hdocs docs).1 h⟩

end Generator

end RouteDocs
