/-
The cache of a resolver can not be seen in its answers.

Over a symbol table a call comes to one of two things: it fails and leaves the resolver as it was, or it answers with
the models that a cache-free search finds (`Resolver.Faithful.answers_resolve`). Whether it fails does depend on earlier
calls, but only because of classes of one name: of two resolvers, the one that has recorded less answers like the other
one, unless that one meets a second class of a name (`Resolver.resolve_within`).

- `Resolver.resolve_transparent`: what a used resolver answers, a new one answers too, and it is the breadth-first
  search.
-/
import RouteDocs.Proofs.Schema.WalkSimulation

namespace RouteDocs.Schema

variable {table : SymbolTable} {aliases : Aliases} {ref package : String}

namespace Resolver

/-- the resolver works on a symbol table with a sound and faithful cache -/
structure Faithful (table : SymbolTable) (aliases : Aliases) (r : Resolver) : Prop where
  sameTable : r.table = table
  sameAliases : r.aliases = aliases
  sound : r.cache.Sound
  faithful : r.cache.Faithful table aliases

theorem faithful_new (table : SymbolTable) (aliases : Aliases) : (new table aliases).Faithful table aliases :=
  ⟨rfl, rfl, Cache.sound_empty, Cache.faithful_empty⟩

/-- following a reference starts a walk, and the class that it means has been recorded -/
theorem faithful_follow {c : Cache} (hs : c.Sound) (hc : c.Faithful table aliases) {e : Entry SymbolTable}
    (h : Follows c table ref package e) :
    (⟨e.opened, e.cache, e.table⟩ : Walk SymbolTable).Faithful table aliases ∧
      ∀ id, e.answer = .ok id →
        ∃ d, table.lookup ref package = some d ∧ d.name = id ∧ e.cache.origins.get? d.name = some d.module := by
  have hinv := (grown_follow hs h).1.1
  cases h with
  | unresolved asked =>
    obtain ⟨-, rfl⟩ := Prod.mk.inj asked
    exact ⟨⟨hinv, hc.tracks⟩, fun id hid => by cases hid⟩
  | collision asked found other =>
    obtain ⟨-, rfl⟩ := Prod.mk.inj asked
    exact ⟨⟨hinv, hc.tracks⟩, fun id hid => by cases hid⟩
  | known asked found =>
    obtain ⟨hlookup, rfl⟩ := Prod.mk.inj asked
    refine ⟨⟨hinv, hc.tracks⟩, fun id hid => ?_⟩
    cases hid
    exact ⟨_, hlookup, rfl, found⟩
  | @opened d after asked new =>
    obtain ⟨hlookup, rfl⟩ := Prod.mk.inj asked
    have hpush := hc.tracks.push (SymbolTable.visible_of_lookup hlookup) new
    refine ⟨⟨hinv, ?_⟩, fun id hid => ?_⟩
    · rw [SymbolTable.fieldsOf_table]
      exact hpush
    · cases hid
      exact ⟨d, hlookup, rfl, by rw [Cache.get?_start, if_pos rfl]⟩

namespace Faithful

variable {r : Resolver}

theorem primitiveName?_eq (h : r.Faithful table aliases) (ref : String) :
    r.primitiveName? ref = Schema.primitiveName? aliases ref := by
  rw [Resolver.primitiveName?, h.sameAliases]

theorem faithful_walk (h : r.Faithful table aliases) (ref package : String) :
    (r.walk ref package).Faithful table aliases := by
  obtain ⟨rfl, rfl, hs, hc⟩ := h
  exact (faithful_follow hs hc (follows_follow _ _ _ _)).1

theorem faithful_walked (h : r.Faithful table aliases) (ref package : String) :
    (r.walked ref package).Faithful table aliases := by
  obtain rfl := h.sameAliases
  exact Walk.faithful_run (h.faithful_walk ref package)

/-- a call that fails leaves the resolver as it was -/
theorem resolve_failed (h : r.Faithful table aliases) (hp : r.primitiveName? ref = none) {e : ResolveError}
    (hreached : r.reached ref package = .error e) :
    ∃ completed, r.resolve ref package = ⟨.error e, r, completed⟩ := by
  have htable := (h.faithful_walked ref package).tracks.sameTable
  obtain ⟨rfl, rfl, hs, hc⟩ := h
  have hgrown := Walk.grown_run r.aliases (grown_follow hs (follows_follow r.cache r.table ref package)).1
  have hback : Cache.rollback r.cache (r.walked ref package).cache = r.cache := Cache.rollback_eq hs hgrown
  rw [resolve_eq hp, hreached, settle, hback, htable]
  exact ⟨_, rfl⟩

/-- a call that reaches a class records it, and keeps the cache faithful -/
theorem reached (h : r.Faithful table aliases) {id : String} (hreached : r.reached ref package = .ok id) :
    r.cache.Extends (r.walked ref package).cache ∧
      Faithful table aliases { r with cache := (r.walked ref package).cache } ∧
      ∃ d, table.lookup ref package = some d ∧ d.name = id ∧ (r.walked ref package).cache.Records table d := by
  have hwalked := h.faithful_walked ref package
  obtain ⟨hframes, hanswer, hext⟩ := walked_of_reached h.sound hreached
  obtain ⟨rfl, rfl, hs, hc⟩ := h
  have hfollow := follows_follow r.cache r.table ref package
  have hgrown := Walk.grown_run r.aliases (grown_follow hs hfollow).1
  obtain ⟨d, hlookup, hname, hrecorded⟩ := (faithful_follow hs hc hfollow).2 id hanswer
  exact ⟨hgrown.2, ⟨rfl, rfl, hwalked.inv.sound hframes, hwalked.tracks.faithful hframes⟩, d, hlookup, hname,
    SymbolTable.visible_of_lookup hlookup, hext.within _ _ hrecorded⟩

/-- a call that reaches a class answers with the cache-free search -/
theorem resolve_ok (h : r.Faithful table aliases) (hp : r.primitiveName? ref = none) {id : String}
    (hreached : r.reached ref package = .ok id) :
    ∃ ms completed, table.reachedModels aliases ref package = some ms ∧
      r.resolve ref package = ⟨.ok ms, { r with cache := (r.walked ref package).cache }, completed⟩ := by
  obtain ⟨-, hafter, d, hlookup, rfl, hd⟩ := h.reached hreached
  have htable := (h.faithful_walked ref package).tracks.sameTable
  have hprim : ¬ (Schema.primitiveName? aliases ref).isSome = true := by
    rw [← h.primitiveName?_eq, hp]
    simp
  have hmodels : table.reachedModels aliases ref package
      = some ((table.breadthFirst aliases [d] []).map (table.modelOf aliases)) := by
    rw [SymbolTable.reachedModels, if_neg hprim, hlookup, Option.map_some]
  refine ⟨_, Cache.completedSince r.cache (r.walked ref package).cache, hmodels, ?_⟩
  rw [resolve_eq hp, hreached, settle, hafter.faithful.closure_eq hd, htable, h.sameTable]

/-- what a call over a symbol table comes to -/
inductive Answers (table : SymbolTable) (aliases : Aliases) (r : Resolver) (ref package : String) :
    Resolution SymbolTable → Prop
  | primitive (h : (r.primitiveName? ref).isSome = true) : Answers table aliases r ref package ⟨.ok [], r, []⟩
  /-- the call fails, and the resolver is as it was -/
  | failed (h : r.primitiveName? ref = none) {e : ResolveError} (reached : r.reached ref package = .error e)
    (completed : List (String × String)) : Answers table aliases r ref package ⟨.error e, r, completed⟩
  /-- the call answers with the cache-free search, and has recorded the class that it was asked for -/
  | resolved (h : r.primitiveName? ref = none) {ms : List Model} {c : Cache}
    (models : table.reachedModels aliases ref package = some ms) (growth : r.cache.Extends c)
    (faithful : Faithful table aliases { r with cache := c }) (covers : c.Covers table ref package)
    (completed : List (String × String)) :
    Answers table aliases r ref package ⟨.ok ms, { r with cache := c }, completed⟩

/-- **Calls over a symbol table.** A call fails and leaves the resolver as it was, or it answers with the cache-free
search. -/
theorem answers_resolve (h : r.Faithful table aliases) (ref package : String) :
    Answers table aliases r ref package (r.resolve ref package) := by
  cases hp : r.primitiveName? ref with
  | some name =>
    have hsome : (r.primitiveName? ref).isSome = true := Option.isSome_iff_exists.2 ⟨name, hp⟩
    rw [resolve_primitive hsome]
    exact .primitive hsome
  | none =>
    cases hreached : r.reached ref package with
    | error e =>
      obtain ⟨completed, hresolve⟩ := h.resolve_failed hp hreached
      rw [hresolve]
      exact .failed hp hreached completed
    | ok id =>
      obtain ⟨ms, completed, hmodels, hresolve⟩ := h.resolve_ok hp hreached
      obtain ⟨hgrowth, hafter, d, hlookup, -, hd⟩ := h.reached hreached
      rw [hresolve]
      exact .resolved hp hmodels hgrowth hafter ⟨d, hlookup, hd.recorded⟩ completed

/-- what is answered is what the cache-free search finds -/
theorem answer_eq (h : r.Faithful table aliases) {ms : List Model} (hr : (r.resolve ref package).answer = .ok ms) :
    table.reachedModels aliases ref package = some ms := by
  have hanswers := h.answers_resolve ref package
  generalize r.resolve ref package = resolution at hanswers hr
  cases hanswers with
  | primitive hp =>
    rw [h.primitiveName?_eq] at hp
    rw [SymbolTable.reachedModels, if_pos hp, Except.ok.inj hr]
  | failed hp reached completed => cases hr
  | resolved hp models growth faithful covers completed => rw [models, Except.ok.inj hr]

/-- a call meets a second class of a name only if there are two -/
theorem clashes (h : r.Faithful table aliases) {id : String}
    (hr : (r.resolve ref package).answer = .error (.collision id)) : table.Clashes id := by
  have hanswers := h.answers_resolve ref package
  generalize r.resolve ref package = resolution at hanswers hr
  cases hanswers with
  | primitive hp => cases hr
  | resolved hp models growth faithful covers completed => cases hr
  | failed hp reached completed =>
    obtain rfl := Except.error.inj hr
    unfold Resolver.reached at reached
    split at reached
    · next e hrun =>
      obtain rfl := Except.error.inj reached
      rw [h.sameAliases] at hrun
      exact Walk.clashes_of_run (h.faithful_walk ref package) hrun
    · -- the reference itself means a second class of the name
      obtain ⟨rfl, rfl, hs, hc⟩ := h
      have hfollow := follows_follow r.cache r.table ref package
      generalize follow r.cache r.table ref package = entry at reached hfollow
      cases hfollow with
      | unresolved asked => cases reached
      | known asked found => cases reached
      | opened asked new => cases reached
      | collision asked found other =>
        cases reached
        exact hc.tracks.clashes (Prod.mk.inj asked).1 found other

/-- a call keeps the resolver faithful, whatever it comes to -/
theorem resolve (h : r.Faithful table aliases) (ref package : String) :
    (r.resolve ref package).resolver.Faithful table aliases := by
  have hanswers := h.answers_resolve ref package
  generalize r.resolve ref package = resolution at hanswers
  cases hanswers with
  | primitive hp => exact h
  | failed hp reached completed => exact h
  | resolved hp models growth faithful covers completed => exact faithful

/-- a call only adds to what has been recorded -/
theorem within_resolve (h : r.Faithful table aliases) (ref package : String) :
    r.cache.Within (r.resolve ref package).resolver.cache := by
  have hanswers := h.answers_resolve ref package
  generalize r.resolve ref package = resolution at hanswers
  cases hanswers with
  | primitive hp => exact .refl _
  | failed hp reached completed => exact .refl _
  | resolved hp models growth faithful covers completed => exact growth.within

/-- what has been answered is covered from then on -/
theorem covers (h : r.Faithful table aliases) (hp : r.primitiveName? ref = none) {ms : List Model}
    (hr : (r.resolve ref package).answer = .ok ms) :
    (r.resolve ref package).resolver.cache.Covers table ref package := by
  have hanswers := h.answers_resolve ref package
  generalize r.resolve ref package = resolution at hanswers hr
  cases hanswers with
  | primitive hp' => rw [hp] at hp'; cases hp'
  | failed hp' reached completed => cases hr
  | resolved hp' models growth faithful covers completed => exact covers

/-- a reference that the cache covers is answered without recording anything -/
theorem resolve_covered (h : r.Faithful table aliases) (hp : r.primitiveName? ref = none)
    (hc : r.cache.Covers table ref package) : ∃ ms completed, r.resolve ref package = ⟨.ok ms, r, completed⟩ := by
  obtain ⟨d, hlookup, hrecorded⟩ := hc
  have asked : TypeLookup.ask r.table ref package = (some d, r.table) := by
    rw [SymbolTable.ask_eq, h.sameTable, hlookup]
  have hfollow := (Follows.known asked hrecorded).follow_eq
  have hrun : (r.walk ref package).run r.aliases = (none, ⟨[], r.cache, r.table⟩) := by
    rw [walk, hfollow]
    exact Walk.run_finished rfl
  have hreached : r.reached ref package = .ok d.name := by rw [Resolver.reached, hrun, hfollow]
  obtain ⟨ms, completed, -, hresolve⟩ := h.resolve_ok hp hreached
  rw [walked, hrun] at hresolve
  exact ⟨ms, completed, hresolve⟩

end Faithful

/-! ## Resolvers that have recorded less -/

/-- following a reference that the one resolver can follow, the other one starts a walk behind -/
theorem trails_walk {r s : Resolver} (hr : r.Faithful table aliases) (hs : s.Faithful table aliases)
    (hw : r.cache.Within s.cache) {id : String} (h : (follow s.cache s.table ref package).answer = .ok id) :
    (follow r.cache r.table ref package).answer = .ok id ∧
      ∃ extra, Trails table aliases extra (r.walk ref package) (s.walk ref package) := by
  have hbehind := hr.faithful_walk ref package
  have hahead := hs.faithful_walk ref package
  obtain ⟨t, a, b⟩ := r
  obtain ⟨t', a', c⟩ := s
  obtain rfl : t = table := hr.sameTable
  obtain rfl : t' = t := hs.sameTable
  have hfollow := follows_follow c t' ref package
  unfold walk at *
  generalize follow c t' ref package = e at h hahead hfollow
  cases hfollow with
  | unresolved asked => cases h
  | collision asked found other => cases h
  | @known d after asked found =>
    obtain rfl := Except.ok.inj h
    obtain ⟨hlookup, rfl⟩ := Prod.mk.inj asked
    cases hb : b.origins.get? d.name with
    | some module =>
      obtain rfl : d.module = module := Option.some.inj (found.symm.trans (hw _ _ hb))
      rw [(Follows.known asked hb).follow_eq] at hbehind ⊢
      exact ⟨rfl, [], hbehind, hahead, rfl, hw, fun _ hf => nomatch hf⟩
    | none =>
      rw [(Follows.opened asked hb).follow_eq] at hbehind ⊢
      have hd := hs.faithful.holds (SymbolTable.visible_of_lookup hlookup) found
      exact ⟨rfl, [_], hbehind, hahead, rfl, hw.start found,
        List.forall_mem_cons.2 ⟨hd, fun _ hf => nomatch hf⟩⟩
  | @opened d after asked new =>
    obtain rfl := Except.ok.inj h
    obtain ⟨hlookup, rfl⟩ := Prod.mk.inj asked
    have hb : b.origins.get? d.name = none := by
      cases hb : b.origins.get? d.name with
      | none => rfl
      | some module => cases (hw _ _ hb).symm.trans new
    rw [(Follows.opened asked hb).follow_eq] at hbehind ⊢
    have hwithin : (b.start d).Within (c.start d) :=
      (hw.trans (Cache.extends_start new).within).start (by rw [Cache.get?_start, if_pos rfl])
    exact ⟨rfl, [], hbehind, hahead, rfl, hwithin, fun _ hf => nomatch hf⟩

/-- unless the resolver ahead meets a second class of a name, both reach the same class, or fail alike -/
theorem reached_within {r s : Resolver} (hr : r.Faithful table aliases) (hs : s.Faithful table aliases)
    (hw : r.cache.Within s.cache) (ref package : String) :
    (∃ id, s.reached ref package = .error (.collision id)) ∨
      (r.reached ref package = s.reached ref package ∧
        ∀ id, s.reached ref package = .ok id →
          (r.walked ref package).cache.Within (s.walked ref package).cache) := by
  cases h : (follow s.cache s.table ref package).answer with
  | error e =>
    have hreached := reached_error h
    rw [hreached]
    -- the reference itself leads nowhere, or to a second class of a name
    have hfollow := follows_follow s.cache s.table ref package
    generalize follow s.cache s.table ref package = entry at h hfollow
    cases hfollow with
    | known asked found => cases h
    | opened asked new => cases h
    | collision asked found other =>
      obtain rfl := Except.error.inj h
      exact Or.inl ⟨_, rfl⟩
    | unresolved asked =>
      obtain rfl := Except.error.inj h
      rw [hs.sameTable, ← hr.sameTable] at asked
      exact Or.inr ⟨reached_error (by rw [(Follows.unresolved asked).follow_eq]), fun id hid => (by cases hid)⟩
  | ok id =>
    obtain ⟨hanswer, extra, htrails⟩ := trails_walk hr hs hw h
    unfold reached walked
    rw [hs.sameAliases, hr.sameAliases, h, hanswer]
    rcases Walk.run_trails htrails with ⟨id', hcollision⟩ | ⟨hsame, hwithin⟩
    · rw [hcollision]
      exact Or.inl ⟨id', rfl⟩
    · refine Or.inr ⟨by rw [hsame], fun id' hid => hwithin ?_⟩
      split at hid
      · cases hid
      · assumption

/-- **Less recorded, fewer collisions.** Unless the resolver ahead meets a second class of a name, a resolver that has
recorded less answers alike, and records nothing else. -/
theorem resolve_within {r s : Resolver} (hr : r.Faithful table aliases) (hs : s.Faithful table aliases)
    (hw : r.cache.Within s.cache) (ref package : String) :
    (∃ id, (s.resolve ref package).answer = .error (.collision id)) ∨
      ((r.resolve ref package).answer = (s.resolve ref package).answer ∧
        (r.resolve ref package).resolver.cache.Within (s.resolve ref package).resolver.cache) := by
  cases hp : Schema.primitiveName? aliases ref with
  | some name =>
    have hpr := Option.isSome_iff_exists.2 ⟨name, (hr.primitiveName?_eq ref).trans hp⟩
    have hps := Option.isSome_iff_exists.2 ⟨name, (hs.primitiveName?_eq ref).trans hp⟩
    rw [resolve_primitive hpr, resolve_primitive hps]
    exact Or.inr ⟨rfl, hw⟩
  | none =>
    have hpr := (hr.primitiveName?_eq ref).trans hp
    have hps := (hs.primitiveName?_eq ref).trans hp
    have hreached := reached_within hr hs hw ref package
    cases h : s.reached ref package with
    | error e =>
      obtain ⟨completed, hsr⟩ := hs.resolve_failed hps h
      rcases hreached with ⟨id, hcollision⟩ | ⟨hsame, -⟩
      · obtain rfl := Except.error.inj (h.symm.trans hcollision)
        exact Or.inl ⟨id, by rw [hsr]⟩
      · obtain ⟨completed', hrr⟩ := hr.resolve_failed hpr (hsame.trans h)
        rw [hsr, hrr]
        exact Or.inr ⟨rfl, hw⟩
    | ok id =>
      rcases hreached with ⟨id', hcollision⟩ | ⟨hsame, hwithin⟩
      · rw [h] at hcollision
        cases hcollision
      · obtain ⟨ms, completed, hmodels, hsr⟩ := hs.resolve_ok hps h
        obtain ⟨ms', completed', hmodels', hrr⟩ := hr.resolve_ok hpr (hsame.trans h)
        obtain rfl := Option.some.inj (hmodels'.symm.trans hmodels)
        rw [hsr, hrr]
        exact Or.inr ⟨rfl, hwithin id h⟩

/-! ## Sequences of calls -/

/-- a resolver after calls, each a reference and the module that it is seen from -/
def after (r : Resolver) (calls : List (String × String)) : Resolver :=
  calls.foldl (fun r call => (r.resolve call.1 call.2).resolver) r

theorem Faithful.after {r : Resolver} (h : r.Faithful table aliases) (calls : List (String × String)) :
    (r.after calls).Faithful table aliases := by
  induction calls generalizing r with
  | nil => exact h
  | cons call rest ih => exact ih (h.resolve call.1 call.2)

/-- **Cache transparency.** Whatever calls a resolver has answered or failed before: if it answers a reference, a new
resolver gives the same answer, and it is the breadth-first search that uses no cache. -/
theorem resolve_transparent (table : SymbolTable) (aliases : Aliases) (calls : List (String × String))
    (ref package : String) (ms : List Model)
    (h : (((new table aliases).after calls).resolve ref package).answer = .ok ms) :
    ((new table aliases).resolve ref package).answer = .ok ms ∧
    table.reachedModels aliases ref package = some ms := by
  have hnew := faithful_new table aliases
  have hused := hnew.after calls
  generalize (new table aliases).after calls = used at h hused
  have hwithin : (new table aliases).cache.Within used.cache := fun _ _ hid => (by cases hid)
  refine ⟨?_, hused.answer_eq h⟩
  rcases resolve_within hnew hused hwithin ref package with ⟨id, hcollision⟩ | ⟨hsame, -⟩
  · rw [h] at hcollision
    cases hcollision
  · rw [hsame, h]

def mutualClasses : SymbolTable := ⟨[
  ⟨"Pet", "zoo", [], [⟨"name", "str", true⟩, ⟨"owner", "Owner", false⟩]⟩,
  ⟨"Owner", "zoo", [], [⟨"pets", "list[Pet]", true⟩]⟩]⟩

def mutualModels : List Model := [
  ⟨"Pet", ["name"], .ofList [("name", .primitive ⟨"string", none⟩), ("owner", .model "Owner")]⟩,
  ⟨"Owner", ["pets"], .ofList [("pets", .models "Pet")]⟩]

/-- The cycle has been entered from its other end, and a call has failed. -/
theorem resolve_transparent_mutual :
    (((new mutualClasses ∅).after [("Owner", "zoo"), ("Nobody", "zoo")]).resolve "Pet" "zoo").answer
        = .ok mutualModels ∧
      ((new mutualClasses ∅).resolve "Pet" "zoo").answer = .ok mutualModels ∧
      mutualClasses.reachedModels ∅ "Pet" "zoo" = some mutualModels := by
  have h : (((new mutualClasses ∅).after [("Owner", "zoo"), ("Nobody", "zoo")]).resolve "Pet" "zoo").answer
      = .ok mutualModels := by decide +kernel
  exact ⟨h, resolve_transparent _ _ _ _ _ _ h⟩

end Resolver

end RouteDocs.Schema
