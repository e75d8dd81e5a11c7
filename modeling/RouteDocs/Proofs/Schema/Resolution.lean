/-
Calls of a resolver, whatever table the classes are looked up in, and however its answers change.

- `Cache.closure_closed`: in a sound cache the closure of a recorded class is a list of recorded models, that of the
  class first, and closed under references.
- `Resolver.resolve_outcome`: a call answers from a sound cache that extends the one before, or it fails and leaves the
  cache as it was.
- `Resolver.error_of_resolve`: why it fails.
-/
import RouteDocs.Proofs.Schema.CacheInvariant

namespace RouteDocs.Schema

namespace Cache

/-! ## The closure of a class -/

/-- the references of a class that a cache lists -/
def referencesOf (c : Cache) (id : String) : List String := (c.references.get? id).getD []

/-- a search on its way: all names are recorded, and what the listed ones refer to is listed or pending -/
structure Searches (c : Cache) (pending order : List String) : Prop where
  recorded : ∀ id ∈ pending, c.origins.contains id = true
  listed : ∀ id ∈ order, c.origins.contains id = true
  followed : ∀ id ∈ order, ∀ t ∈ c.referencesOf id, t ∈ order ∨ t ∈ pending

variable {c : Cache} {id : String} {pending order : List String}

/-- a name that is listed may be dropped -/
theorem Searches.drop (h : c.Searches (id :: pending) order) (hin : id ∈ order) : c.Searches pending order := by
  refine ⟨fun k hk => h.recorded k (List.mem_cons_of_mem _ hk), h.listed, fun k hk t ht => ?_⟩
  rcases h.followed k hk t ht with ht | ht
  · exact Or.inl ht
  · rcases List.mem_cons.1 ht with rfl | ht
    · exact Or.inl hin
    · exact Or.inr ht

/-- a name may be listed when what it refers to is put off -/
theorem Searches.list (h : c.Searches (id :: pending) order) {m : Model} {refs : List String}
    (hm : c.Complete id m refs) : c.Searches (pending ++ refs) (order ++ [id]) := by
  have hof : c.referencesOf id = refs := by rw [referencesOf, hm.references, Option.getD_some]
  refine ⟨fun k hk => ?_, fun k hk => ?_, fun k hk t ht => ?_⟩
  · rcases List.mem_append.1 hk with hk | hk
    · exact h.recorded k (List.mem_cons_of_mem _ hk)
    · exact hm.recorded k hk
  · rcases List.mem_append.1 hk with hk | hk
    · exact h.listed k hk
    · exact h.recorded k (List.mem_singleton.1 hk ▸ List.mem_cons_self)
  · rcases List.mem_append.1 hk with hk | hk
    · rcases h.followed k hk t ht with ht | ht
      · exact Or.inl (List.mem_append_left _ ht)
      · rcases List.mem_cons.1 ht with rfl | ht
        · exact Or.inl (List.mem_append_right _ List.mem_cons_self)
        · exact Or.inr (List.mem_append_left _ ht)
    · obtain rfl := List.mem_singleton.1 hk
      exact Or.inr (List.mem_append_right _ (hof ▸ ht))

/-- what a breadth-first search ends with: it starts with what was listed, and all that is referred to is listed -/
theorem Sound.reach_ok (hc : c.Sound) (h : c.Searches pending order) :
    ∃ ids, c.reach pending order = .ok ids ∧ order <+: ids ∧ c.Searches [] ids := by
  fun_induction reach c pending order with
  | case1 order => exact ⟨order, rfl, List.prefix_refl _, h⟩
  | case2 id pending order hin ih => exact ih (h.drop hin)
  | case3 id pending order hnot hnone =>
    -- a recorded class has its references listed
    obtain ⟨m, refs, hm⟩ := hc.complete id (h.recorded id List.mem_cons_self)
    rw [hm.references] at hnone
    cases hnone
  | case4 id pending order hnot refs hrefs ih =>
    obtain ⟨m, refs', hm⟩ := hc.complete id (h.recorded id List.mem_cons_self)
    obtain rfl : refs = refs' := Option.some.inj (hrefs.symm.trans hm.references)
    obtain ⟨ids, hids, hpre, hdone⟩ := ih (h.list hm)
    exact ⟨ids, hids, (List.prefix_append _ _).trans hpre, hdone⟩

/-- a search never takes back what it has listed -/
theorem reach_prefix {ids : List String} (h : c.reach pending order = .ok ids) : order <+: ids := by
  fun_induction reach c pending order with
  | case1 order =>
    cases h
    exact List.prefix_refl _
  | case2 id pending order hin ih => exact ih h
  | case3 id pending order hnot hnone => cases h
  | case4 id pending order hnot refs hrefs ih => exact (List.prefix_append _ _).trans (ih h)

/-- a class is in its own closure, whatever the cache holds -/
theorem closure_ne_nil {ms : List Model} (h : c.closure id = .ok ms) : ms ≠ [] := by
  rintro rfl
  rw [closure] at h
  cases hids : c.reach [id] [] with
  | error e =>
    rw [hids] at h
    cases h
  | ok ids =>
    rw [hids] at h
    change ids.mapM c.model = .ok [] at h
    rw [reach, dif_neg List.not_mem_nil] at hids
    split at hids
    · cases hids
    · obtain ⟨rest, rfl⟩ := reach_prefix hids
      rw [List.nil_append, List.singleton_append, List.mapM_cons] at h
      cases hm : c.model id with
      | error e => rw [hm] at h; cases h
      | ok m =>
        rw [hm] at h
        cases hms : rest.mapM c.model <;> rw [hms] at h <;> cases h

/-- the models of recorded classes, read one after another -/
theorem Sound.mapM_model (hc : c.Sound) (ids : List String)
    (hids : ∀ id ∈ ids, c.origins.contains id = true) :
    ∃ ms, ids.mapM c.model = .ok ms ∧ ms.map Model.id = ids ∧ ∀ m ∈ ms, c.models.get? m.id = some m := by
  induction ids with
  | nil => exact ⟨[], rfl, rfl, by simp⟩
  | cons id rest ih =>
    obtain ⟨ms, hms, hmap, hall⟩ := ih fun k hk => hids k (List.mem_cons_of_mem _ hk)
    obtain ⟨m, refs, hm⟩ := hc.complete id (hids id List.mem_cons_self)
    have hmodel : c.model id = .ok m := by rw [model, hm.model]
    refine ⟨m :: ms, by rw [List.mapM_cons, hmodel, hms]; rfl, by rw [List.map_cons, hm.named, hmap], ?_⟩
    intro k hk
    rcases List.mem_cons.1 hk with rfl | hk
    · rw [hm.named, hm.model]
    · exact hall k hk

/-- models that a cache holds, and that refer to one another only -/
structure ClosedModels (c : Cache) (ms : List Model) : Prop where
  held : ∀ m ∈ ms, c.models.get? m.id = some m
  closed : ∀ m ∈ ms, ∀ t, m.RefersTo t → ∃ n ∈ ms, n.id = t

theorem ClosedModels.mono {b c : Cache} (h : b.Extends c) {ms : List Model} (hms : b.ClosedModels ms) :
    c.ClosedModels ms :=
  ⟨fun m hm => OrderedMap.get?_of_prefix h.models (hms.held m hm), hms.closed⟩

/-- **Closures are closed.** In a sound cache the closure of a recorded class exists; the model of the class comes
first, and the models refer to one another only. -/
theorem Sound.closure_closed (hc : c.Sound) (hid : c.origins.contains id = true) :
    ∃ m ms, c.closure id = .ok (m :: ms) ∧ m.id = id ∧ c.ClosedModels (m :: ms) := by
  obtain ⟨m, refs, hm⟩ := hc.complete id hid
  have hstart : c.Searches [id] [] :=
    ⟨fun k hk => List.mem_singleton.1 hk ▸ hid, fun k hk => (by cases hk), fun k hk => (by cases hk)⟩
  have hlisted : c.Searches refs [id] := hstart.list hm
  -- the class itself is listed first
  have hfirst : c.reach [id] [] = c.reach refs [id] := by
    rw [reach, dif_neg List.not_mem_nil]
    split
    · next hnone => rw [hm.references] at hnone; cases hnone
    · next refs' hrefs =>
      obtain rfl : refs' = refs := Option.some.inj (hrefs.symm.trans hm.references)
      rfl
  obtain ⟨ids, hids, ⟨more, rfl⟩, hdone⟩ := hc.reach_ok hlisted
  obtain ⟨ms, hms, hmap, hheld⟩ := hc.mapM_model _ hdone.listed
  have hclosure : c.closure id = .ok ms := by
    rw [closure, hfirst, hids]
    exact hms
  obtain ⟨first, ms, rfl, hname, -⟩ := List.map_eq_cons_iff.1 hmap
  refine ⟨first, ms, hclosure, hname, hheld, fun k hk t ht => ?_⟩
  have hkid : k.id ∈ [id] ++ more := hmap ▸ List.mem_map_of_mem hk
  obtain ⟨k', refs', hk'⟩ := hc.complete k.id (hdone.listed k.id hkid)
  obtain rfl : k' = k := Option.some.inj (hk'.model.symm.trans (hheld k hk))
  have ht' : t ∈ c.referencesOf k'.id := by
    rw [referencesOf, hk'.references, Option.getD_some]
    exact hk'.listed t ht
  have htid := (hdone.followed k'.id hkid t ht').resolve_right List.not_mem_nil
  rw [← hmap] at htid
  exact List.mem_map.1 htid

end Cache

/-! ## Calls -/

variable {τ : Type} [TypeLookup τ]

/-- following a reference from a sound cache starts a walk; the class that it means has been recorded -/
theorem grown_follow {c : Cache} (hc : c.Sound) {table : τ} {ref package : String} {e : Entry τ}
    (h : Follows c table ref package e) :
    (⟨e.opened, e.cache, e.table⟩ : Walk τ).Grown c ∧
      ∀ id, e.answer = .ok id → e.cache.origins.contains id = true := by
  cases h with
  | unresolved asked => exact ⟨⟨hc.inv _, .refl c⟩, fun id hid => by simp at hid⟩
  | collision asked found other => exact ⟨⟨hc.inv _, .refl c⟩, fun id hid => by simp at hid⟩
  | known asked found =>
    refine ⟨⟨hc.inv _, .refl c⟩, fun id hid => ?_⟩
    cases hid
    exact OrderedMap.contains_of_get? found
  | @opened d after asked new =>
    have hpush := (hc.inv table).push new (fieldsOf after d).1 (fieldsOf after d).2
    refine ⟨⟨hpush, Cache.extends_start new⟩, fun id hid => ?_⟩
    cases hid
    exact (hpush.frames _ List.mem_cons_self).named

namespace Resolver

def walk (r : Resolver τ) (ref package : String) : Walk τ :=
  let e := follow r.cache r.table ref package
  ⟨e.opened, e.cache, e.table⟩

/-- the walk of a call when it is over -/
def walked (r : Resolver τ) (ref package : String) : Walk τ := ((r.walk ref package).run r.aliases).2

/-- the class that a call reaches, or why it fails -/
def reached (r : Resolver τ) (ref package : String) : Except ResolveError String :=
  match ((r.walk ref package).run r.aliases).1 with
  | some e => .error e
  | none => (follow r.cache r.table ref package).answer

theorem resolve_primitive {r : Resolver τ} {ref : String} (h : (r.primitiveName? ref).isSome = true)
    (package : String) : r.resolve ref package = ⟨.ok [], r, []⟩ := by
  rw [resolve, if_pos h]

theorem resolve_eq {r : Resolver τ} {ref : String} (h : r.primitiveName? ref = none) (package : String) :
    r.resolve ref package = r.settle (r.reached ref package) (r.walked ref package) := by
  rw [resolve, if_neg (by simp [h])]
  dsimp only [reached, walked, walk]
  split <;> next hrun => rw [hrun]

/-- a call that answers for a reference that is not primitive answers with models -/
theorem resolve_ne_nil {r : Resolver τ} {ref package : String} (h : r.primitiveName? ref = none) {ms : List Model}
    (hok : (r.resolve ref package).answer = .ok ms) : ms ≠ [] := by
  rw [resolve_eq h] at hok
  cases hreached : r.reached ref package with
  | error e =>
    rw [hreached, settle] at hok
    cases hok
  | ok id =>
    rw [hreached, settle] at hok
    exact Cache.closure_ne_nil hok

/-- a reference that can not be followed ends the call at once -/
theorem reached_error {r : Resolver τ} {ref package : String} {e : ResolveError}
    (h : (follow r.cache r.table ref package).answer = .error e) : r.reached ref package = .error e := by
  have hopened : (follow r.cache r.table ref package).opened = [] := by
    have hf := follows_follow r.cache r.table ref package
    generalize follow r.cache r.table ref package = entry at h hf
    cases hf with
    | opened asked new => cases h
    | _ => rfl
  rw [reached, walk, Walk.run_finished hopened]
  exact h

/-- when a call reaches a class, its walk is over, and the class has been recorded -/
theorem walked_of_reached {r : Resolver τ} (hr : r.cache.Sound) {ref package id : String}
    (h : r.reached ref package = .ok id) :
    (r.walked ref package).frames = [] ∧ (follow r.cache r.table ref package).answer = .ok id ∧
      (follow r.cache r.table ref package).cache.Extends (r.walked ref package).cache := by
  unfold reached at h
  split at h
  · cases h
  · next hrun =>
    have hgrown := (grown_follow hr (follows_follow r.cache r.table ref package)).1
    exact ⟨Walk.frames_of_run r.aliases hrun, h, (Walk.grown_run r.aliases ⟨hgrown.1, .refl _⟩).2⟩

/-- what a call comes to -/
inductive Outcome (r : Resolver τ) (ref package : String) : Resolution τ → Prop
  | primitive (h : (r.primitiveName? ref).isSome = true) : Outcome r ref package ⟨.ok [], r, []⟩
  /-- the call fails, and the cache is as it was -/
  | failed (h : r.primitiveName? ref = none) (e : ResolveError) (table : τ) (completed : List (String × String)) :
    Outcome r ref package ⟨.error e, { r with table := table }, completed⟩
  /-- the call answers with models from a sound cache that extends the one before -/
  | resolved (h : r.primitiveName? ref = none) {m : Model} {ms : List Model} {c : Cache} (sound : c.Sound)
    (growth : r.cache.Extends c) (closed : c.ClosedModels (m :: ms)) (table : τ)
    (completed : List (String × String)) :
    Outcome r ref package ⟨.ok (m :: ms), { r with table := table, cache := c }, completed⟩

/-- **Outcomes of a call.** From a sound cache a call gives models of a sound cache that extends it, or it fails and
leaves the cache exactly as it was. -/
theorem resolve_outcome (r : Resolver τ) (hr : r.cache.Sound) (ref package : String) :
    r.Outcome ref package (r.resolve ref package) := by
  cases hprim : r.primitiveName? ref with
  | some name =>
    have hsome : (r.primitiveName? ref).isSome = true := Option.isSome_iff_exists.2 ⟨name, hprim⟩
    rw [resolve_primitive hsome]
    exact .primitive hsome
  | none =>
    obtain ⟨hgrown, hanswer⟩ := grown_follow hr (follows_follow r.cache r.table ref package)
    have hend := Walk.grown_run r.aliases hgrown
    rw [resolve_eq hprim]
    cases hreached : r.reached ref package with
    | error e =>
      have hback : Cache.rollback r.cache (r.walked ref package).cache = r.cache := Cache.rollback_eq hr hend
      rw [settle, hback]
      exact .failed hprim e _ _
    | ok id =>
      obtain ⟨hframes, hfollow, hext⟩ := walked_of_reached hr hreached
      have hsound : (r.walked ref package).cache.Sound := hend.1.sound hframes
      obtain ⟨m, ms, hclosure, -, hclosed⟩ := hsound.closure_closed (hext.contains (hanswer id hfollow))
      rw [settle, hclosure]
      exact .resolved hprim hsound hend.2 hclosed _ _

/-- **Failures of a call.** From a sound cache a call fails only because a class is not found, or because a second class
has the name of a recorded one. -/
theorem error_of_resolve {r : Resolver τ} (hr : r.cache.Sound) {ref package : String} {e : ResolveError}
    (h : (r.resolve ref package).answer = .error e) : e.OfClasses := by
  cases hprim : r.primitiveName? ref with
  | some name =>
    rw [resolve_primitive (Option.isSome_iff_exists.2 ⟨name, hprim⟩)] at h
    cases h
  | none =>
    rw [resolve_eq hprim] at h
    cases hreached : r.reached ref package with
    | error error =>
      rw [hreached] at h
      obtain rfl := Except.error.inj h
      unfold reached at hreached
      split at hreached
      · next hrun =>
        obtain rfl := Except.error.inj hreached
        exact Walk.error_of_run hrun
      · -- the reference itself can not be followed
        have hfollow := follows_follow r.cache r.table ref package
        generalize follow r.cache r.table ref package = entry at hreached hfollow
        cases hfollow with
        | unresolved asked => cases hreached; trivial
        | collision asked found other => cases hreached; trivial
        | known asked found => cases hreached
        | opened asked new => cases hreached
    | ok id =>
      -- a class that has been reached has its closure
      obtain ⟨hgrown, hanswer⟩ := grown_follow hr (follows_follow r.cache r.table ref package)
      obtain ⟨hframes, hfollow, hext⟩ := walked_of_reached hr hreached
      have hsound := (Walk.grown_run r.aliases hgrown).1.sound hframes
      obtain ⟨m, ms, hclosure, -⟩ := hsound.closure_closed (hext.contains (hanswer id hfollow))
      rw [hreached, settle] at h
      exact absurd (hclosure.symm.trans h) (by simp)

/-- a resolver as it is between two calls, with a cache that extends an earlier one -/
structure Ready (aliases : Aliases) (b : Cache) (r : Resolver τ) : Prop where
  aliases : r.aliases = aliases
  sound : r.cache.Sound
  growth : b.Extends r.cache

theorem Ready.resolve {aliases : Aliases} {b : Cache} {r : Resolver τ} (h : r.Ready aliases b) (ref package : String) :
    (r.resolve ref package).resolver.Ready aliases b := by
  have houtcome := r.resolve_outcome h.sound ref package
  generalize r.resolve ref package = resolution at houtcome
  cases houtcome with
  | primitive hp => exact h
  | failed hp e table completed => exact ⟨h.aliases, h.sound, h.growth⟩
  | resolved hp sound growth closed table completed => exact ⟨h.aliases, sound, h.growth.trans growth⟩

end Resolver

end RouteDocs.Schema
