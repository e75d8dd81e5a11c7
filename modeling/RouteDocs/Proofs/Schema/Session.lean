/-
Sessions with a resolver: references are resolved, the models of a class and the primitives are asked for, and the table
gets further definitions in between.

Between two requests the three parts of the cache agree with one another (`Cache.Represents`), although a walk breaks
that on its way: a class is recorded before it has a model. No request changes what has been recorded before, and one
that fails leaves no trace.

- `Resolver.Settled.serve`: what holds of a resolver between two requests.
- `Resolver.session_represents`: after every session the parts of the cache agree, and every further request only
  extends it.
- `Resolver.resolve_atomic`: a reference that can not be resolved leaves the resolver exactly as it was.
-/
import RouteDocs.Proofs.Schema.FaithfulCache
import RouteDocs.Proofs.Schema.ModelShape

namespace RouteDocs.Schema

/-- the parts of a cache agree: they have the same classes, every model is recorded under its own name and exact, and
all that it refers to is recorded -/
structure Cache.Represents (c : Cache) : Prop where
  models : ∀ id, id ∈ c.models.keys ↔ id ∈ c.origins.keys
  references : ∀ id, id ∈ c.references.keys ↔ id ∈ c.origins.keys
  named : ∀ id m, c.models.get? id = some m → m.id = id
  exact : ∀ id m refs, c.models.get? id = some m → c.references.get? id = some refs → m.Exact refs
  closed : ∀ id refs, c.references.get? id = some refs → ∀ t ∈ refs, t ∈ c.origins.keys

theorem Cache.Sound.represents {c : Cache} (hs : c.Sound) (hx : c.Exact) : c.Represents where
  models := fun id => by rw [OrderedMap.mem_keys, OrderedMap.mem_keys, hs.contains_models]
  references := fun id => by rw [OrderedMap.mem_keys, OrderedMap.mem_keys, hs.contains_references]
  named := fun id m hm => by
    obtain ⟨k, refs, hk⟩ := hs.complete id (hs.models id (OrderedMap.contains_of_get? hm))
    obtain rfl := Option.some.inj (hk.model.symm.trans hm)
    exact hk.named
  exact := hx
  closed := fun id refs hrefs t ht => by
    obtain ⟨k, refs', hk⟩ := hs.complete id (hs.references id (OrderedMap.contains_of_get? hrefs))
    obtain rfl := Option.some.inj (hk.references.symm.trans hrefs)
    exact OrderedMap.mem_keys.2 (hk.recorded t ht)

/-! ## Symbol tables are not changed by being asked -/

theorem Follows.table_eq {c : Cache} {table : SymbolTable} {ref package : String} {e : Entry SymbolTable}
    (h : Follows c table ref package e) : e.table = table := by
  cases h with
  | unresolved asked => exact (Prod.mk.inj asked).2.symm
  | collision asked found other => exact (Prod.mk.inj asked).2.symm
  | known asked found => exact (Prod.mk.inj asked).2.symm
  | opened asked new => exact (SymbolTable.fieldsOf_table _ _).trans (Prod.mk.inj asked).2.symm

theorem Moves.table_eq {aliases : Aliases} {w v : Walk SymbolTable} (h : Moves aliases w v) : v.table = w.table := by
  cases h with
  | close todo => rfl
  | primitive todo typed => rfl
  | known todo typed asked found => exact (Prod.mk.inj asked).2.symm
  | opened todo typed asked new => exact (SymbolTable.fieldsOf_table _ _).trans (Prod.mk.inj asked).2.symm

theorem Walk.table_run (aliases : Aliases) (w : Walk SymbolTable) : (w.run aliases).2.table = w.table :=
  run_invariant (P := fun v => v.table = w.table) (fun _ _ hm hv => hm.table_eq.trans hv)
    (fun _ _ _ hf hv => hf.same ▸ hv) w rfl

/-! ## Requests -/

/-- what may be asked of a resolver, or happen to its table -/
inductive Request where
  /-- resolve a reference that is seen from a module -/
  | resolve (ref package : String)
  /-- the models that a resolved class reaches -/
  | closure (id : String)
  /-- the primitive that a reference names -/
  | primitive (ref : String)
  /-- the table gets one more definition -/
  | define (d : Definition)

/-- what comes back -/
inductive Reply where
  | models (answer : Except ResolveError (List Model))
  | primitive (name : Option String)
  | defined
deriving DecidableEq

namespace Resolver

/-- the reply to a request, and the resolver afterwards -/
def serve (r : Resolver) : Request → Reply × Resolver
  | .resolve ref package => (.models (r.resolve ref package).answer, (r.resolve ref package).resolver)
  | .closure id => (.models (r.cache.closure id), r)
  | .primitive ref => (.primitive (r.primitiveName? ref), r)
  | .define d => (.defined, { r with table := r.table.add d })

/-- the replies to requests, one after another, and the resolver afterwards -/
def session (r : Resolver) : List Request → List Reply × Resolver
  | [] => ([], r)
  | q :: rest => ((r.serve q).1 :: ((r.serve q).2.session rest).1, ((r.serve q).2.session rest).2)

/-- a resolver as it is between two requests -/
structure Settled (r : Resolver) : Prop where
  sound : r.cache.Sound
  exact : r.cache.Exact

theorem settled_new (table : SymbolTable) (aliases : Aliases) : (new table aliases).Settled :=
  ⟨Cache.sound_empty, Cache.exact_empty⟩

variable {r : Resolver} {ref package : String}

/-- a call keeps all models exact, whatever it comes to -/
theorem Settled.exact_resolve (h : r.Settled) (ref package : String) :
    (r.resolve ref package).resolver.cache.Exact := by
  cases hprim : r.primitiveName? ref with
  | some name =>
    rw [resolve_primitive (Option.isSome_iff_exists.2 ⟨name, hprim⟩)]
    exact h.exact
  | none =>
    have hfollow := follows_follow r.cache r.table ref package
    rw [resolve_eq hprim]
    cases hreached : r.reached ref package with
    | error e =>
      have hend := Walk.grown_run r.aliases (grown_follow h.sound hfollow).1
      have hback : Cache.rollback r.cache (r.walked ref package).cache = r.cache := Cache.rollback_eq h.sound hend
      rw [settle, hback]
      exact h.exact
    | ok id => exact (Walk.exact_run r.aliases (exact_follow h.exact hfollow)).cache

/-- **Requests keep a resolver settled.** A request leaves a settled resolver, whose cache extends the one before. -/
theorem Settled.serve (h : r.Settled) (q : Request) :
    (r.serve q).2.Settled ∧ r.cache.Extends (r.serve q).2.cache := by
  cases q with
  | resolve ref package =>
    have hready := Ready.resolve (r := r) (b := r.cache) ⟨rfl, h.sound, .refl _⟩ ref package
    exact ⟨⟨hready.sound, h.exact_resolve ref package⟩, hready.growth⟩
  | closure id => exact ⟨h, .refl _⟩
  | primitive ref => exact ⟨h, .refl _⟩
  | define d => exact ⟨⟨h.sound, h.exact⟩, .refl _⟩

theorem Settled.session (h : r.Settled) (requests : List Request) : (r.session requests).2.Settled := by
  induction requests generalizing r with
  | nil => exact h
  | cons q rest ih => exact ih (h.serve q).1

/-- **Invariant of the cache.** After every session, in which calls may fail and the table may grow, the parts of the
cache agree; and every further request leaves all that has been recorded in its place. -/
theorem session_represents (table : SymbolTable) (aliases : Aliases) (requests : List Request) :
    ((new table aliases).session requests).2.cache.Represents ∧
      ∀ q : Request, ((new table aliases).session requests).2.cache.Extends
        (((new table aliases).session requests).2.serve q).2.cache := by
  have h := (settled_new table aliases).session requests
  exact ⟨h.sound.represents h.exact, fun q => (h.serve q).2⟩

/-! ## Failed calls -/

theorem table_walked (r : Resolver) (ref package : String) : (r.walked ref package).table = r.table :=
  (Walk.table_run _ _).trans (follows_follow r.cache r.table ref package).table_eq

theorem table_resolve (r : Resolver) (ref package : String) : (r.resolve ref package).resolver.table = r.table := by
  cases hprim : r.primitiveName? ref with
  | some name => rw [resolve_primitive (Option.isSome_iff_exists.2 ⟨name, hprim⟩)]
  | none =>
    rw [resolve_eq hprim]
    cases r.reached ref package with
    | error e => exact r.table_walked ref package
    | ok id => exact r.table_walked ref package

/-- a call that fails leaves a settled resolver as it was -/
theorem Settled.resolve_failed (h : r.Settled) {e : ResolveError} (hr : (r.resolve ref package).answer = .error e) :
    (r.resolve ref package).resolver = r := by
  have htable := r.table_resolve ref package
  have houtcome := r.resolve_outcome h.sound ref package
  generalize r.resolve ref package = resolution at hr htable houtcome
  cases houtcome with
  | primitive hprim => rfl
  | failed hprim e table completed =>
    obtain rfl : table = r.table := htable
    rfl
  | resolved hprim sound growth closed table completed => cases hr

def withTable (r : Resolver) (table : SymbolTable) : Resolver := { r with table := table }

/-- **Failed calls leave no trace.** Whatever a resolver has been asked before, and whatever its table is by now: a call
that fails leaves every entry of its cache in its place, adds none, and is not seen by any later request. -/
theorem resolve_atomic (start table : SymbolTable) (aliases : Aliases) (requests : List Request)
    (ref package : String) (e : ResolveError)
    (h : ((((new start aliases).session requests).2.withTable table).resolve ref package).answer = .error e) :
    ((((new start aliases).session requests).2.withTable table).resolve ref package).resolver
        = ((new start aliases).session requests).2.withTable table ∧
      ∀ later : List Request,
        ((((new start aliases).session requests).2.withTable table).resolve ref package).resolver.session later
          = (((new start aliases).session requests).2.withTable table).session later := by
  have hbefore := (settled_new start aliases).session requests
  have hsettled : (((new start aliases).session requests).2.withTable table).Settled :=
    ⟨hbefore.sound, hbefore.exact⟩
  have hsame := hsettled.resolve_failed h
  exact ⟨hsame, fun later => by rw [hsame]⟩

def petClasses : SymbolTable := ⟨[
  ⟨"Pet", "zoo", [], [⟨"name", "str", true⟩, ⟨"owner", "Owner", false⟩]⟩,
  ⟨"Owner", "zoo", [], [⟨"pets", "list[Pet]", true⟩]⟩]⟩

/-- the two classes, and one that needs a new class, one of the two, and a class that there is not -/
def keeperClasses : SymbolTable :=
  (petClasses.add ⟨"Badge", "zoo", [], [⟨"number", "int", true⟩]⟩).add
    ⟨"Keeper", "zoo", [], [⟨"badge", "Badge", true⟩, ⟨"pets", "list[Pet]", true⟩,
      ⟨"boss", "Ghost", true⟩]⟩

/-- The call has completed one model and met another one that was recorded before. -/
theorem resolve_atomic_keeper :
    let r := ((new petClasses ∅).session [.resolve "Pet" "zoo", .closure "Owner"]).2.withTable keeperClasses
    (r.resolve "Keeper" "zoo").answer = .error (.unresolved "Ghost" "zoo") ∧
      (r.resolve "Keeper" "zoo").completed = [("Badge", "zoo")] ∧
      r.cache.origins.entries = [("Pet", "zoo"), ("Owner", "zoo")] ∧
      (r.resolve "Keeper" "zoo").resolver = r ∧
      (r.resolve "Keeper" "zoo").resolver.session [.resolve "Owner" "zoo"] = r.session [.resolve "Owner" "zoo"] := by
  intro r
  have h : (r.resolve "Keeper" "zoo").answer = .error (.unresolved "Ghost" "zoo") := by decide +kernel
  obtain ⟨hsame, hlater⟩ := resolve_atomic petClasses keeperClasses ∅ _ _ _ _ h
  exact ⟨h, by decide +kernel, by decide +kernel, hsame, hlater _⟩

end Resolver

end RouteDocs.Schema
