/-
Resolving a reference as a recursion: a class is built when the first reference to it is met, and building it resolves
the references of its fields.

The recursion is a pair of relations (`Resolves`, `Describes`) without any bound on how deep it goes, so that one of
their derivations is a recursion that has come to its end. It ends because a class is recorded before it is built, and
what has been recorded is not built again.

- `Resolves.built_once`, `Describes.built_once`: no class name is built twice, and none that had been recorded before.
- `Resolves.run`, `Describes.run`: the walk over the open classes is this recursion, with its stack written out.
- `describes_ends`: building a class ends, whatever the table, the aliases and the cache are.
- `Resolver.resolve_recursion`: a call is such a recursion, and it ends.
-/
import RouteDocs.Proofs.Schema.PostOrder
import RouteDocs.Proofs.Schema.Resolution

namespace RouteDocs.Schema

/-! ## The recursion -/

mutual

/-- Resolving a reference that is seen from a module: the classes that are built on the way, in the order in which they
are begun; the name of the class that is meant, or why there is none; and what has been recorded afterwards. -/
inductive Resolves (table : SymbolTable) (aliases : Aliases) :
    (c : Cache) → (ref package : String) → (built : List Definition) → (answer : Except ResolveError String) →
      (after : Cache) → Prop
  /-- no class is meant -/
  | unresolved {c : Cache} {ref package : String} (unknown : table.lookup ref package = none) :
    Resolves table aliases c ref package [] (.error (.unresolved ref package)) c
  /-- a class of the name has been recorded, and it is another one -/
  | collision {c : Cache} {ref package module : String} {d : Definition} (means : table.lookup ref package = some d)
    (found : c.origins.get? d.name = some module) (other : module ≠ d.module) :
    Resolves table aliases c ref package [] (.error (.collision d.name)) c
  /-- the class has been recorded: it is complete, or it is being built -/
  | known {c : Cache} {ref package : String} {d : Definition} (means : table.lookup ref package = some d)
    (found : c.origins.get? d.name = some d.module) : Resolves table aliases c ref package [] (.ok d.name) c
  /-- the class is new: it is recorded, its fields are collected, and its model is built -/
  | built {c middle : Cache} {ref package : String} {d : Definition} {order inner : List Definition}
    {seen : List String} {g : Frame} (means : table.lookup ref package = some d)
    (new : c.origins.get? d.name = none) (collected : table.Visits d.module d.bases [d.fullName] order seen)
    (described : Describes table aliases (c.start d) (.start d (FieldMap.ofClasses (order ++ [d])).values) inner
      (.ok g) middle) :
    Resolves table aliases c ref package (d :: inner) (.ok d.name) (middle.complete g.model g.references)
  /-- the class is new, and its model can not be built -/
  | broken {c after : Cache} {ref package : String} {d : Definition} {order inner : List Definition}
    {seen : List String} {e : ResolveError} (means : table.lookup ref package = some d)
    (new : c.origins.get? d.name = none) (collected : table.Visits d.module d.bases [d.fullName] order seen)
    (described : Describes table aliases (c.start d) (.start d (FieldMap.ofClasses (order ++ [d])).values) inner
      (.error e) after) :
    Resolves table aliases c ref package (d :: inner) (.error e) after

/-- Giving each field of an open class its property, in turn: the classes that are built on the way, the class when
every field has its property, or what is wrong with one, and what has been recorded afterwards. -/
inductive Describes (table : SymbolTable) (aliases : Aliases) :
    (c : Cache) → (f : Frame) → (built : List Definition) → (answer : Except ResolveError Frame) →
      (after : Cache) → Prop
  | done {c : Cache} {f : Frame} (todo : f.todo = []) : Describes table aliases c f [] (.ok f) c
  | primitive {c after : Cache} {f : Frame} {field : Field} {rest : List Field} {type : WireType} {isArray : Bool}
    {built : List Definition} {answer : Except ResolveError Frame} (todo : f.todo = field :: rest)
    (typed : field.typeIn aliases = .primitive type isArray)
    (later : Describes table aliases c (f.describe field.name (.ofPrimitive type isArray)) built answer after) :
    Describes table aliases c f built answer after
  /-- a field refers to a class, which is resolved before the next field -/
  | composite {c middle after : Cache} {f : Frame} {field : Field} {rest : List Field} {ref id : String}
    {isArray : Bool} {inner built : List Definition} {answer : Except ResolveError Frame}
    (todo : f.todo = field :: rest) (typed : field.typeIn aliases = .composite ref isArray)
    (resolved : Resolves table aliases c ref f.definition.module inner (.ok id) middle)
    (later : Describes table aliases middle (f.refer field.name id isArray) built answer after) :
    Describes table aliases c f (inner ++ built) answer after
  | broken {c after : Cache} {f : Frame} {field : Field} {rest : List Field} {ref : String} {isArray : Bool}
    {inner : List Definition} {e : ResolveError} (todo : f.todo = field :: rest)
    (typed : field.typeIn aliases = .composite ref isArray)
    (resolved : Resolves table aliases c ref f.definition.module inner (.error e) after) :
    Describes table aliases c f inner (.error e) after

end

variable {table : SymbolTable} {aliases : Aliases}

/-! ## Classes are built once -/

/-- What the classes are that are built between two states of a cache: classes of the table, of distinct names, each of
which was not recorded before and is afterwards. Nothing that was recorded before is lost. -/
structure BuiltOnce (table : SymbolTable) (c : Cache) (built : List Definition) (after : Cache) : Prop where
  listed : ∀ d ∈ built, d ∈ table.definitions
  distinct : (built.map Definition.name).Nodup
  new : ∀ d ∈ built, c.origins.contains d.name = false
  recorded : ∀ d ∈ built, after.origins.contains d.name = true
  kept : ∀ id, c.origins.contains id = true → after.origins.contains id = true

namespace BuiltOnce

variable {c middle after : Cache} {first second built : List Definition} {d : Definition}

theorem nil (table : SymbolTable) (c : Cache) : BuiltOnce table c [] c := by constructor <;> simp

theorem append (h : BuiltOnce table c first middle) (h' : BuiltOnce table middle second after) :
    BuiltOnce table c (first ++ second) after := by
  -- what has been recorded half way is not built later
  have hlater : ∀ e ∈ second, c.origins.contains e.name = false := by
    intro e he
    by_contra hold
    have hmiddle := h.kept e.name (by simpa using hold)
    rw [h'.new e he] at hmiddle
    cases hmiddle
  refine ⟨?_, ?_, ?_, ?_, fun id hid => h'.kept id (h.kept id hid)⟩
  · exact List.forall_mem_append.2 ⟨h.listed, h'.listed⟩
  · rw [List.map_append]
    refine h.distinct.append h'.distinct fun name hfirst hsecond => ?_
    obtain ⟨a, ha, rfl⟩ := List.mem_map.1 hfirst
    obtain ⟨b, hb, hname⟩ := List.mem_map.1 hsecond
    have hmiddle := h.recorded a ha
    rw [← hname, h'.new b hb] at hmiddle
    cases hmiddle
  · exact List.forall_mem_append.2 ⟨h.new, hlater⟩
  · exact List.forall_mem_append.2 ⟨fun a ha => h'.kept _ (h.recorded a ha), h'.recorded⟩

/-- a class that is recorded and then built -/
theorem cons (hd : d ∈ table.definitions) (hnew : c.origins.get? d.name = none)
    (h : BuiltOnce table (c.start d) built after) : BuiltOnce table c (d :: built) after := by
  have hstart : BuiltOnce table c [d] (c.start d) := by
    refine ⟨by simpa using hd, by simp, ?_, ?_, fun id hid => ?_⟩
    · simpa using OrderedMap.get?_eq_none.1 hnew
    · simp [contains_start]
    · simp [contains_start, hid]
  exact hstart.append h

theorem complete (h : BuiltOnce table c built after) (m : Model) (references : List String) :
    BuiltOnce table c built (after.complete m references) :=
  ⟨h.listed, h.distinct, h.new, h.recorded, h.kept⟩

/-- building classes leaves no more of the definitions unrecorded -/
theorem length_unstarted_le (h : BuiltOnce table c built after) (ds : List Definition) :
    (after.unstarted ds).length ≤ (c.unstarted ds).length := by
  refine (List.monotone_filter_right ds fun d hd => ?_).length_le
  simp only [Bool.not_eq_true'] at hd ⊢
  by_contra hold
  rw [h.kept d.name (by simpa using hold)] at hd
  cases hd

end BuiltOnce

mutual

/-- resolving a reference builds no class name twice, and none that had been recorded -/
theorem Resolves.built_once {c after : Cache} {ref package : String} {built : List Definition}
    {answer : Except ResolveError String} (h : Resolves table aliases c ref package built answer after) :
    BuiltOnce table c built after :=
  match h with
  | .unresolved _ => .nil table c
  | .collision _ _ _ => .nil table c
  | .known _ _ => .nil table c
  | .built means new _ described =>
    (described.built_once.cons (SymbolTable.mem_of_lookup means).1 new).complete _ _
  | .broken means new _ described => described.built_once.cons (SymbolTable.mem_of_lookup means).1 new

/-- describing the fields of a class builds no class name twice, and none that had been recorded -/
theorem Describes.built_once {c after : Cache} {f : Frame} {built : List Definition}
    {answer : Except ResolveError Frame} (h : Describes table aliases c f built answer after) :
    BuiltOnce table c built after :=
  match h with
  | .done _ => .nil table c
  | .primitive _ _ later => later.built_once
  | .composite _ _ resolved later => resolved.built_once.append later.built_once
  | .broken _ _ resolved => resolved.built_once

end

/-! ## The walk is the recursion -/

/-- a new class is opened with the fields that have been collected for it -/
theorem follow_new {c : Cache} {ref package : String} {d : Definition} {order : List Definition} {seen : List String}
    (means : table.lookup ref package = some d) (new : c.origins.get? d.name = none)
    (collected : table.Visits d.module d.bases [d.fullName] order seen) :
    follow c table ref package
      = ⟨.ok d.name, [.start d (FieldMap.ofClasses (order ++ [d])).values], c.start d, table⟩ := by
  have hasked : TypeLookup.ask table ref package = (some d, table) := by rw [SymbolTable.ask_eq, means]
  rw [(Follows.opened hasked new).follow_eq, SymbolTable.fieldsOf_table, collected.fieldsOf_eq]

/-- the walk that a reference starts, above the classes that are open already -/
def Walk.following (c : Cache) (table : SymbolTable) (ref package : String) (outer : List Frame) : Walk SymbolTable :=
  let e := follow c table ref package
  ⟨e.opened ++ outer, e.cache, e.table⟩

/-- a field that refers to a class: the walk goes on with the classes that are opened for it -/
theorem Walk.run_composite {c : Cache} {f : Frame} {field : Field} {rest : List Field} {ref id : String}
    {isArray : Bool} (todo : f.todo = field :: rest) (typed : field.typeIn aliases = .composite ref isArray)
    (hanswer : (follow c table ref f.definition.module).answer = .ok id) (outer : List Frame) :
    Walk.run aliases ⟨f :: outer, c, table⟩
      = (Walk.following c table ref f.definition.module (f.refer field.name id isArray :: outer)).run aliases :=
  Walk.run_moved (by simp [Walk.step, Walk.following, todo, typed, hanswer])

/-- What following a reference comes to: the class that is meant has been recorded, and the walk goes on below it; or
the reference is not followed at all; or it is, and the walk fails. -/
def Follow.EndsIn (table : SymbolTable) (aliases : Aliases) (c : Cache) (ref package : String) (after : Cache) :
    Except ResolveError String → Prop
  | .ok id => (follow c table ref package).answer = .ok id ∧
      ∀ outer, (Walk.following c table ref package outer).run aliases = Walk.run aliases ⟨outer, after, table⟩
  | .error e => follow c table ref package = ⟨.error e, [], after, table⟩ ∨
      ∃ id, (follow c table ref package).answer = .ok id ∧
        ∀ outer, ∃ frames,
          (Walk.following c table ref package outer).run aliases = (some e, ⟨frames, after, table⟩)

/-- What a walk over an open class comes to: the class is closed and the walk goes on below it, or the walk fails. -/
def Frame.EndsIn (table : SymbolTable) (aliases : Aliases) (c : Cache) (f : Frame) (after : Cache) :
    Except ResolveError Frame → Prop
  | .ok g => ∀ outer, Walk.run aliases ⟨f :: outer, c, table⟩
      = Walk.run aliases ⟨outer, after.complete g.model g.references, table⟩
  | .error e => ∀ outer, ∃ frames, Walk.run aliases ⟨f :: outer, c, table⟩
      = (some e, ⟨frames, after, table⟩)

/-- a walk comes to what it comes to after some of its steps -/
theorem Frame.EndsIn.of_run {c b after : Cache} {f g : Frame} {answer : Except ResolveError Frame}
    (h : g.EndsIn table aliases b after answer)
    (hrun : ∀ outer, Walk.run aliases ⟨f :: outer, c, table⟩ = Walk.run aliases ⟨g :: outer, b, table⟩) :
    f.EndsIn table aliases c after answer := by
  cases answer with
  | ok last =>
    intro outer
    rw [hrun outer]
    exact h outer
  | error e =>
    intro outer
    rw [hrun outer]
    exact h outer

mutual

/-- The walk that follows a reference comes to what the recursion comes to. -/
theorem Resolves.run {c after : Cache} {ref package : String} {built : List Definition}
    {answer : Except ResolveError String} (h : Resolves table aliases c ref package built answer after) :
    Follow.EndsIn table aliases c ref package after answer :=
  match h with
  | .unresolved unknown => by
    have hasked : TypeLookup.ask table ref package = (none, table) := by rw [SymbolTable.ask_eq, unknown]
    exact Or.inl (Follows.unresolved hasked).follow_eq
  | .collision (d := d) means found other => by
    have hasked : TypeLookup.ask table ref package = (some d, table) := by rw [SymbolTable.ask_eq, means]
    exact Or.inl (Follows.collision hasked found other).follow_eq
  | .known (d := d) means found => by
    have hasked : TypeLookup.ask table ref package = (some d, table) := by rw [SymbolTable.ask_eq, means]
    have hfollow := (Follows.known hasked found).follow_eq
    refine ⟨by rw [hfollow], fun outer => ?_⟩
    rw [Walk.following, hfollow]
    rfl
  | .built means new collected described => by
    have hfollow := follow_new means new collected
    refine ⟨by rw [hfollow], fun outer => ?_⟩
    rw [Walk.following, hfollow]
    exact described.run outer
  | .broken (d := d) means new collected described => by
    have hfollow := follow_new means new collected
    refine Or.inr ⟨d.name, by rw [hfollow], fun outer => ?_⟩
    rw [Walk.following, hfollow]
    exact described.run outer

/-- The walk over an open class comes to what the recursion comes to. -/
theorem Describes.run {c after : Cache} {f : Frame} {built : List Definition} {answer : Except ResolveError Frame}
    (h : Describes table aliases c f built answer after) : f.EndsIn table aliases c after answer :=
  match h with
  | .done todo => fun outer => Walk.run_moved (Walk.step_of_moves (.close todo))
  | .primitive todo typed later =>
    later.run.of_run fun outer => Walk.run_moved (Walk.step_of_moves (.primitive todo typed))
  | .composite todo typed resolved later => by
    obtain ⟨hanswer, hrun⟩ := resolved.run
    exact later.run.of_run fun outer => (Walk.run_composite todo typed hanswer outer).trans (hrun _)
  | .broken todo typed resolved => by
    intro outer
    rcases resolved.run with hfollow | ⟨id, hanswer, hruns⟩
    · exact ⟨f :: outer, Walk.run_failed (by simp [Walk.step, todo, typed, hfollow])⟩
    · rw [Walk.run_composite todo typed hanswer outer]
      exact hruns _

end

/-! ## The recursion ends -/

/-- A reference can be resolved, if building the class that it may open comes to an end. -/
theorem resolves_of_describes {c : Cache} (ref package : String)
    (hbuild : ∀ d ∈ table.definitions, c.origins.get? d.name = none → ∀ fields,
      ∃ built answer after, Describes table aliases (c.start d) (.start d fields) built answer after) :
    ∃ built answer after, Resolves table aliases c ref package built answer after := by
  cases hlookup : table.lookup ref package with
  | none => exact ⟨_, _, _, .unresolved hlookup⟩
  | some d =>
    cases horigin : c.origins.get? d.name with
    | some module =>
      by_cases hsame : module = d.module
      · subst hsame
        exact ⟨_, _, _, .known hlookup horigin⟩
      · exact ⟨_, _, _, .collision hlookup horigin hsame⟩
    | none =>
      obtain ⟨order, seen, hvisits, -⟩ := table.visits_lineage d
      have hd := (SymbolTable.mem_of_lookup hlookup).1
      obtain ⟨inner, answer, after, hdescribed⟩ :=
        hbuild d hd horigin (FieldMap.ofClasses (order ++ [d])).values
      cases answer with
      | ok g => exact ⟨_, _, _, .built hlookup horigin hvisits hdescribed⟩
      | error e => exact ⟨_, _, _, .broken hlookup horigin hvisits hdescribed⟩

/-- The fields of an open class are described in the end, if building a class ends whenever fewer definitions than that
are not recorded. By induction on the fields that have no property yet; the cache may have grown when the next one is
looked at. -/
theorem describes_of_fewer {limit : Nat}
    (hfewer : ∀ c f, (c.unstarted table.definitions).length < limit →
      ∃ built answer after, Describes table aliases c f built answer after)
    {todo : List Field} {f : Frame} {c : Cache} (htodo : f.todo = todo)
    (hc : (c.unstarted table.definitions).length ≤ limit) :
    ∃ built answer after, Describes table aliases c f built answer after := by
  induction todo generalizing f c with
  | nil => exact ⟨_, _, _, .done htodo⟩
  | cons field rest ih =>
    cases htyped : field.typeIn aliases with
    | primitive type isArray =>
      have hrest : (f.describe field.name (.ofPrimitive type isArray)).todo = rest := by simp [Frame.describe, htodo]
      obtain ⟨built, answer, after, hlater⟩ := ih hrest hc
      exact ⟨_, _, _, .primitive htodo htyped hlater⟩
    | composite ref isArray =>
      obtain ⟨inner, answer, middle, hresolved⟩ :=
        resolves_of_describes (c := c) ref f.definition.module fun d hd hnew fields =>
          hfewer (c.start d) (.start d fields) ((length_unstarted_start hd hnew).trans_le hc)
      cases answer with
      | error e => exact ⟨_, _, _, .broken htodo htyped hresolved⟩
      | ok id =>
        have hmiddle := hresolved.built_once.length_unstarted_le table.definitions
        have hrest : (f.refer field.name id isArray).todo = rest := by simp [Frame.refer, Frame.describe, htodo]
        obtain ⟨built, answer, after, hlater⟩ := ih hrest (hmiddle.trans hc)
        exact ⟨_, _, _, .composite htodo htyped hresolved hlater⟩

/-- **Building a class ends.** By induction on the number of the definitions that are not recorded, of which there are
fewer when a class is opened. -/
theorem describes_ends (table : SymbolTable) (aliases : Aliases) (c : Cache) (f : Frame) :
    ∃ built answer after, Describes table aliases c f built answer after := by
  induction hn : (c.unstarted table.definitions).length using Nat.strong_induction_on generalizing c f with
  | _ n ih =>
    subst hn
    exact describes_of_fewer (fun b g hb => ih _ hb b g rfl) rfl le_rfl

/-- resolving a reference ends -/
theorem resolves_ends (table : SymbolTable) (aliases : Aliases) (c : Cache) (ref package : String) :
    ∃ built answer after, Resolves table aliases c ref package built answer after :=
  resolves_of_describes ref package fun d _ _ fields => describes_ends table aliases (c.start d) (.start d fields)

namespace Resolver

/-- **Every call ends, and builds a class name at most once.** A call is a recursion over the classes that the reference
needs, and this recursion ends, whatever the table, the aliases and the cache are. What it builds are classes of the
table, no two of one name and none of a name that the cache had recorded. If the reference is not primitive, the call
answers with what the recursion ends with, be it a class or a failure. -/
theorem resolve_recursion (r : Resolver) (ref package : String) :
    (∃ built answer after, Resolves r.table r.aliases r.cache ref package built answer after) ∧
      ∀ built answer after, Resolves r.table r.aliases r.cache ref package built answer after →
        (∀ d ∈ built, d ∈ r.table.definitions) ∧ (built.map Definition.name).Nodup ∧
        (∀ d ∈ built, r.cache.origins.contains d.name = false) ∧
        r.resolve ref package
          = if (r.primitiveName? ref).isSome then ⟨.ok [], r, []⟩
            else r.settle answer ⟨[], after, r.table⟩ := by
  refine ⟨resolves_ends r.table r.aliases r.cache ref package, fun built answer after hresolves => ?_⟩
  have honce := hresolves.built_once
  refine ⟨honce.listed, honce.distinct, honce.new, ?_⟩
  cases hprim : r.primitiveName? ref with
  | some name => exact resolve_primitive (by simp [hprim]) package
  | none =>
    have hwalk : r.walk ref package = Walk.following r.cache r.table ref package [] := by
      simp [walk, Walk.following]
    rw [resolve_eq hprim, reached, walked, hwalk]
    cases answer with
    | ok id =>
      obtain ⟨hanswer, hrun⟩ := hresolves.run
      rw [hrun, Walk.run_finished rfl, hanswer]
      rfl
    | error e =>
      rcases hresolves.run with hfollow | ⟨id, -, hruns⟩
      · rw [Walk.following, hfollow, Walk.run_finished rfl]
        rfl
      · obtain ⟨frames, hrun⟩ := hruns []
        rw [hrun]
        rfl

/-- a class that refers to itself, and to a class that refers back to it -/
def nodeClass : Definition :=
  ⟨"Node", "app.tree", ["Leaf"], [⟨"parent", "Node | None", false⟩, ⟨"leaves", "list[Leaf]", true⟩]⟩

/-- a class that is among its own bases, as its base derives from it -/
def leafClass : Definition := ⟨"Leaf", "app.tree", ["Node"], [⟨"owner", "Node", true⟩]⟩

/-- Cycles among fields and among bases do no harm: each of the two classes has its model. -/
example :
    ((new (SymbolTable.mk [nodeClass, leafClass]) ∅).resolve "Node" "app.tree").completed.map Prod.fst
      = ["Leaf", "Node"] := by
  decide +kernel

end Resolver

end RouteDocs.Schema
