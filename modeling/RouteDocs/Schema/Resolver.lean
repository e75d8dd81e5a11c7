import RouteDocs.Schema.Inheritance
import RouteDocs.Schema.Model
import RouteDocs.Text.Quoted

/-!
Resolving a type reference to the models that it reaches.

Every class that a walk opens is recorded with its module at once, and its model is completed when all the classes
that its fields mention have been dealt with; a class that is open or complete is not walked again, so cycles end. A
walk that fails takes back all that it recorded. A class name stands for one class only: a second class of the same
name is a collision.

Main definitions: `Cache`, `Walk.step`, `Walk.run`, `Cache.closure`, `Resolver.resolve`.
-/

namespace RouteDocs.Schema

/-- why a reference has no models -/
inductive ResolveError where
  /-- no class is meant by the reference -/
  | unresolved (ref package : String)
  /-- two classes of one name are needed -/
  | collision (id : String)
  /-- no model of that name has been resolved -/
  | unknownModel (id : String)
deriving DecidableEq

def ResolveError.message : ResolveError → String
  | .unresolved ref package => s!"Can not resolve type {Text.quoted ref} from {Text.quoted package}"
  | .collision id => s!"Conflicting definitions for model {Text.quoted id}"
  | .unknownModel id => Text.quoted id

/-- what has been resolved: for each class name its module, its model, and the models that its model refers to -/
structure Cache where
  origins : OrderedMap String String
  models : OrderedMap String Model
  references : OrderedMap String (List String)
deriving DecidableEq

namespace Cache

def empty : Cache := ⟨∅, ∅, ∅⟩

/-- record a class that is being walked -/
def start (c : Cache) (d : Definition) : Cache := { c with origins := c.origins.insert d.name d.module }

/-- record the model of a class, and the models that it refers to -/
def complete (c : Cache) (m : Model) (references : List String) : Cache :=
  { c with models := c.models.insert m.id m, references := c.references.insert m.id references }

/-- without what was started since an earlier state -/
def rollback (earlier c : Cache) : Cache :=
  let old (id : String) : Bool := earlier.origins.contains id || !c.origins.contains id
  ⟨c.origins.filterKeys old, c.models.filterKeys old, c.references.filterKeys old⟩

/-- the models completed since an earlier state, each with its module -/
def completedSince (earlier c : Cache) : List (String × String) :=
  (c.models.keys.drop earlier.models.size).map fun id => (id, (c.origins.get? id).getD "")

end Cache

/-! ## The walk over definitions -/

/-- a list of names with one more, unless it is there already -/
def addReference (references : List String) (id : String) : List String :=
  if id ∈ references then references else references ++ [id]

/-- a class that is open: its model is being made -/
structure Frame where
  definition : Definition
  /-- all fields of the class -/
  fields : List Field
  /-- the fields that have no property yet -/
  todo : List Field
  properties : OrderedMap String Property
  /-- the models that the properties refer to, in the order of their first mention -/
  references : List String
deriving DecidableEq

namespace Frame

/-- a class none of whose fields has a property yet -/
def start (d : Definition) (fields : List Field) : Frame := ⟨d, fields, fields, ∅, []⟩

def describe (f : Frame) (name : String) (p : Property) : Frame :=
  { f with todo := f.todo.tail, properties := f.properties.insert name p }

/-- the next field gets a property that refers to a model -/
def refer (f : Frame) (name id : String) (isArray : Bool) : Frame :=
  { f.describe name (.ofModel id isArray) with
    references := addReference f.references id }

def model (f : Frame) : Model where
  id := f.definition.name
  required := (f.fields.filter Field.required).map Field.name
  properties := f.properties

end Frame

variable {τ : Type} [TypeLookup τ]

/-- a walk: the open classes, innermost first, what has been recorded, and the table of definitions -/
structure Walk (τ : Type) where
  frames : List Frame
  cache : Cache
  table : τ

/-- where a reference leads: to the name of a class, which may have been opened for it -/
structure Entry (τ : Type) where
  answer : Except ResolveError String
  opened : List Frame
  cache : Cache
  table : τ

/-- follow a reference that is seen from a module -/
def follow (c : Cache) (table : τ) (ref package : String) : Entry τ :=
  match TypeLookup.ask table ref package with
  | (none, table) => ⟨.error (.unresolved ref package), [], c, table⟩
  | (some d, table) =>
    match c.origins.get? d.name with
    | some module => ⟨if module = d.module then .ok d.name else .error (.collision d.name), [], c, table⟩
    | none =>
      let (fields, table) := fieldsOf table d
      ⟨.ok d.name, [.start d fields], c.start d, table⟩

inductive Step (τ : Type) where
  /-- no class is open -/
  | finished
  | failed (e : ResolveError) (w : Walk τ)
  | moved (w : Walk τ)

/-- one step of a walk: the innermost open class gets one more property, or its model is complete -/
def Walk.step (aliases : Aliases) (w : Walk τ) : Step τ :=
  match w.frames with
  | [] => .finished
  | f :: outer =>
    match f.todo with
    | [] => .moved { w with frames := outer, cache := w.cache.complete f.model f.references }
    | field :: _ =>
      match field.typeIn aliases with
      | .primitive type isArray =>
        .moved { w with frames := f.describe field.name (.ofPrimitive type isArray) :: outer }
      | .composite ref isArray =>
        let e := follow w.cache w.table ref f.definition.module
        match e.answer with
        | .error error => .failed error ⟨w.frames, e.cache, e.table⟩
        | .ok id => .moved ⟨e.opened ++ f.refer field.name id isArray :: outer, e.cache, e.table⟩

/-! ### Every walk ends -/

/-- the definitions whose name has not been recorded -/
def Cache.unstarted (ds : List Definition) (c : Cache) : List Definition :=
  ds.filter fun d => !c.origins.contains d.name

theorem contains_start (c : Cache) (d : Definition) (id : String) :
    (c.start d).origins.contains id = (decide (id = d.name) || c.origins.contains id) :=
  OrderedMap.contains_insert _ _ _ _

/-- recording one of the definitions leaves fewer of them -/
theorem length_unstarted_start {ds : List Definition} {c : Cache} {d : Definition} (hd : d ∈ ds)
    (hc : c.origins.get? d.name = none) : ((c.start d).unstarted ds).length < (c.unstarted ds).length := by
  have hsub : ((c.start d).unstarted ds).Sublist (c.unstarted ds) := by
    have : (c.start d).unstarted ds = (c.unstarted ds).filter fun e => !decide (e.name = d.name) := by
      unfold Cache.unstarted
      rw [List.filter_filter]
      congr 1
      funext e
      simp [contains_start]
    rw [this]
    exact List.filter_sublist
  refine Nat.lt_of_le_of_ne hsub.length_le fun hl => ?_
  have hm : d ∈ c.unstarted ds := List.mem_filter.2 ⟨hd, by simp [OrderedMap.contains, hc]⟩
  rw [← hsub.eq_of_length hl] at hm
  have := (List.mem_filter.1 hm).2
  simp [contains_start] at this

/-- the definitions that a walk may still open -/
def Walk.unopened (w : Walk τ) : List Definition := w.cache.unstarted (TypeLookup.range w.table)

/-- the steps that the open classes still need -/
def Walk.pendingSteps (w : Walk τ) : Nat := w.frames.foldr (fun f steps => f.todo.length + 1 + steps) 0

/-- where following a reference may lead: nowhere, to a second class of a name, to a class that has been recorded, or
to a new one, which is opened -/
inductive Follows (c : Cache) (table : τ) (ref package : String) : Entry τ → Prop
  | unresolved {after : τ} (asked : TypeLookup.ask table ref package = (none, after)) :
    Follows c table ref package ⟨.error (.unresolved ref package), [], c, after⟩
  | collision {d : Definition} {module : String} {after : τ}
    (asked : TypeLookup.ask table ref package = (some d, after)) (found : c.origins.get? d.name = some module)
    (other : module ≠ d.module) : Follows c table ref package ⟨.error (.collision d.name), [], c, after⟩
  | known {d : Definition} {after : τ} (asked : TypeLookup.ask table ref package = (some d, after))
    (found : c.origins.get? d.name = some d.module) : Follows c table ref package ⟨.ok d.name, [], c, after⟩
  | opened {d : Definition} {after : τ} (asked : TypeLookup.ask table ref package = (some d, after))
    (new : c.origins.get? d.name = none) :
    Follows c table ref package
      ⟨.ok d.name, [.start d (fieldsOf after d).1], c.start d, (fieldsOf after d).2⟩

theorem follows_follow (c : Cache) (table : τ) (ref package : String) :
    Follows c table ref package (follow c table ref package) := by
  unfold follow
  split
  · next asked => exact .unresolved asked
  · next d after asked =>
    split
    · next module found =>
      split
      · next same => exact .known asked (same ▸ found)
      · next other => exact .collision asked found other
    · next new => exact .opened asked new

/-- what a step of a walk does when it moves on -/
inductive Moves (aliases : Aliases) : Walk τ → Walk τ → Prop
  /-- the model of the innermost class is complete -/
  | close {f : Frame} {outer : List Frame} {c : Cache} {table : τ} (todo : f.todo = []) :
    Moves aliases ⟨f :: outer, c, table⟩ ⟨outer, c.complete f.model f.references, table⟩
  /-- a field of primitive type gets its property -/
  | primitive {f : Frame} {outer : List Frame} {c : Cache} {table : τ} {field : Field} {rest : List Field}
    {type : WireType} {isArray : Bool} (todo : f.todo = field :: rest)
    (typed : field.typeIn aliases = .primitive type isArray) :
    Moves aliases ⟨f :: outer, c, table⟩
      ⟨f.describe field.name (.ofPrimitive type isArray) :: outer, c, table⟩
  /-- a field refers to a class that has been recorded -/
  | known {f : Frame} {outer : List Frame} {c : Cache} {table after : τ} {field : Field} {rest : List Field}
    {ref : String} {isArray : Bool} {d : Definition} (todo : f.todo = field :: rest)
    (typed : field.typeIn aliases = .composite ref isArray)
    (asked : TypeLookup.ask table ref f.definition.module = (some d, after))
    (found : c.origins.get? d.name = some d.module) :
    Moves aliases ⟨f :: outer, c, table⟩ ⟨f.refer field.name d.name isArray :: outer, c, after⟩
  /-- a field refers to a new class, which is opened -/
  | opened {f : Frame} {outer : List Frame} {c : Cache} {table after : τ} {field : Field} {rest : List Field}
    {ref : String} {isArray : Bool} {d : Definition} (todo : f.todo = field :: rest)
    (typed : field.typeIn aliases = .composite ref isArray)
    (asked : TypeLookup.ask table ref f.definition.module = (some d, after))
    (new : c.origins.get? d.name = none) :
    Moves aliases ⟨f :: outer, c, table⟩
      ⟨.start d (fieldsOf after d).1 :: f.refer field.name d.name isArray :: outer, c.start d,
        (fieldsOf after d).2⟩

theorem Walk.moves_of_step {aliases : Aliases} {w v : Walk τ} (h : w.step aliases = .moved v) :
    Moves aliases w v := by
  obtain ⟨frames, c, table⟩ := w
  unfold Walk.step at h
  cases frames with
  | nil => simp at h
  | cons f outer =>
    simp only at h
    split at h
    · next todo =>
      cases h
      exact .close todo
    · next field rest todo =>
      split at h
      · next type isArray typed =>
        cases h
        exact .primitive todo typed
      · next ref isArray typed =>
        have hf := follows_follow c table ref f.definition.module
        generalize follow c table ref f.definition.module = e at h hf
        split at h
        · simp at h
        · next id hid =>
          cases h
          cases hf with
          | unresolved asked => simp at hid
          | collision asked found other => simp at hid
          | known asked found => cases hid; exact .known todo typed asked found
          | opened asked new => cases hid; exact .opened todo typed asked new

theorem Cache.unstarted_complete (ds : List Definition) (c : Cache) (m : Model) (references : List String) :
    (c.complete m references).unstarted ds = c.unstarted ds := rfl

/-- A bound for the steps that are left: a definition that may still be opened takes one step for each of its fields,
and two more to open and to close it. -/
def Walk.remaining (w : Walk τ) : Nat :=
  w.unopened.length * ((fieldNames (TypeLookup.range w.table)).length + 2) + w.pendingSteps

/-- a step that moves on leaves fewer steps to do -/
theorem Walk.decreases {aliases : Aliases} {w v : Walk τ} (h : w.step aliases = .moved v) :
    v.remaining < w.remaining := by
  cases Walk.moves_of_step h with
  | close todo => simp [remaining, unopened, Cache.unstarted_complete, pendingSteps, todo]
  | primitive todo typed => simp [remaining, unopened, pendingSteps, Frame.describe, todo]
  | @known f outer c table after field rest ref isArray d todo typed asked found =>
    have hr : TypeLookup.range after = TypeLookup.range table := by
      rw [← TypeLookup.range_ask table ref f.definition.module, asked]
    simp [remaining, unopened, pendingSteps, Frame.refer, Frame.describe, todo, hr]
  | @opened f outer c table after field rest ref isArray d todo typed asked new =>
    have hr : TypeLookup.range after = TypeLookup.range table := by
      rw [← TypeLookup.range_ask table ref f.definition.module, asked]
    have hd : d ∈ TypeLookup.range table := TypeLookup.mem_range (by rw [asked])
    have hfields := length_fieldsOf_le (hr.symm ▸ hd)
    have hfewer := length_unstarted_start hd new
    have hproduct := Nat.mul_le_mul_right ((fieldNames (TypeLookup.range table)).length + 2) hfewer
    rw [Nat.succ_mul] at hproduct
    rw [hr] at hfields
    simp only [remaining, unopened, range_fieldsOf, hr, pendingSteps, List.foldr_cons, Frame.start, Frame.refer,
      Frame.describe, todo, List.tail_cons, List.length_cons]
    omega

/-- all steps of a walk, up to the first failure -/
def Walk.run (aliases : Aliases) (w : Walk τ) : Option ResolveError × Walk τ :=
  match _h : w.step aliases with
  | .finished => (none, w)
  | .failed e v => (some e, v)
  | .moved v => v.run aliases
termination_by w.remaining
decreasing_by exact Walk.decreases _h

/-! ## The models that a model reaches -/

/-- the references of the models that are not in `order`, and one more for each of these models -/
def unlistedReferences (order : List String) (references : List (String × List String)) : Nat :=
  references.foldr (fun e n => (if e.1 ∈ order then 0 else e.2.length + 1) + n) 0

theorem unlistedReferences_cons (order : List String) (e : String × List String) (es : List (String × List String)) :
    unlistedReferences order (e :: es)
      = (if e.1 ∈ order then 0 else e.2.length + 1) + unlistedReferences order es := rfl

theorem unlistedReferences_append_le (order : List String) (id : String) (es : List (String × List String)) :
    unlistedReferences (order ++ [id]) es ≤ unlistedReferences order es := by
  induction es with
  | nil => exact Nat.le_refl 0
  | cons e rest ih =>
    rw [unlistedReferences_cons, unlistedReferences_cons]
    by_cases ho : e.1 ∈ order
    · simpa [ho] using ih
    · rw [if_neg ho]
      split <;> omega

/-- a model that is listed leaves fewer references to list, by its own -/
theorem unlistedReferences_append_lt {order : List String} {id : String} {refs : List String}
    {es : List (String × List String)} (hr : es.lookup id = some refs) (ho : id ∉ order) :
    unlistedReferences (order ++ [id]) es + (refs.length + 1) ≤ unlistedReferences order es := by
  induction es with
  | nil => simp at hr
  | cons e rest ih =>
    obtain ⟨k, rs⟩ := e
    rw [unlistedReferences_cons, unlistedReferences_cons]
    by_cases hk : id = k
    · subst hk
      obtain rfl : rs = refs := by simpa using hr
      have hle := unlistedReferences_append_le order id rest
      rw [if_pos (List.mem_append_right _ List.mem_cons_self), if_neg ho]
      dsimp only
      omega
    · rw [List.lookup_cons, beq_eq_false_iff_ne.2 hk] at hr
      have hrest := ih hr
      have hmem : k ∈ order ++ [id] ↔ k ∈ order := by simp [Ne.symm hk]
      simp only [hmem]
      omega

/-- the names reached from those in `pending`, nearest first, after those in `order` -/
def Cache.reach (c : Cache) : (pending order : List String) → Except ResolveError (List String)
  | [], order => .ok order
  | id :: pending, order =>
    if _ho : id ∈ order then c.reach pending order
    else match _hr : c.references.get? id with
      | none => .error (.unknownModel id)
      | some refs => c.reach (pending ++ refs) (order ++ [id])
termination_by pending order => pending.length + unlistedReferences order c.references.entries
decreasing_by
  · simp
  · have := unlistedReferences_append_lt _hr _ho
    rw [List.length_append, List.length_cons]
    omega

def Cache.model (c : Cache) (id : String) : Except ResolveError Model :=
  match c.models.get? id with
  | some m => .ok m
  | none => .error (.unknownModel id)

/-- a model and all that it reaches, nearest first -/
def Cache.closure (c : Cache) (id : String) : Except ResolveError (List Model) := do
  (← c.reach [id] []).mapM c.model

/-! ## The resolver -/

/-- what references are resolved with, and what has been resolved -/
structure Resolver (τ : Type := SymbolTable) where
  table : τ
  aliases : Aliases
  cache : Cache
deriving DecidableEq

namespace Resolver

def new (table : τ) (aliases : Aliases) : Resolver τ := ⟨table, aliases, .empty⟩

def primitiveName? (r : Resolver τ) (ref : String) : Option String := Schema.primitiveName? r.aliases ref

structure Resolution (τ : Type) where
  answer : Except ResolveError (List Model)
  /-- the resolver afterwards -/
  resolver : Resolver τ
  /-- the models completed on the way, each with its module, also when they were taken back -/
  completed : List (String × String)

/-- The outcome when a walk is over. A walk that failed leaves the cache as it was. -/
def settle (r : Resolver τ) (answer : Except ResolveError String) (w : Walk τ) : Resolution τ :=
  let completed := Cache.completedSince r.cache w.cache
  match answer with
  | .error e => ⟨.error e, { r with table := w.table, cache := Cache.rollback r.cache w.cache }, completed⟩
  | .ok id => ⟨w.cache.closure id, { r with table := w.table, cache := w.cache }, completed⟩

/-- The models that a reference reaches, as seen from a module: the one it means comes first. A primitive reaches
none. -/
def resolve (r : Resolver τ) (ref package : String) : Resolution τ :=
  if (r.primitiveName? ref).isSome then ⟨.ok [], r, []⟩
  else
    let entry := follow r.cache r.table ref package
    match Walk.run r.aliases ⟨entry.opened, entry.cache, entry.table⟩ with
    | (some e, w) => r.settle (.error e) w
    | (none, w) => r.settle entry.answer w

end Resolver

end RouteDocs.Schema
