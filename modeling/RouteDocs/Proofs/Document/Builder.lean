/-
Builders: what a resource has after operations have been added.

- `Registry.Held.mergeAll`: models that one cache holds never collide in a registry, and all of them are registered.
- `Builder.SelfContained.add`: adding an operation that brings its models succeeds, and what the operations of a
  resource refer to stays registered there.
- `Builder.grouped_groupByPath`: grouping by path neither makes up nor moves operations.
-/
import RouteDocs.Document.Builder
import RouteDocs.Proofs.Operation.Supported

namespace RouteDocs

open Schema

theorem OrderedMap.sameEntries_self {α β : Type} [DecidableEq α] [DecidableEq β] (m : OrderedMap α β) :
    m.sameEntries m = true := by
  simp only [OrderedMap.sameEntries, beq_self_eq_true, Bool.true_and, List.all_eq_true, decide_eq_true_eq]
  exact fun e he => OrderedMap.get?_eq_some.2 he

theorem Schema.Model.agrees_self (m : Model) : m.agrees m = true := by
  simp [Model.agrees, OrderedMap.sameEntries_self]

/-! ## Registries -/

namespace Registry

/-- every registered model is held by a cache under its name -/
def Held (c : Cache) (r : Registry) : Prop :=
  ∀ k m, r.models.get? k = some m → m.id = k ∧ c.models.get? k = some m

theorem held_empty (c : Cache) : empty.Held c := fun k m h => by cases h

theorem Held.mono {b c : Cache} {r : Registry} (h : r.Held b) (hext : b.Extends c) : r.Held c :=
  fun k m hk => ⟨(h k m hk).1, OrderedMap.get?_of_prefix hext.models (h k m hk).2⟩

/-- a model that the cache holds does not collide, and is registered -/
theorem Held.merge {c : Cache} {r : Registry} (hr : r.Held c) {m : Model} (hm : c.models.get? m.id = some m) :
    ∃ r', r.merge m = .ok r' ∧ r'.Held c ∧
      ∀ k, r'.models.contains k = true ↔ r.models.contains k = true ∨ m.id = k := by
  unfold Registry.merge
  cases hknown : r.models.get? m.id with
  | none =>
    refine ⟨_, rfl, fun k n hk => ?_, fun k => ?_⟩
    · rw [OrderedMap.get?_insert] at hk
      split at hk
      · next he =>
        obtain rfl := Option.some.inj hk
        exact ⟨he.symm, he ▸ hm⟩
      · exact hr k n hk
    · rw [OrderedMap.contains_insert, Bool.or_eq_true, decide_eq_true_eq, or_comm, eq_comm (a := k)]
  | some known =>
    -- the model that is registered under the name is the one that the cache holds
    obtain rfl : known = m := Option.some.inj ((hr _ _ hknown).2.symm.trans hm)
    refine ⟨r, if_pos known.agrees_self, hr, fun k => ⟨Or.inl, fun h => ?_⟩⟩
    rcases h with h | rfl
    · exact h
    · exact OrderedMap.contains_of_get? hknown

/-- models that the cache holds never collide, and are registered -/
theorem Held.mergeAll {c : Cache} {r : Registry} (hr : r.Held c) (ms : List Model)
    (hms : ∀ m ∈ ms, c.models.get? m.id = some m) :
    ∃ r', r.mergeAll ms = (r', none) ∧ r'.Held c ∧
      ∀ k, r'.models.contains k = true ↔ r.models.contains k = true ∨ Names ms k := by
  induction ms generalizing r with
  | nil =>
    refine ⟨r, rfl, hr, fun k => ⟨Or.inl, fun h => h.resolve_right ?_⟩⟩
    rintro ⟨m, hm, -⟩
    cases hm
  | cons m rest ih =>
    obtain ⟨r₁, hmerge, hheld, hkeys⟩ := hr.merge (hms m List.mem_cons_self)
    obtain ⟨r', hrest, hheld', hkeys'⟩ := ih hheld fun n hn => hms n (List.mem_cons_of_mem _ hn)
    refine ⟨r', by rw [Registry.mergeAll, hmerge]; exact hrest, hheld', fun k => ?_⟩
    rw [hkeys', hkeys, or_assoc]
    simp only [Names, List.mem_cons, exists_eq_or_imp]

/-- the registered models refer to one another only -/
def Closed (r : Registry) : Prop :=
  ∀ k m, r.models.get? k = some m → ∀ t, m.RefersTo t → r.models.contains t = true

theorem closed_empty : empty.Closed := fun k m h => by cases h

/-- closed models keep a registry closed -/
theorem Closed.mergeAll {c : Cache} {r r' : Registry} (hr : r.Closed) (hheld : r.Held c) (hheld' : r'.Held c)
    {ms : List Model} (hms : c.ClosedModels ms)
    (hkeys : ∀ k, r'.models.contains k = true ↔ r.models.contains k = true ∨ Names ms k) : r'.Closed := by
  intro k m hk t ht
  rw [hkeys]
  have hc := (hheld' k m hk).2
  rcases (hkeys k).1 (OrderedMap.contains_of_get? hk) with hold | ⟨n, hn, rfl⟩
  · obtain ⟨n, hn⟩ := OrderedMap.contains_iff.1 hold
    obtain rfl : n = m := Option.some.inj ((hheld k n hn).2.symm.trans hc)
    exact Or.inl (hr k n hn t ht)
  · obtain rfl : n = m := Option.some.inj ((hms.held n hn).symm.trans hc)
    exact Or.inr (hms.closed n hn t ht)

end Registry

/-! ## Resources -/

namespace Builder

def operationsOf (b : Builder) (key : String) : List Operation := (b.operations.get? key).getD []

def registryOf (b : Builder) (key : String) : Registry := (b.registries.get? key).getD .empty

/-- adding an operation changes the resource of its path only -/
theorem add_fst (b : Builder) {o : Operation} (hpath : o.path.isEmpty = false) :
    (b.add o).1 = { b with
      operations := b.operations.insert (resourceKey o.path) (b.operationsOf (resourceKey o.path) ++ [o])
      registries := b.registries.insert (resourceKey o.path)
        ((b.registryOf (resourceKey o.path)).mergeAll o.models).1 } := by
  rw [add, if_neg (by simp [hpath])]
  dsimp only
  split <;> rfl

/-- an operation is added to the resource of its path, and to no other -/
theorem operationsOf_add (b : Builder) {o : Operation} (hpath : o.path.isEmpty = false) (key : String) :
    (b.add o).1.operationsOf key = b.operationsOf key ++ if key = resourceKey o.path then [o] else [] := by
  rw [operationsOf, add_fst b hpath, OrderedMap.get?_insert]
  split
  · next he => rw [he]; rfl
  · rw [List.append_nil]; rfl

/-- the models of an operation are registered with the resource of its path, and with no other -/
theorem registryOf_add (b : Builder) {o : Operation} (hpath : o.path.isEmpty = false) (key : String) :
    (b.add o).1.registryOf key
      = if key = resourceKey o.path then ((b.registryOf key).mergeAll o.models).1 else b.registryOf key := by
  rw [registryOf, add_fst b hpath, OrderedMap.get?_insert]
  split
  · next he => rw [he]; rfl
  · rfl

/-- the resources of a builder: their registries are held by a cache and closed, and register all that the operations
bring -/
structure SelfContained (c : Cache) (b : Builder) : Prop where
  held : ∀ key, (b.registryOf key).Held c
  closed : ∀ key, (b.registryOf key).Closed
  supported : ∀ key, ∀ o ∈ b.operationsOf key, o.Supported c
  registered : ∀ key, ∀ o ∈ b.operationsOf key, ∀ m ∈ o.models, (b.registryOf key).models.contains m.id = true

theorem selfContained_new (c : Cache) (info : ApiInfo) (basePath : String) : (new info basePath).SelfContained c :=
  ⟨fun _ => Registry.held_empty c, fun _ => Registry.closed_empty, fun _ _ ho => (by cases ho),
    fun _ _ ho => (by cases ho)⟩

theorem SelfContained.mono {b : Cache} {c : Cache} {builder : Builder} (h : builder.SelfContained b)
    (hext : b.Extends c) : builder.SelfContained c :=
  ⟨fun key => (h.held key).mono hext, h.closed, fun key o ho => (h.supported key o ho).mono hext, h.registered⟩

/-- **Adding succeeds.** An operation that brings its models is added without a collision, and its models are registered
with it. -/
theorem SelfContained.add {c : Cache} {b : Builder} (h : b.SelfContained c) {o : Operation} (ho : o.Supported c)
    (hpath : o.path.isEmpty = false) :
    (∃ event, (b.add o).2 = .ok event) ∧ (b.add o).1.SelfContained c := by
  obtain ⟨r', hmerge, hheld, hkeys⟩ :=
    (h.held (resourceKey o.path)).mergeAll o.models ho.models.held
  have hclosed := (h.closed (resourceKey o.path)).mergeAll (h.held _) hheld ho.models hkeys
  have hregistry (key : String) :
      (b.add o).1.registryOf key = if key = resourceKey o.path then r' else b.registryOf key := by
    rw [registryOf_add b hpath]
    split
    · next he => rw [he, hmerge]
    · rfl
  refine ⟨?_, fun key => ?_, fun key => ?_, fun key k hk => ?_, fun key k hk m hm => ?_⟩
  · have hmerge' : ((b.registries.get? (resourceKey o.path)).getD .empty).mergeAll o.models = (r', none) := hmerge
    rw [Builder.add, if_neg (by simp [hpath])]
    simp only [hmerge']
    exact ⟨_, rfl⟩
  · rw [hregistry]
    split
    · exact hheld
    · exact h.held key
  · rw [hregistry]
    split
    · exact hclosed
    · exact h.closed key
  · rw [operationsOf_add b hpath] at hk
    rcases List.mem_append.1 hk with hk | hk
    · exact h.supported key k hk
    · split at hk
      · exact List.mem_singleton.1 hk ▸ ho
      · cases hk
  · rw [hregistry]
    rw [operationsOf_add b hpath] at hk
    split
    · next he =>
      subst he
      rw [hkeys]
      rcases List.mem_append.1 hk with hk | hk
      · exact Or.inl (h.registered _ k hk m hm)
      · rw [if_pos rfl] at hk
        exact Or.inr ⟨m, List.mem_singleton.1 hk ▸ hm, rfl⟩
    · next hne =>
      rw [if_neg hne, List.append_nil] at hk
      exact h.registered key k hk m hm

/-- every group has operations of its path only, and each of them is one of some operations -/
def Grouped (operations : List Operation) (groups : OrderedMap String (List Operation)) : Prop :=
  ∀ path group, groups.get? path = some group → ∀ o ∈ group, o ∈ operations ∧ o.path = path

/-- an operation may be added to the group of its path -/
theorem Grouped.insert {operations : List Operation} {groups : OrderedMap String (List Operation)}
    (h : Grouped operations groups) {o : Operation} (ho : o ∈ operations) :
    Grouped operations (groups.insert o.path ((groups.get? o.path).getD [] ++ [o])) := by
  intro path group hget k hk
  rw [OrderedMap.get?_insert] at hget
  split at hget
  · next he =>
    obtain rfl := Option.some.inj hget
    rcases List.mem_append.1 hk with hk | hk
    · cases hold : groups.get? o.path with
      | none => rw [hold] at hk; cases hk
      | some old =>
        rw [hold] at hk
        exact he ▸ h _ _ hold k hk
    · obtain rfl := List.mem_singleton.1 hk
      exact ⟨ho, he.symm⟩
  · exact h path group hget k hk

/-- grouping by path neither makes up operations nor moves them to another path -/
theorem grouped_groupByPath (operations : List Operation) : Grouped operations (groupByPath operations) := by
  unfold groupByPath
  refine List.foldlRecOn operations _ (fun _ _ h => by cases h) fun groups hgroups o ho => hgroups.insert ho

/-! ## Adding many operations -/

/-- the operations and the models of a resource, if it has any -/
def resourceAt (b : Builder) (key : String) : Option (List Operation) × Option Registry :=
  (b.operations.get? key, b.registries.get? key)

def extend (resource : Option (List Operation) × Option Registry) (o : Operation) :
    Option (List Operation) × Option Registry :=
  (some (resource.1.getD [] ++ [o]), some ((resource.2.getD .empty).mergeAll o.models).1)

theorem resourceAt_add (b : Builder) {o : Operation} (hpath : o.path.isEmpty = false) (key : String) :
    (b.add o).1.resourceAt key
      = if key = resourceKey o.path then extend (b.resourceAt key) o else b.resourceAt key := by
  rw [resourceAt, add_fst b hpath, OrderedMap.get?_insert, OrderedMap.get?_insert]
  split
  · next he => rw [he]; rfl
  · rfl

def addAll (b : Builder) (operations : List Operation) : Builder := operations.foldl (fun b o => (b.add o).1) b

/-- **Resources are independent.** What a resource has after operations have been added depends on its own operations
only. -/
theorem resourceAt_addAll (b : Builder) {operations : List Operation}
    (hpath : ∀ o ∈ operations, o.path.isEmpty = false) (key : String) :
    (b.addAll operations).resourceAt key
      = (operations.filter fun o => resourceKey o.path = key).foldl extend (b.resourceAt key) := by
  unfold addAll
  induction operations generalizing b with
  | nil => rfl
  | cons o rest ih =>
    rw [List.foldl_cons, ih _ fun o' ho' => hpath o' (List.mem_cons_of_mem _ ho'),
      resourceAt_add b (hpath o List.mem_cons_self), List.filter_cons]
    by_cases hkey : key = resourceKey o.path
    · rw [if_pos hkey, if_pos (by simp [hkey]), List.foldl_cons]
    · rw [if_neg hkey, if_neg (by simpa [eq_comm] using hkey)]

theorem addAll_frame (b : Builder) (operations : List Operation) :
    (b.addAll operations).info = b.info ∧ (b.addAll operations).basePath = b.basePath := by
  unfold addAll
  induction operations generalizing b with
  | nil => exact ⟨rfl, rfl⟩
  | cons o rest ih =>
    have hadd : (b.add o).1.info = b.info ∧ (b.add o).1.basePath = b.basePath := by
      unfold add
      split
      · exact ⟨rfl, rfl⟩
      · dsimp only
        split <;> exact ⟨rfl, rfl⟩
    rw [List.foldl_cons]
    exact ⟨(ih _).1.trans hadd.1, (ih _).2.trans hadd.2⟩

/-- **Documents forget the order of resources.** They are the same for builders that have the same under each key. -/
theorem documents_congr {b b' : Builder} (hinfo : b.info = b'.info) (hbase : b.basePath = b'.basePath)
    (h : ∀ key, b.resourceAt key = b'.resourceAt key) :
    b.listing = b'.listing ∧ b.declarations = b'.declarations := by
  have hoperations : b.operations.sortKeys textLe = b'.operations.sortKeys textLe :=
    OrderedMap.sortKeys_congr fun key => congrArg Prod.fst (h key)
  have hregistries (key : String) : b.registries.get? key = b'.registries.get? key := congrArg Prod.snd (h key)
  refine ⟨by rw [listing, listing, hoperations, hinfo, hbase], ?_⟩
  rw [declarations, declarations, hoperations]
  simp only [declarationOf, hregistries, hinfo, hbase]

end Builder

end RouteDocs
