/-
Operations grouped by resource, and those of a resource by path.

A builder `Gathers` operations if it has each of them under the resource of its path, in the order in which they came,
and their models in the registry of the resource. Every addition that succeeds keeps that, and the documents only
arrange what has been gathered: nothing is lost, nothing is there twice.

- `Registry.Registers.mergeAll`: models that are merged without a collision are all registered, each under its name.
- `Builder.perm_groupByPath`: grouping by path loses and duplicates nothing.
- `Builder.Gathers.groups`: what the document of a resource holds.
- `Builder.grouping_exact`: resources, documents and listing after any additions that succeed.
-/
import Mathlib.Data.List.Induction
import Mathlib.Data.List.Perm.Basic
import RouteDocs.Proofs.Document.Builder

namespace RouteDocs

open Schema

/-! ## Registries -/

namespace Registry

/-- what is registered under a name is one of some models, and agrees with all of them that have the name -/
structure Registers (ms : List Model) (r : Registry) : Prop where
  named : ∀ k m, r.models.get? k = some m → m.id = k ∧ m ∈ ms
  agrees : ∀ m ∈ ms, ∃ known, r.models.get? m.id = some known ∧ known.agrees m = true

theorem registers_empty : empty.Registers [] := by
  constructor
  · intro k m h
    cases h
  · intro m h
    cases h

variable {ms : List Model} {m : Model} {r r' : Registry}

/-- a model that is merged is registered: it is new, or agrees with the one that is known -/
theorem Registers.merge (h : r.Registers ms) (hm : r.merge m = .ok r') : r'.Registers (ms ++ [m]) := by
  unfold Registry.merge at hm
  cases hknown : r.models.get? m.id with
  | none =>
    rw [hknown] at hm
    obtain rfl := Except.ok.inj hm
    constructor
    · intro k n hk
      rw [OrderedMap.get?_insert] at hk
      split at hk
      · next he =>
        obtain rfl := Option.some.inj hk
        exact ⟨he.symm, by simp⟩
      · exact ⟨(h.named k n hk).1, List.mem_append_left _ (h.named k n hk).2⟩
    · intro n hn
      rw [OrderedMap.get?_insert]
      rcases List.mem_append.1 hn with hn | hn
      · obtain ⟨known, hget, hagrees⟩ := h.agrees n hn
        -- the name is new, so no earlier model has it
        have hne : n.id ≠ m.id := fun he => by rw [he, hknown] at hget; cases hget
        exact ⟨known, by rw [if_neg hne, hget], hagrees⟩
      · obtain rfl := List.mem_singleton.1 hn
        exact ⟨n, if_pos rfl, n.agrees_self⟩
  | some known =>
    rw [hknown] at hm
    dsimp only at hm
    split at hm
    · next hagrees =>
      obtain rfl := Except.ok.inj hm
      constructor
      · intro k n hk
        exact ⟨(h.named k n hk).1, List.mem_append_left _ (h.named k n hk).2⟩
      · intro n hn
        rcases List.mem_append.1 hn with hn | hn
        · exact h.agrees n hn
        · obtain rfl := List.mem_singleton.1 hn
          exact ⟨known, hknown, hagrees⟩
    · cases hm

/-- models that are merged without a collision are all registered -/
theorem Registers.mergeAll (h : r.Registers ms) {news : List Model} (hm : r.mergeAll news = (r', none)) :
    r'.Registers (ms ++ news) := by
  induction news generalizing ms r with
  | nil =>
    obtain rfl := (Prod.mk.inj hm).1
    simpa using h
  | cons m rest ih =>
    rw [Registry.mergeAll] at hm
    split at hm
    · next r₁ hmerge =>
      have hrest := ih (h.merge hmerge) hm
      rwa [List.append_assoc] at hrest
    · cases (Prod.mk.inj hm).2

end Registry

namespace Builder

/-! ## Paths -/

theorem groupByPath_concat (operations : List Operation) (o : Operation) :
    groupByPath (operations ++ [o])
      = (groupByPath operations).insert o.path (((groupByPath operations).get? o.path).getD [] ++ [o]) :=
  List.foldl_concat ..

/-- the groups of operations are their paths, in the order of first appearance -/
theorem keys_groupByPath (operations : List Operation) :
    (groupByPath operations).keys = (operations.map Operation.path).eraseDups := by
  induction operations using List.reverseRecOn with
  | nil => rfl
  | append_singleton rest o ih =>
    have hkeys : (groupByPath rest).entries.map Prod.fst = (rest.map Operation.path).eraseDups := ih
    rw [groupByPath_concat, OrderedMap.keys, OrderedMap.insert, OrderedMap.map_fst_put, hkeys, List.map_append,
      List.map_singleton, eraseDups_concat]
    simp only [List.mem_eraseDups]

/-- the group of a path is that of all operations of the path, in their order -/
theorem get?_groupByPath (operations : List Operation) (path : String) :
    ((groupByPath operations).get? path).getD [] = operations.filter (·.path = path) := by
  induction operations using List.reverseRecOn with
  | nil => rfl
  | append_singleton rest o ih =>
    rw [groupByPath_concat, OrderedMap.get?_insert, List.filter_append]
    by_cases h : path = o.path
    · subst h
      simp [ih]
    · have h' : o.path ≠ path := Ne.symm h
      simp [h, h', ih]

theorem entries_groupByPath (operations : List Operation) :
    (groupByPath operations).entries
      = (operations.map Operation.path).eraseDups.map fun path => (path, operations.filter (·.path = path)) := by
  rw [← keys_groupByPath, OrderedMap.keys, List.map_map]
  refine (List.map_id _).symm.trans (List.map_congr_left fun e he => ?_)
  have hget : (groupByPath operations).get? e.1 = some e.2 := OrderedMap.get?_eq_some.2 he
  have hgroup := get?_groupByPath operations e.1
  rw [hget] at hgroup
  exact Prod.ext rfl hgroup

/-- classes of a list by distinct keys make up the list, if every key of an element is among them -/
theorem perm_flatMap_filter {α β : Type} [DecidableEq β] (f : α → β) (keys : List β) (l : List α)
    (hd : keys.Nodup)
    (hl : ∀ x ∈ l, f x ∈ keys) : (keys.flatMap fun k => l.filter (f · = k)).Perm l := by
  induction keys generalizing l with
  | nil =>
    cases l with
    | nil => rfl
    | cons x rest => cases hl x List.mem_cons_self
  | cons k keys ih =>
    obtain ⟨hk, hd⟩ := List.nodup_cons.1 hd
    -- the other classes are those of the elements that do not belong to the first one
    have hrest : (keys.flatMap fun j => l.filter (f · = j))
        = keys.flatMap fun j => (l.filter fun x => !decide (f x = k)).filter (f · = j) := by
      refine List.flatMap_congr fun j hj => ?_
      have hjk : j ≠ k := fun he => hk (he ▸ hj)
      rw [List.filter_filter]
      refine List.filter_congr fun x _ => ?_
      by_cases hx : f x = j
      · simp [hx, hjk]
      · simp [hx]
    rw [List.flatMap_cons, hrest]
    refine ((ih _ hd fun x hx => ?_).append_left _).trans (List.filter_append_perm _ l)
    obtain ⟨hx, hne⟩ := List.mem_filter.1 hx
    exact (List.mem_cons.1 (hl x hx)).resolve_left (by simpa using hne)

/-- **Grouping by path** loses and duplicates nothing. -/
theorem perm_groupByPath (operations : List Operation) :
    ((groupByPath operations).entries.flatMap Prod.snd).Perm operations := by
  have hd : ((operations.map Operation.path).eraseDups).Nodup :=
    keys_groupByPath operations ▸ (groupByPath operations).distinct
  rw [entries_groupByPath, List.flatMap_map]
  refine perm_flatMap_filter Operation.path _ operations hd fun o ho => ?_
  rw [List.mem_eraseDups]
  exact List.mem_map_of_mem ho

/-! ## Gathering -/

def ofResource (key : String) (operations : List Operation) : List Operation :=
  operations.filter (resourceKey ·.path = key)

/-- a builder has some operations under the resources of their paths, and their models in the registries of these -/
structure Gathers (operations : List Operation) (b : Builder) : Prop where
  keys : ∀ key, key ∈ b.operations.keys ↔ ∃ o ∈ operations, resourceKey o.path = key
  grouped : ∀ key, b.operationsOf key = ofResource key operations
  registered : ∀ key, (b.registryOf key).Registers ((ofResource key operations).flatMap Operation.models)

theorem gathers_new (info : ApiInfo) (basePath : String) : (new info basePath).Gathers [] :=
  ⟨fun key => by simp [new, OrderedMap.keys, EmptyCollection.emptyCollection, OrderedMap.empty], fun _ => rfl,
    fun _ => Registry.registers_empty⟩

/-- an operation that is added has a path, and its models do not collide with those of the resource -/
theorem add_ok {b : Builder} {o : Operation} {event : Event} (h : (b.add o).2 = .ok event) :
    o.path.isEmpty = false ∧ ((b.registryOf (resourceKey o.path)).mergeAll o.models).2 = none := by
  unfold add at h
  split at h
  · cases h
  · next hpath =>
    refine ⟨Bool.eq_false_iff.2 hpath, ?_⟩
    dsimp only at h
    split at h
    · next hmerge => exact hmerge
    · cases h

theorem mem_keys_add (b : Builder) {o : Operation} (hpath : o.path.isEmpty = false) (key : String) :
    key ∈ (b.add o).1.operations.keys ↔ key = resourceKey o.path ∨ key ∈ b.operations.keys := by
  rw [add_fst b hpath, OrderedMap.mem_keys, OrderedMap.mem_keys, OrderedMap.contains_insert, Bool.or_eq_true,
    decide_eq_true_eq]

theorem ofResource_concat (key : String) (operations : List Operation) (o : Operation) :
    ofResource key (operations ++ [o])
      = ofResource key operations ++ if key = resourceKey o.path then [o] else [] := by
  rw [ofResource, List.filter_append, ofResource]
  by_cases h : key = resourceKey o.path
  · simp [h]
  · simp [h, Ne.symm h]

/-- **An addition that succeeds** gathers one operation more. -/
theorem Gathers.add {b : Builder} {operations : List Operation} (h : b.Gathers operations) {o : Operation}
    {event : Event} (hadd : (b.add o).2 = .ok event) : (b.add o).1.Gathers (operations ++ [o]) := by
  obtain ⟨hpath, hmerge⟩ := add_ok hadd
  constructor
  · intro key
    rw [mem_keys_add b hpath, h.keys]
    simp only [List.mem_append, List.mem_singleton, or_and_right, exists_or, exists_eq_left]
    rw [or_comm, eq_comm (a := key)]
  · intro key
    rw [operationsOf_add b hpath, h.grouped, ofResource_concat]
  · intro key
    rw [registryOf_add b hpath, ofResource_concat, List.flatMap_append]
    by_cases hkey : key = resourceKey o.path
    · rw [if_pos hkey, if_pos hkey, List.flatMap_singleton]
      exact (h.registered key).mergeAll (Prod.ext rfl (hkey ▸ hmerge))
    · rw [if_neg hkey, if_neg hkey, List.flatMap_nil, List.append_nil]
      exact h.registered key

/-- a builder with further operations, unless one of them is refused -/
def addEach (b : Builder) : List Operation → Except BuildError Builder
  | [] => .ok b
  | o :: rest =>
    match b.add o with
    | (b, .ok _) => b.addEach rest
    | (_, .error e) => .error e

theorem Gathers.addEach {b b' : Builder} {operations more : List Operation} (h : b.Gathers operations)
    (hadd : b.addEach more = .ok b') : b'.Gathers (operations ++ more) := by
  induction more generalizing b operations with
  | nil =>
    obtain rfl := Except.ok.inj hadd
    simpa using h
  | cons o rest ih =>
    rw [Builder.addEach] at hadd
    split at hadd
    · next b₁ event hfirst =>
      have hok : (b.add o).2 = .ok event := by rw [hfirst]
      have hgathers := h.add hok
      rw [hfirst] at hgathers
      have hrest := ih hgathers hadd
      rwa [List.append_assoc] at hrest
    · cases hadd

/-! ## Documents -/

end Builder

/-- a document holds some operations, each under its path, and their models, each under its name -/
structure Declaration.Groups (d : Declaration) (operations : List Operation) : Prop where
  /-- no operation is lost, and none is there twice -/
  complete : (d.apis.flatMap Api.operations).Perm operations
  /-- the paths stand in the order of their first appearance -/
  paths : d.apis.map Api.path = (operations.map Operation.path).eraseDups
  distinct : (d.apis.map Api.path).Nodup
  /-- the operations of a path stand in the order in which they came -/
  grouped : ∀ api ∈ d.apis, api.operations = operations.filter (·.path = api.path)
  sorted : d.models.keys.Pairwise (· < ·)
  /-- the models are those that the operations bring -/
  models : ∀ id, id ∈ d.models.keys ↔ ∃ o ∈ operations, ∃ m ∈ o.models, m.id = id
  named : ∀ id m, d.models.get? id = some m → m.id = id
  /-- a model is the same as all that the operations bring under its name -/
  agree : ∀ o ∈ operations, ∀ m ∈ o.models, ∃ known, d.models.get? m.id = some known ∧ known.agrees m = true

namespace Builder

variable {b : Builder} {operations : List Operation} {key : String}

theorem operations_eq_of_mem (h : key ∈ b.operations.keys) : b.operations.get? key = some (b.operationsOf key) := by
  obtain ⟨group, hgroup⟩ := OrderedMap.contains_iff.1 (OrderedMap.mem_keys.1 h)
  rw [operationsOf, hgroup]
  rfl

theorem declaration_of_mem (h : key ∈ b.operations.keys) :
    b.declaration key = .ok (b.declarationOf key (b.operationsOf key) (b.registryOf key)) := by
  rw [declaration, operations_eq_of_mem h]
  rfl

theorem mem_resources (b : Builder) (key : String) : key ∈ b.resources ↔ key ∈ b.operations.keys :=
  (List.mergeSort_perm _ _).mem_iff

theorem strict_resources (b : Builder) : b.resources.Pairwise (· < ·) := by
  rw [resources, ← OrderedMap.keys_sortKeys]
  exact OrderedMap.strict_sortKeys _

theorem nodup_resources (b : Builder) : b.resources.Nodup :=
  (List.mergeSort_perm _ _).nodup_iff.2 b.operations.distinct

/-- **The document of a resource** holds what has been gathered for it. -/
theorem Gathers.groups (h : b.Gathers operations) (key : String) :
    (b.declarationOf key (b.operationsOf key) (b.registryOf key)).Groups (ofResource key operations) := by
  have hapis : (b.declarationOf key (b.operationsOf key) (b.registryOf key)).apis
      = ((ofResource key operations).map Operation.path).eraseDups.map
          fun path => ⟨path, "", (ofResource key operations).filter (·.path = path)⟩ := by
    rw [declarationOf, h.grouped, entries_groupByPath, List.map_map]
    rfl
  have hget (id : String) : (b.declarationOf key (b.operationsOf key) (b.registryOf key)).models.get? id
      = (b.registryOf key).models.get? id := OrderedMap.get?_sortKeys ..
  have hregisters := h.registered key
  have hpaths : (b.declarationOf key (b.operationsOf key) (b.registryOf key)).apis.map Api.path
      = ((ofResource key operations).map Operation.path).eraseDups := by
    rw [hapis, List.map_map]
    exact List.map_id _
  constructor
  · have hperm := perm_groupByPath (ofResource key operations)
    rw [entries_groupByPath, List.flatMap_map] at hperm
    rwa [hapis, List.flatMap_map]
  · exact hpaths
  · rw [hpaths, ← keys_groupByPath]
    exact (groupByPath _).distinct
  · intro api hapi
    rw [hapis] at hapi
    obtain ⟨path, -, rfl⟩ := List.mem_map.1 hapi
    rfl
  · exact OrderedMap.strict_sortKeys _
  · intro id
    rw [OrderedMap.mem_keys, OrderedMap.contains_iff]
    constructor
    · rintro ⟨m, hm⟩
      rw [hget] at hm
      obtain ⟨hid, hmem⟩ := hregisters.named id m hm
      obtain ⟨o, ho, hmo⟩ := List.mem_flatMap.1 hmem
      exact ⟨o, ho, m, hmo, hid⟩
    · rintro ⟨o, ho, m, hm, rfl⟩
      obtain ⟨known, hknown, -⟩ := hregisters.agrees m (List.mem_flatMap.2 ⟨o, ho, hm⟩)
      exact ⟨known, by rw [hget, hknown]⟩
  · intro id m hm
    rw [hget] at hm
    exact (hregisters.named id m hm).1
  · intro o ho m hm
    rw [hget]
    exact hregisters.agrees m (List.mem_flatMap.2 ⟨o, ho, hm⟩)

/-- the listing has an entry for each resource, in their order, with the first summary among its operations -/
theorem Gathers.listing_apis (h : b.Gathers operations) :
    b.listing.apis = b.resources.map fun key => ⟨"/" ++ key, firstSummary (ofResource key operations)⟩ := by
  rw [resources, ← OrderedMap.keys_sortKeys, OrderedMap.keys, List.map_map]
  refine List.map_congr_left fun e he => ?_
  have hget : b.operations.get? e.1 = some e.2 := by
    rw [← OrderedMap.get?_sortKeys textLe]
    exact OrderedMap.get?_eq_some.2 he
  have hgroup : e.2 = ofResource e.1 operations := by
    rw [← h.grouped, operationsOf, hget]
    rfl
  simp [hgroup]

theorem keys_declarations (b : Builder) : b.declarations.keys = b.resources := by
  rw [resources, ← OrderedMap.keys_sortKeys, declarations, OrderedMap.keys, OrderedMap.entries_ofList]
  · rw [List.map_map]
    rfl
  · rw [List.map_map]
    exact (b.operations.sortKeys textLe).distinct

theorem get?_declarations (b : Builder) (h : key ∈ b.resources) :
    b.declarations.get? key = some (b.declarationOf key (b.operationsOf key) (b.registryOf key)) := by
  have hget : (b.operations.sortKeys textLe).get? key = some (b.operationsOf key) := by
    rw [OrderedMap.get?_sortKeys]
    exact operations_eq_of_mem ((b.mem_resources key).1 h)
  rw [OrderedMap.get?_eq_some, declarations, OrderedMap.entries_ofList]
  · exact List.mem_map.2 ⟨(key, b.operationsOf key), OrderedMap.get?_eq_some.1 hget, rfl⟩
  · rw [List.map_map]
    exact (b.operations.sortKeys textLe).distinct

/-- all documents together hold each operation once -/
theorem Gathers.perm_declarations (h : b.Gathers operations) :
    (b.declarations.values.flatMap fun d => d.apis.flatMap Api.operations).Perm operations := by
  have hvalues : b.declarations.values
      = b.resources.map fun key => b.declarationOf key (b.operationsOf key) (b.registryOf key) := by
    rw [← keys_declarations, OrderedMap.keys, OrderedMap.values, List.map_map]
    refine List.map_congr_left fun e he => ?_
    have hkey : e.1 ∈ b.resources := keys_declarations b ▸ List.mem_map_of_mem he
    have hget := b.get?_declarations hkey
    rw [OrderedMap.get?_eq_some.2 he] at hget
    exact Option.some.inj hget
  have hresources : (b.resources.flatMap fun key => ofResource key operations).Perm operations := by
    have hkeys : ∀ o ∈ operations, resourceKey o.path ∈ b.resources := by
      intro o ho
      rw [mem_resources, h.keys]
      exact ⟨o, ho, rfl⟩
    have hperm := perm_flatMap_filter (fun o : Operation => resourceKey o.path) _ operations b.nodup_resources hkeys
    exact hperm
  rw [hvalues, List.flatMap_map]
  exact (List.Perm.flatMap_left _ fun key _ => (h.groups key).complete).trans hresources

/-- **Grouping is exact.** After operations have been added to a new builder, and none of them was refused: the
resources are those of their paths, sorted, each once; the document of a resource holds its operations and their models
and nothing else; and the listing has an entry for each resource, with the path of its document and the first summary
among its operations that is not empty. -/
theorem grouping_exact (info : ApiInfo) (basePath : String) (operations : List Operation) (b : Builder)
    (h : (new info basePath).addEach operations = .ok b) :
    b.resources.Pairwise (· < ·) ∧
      (∀ key, key ∈ b.resources ↔ ∃ o ∈ operations, resourceKey o.path = key) ∧
      (∀ key ∈ b.resources, ∃ d, b.declaration key = .ok d ∧ d.resourcePath = "/" ++ key ∧
        d.Groups (operations.filter (resourceKey ·.path = key))) ∧
      b.listing.apis = b.resources.map fun key =>
        ⟨"/" ++ key, (((operations.filter (resourceKey ·.path = key)).map Operation.summary).find?
          fun s => !s.isEmpty).getD ""⟩ := by
  have hgathers := (gathers_new info basePath).addEach h
  rw [List.nil_append] at hgathers
  refine ⟨b.strict_resources, fun key => ?_, fun key hkey => ?_, hgathers.listing_apis⟩
  · rw [mem_resources, hgathers.keys]
  · rw [mem_resources] at hkey
    exact ⟨_, declaration_of_mem hkey, rfl, hgathers.groups key⟩

/-- an operation of a path and a summary that brings a model without properties -/
def listed (path summary model : String) : Operation :=
  { Operation.blank with path := path, summary := summary, models := [⟨model, [], ∅⟩] }

/-- Two spellings of one path, and two resources, interleaved. -/
theorem grouping_exact_interleaved : ∃ b d,
    (new .blank "").addEach
        [listed "/pets" "" "Pet", listed "/owners/\x7bid\x7d" "find" "Owner", listed "/pets/" "list" "Tag",
          listed "/pets" "all" "Pet"] = .ok b ∧
      b.declaration "pets" = .ok d ∧
      d.Groups [listed "/pets" "" "Pet", listed "/pets/" "list" "Tag", listed "/pets" "all" "Pet"] := by
  have hadded : ((new .blank "").addEach
      [listed "/pets" "" "Pet", listed "/owners/\x7bid\x7d" "find" "Owner", listed "/pets/" "list" "Tag",
        listed "/pets" "all" "Pet"]).isOk = true := by
    decide +kernel
  cases h : (new .blank "").addEach
      [listed "/pets" "" "Pet", listed "/owners/\x7bid\x7d" "find" "Owner", listed "/pets/" "list" "Tag",
        listed "/pets" "all" "Pet"] with
  | error e => rw [h] at hadded; cases hadded
  | ok b =>
    obtain ⟨-, hkeys, hdocuments, -⟩ := grouping_exact _ _ _ b h
    have hpets : "pets" ∈ b.resources := (hkeys "pets").2 ⟨listed "/pets" "" "Pet", by simp, by decide +kernel⟩
    obtain ⟨d, hd, -, hgroups⟩ := hdocuments "pets" hpets
    exact ⟨b, d, rfl, hd, hgroups⟩

end Builder

end RouteDocs
