/-
The order of a closure: the models that a model reaches, nearest first.

The search lists a name when it takes it from its queue for the first time, and puts off all that the model under the
name refers to. So the list is the queue of all times without its repetitions (`Cache.reach_eq_eraseDups`). The names
within some distance are the first ones of the list, and what is first met through one model stands together in it.

- `Cache.reach_reached`: a search lists nothing that is not reached.
- `Cache.BreadthFirst`: what a breadth-first order is, said of the references of the models only.
- `Cache.breadthFirst_reach`: the names that a search lists are in breadth-first order.
- `Resolver.closure_breadthFirst`: after every session, the closure of a cached model has the models that it reaches,
  each once, in this order.
-/
import RouteDocs.Proofs.Schema.Session

namespace RouteDocs.Schema

namespace Cache

variable {c : Cache} {id a b : String} {pending order ids : List String}

/-! ## Distances -/

/-- so many references lead from one name to another -/
def Steps (c : Cache) : Nat → String → String → Prop
  | 0, a, b => a = b
  | n + 1, a, b => ∃ m, c.Steps n a m ∧ b ∈ c.referencesOf m

/-- the number of references on a shortest way from one name to another -/
def Distance (c : Cache) (a : String) (n : Nat) (b : String) : Prop := c.Steps n a b ∧ ∀ k < n, ¬ c.Steps k a b

/-- A name is reached within one more step if it is the start, or something that is reached before refers to it. -/
theorem steps_succ_iff {n : Nat} :
    (∃ k ≤ n + 1, c.Steps k a b) ↔ b = a ∨ ∃ m, (∃ k ≤ n, c.Steps k a m) ∧ b ∈ c.referencesOf m := by
  constructor
  · rintro ⟨k, hk, h⟩
    cases k with
    | zero => exact Or.inl (Eq.symm h)
    | succ k =>
      obtain ⟨m, hm, hb⟩ := h
      exact Or.inr ⟨m, ⟨k, by omega, hm⟩, hb⟩
  · rintro (rfl | ⟨m, ⟨k, hk, hm⟩, hb⟩)
    · exact ⟨0, by omega, rfl⟩
    · exact ⟨k + 1, by omega, m, hm, hb⟩

/-! ## Breadth-first orders -/

/-- what the model under a name is the first to refer to, if the search starts with `id` and has listed some names
before this one -/
def firstMet (c : Cache) (id : String) (before : List String) (name : String) : List String :=
  (c.referencesOf name).filter (· ∉ id :: before.flatMap c.referencesOf)

/-- the names that a name reaches, in breadth-first order -/
structure BreadthFirst (c : Cache) (id : String) (ids : List String) : Prop where
  first : ids.head? = some id
  distinct : ids.Nodup
  reached : ∀ t, t ∈ ids ↔ ∃ n, c.Steps n id t
  /-- what is nearer comes before what is farther away -/
  nearest : ∀ {a b m n}, c.Distance id m a → c.Distance id n b → m < n → [a, b].Sublist ids
  /-- what is first met through one model stands together, in the order of its references -/
  siblings : ∀ {before name after}, ids = before ++ name :: after → c.firstMet id before name <:+: ids

/-- a search lists nothing that is not reached -/
theorem reach_reached (h : c.reach pending order = .ok ids) (hpending : ∀ t ∈ pending, ∃ n, c.Steps n id t)
    (horder : ∀ t ∈ order, ∃ n, c.Steps n id t) : ∀ t ∈ ids, ∃ n, c.Steps n id t := by
  fun_induction reach c pending order with
  | case1 order =>
    cases h
    exact horder
  | case2 a pending order hin ih => exact ih h (List.forall_mem_cons.1 hpending).2 horder
  | case3 a pending order hnot hnone => cases h
  | case4 a pending order hnot refs hrefs ih =>
    obtain ⟨⟨n, hn⟩, hrest⟩ := List.forall_mem_cons.1 hpending
    refine ih h (List.forall_mem_append.2 ⟨hrest, fun t ht => ⟨n + 1, a, hn, ?_⟩⟩)
      (List.forall_mem_append.2 ⟨horder, List.forall_mem_singleton.2 ⟨n, hn⟩⟩)
    rw [referencesOf, hrefs]
    exact ht

/-- **The queue of a search.** What a search lists is all that has ever been in its queue, without repetitions. -/
theorem reach_eq_eraseDups (h : c.reach [id] [] = .ok ids) : ids = (id :: ids.flatMap c.referencesOf).eraseDups := by
  -- what has been taken from the queue is what has been listed, and all that was in the queue is one or the other
  have hall (pending order : List String) (h : c.reach pending order = .ok ids) (taken : List String)
      (hlisted : taken.eraseDups = order) (hqueue : id :: order.flatMap c.referencesOf = taken ++ pending) :
      ids = (id :: ids.flatMap c.referencesOf).eraseDups := by
    fun_induction reach c pending order generalizing taken with
    | case1 order =>
      cases h
      rw [hqueue, List.append_nil, hlisted]
    | case2 a pending order hin ih =>
      refine ih h (taken ++ [a]) ?_ (by simp [hqueue])
      rw [← addReference_eraseDups, hlisted, addReference, if_pos hin]
    | case3 a pending order hnot hnone => cases h
    | case4 a pending order hnot refs hrefs ih =>
      have hof : c.referencesOf a = refs := by rw [referencesOf, hrefs, Option.getD_some]
      refine ih h (taken ++ [a]) ?_ ?_
      · rw [← addReference_eraseDups, hlisted, addReference, if_neg hnot]
      · rw [List.flatMap_append, List.flatMap_singleton, hof, ← List.cons_append, hqueue]
        simp
  exact hall [id] [] h [] rfl rfl

/-- the names within some distance of the start are the first ones that are listed -/
theorem exists_near (hqueue : ids = (id :: ids.flatMap c.referencesOf).eraseDups) (n : Nat) :
    ∃ near, near <+: ids ∧ ∀ t, t ∈ near ↔ ∃ k ≤ n, c.Steps k id t := by
  induction n with
  | zero =>
    refine ⟨[id], ?_, fun t => ?_⟩
    · rw [hqueue, List.eraseDups_cons]
      exact List.prefix_append [id] _
    · rw [List.mem_singleton]
      constructor
      · rintro rfl
        exact ⟨0, le_rfl, rfl⟩
      · rintro ⟨k, hk, h⟩
        obtain rfl : k = 0 := by omega
        exact Eq.symm h
  | succ n ih =>
    obtain ⟨near, ⟨far, hsplit⟩, hnear⟩ := ih
    refine ⟨(id :: near.flatMap c.referencesOf).eraseDups, ?_, fun t => ?_⟩
    · rw [hqueue, ← hsplit, List.flatMap_append, ← List.cons_append, List.eraseDups_append]
      exact List.prefix_append _ _
    · rw [List.mem_eraseDups, List.mem_cons, List.mem_flatMap, steps_succ_iff]
      simp only [hnear]

/-- **Searches are breadth-first.** The names that a search lists are those that its start reaches, in breadth-first
order, if no references are repeated. -/
theorem breadthFirst_reach (hrefs : ∀ a, (c.referencesOf a).Nodup) (h : c.reach [id] [] = .ok ids) :
    c.BreadthFirst id ids := by
  have hqueue := reach_eq_eraseDups h
  have hreached : ∀ t ∈ ids, ∃ n, c.Steps n id t :=
    reach_reached h (List.forall_mem_singleton.2 ⟨0, rfl⟩) (List.forall_mem_nil _)
  have hlisted (t : String) : t ∈ ids ↔ ∃ n, c.Steps n id t := by
    refine ⟨hreached t, fun ⟨n, hn⟩ => ?_⟩
    obtain ⟨near, hprefix, hnear⟩ := exists_near hqueue n
    exact hprefix.subset ((hnear t).2 ⟨n, le_rfl, hn⟩)
  refine ⟨?_, ?_, hlisted, fun {a b m n} ha hb hlt => ?_, fun {before name after} hsplit => ?_⟩
  · rw [hqueue, List.eraseDups_cons, List.head?_cons]
  · rw [hqueue]
    exact nodup_eraseDups _
  · -- the nearer one is among the names within its distance, and the other one is not
    obtain ⟨near, ⟨far, rfl⟩, hnear⟩ := exists_near hqueue m
    have hanear : a ∈ near := (hnear a).2 ⟨m, le_rfl, ha.1⟩
    have hbfar : b ∈ far := by
      refine (List.mem_append.1 ((hlisted b).2 ⟨n, hb.1⟩)).resolve_left fun hbnear => ?_
      obtain ⟨k, hk, hsteps⟩ := (hnear b).1 hbnear
      exact hb.2 k (by omega) hsteps
    exact (List.singleton_sublist.2 hanear).append (List.singleton_sublist.2 hbfar)
  · -- the queue is what came before the references of this name, these references, and what came after them
    have hparts : id :: ids.flatMap c.referencesOf = (id :: before.flatMap c.referencesOf) ++ c.referencesOf name ++
        after.flatMap c.referencesOf := by simp [hsplit]
    have hmet : (c.referencesOf name).removeAll (id :: before.flatMap c.referencesOf) = c.firstMet id before name :=
      List.filter_congr fun t _ => by rw [List.elem_eq_mem, decide_not]
    have hdistinct : (c.firstMet id before name).Nodup := (hrefs name).filter _
    rw [hqueue, hparts, List.eraseDups_append, List.eraseDups_append, hmet, eraseDups_eq_self hdistinct]
    exact ⟨_, _, rfl⟩

/-- what a search from a recorded class lists are the names of its closure -/
theorem Sound.closure_reach (hc : c.Sound) (hid : c.origins.contains id = true) :
    ∃ ms, c.closure id = .ok ms ∧ c.reach [id] [] = .ok (ms.map Model.id) ∧
      ∀ m ∈ ms, c.models.get? m.id = some m := by
  have hstart : c.Searches [id] [] :=
    ⟨List.forall_mem_singleton.2 hid, List.forall_mem_nil _, List.forall_mem_nil _⟩
  obtain ⟨ids, hids, -, hdone⟩ := hc.reach_ok hstart
  obtain ⟨ms, hms, hnames, hheld⟩ := hc.mapM_model ids hdone.listed
  refine ⟨ms, ?_, hnames ▸ hids, hheld⟩
  rw [closure, hids]
  exact hms

/-- no references of an exact cache are repeated -/
theorem nodup_referencesOf (hc : c.Sound) (hx : c.Exact) (a : String) : (c.referencesOf a).Nodup := by
  rw [referencesOf]
  cases hrefs : c.references.get? a with
  | none => exact .nil
  | some refs =>
    obtain ⟨m, refs', hm⟩ := hc.complete a (hc.references a (OrderedMap.contains_of_get? hrefs))
    obtain rfl : refs' = refs := Option.some.inj (hm.references.symm.trans hrefs)
    rw [Option.getD_some, (hx a m refs' hm.model hm.references).references]
    exact nodup_eraseDups _

end Cache

namespace Resolver

/-- **Closures are breadth-first.** After every session, in which calls may fail and the table may grow, the closure of
a cached model exists. It has the models that this one reaches, each once and as it is cached, nearest first. -/
theorem closure_breadthFirst (table : SymbolTable) (aliases : Aliases) (requests : List Request) {id : String}
    (hid : id ∈ ((new table aliases).session requests).2.cache.models.keys) :
    ∃ ms, ((new table aliases).session requests).2.cache.closure id = .ok ms ∧
      (∀ m ∈ ms, ((new table aliases).session requests).2.cache.models.get? m.id = some m) ∧
      ((new table aliases).session requests).2.cache.BreadthFirst id (ms.map Model.id) := by
  have h := (settled_new table aliases).session requests
  have hrecorded := h.sound.models id (OrderedMap.mem_keys.1 hid)
  obtain ⟨ms, hclosure, hreach, hheld⟩ := h.sound.closure_reach hrecorded
  exact ⟨ms, hclosure, hheld, Cache.breadthFirst_reach (Cache.nodup_referencesOf h.sound h.exact) hreach⟩

/-- classes that lead to one another, with two ways to one of them; a class is still missing -/
def orderClasses : SymbolTable := ⟨[
  ⟨"Order", "shop", [], [⟨"customer", "Customer", true⟩, ⟨"items", "list[Item]", true⟩]⟩,
  ⟨"Customer", "shop", [], [⟨"address", "Address", true⟩, ⟨"orders", "list[Order]", true⟩]⟩,
  ⟨"Item", "shop", [], [⟨"product", "Product", true⟩, ⟨"stored", "Optional[Address]", false⟩]⟩,
  ⟨"Address", "shop", [], [⟨"city", "str", true⟩]⟩]⟩

/-- the missing class, which leads back to the class that mentions it -/
def productClass : Definition := ⟨"Product", "shop", [], [⟨"soldAs", "list[Item]", true⟩]⟩

/-- a call that fails, the definition that it missed, and the call again -/
def orderRequests : List Request := [.resolve "Order" "shop", .define productClass, .resolve "Order" "shop"]

/-- The address is two references away, as is the product, but it is met first, through the customer. -/
theorem closure_breadthFirst_order :
    let c := ((new orderClasses ∅).session orderRequests).2.cache
    "Order" ∈ c.models.keys ∧
      ∃ ms, c.closure "Order" = .ok ms ∧
        ms.map Model.id = ["Order", "Customer", "Item", "Address", "Product"] ∧
        c.BreadthFirst "Order" (ms.map Model.id) := by
  intro c
  have hid : "Order" ∈ c.models.keys := by decide +kernel
  obtain ⟨ms, hclosure, -, hbreadth⟩ := closure_breadthFirst orderClasses ∅ orderRequests hid
  have hnames : (c.closure "Order").map (·.map Model.id) =
      .ok ["Order", "Customer", "Item", "Address", "Product"] := by decide +kernel
  rw [hclosure] at hnames
  exact ⟨hid, ms, hclosure, Except.ok.inj hnames, hbreadth⟩

end Resolver

end RouteDocs.Schema
