/-
The order in which a class is resolved: the C3 linearization of its hierarchy.

A class is followed by the merge of the linearizations of its bases and of the list of its bases. A merge takes the
first head of a list that is in the tail of none, off all the lists that it heads, until they are empty; where every
head is in a tail it is stuck, and the hierarchy has no linearization. So that is a relation
(`SymbolTable.Linearizes`), and nothing is assumed about cycles: a hierarchy that has one has no linearization.

- `Merges.sublist`, `Merges.covers`, `Merges.nodup`: a merge has the entries of the lists once, each list in its order.
- `Linearizes.acyclic`: no class of a hierarchy that is linearized is among its own bases.
- `Linearizes.resolution`: a linearization has the classes of the hierarchy once, and a class before all it inherits.
- `Visits.resolution`: so has the reverse of the depth-first post-order, if there are no cycles.
-/
import RouteDocs.Proofs.Schema.PostOrder

namespace RouteDocs.Schema

open Relation

/-! ## Merging lists -/

section Merging

variable {α : Type} [DecidableEq α] {ls : List (List α)} {c x : α} {l out : List α}

/-- the first head of a list that is in the tail of none -/
def nextHead? (ls : List (List α)) : Option α :=
  (ls.filterMap List.head?).find? fun c => ls.all fun l => c ∉ l.tail

/-- a list without its head, if that is the given one -/
def dropHead (c : α) (l : List α) : List α := if l.head? = some c then l.tail else l

inductive Merges : (lists : List (List α)) → (out : List α) → Prop
  | done {ls : List (List α)} (empty : ∀ l ∈ ls, l = []) : Merges ls []
  | take {ls : List (List α)} {c : α} {out : List α} (next : nextHead? ls = some c)
    (rest : Merges (ls.map (dropHead c)) out) : Merges ls (c :: out)

theorem dropHead_subset : dropHead c l ⊆ l := by
  unfold dropHead
  split
  · exact fun _ hx => List.mem_of_mem_tail hx
  · exact List.Subset.refl l

/-- the next head is one of the heads, and not in the tail of a list -/
theorem nextHead_facts (h : nextHead? ls = some c) :
    (∃ l ∈ ls, l.head? = some c) ∧ ∀ l ∈ ls, c ∉ l.tail := by
  have hfree := List.find?_some h
  refine ⟨List.mem_filterMap.1 (List.mem_of_find?_eq_some h), fun l hl => ?_⟩
  simpa using List.all_eq_true.1 hfree l hl

/-- so it is gone when it has been taken off the lists -/
theorem not_mem_dropHead (h : nextHead? ls = some c) (hl : l ∈ ls) : c ∉ dropHead c l := by
  have htail := (nextHead_facts h).2 l hl
  unfold dropHead
  split
  · exact htail
  · next hhead =>
    intro hmem
    cases l with
    | nil => exact List.not_mem_nil hmem
    | cons a l =>
      rcases List.mem_cons.1 hmem with rfl | hmem
      · exact hhead rfl
      · exact htail hmem

namespace Merges

/-- each list keeps its order -/
theorem sublist (h : Merges ls out) (hl : l ∈ ls) : l.Sublist out := by
  induction h generalizing l with
  | done empty =>
    obtain rfl := empty l hl
    exact List.Sublist.refl []
  | @take ls c out next rest ih =>
    have hrest := ih (List.mem_map_of_mem hl)
    unfold dropHead at hrest
    split at hrest
    · next hhead =>
      obtain ⟨tail, rfl⟩ := List.head?_eq_some_iff.1 hhead
      exact hrest.cons_cons c
    · exact hrest.cons c

/-- what is put out comes from one of the lists -/
theorem covers (h : Merges ls out) (hx : x ∈ out) : ∃ l ∈ ls, x ∈ l := by
  induction h with
  | done empty => cases hx
  | @take ls c out next rest ih =>
    rcases List.mem_cons.1 hx with rfl | hx
    · obtain ⟨l, hl, hhead⟩ := (nextHead_facts next).1
      exact ⟨l, hl, List.mem_of_mem_head? hhead⟩
    · obtain ⟨m, hm, hxm⟩ := ih hx
      obtain ⟨l, hl, rfl⟩ := List.mem_map.1 hm
      exact ⟨l, hl, dropHead_subset hxm⟩

/-- nothing is put out twice -/
theorem nodup (h : Merges ls out) : out.Nodup := by
  induction h with
  | done empty => exact List.nodup_nil
  | @take ls c out next rest ih =>
    refine List.nodup_cons.2 ⟨fun hc => ?_, ih⟩
    obtain ⟨m, hm, hcm⟩ := rest.covers hc
    obtain ⟨l, hl, rfl⟩ := List.mem_map.1 hm
    exact not_mem_dropHead next hl hcm

/-- lists are merged in one way only -/
theorem unique {out' : List α} (h : Merges ls out) (h' : Merges ls out') : out = out' := by
  have hstuck {ls : List (List α)} {c : α} (empty : ∀ l ∈ ls, l = []) : nextHead? ls ≠ some c := by
    intro hnext
    obtain ⟨l, hl, hhead⟩ := (nextHead_facts hnext).1
    rw [empty l hl] at hhead
    cases hhead
  induction h generalizing out' with
  | done empty =>
    cases h' with
    | done _ => rfl
    | take next _ => exact absurd next (hstuck empty)
  | take next rest ih =>
    cases h' with
    | done empty => exact absurd next (hstuck empty)
    | take next' rest' =>
      obtain rfl := Option.some.inj (next.symm.trans next')
      rw [ih rest']

end Merges

end Merging

/-! ## Linearizations -/

namespace SymbolTable

variable {table : SymbolTable} {d : Definition} {order : List Definition}

/-- the bases of a class that are in the table, in order -/
def knownBases (table : SymbolTable) (d : Definition) : List Definition := d.bases.filterMap (table.base? d.module)

theorem mem_knownBases {b : Definition} : b ∈ table.knownBases d ↔ table.IsBase d b := List.mem_filterMap

/-- The C3 linearization of a class: the class, and the merge of the linearizations of its bases and of the bases. -/
inductive Linearizes (table : SymbolTable) : Definition → List Definition → Prop
  | intro {d : Definition} {rest : List Definition} (orders : Definition → List Definition)
    (bases : ∀ b ∈ table.knownBases d, Linearizes table b (orders b))
    (merges : Merges ((table.knownBases d).map orders ++ [table.knownBases d]) rest) : Linearizes table d (d :: rest)

/-- An order in which a class can be resolved: it has the classes of the hierarchy, each once, and each of them before
the classes that it inherits. -/
structure ResolutionOrder (table : SymbolTable) (d : Definition) (order : List Definition) : Prop where
  mem : ∀ x, x ∈ order ↔ table.Descends d x
  nodup : order.Nodup
  before : ∀ x ∈ order, ∀ y, table.Inherits x y → [x, y].Sublist order

section Merged

variable {orders : Definition → List Definition} {rest : List Definition}
  (merges : Merges ((table.knownBases d).map orders ++ [table.knownBases d]) rest)

include merges

theorem sublist_of_merges {b : Definition} (hb : b ∈ table.knownBases d) : (orders b).Sublist rest :=
  merges.sublist (List.mem_append_left _ (List.mem_map_of_mem hb))

/-- the bases keep the order in which the class gives them -/
theorem knownBases_sublist_of_merges : (table.knownBases d).Sublist rest :=
  merges.sublist (List.mem_append_right _ List.mem_cons_self)

theorem mem_of_merges {x : Definition} (hx : x ∈ rest) :
    x ∈ table.knownBases d ∨ ∃ b ∈ table.knownBases d, x ∈ orders b := by
  obtain ⟨l, hl, hxl⟩ := merges.covers hx
  rcases List.mem_append.1 hl with hl | hl
  · obtain ⟨b, hb, rfl⟩ := List.mem_map.1 hl
    exact Or.inr ⟨b, hb, hxl⟩
  · obtain rfl := List.mem_singleton.1 hl
    exact Or.inl hxl

end Merged

namespace Linearizes

/-- a linearization has exactly the class itself and all that it inherits -/
theorem mem_iff (h : table.Linearizes d order) (x : Definition) : x ∈ order ↔ table.Descends d x := by
  induction h with
  | @intro d rest orders bases merges ih =>
    constructor
    · intro hx
      rcases List.mem_cons.1 hx with rfl | hx
      · exact .refl
      · rcases mem_of_merges merges hx with hbase | ⟨b, hb, hxb⟩
        · exact .single (mem_knownBases.1 hbase)
        · exact .head (mem_knownBases.1 hb) ((ih b hb).1 hxb)
    · intro hx
      rcases ReflTransGen.cases_head hx with rfl | ⟨b, hb, hdescends⟩
      · exact List.mem_cons_self
      · have hknown : b ∈ table.knownBases d := mem_knownBases.2 hb
        exact List.mem_cons_of_mem _ ((sublist_of_merges merges hknown).subset ((ih b hknown).2 hdescends))

/-- no class of a hierarchy that is linearized is among its own bases -/
theorem acyclic (h : table.Linearizes d order) : ∀ b, table.Descends d b → ¬ table.Inherits b b := by
  induction h with
  | @intro d rest orders bases merges ih =>
    intro x hx hcycle
    rcases ReflTransGen.cases_head hx with rfl | ⟨b, hb, hdescends⟩
    · -- a cycle through the class itself goes through one of its bases
      obtain ⟨b, hb, hback⟩ := TransGen.head'_iff.1 hcycle
      exact ih b (mem_knownBases.2 hb) d hback hcycle
    · exact ih b (mem_knownBases.2 hb) x hdescends hcycle

theorem nodup (h : table.Linearizes d order) : order.Nodup := by
  have hacyclic := h.acyclic
  obtain ⟨orders, bases, merges⟩ := h
  refine List.nodup_cons.2 ⟨fun hd => ?_, merges.nodup⟩
  rcases mem_of_merges merges hd with hbase | ⟨b, hb, hdb⟩
  · exact hacyclic d .refl (.single (mem_knownBases.1 hbase))
  · exact hacyclic d .refl (.head' (mem_knownBases.1 hb) (((bases b hb).mem_iff d).1 hdb))

/-- a class comes before all that it inherits -/
theorem before (h : table.Linearizes d order) {x y : Definition} (hx : x ∈ order) (hy : table.Inherits x y) :
    [x, y].Sublist order := by
  induction h with
  | @intro d rest orders bases merges ih =>
    rcases List.mem_cons.1 hx with rfl | hx
    · obtain ⟨b, hb, hdescends⟩ := TransGen.head'_iff.1 hy
      have hknown : b ∈ table.knownBases x := mem_knownBases.2 hb
      have hmem : y ∈ rest := (sublist_of_merges merges hknown).subset (((bases b hknown).mem_iff y).2 hdescends)
      exact (List.singleton_sublist.2 hmem).cons_cons x
    · -- the class is in the linearization of a base, where it comes before what it inherits
      have hbase : ∃ b ∈ table.knownBases d, x ∈ orders b := by
        rcases mem_of_merges merges hx with hbase | hbase
        · exact ⟨x, hbase, ((bases x hbase).mem_iff x).2 .refl⟩
        · exact hbase
      obtain ⟨b, hb, hxb⟩ := hbase
      exact ((ih b hb hxb).trans (sublist_of_merges merges hb)).cons d

/-- the bases of the class come in the order in which it gives them -/
theorem knownBases_sublist (h : table.Linearizes d order) : (table.knownBases d).Sublist order := by
  obtain ⟨orders, bases, merges⟩ := h
  exact (knownBases_sublist_of_merges merges).cons _

/-- a class has one linearization at most -/
theorem unique {order' : List Definition} (h : table.Linearizes d order) (h' : table.Linearizes d order') :
    order = order' := by
  induction h generalizing order' with
  | @intro d rest orders bases merges ih =>
    obtain ⟨orders', bases', merges'⟩ := h'
    have horders : (table.knownBases d).map orders = (table.knownBases d).map orders' :=
      List.map_congr_left fun b hb => ih b hb (bases' b hb)
    rw [horders] at merges
    rw [merges.unique merges']

/-- **Linearizations.** A linearization has the classes of the hierarchy once each, and a class before all that it
inherits. -/
theorem resolution (h : table.Linearizes d order) : table.ResolutionOrder d order :=
  ⟨h.mem_iff, h.nodup, fun _ hx _ hy => h.before hx hy⟩

end Linearizes

/-- Without cycles the same holds of the reverse of the depth-first post-order. -/
theorem Visits.resolution {after : List String} (h : table.Visits d.module d.bases [d.fullName] order after)
    (hd : table.Found d) (hacyclic : ∀ b, table.Descends d b → ¬ table.Inherits b b) :
    table.ResolutionOrder d (d :: order.reverse) := by
  have hreverse : d :: order.reverse = (order ++ [d]).reverse := by simp
  rw [hreverse]
  refine ⟨fun x => ?_, List.nodup_reverse.2 h.nodup, fun x hx y hy => ?_⟩
  · rw [List.mem_reverse]
    exact h.mem_lineage hd x
  · obtain ⟨before, later, hsplit⟩ := List.append_of_mem (List.mem_reverse.1 hx)
    have hy : y ∈ before := h.inherited_first hd hacyclic hsplit hy
    rw [hsplit]
    have hpair : [y, x].Sublist (before ++ x :: later) :=
      (List.singleton_sublist.2 hy).append (List.singleton_sublist.2 List.mem_cons_self)
    exact List.reverse_sublist.2 hpair

end SymbolTable

end RouteDocs.Schema
