/-
The order in which the classes of a lineage contribute: the depth-first post-order of the base classes.

Visiting the bases of a class in turn is a relation (`SymbolTable.Visits`): each look at a base expression is one step,
and nothing bounds how deep the visits go. They end because a class is entered once, whatever cycles there are. The list
of the classes that are left, in the order in which they are left, is the order in which they contribute their fields.

- `Visits.covers`, `Visits.sound`: visited classes are reached, and their bases have been visited too.
- `Visits.bases_first`: a class comes after its bases, if no visited class is among its own bases.
- `SymbolTable.visits_lineage`: the visits end for every class, and its lineage is their order.
- `SymbolTable.fieldsOf_postOrder`: the fields of a class are put in class after class, in this order.
-/
import Mathlib.Logic.Relation
import RouteDocs.Proofs.Schema.InheritedFields
import RouteDocs.Proofs.Schema.Reduction

namespace RouteDocs.Schema

open Relation

/-! ## Names of classes -/

def SymbolTable.Found (table : SymbolTable) (d : Definition) : Prop :=
  ∃ ref package, table.lookup ref package = some d

/-- what a look-up answers with has no point in its name -/
theorem SymbolTable.Found.point_not_mem {table : SymbolTable} {d : Definition} (h : table.Found d) :
    '.' ∉ d.name.toList := by
  obtain ⟨ref, package, hlookup⟩ := h
  rw [SymbolTable.name_of_lookup hlookup, Reference.ofText]
  intro hpoint
  simp only [Text.cutLast, String.toList_ofList, List.mem_reverse] at hpoint
  simpa using List.mem_takeWhile_imp hpoint

/-- so a class that is looked up is determined by its full name -/
theorem SymbolTable.Found.eq {table : SymbolTable} {d e : Definition} (hd : table.Found d) (he : table.Found e)
    (h : d.fullName = e.fullName) : d = e := by
  have hlast {m n : String} (hn : '.' ∉ n.toList) : TypeExpr.bareName (m ++ "." ++ n).toList = n.toList := by
    rw [String.toList_append, TypeExpr.bareName_append (Or.inr (by simp)), TypeExpr.bareName_eq_self hn]
  have hname : d.name = e.name := by
    have hbare := congrArg (fun s : String => TypeExpr.bareName s.toList) h
    simp only [Definition.fullName, hlast hd.point_not_mem, hlast he.point_not_mem] at hbare
    exact String.toList_injective hbare
  have hmodule : d.module = e.module := by
    have htext := congrArg String.toList h
    simp only [Definition.fullName, String.toList_append, hname] at htext
    exact String.toList_injective (List.append_cancel_right (List.append_cancel_right htext))
  obtain ⟨_, _, hd⟩ := hd
  obtain ⟨_, _, he⟩ := he
  exact (SymbolTable.visible_of_lookup hd).eq (SymbolTable.visible_of_lookup he) hname hmodule

/-- the fields of classes, put in one class after the other: a field replaces one of its name in its place -/
def FieldMap.ofClasses (classes : List Definition) : FieldMap :=
  classes.foldl (fun m b => FieldMap.addAll m b.fields) ∅

namespace SymbolTable

variable {table : SymbolTable}

/-- where an entry of a list stands that is made of two parts and an entry between them -/
theorem split_cases {α : Type} {left right before later : List α} {b x : α}
    (h : left ++ b :: right = before ++ x :: later) :
    (∃ rest, left = before ++ x :: rest) ∨ (before = left ∧ x = b) ∨
      ∃ between, before = left ++ b :: between ∧ right = between ++ x :: later := by
  rcases List.append_eq_append_iff.1 h with ⟨l, hbefore, hright⟩ | ⟨l, hleft, hlater⟩
  · cases l with
    | nil =>
      obtain ⟨rfl, -⟩ := List.cons.inj hright
      exact Or.inr (Or.inl ⟨by simpa using hbefore, rfl⟩)
    | cons c between =>
      obtain ⟨rfl, htail⟩ := List.cons.inj hright
      exact Or.inr (Or.inr ⟨between, hbefore, htail⟩)
  · cases l with
    | nil =>
      obtain ⟨rfl, -⟩ := List.cons.inj hlater
      exact Or.inr (Or.inl ⟨by simpa using hleft.symm, rfl⟩)
    | cons c rest =>
      obtain ⟨rfl, -⟩ := List.cons.inj hlater
      exact Or.inl ⟨rest, hleft⟩

/-! ## Bases -/

/-- the class that a base expression means in a module -/
def base? (table : SymbolTable) (package base : String) : Option Definition :=
  table.lookup (elementType base).name package

/-- a base expression of the first class means the second one -/
def IsBase (table : SymbolTable) (d b : Definition) : Prop := ∃ base ∈ d.bases, table.base? d.module base = some b

theorem IsBase.found {d b : Definition} (h : table.IsBase d b) : table.Found b := by
  obtain ⟨base, -, hmeans⟩ := h
  exact ⟨_, _, hmeans⟩

/-- the second class is the first one, or one of its direct and indirect bases -/
def Descends (table : SymbolTable) : Definition → Definition → Prop := ReflTransGen table.IsBase

/-- the second class is one of the direct and indirect bases of the first one -/
def Inherits (table : SymbolTable) : Definition → Definition → Prop := TransGen table.IsBase

/-- Visiting the bases of a class in `package` in turn: full names that have been seen, the classes left on the way, in
the order in which they are left, and the full names that have been seen afterwards. -/
inductive Visits (table : SymbolTable) :
    (package : String) → (bases seen : List String) → (order : List Definition) → (after : List String) → Prop
  | nil {package : String} {seen : List String} : Visits table package [] seen [] seen
  /-- the base is not in the table -/
  | unknown {package base : String} {bases seen after : List String} {order : List Definition}
    (means : table.base? package base = none) (rest : Visits table package bases seen order after) :
    Visits table package (base :: bases) seen order after
  /-- the base has been seen before -/
  | again {package base : String} {bases seen after : List String} {order : List Definition} {b : Definition}
    (means : table.base? package base = some b) (old : b.fullName ∈ seen)
    (rest : Visits table package bases seen order after) : Visits table package (base :: bases) seen order after
  /-- the base is entered: its own bases are visited, and it is left after them -/
  | enter {package base : String} {bases seen middle after : List String} {inner order : List Definition}
    {b : Definition} (means : table.base? package base = some b) (new : b.fullName ∉ seen)
    (inside : Visits table b.module b.bases (b.fullName :: seen) inner middle)
    (rest : Visits table package bases middle order after) :
    Visits table package (base :: bases) seen (inner ++ b :: order) after

namespace Visits

variable {package : String} {bases seen after : List String} {order : List Definition}

/-- what has been seen afterwards are the classes that were left, and what had been seen before -/
theorem mem_after (h : table.Visits package bases seen order after) (name : String) :
    name ∈ after ↔ name ∈ seen ∨ ∃ b ∈ order, b.fullName = name := by
  induction h with
  | nil => simp
  | unknown means rest ih => exact ih
  | again means old rest ih => exact ih
  | enter means new inside rest ihInside ihRest =>
    rw [ihRest, ihInside]
    simp only [List.mem_append, List.mem_cons, or_and_right, exists_or, exists_eq_left]
    constructor
    · rintro (((rfl | hseen) | hinner) | horder)
      · exact Or.inr (Or.inr (Or.inl rfl))
      · exact Or.inl hseen
      · exact Or.inr (Or.inl hinner)
      · exact Or.inr (Or.inr (Or.inr horder))
    · rintro (hseen | hinner | rfl | horder)
      · exact Or.inl (Or.inl (Or.inr hseen))
      · exact Or.inl (Or.inr hinner)
      · exact Or.inl (Or.inl (Or.inl rfl))
      · exact Or.inr horder

/-- no class is left that had been seen before -/
theorem not_seen (h : table.Visits package bases seen order after) : ∀ b ∈ order, b.fullName ∉ seen := by
  induction h with
  | nil => simp
  | unknown means rest ih => exact ih
  | again means old rest ih => exact ih
  | enter means new inside rest ihInside ihRest =>
    intro e he
    rcases List.mem_append.1 he with he | he
    · exact fun hseen => ihInside e he (List.mem_cons_of_mem _ hseen)
    · rcases List.mem_cons.1 he with rfl | he
      · exact new
      · exact fun hseen => ihRest e he ((inside.mem_after _).2 (Or.inl (List.mem_cons_of_mem _ hseen)))

/-- no class is left twice -/
theorem nodup_names (h : table.Visits package bases seen order after) : (order.map Definition.fullName).Nodup := by
  induction h with
  | nil => exact List.nodup_nil
  | unknown means rest ih => exact ih
  | again means old rest ih => exact ih
  | @enter package base bases seen middle after inner order b means new inside rest ihInside ihRest =>
    -- what is left later had not been seen when the inner visits were over
    have hmiddle (name : String) (hname : name ∈ order.map Definition.fullName) : name ∉ middle := by
      obtain ⟨e, he, rfl⟩ := List.mem_map.1 hname
      exact rest.not_seen e he
    have hself : b.fullName ∉ order.map Definition.fullName :=
      fun hmem => hmiddle _ hmem ((inside.mem_after _).2 (Or.inl List.mem_cons_self))
    rw [List.map_append, List.map_cons, List.nodup_append, List.nodup_cons]
    refine ⟨ihInside, ⟨hself, ihRest⟩, fun x hx y hy hxy => ?_⟩
    subst hxy
    obtain ⟨e, he, hname⟩ := List.mem_map.1 hx
    rcases List.mem_cons.1 hy with rfl | hy
    · exact inside.not_seen e he (hname ▸ List.mem_cons_self)
    · exact hmiddle x hy ((inside.mem_after x).2 (Or.inr ⟨e, he, hname⟩))

/-- visits can go in one way only -/
theorem unique {order' : List Definition} {after' : List String} (h : table.Visits package bases seen order after)
    (h' : table.Visits package bases seen order' after') : order = order' ∧ after = after' := by
  induction h generalizing order' after' with
  | nil =>
    cases h'
    exact ⟨rfl, rfl⟩
  | unknown means rest ih =>
    cases h' with
    | unknown means' rest' => exact ih rest'
    | again means' old' rest' => cases means.symm.trans means'
    | enter means' new' inside' rest' => cases means.symm.trans means'
  | again means old rest ih =>
    cases h' with
    | unknown means' rest' => cases means.symm.trans means'
    | again means' old' rest' => exact ih rest'
    | enter means' new' inside' rest' =>
      cases means.symm.trans means'
      exact absurd old new'
  | enter means new inside rest ihInside ihRest =>
    cases h' with
    | unknown means' rest' => cases means.symm.trans means'
    | again means' old' rest' =>
      cases means.symm.trans means'
      exact absurd old' new
    | enter means' new' inside' rest' =>
      cases means.symm.trans means'
      obtain ⟨rfl, rfl⟩ := ihInside inside'
      obtain ⟨rfl, rfl⟩ := ihRest rest'
      exact ⟨rfl, rfl⟩

/-- the visits of bases are those of the first of them, and then those of the others -/
theorem split {first others : List String} (h : table.Visits package (first ++ others) seen order after) :
    ∃ front middle back, table.Visits package first seen front middle ∧
    table.Visits package others middle back after ∧
      order = front ++ back := by
  induction first generalizing seen order with
  | nil => exact ⟨[], seen, order, .nil, h, rfl⟩
  | cons base first ih =>
    cases h with
    | unknown means rest =>
      obtain ⟨front, middle, back, hfront, hback, rfl⟩ := ih rest
      exact ⟨front, middle, back, .unknown means hfront, hback, rfl⟩
    | again means old rest =>
      obtain ⟨front, middle, back, hfront, hback, rfl⟩ := ih rest
      exact ⟨front, middle, back, .again means old hfront, hback, rfl⟩
    | @enter _ _ _ _ _ _ inner _ b means new inside rest =>
      obtain ⟨front, middle, back, hfront, hback, rfl⟩ := ih rest
      exact ⟨inner ++ b :: front, middle, back, .enter means new inside hfront, hback, by simp⟩

/-- a class that is left is one of the bases, or inherited by one of them -/
theorem sound (h : table.Visits package bases seen order after) :
    ∀ x ∈ order, ∃ base ∈ bases, ∃ b, table.base? package base = some b ∧ table.Descends b x := by
  induction h with
  | nil => simp
  | unknown means rest ih =>
    intro x hx
    obtain ⟨base, hbase, hb⟩ := ih x hx
    exact ⟨base, List.mem_cons_of_mem _ hbase, hb⟩
  | again means old rest ih =>
    intro x hx
    obtain ⟨base, hbase, hb⟩ := ih x hx
    exact ⟨base, List.mem_cons_of_mem _ hbase, hb⟩
  | @enter package first bases seen middle after inner order b means new inside rest ihInside ihRest =>
    intro x hx
    rcases List.mem_append.1 hx with hx | hx
    · obtain ⟨base, hbase, e, he, hdescends⟩ := ihInside x hx
      exact ⟨first, List.mem_cons_self, b, means, .head ⟨base, hbase, he⟩ hdescends⟩
    · rcases List.mem_cons.1 hx with rfl | hx
      · exact ⟨first, List.mem_cons_self, x, means, .refl⟩
      · obtain ⟨base, hbase, hb⟩ := ihRest x hx
        exact ⟨base, List.mem_cons_of_mem _ hbase, hb⟩

/-- the bases have been seen, and so have the bases of every class that is left -/
theorem covers (h : table.Visits package bases seen order after) :
    (∀ base ∈ bases, ∀ b, table.base? package base = some b → b.fullName ∈ after) ∧
      ∀ x ∈ order, ∀ b, table.IsBase x b → b.fullName ∈ after := by
  induction h with
  | nil => simp
  | @unknown package first bases seen after order means rest ih =>
    refine ⟨List.forall_mem_cons.2 ⟨fun b hb => ?_, ih.1⟩, ih.2⟩
    rw [means] at hb
    cases hb
  | again means old rest ih =>
    refine ⟨List.forall_mem_cons.2 ⟨fun b hb => ?_, ih.1⟩, ih.2⟩
    obtain rfl := Option.some.inj (means.symm.trans hb)
    exact (rest.mem_after _).2 (Or.inl old)
  | @enter package first bases seen middle after inner order b means new inside rest ihInside ihRest =>
    have hmiddle : ∀ name ∈ middle, name ∈ after := fun name hname => (rest.mem_after name).2 (Or.inl hname)
    refine ⟨List.forall_mem_cons.2 ⟨fun e he => ?_, ihRest.1⟩, fun x hx e he => ?_⟩
    · obtain rfl := Option.some.inj (means.symm.trans he)
      exact hmiddle _ ((inside.mem_after _).2 (Or.inl List.mem_cons_self))
    · rcases List.mem_append.1 hx with hx | hx
      · exact hmiddle _ (ihInside.2 x hx e he)
      · rcases List.mem_cons.1 hx with rfl | hx
        · obtain ⟨base, hbase, hmeans⟩ := he
          exact hmiddle _ (ihInside.1 base hbase e hmeans)
        · exact ihRest.2 x hx e he

/-- a class that is left is in the table -/
theorem found (h : table.Visits package bases seen order after) : ∀ x ∈ order, table.Found x := by
  intro x hx
  obtain ⟨base, -, b, hb, hdescends⟩ := h.sound x hx
  cases hdescends with
  | refl => exact ⟨_, _, hb⟩
  | tail hdescends hlast => exact hlast.found

/-- A class comes after each of its bases, or the base had been seen before, if no class that is left is among its own
bases. -/
theorem bases_first (h : table.Visits package bases seen order after)
    (hacyclic : ∀ x ∈ order, ¬ table.Inherits x x) :
    ∀ {before x later}, order = before ++ x :: later → ∀ b, table.IsBase x b →
    b ∈ before ∨ b.fullName ∈ seen := by
  induction h with
  | nil => simp
  | unknown means rest ih => exact ih hacyclic
  | again means old rest ih => exact ih hacyclic
  | @enter package base bases seen middle after inner order b means new inside rest ihInside ihRest =>
    obtain ⟨hinner, hparts⟩ := List.forall_mem_append.1 hacyclic
    obtain ⟨hb, horder⟩ := List.forall_mem_cons.1 hparts
    have hbFound : table.Found b := ⟨_, _, means⟩
    intro before x later hsplit e he
    rcases split_cases hsplit with ⟨rest', hbefore⟩ | ⟨rfl, rfl⟩ | ⟨between, rfl, hlater⟩
    · -- inside the visits of the base, this one is not among the bases
      refine (ihInside hinner hbefore e he).imp_right fun hseen => ?_
      refine (List.mem_cons.1 hseen).resolve_left fun hname => ?_
      obtain rfl := he.found.eq hbFound hname
      obtain ⟨first, hfirst, c, hc, hdescends⟩ := inside.sound x (by simp [hbefore])
      exact absurd (TransGen.head' ⟨first, hfirst, hc⟩ (hdescends.tail he)) hb
    · -- the bases of the entered class have been seen before, or are left inside
      obtain ⟨expr, hexpr, hmeans⟩ := he
      rcases (inside.mem_after _).1 (inside.covers.1 expr hexpr e hmeans) with hseen | ⟨y, hy, hname⟩
      · refine Or.inr ((List.mem_cons.1 hseen).resolve_left fun hname => ?_)
        obtain rfl := Found.eq ⟨_, _, hmeans⟩ hbFound hname
        exact hb (.single ⟨expr, hexpr, hmeans⟩)
      · obtain rfl := (inside.found y hy).eq ⟨_, _, hmeans⟩ hname
        exact Or.inl hy
    · rcases ihRest horder hlater e he with hbetween | hmiddle
      · exact Or.inl (by simp [hbetween])
      · rcases (inside.mem_after _).1 hmiddle with hseen | ⟨y, hy, hname⟩
        · rcases List.mem_cons.1 hseen with hname | hseen
          · obtain rfl := he.found.eq hbFound hname
            exact Or.inl (by simp)
          · exact Or.inr hseen
        · obtain rfl := (inside.found y hy).eq he.found hname
          exact Or.inl (by simp [hy])

end Visits

/-! ## Visits end -/

/-- the definitions whose full name has not been seen -/
def unvisited (table : SymbolTable) (seen : List String) : List Definition :=
  table.definitions.filter (·.fullName ∉ seen)

theorem length_unvisited_mono {seen after : List String} (h : ∀ name ∈ seen, name ∈ after) :
    (table.unvisited after).length ≤ (table.unvisited seen).length := by
  refine (List.monotone_filter_right table.definitions fun d hd => ?_).length_le
  simp only [decide_eq_true_eq] at hd ⊢
  exact fun hseen => hd (h _ hseen)

theorem length_unvisited_cons {seen : List String} {b : Definition} (hb : b ∈ table.definitions)
    (hnew : b.fullName ∉ seen) : (table.unvisited (b.fullName :: seen)).length < (table.unvisited seen).length := by
  have hsub : table.unvisited (b.fullName :: seen) = (table.unvisited seen).filter (·.fullName ≠ b.fullName) := by
    unfold unvisited
    rw [List.filter_filter]
    congr 1
    funext e
    simp
  rw [hsub]
  refine List.length_filter_lt_length_iff_exists.2 ⟨b, List.mem_filter.2 ⟨hb, by simpa using hnew⟩, by simp⟩

theorem mem_definitions_of_base? {package base : String} {b : Definition} (h : table.base? package base = some b) :
    b ∈ table.definitions := (mem_of_lookup h).1

/-- where every definition has been seen, no base is entered -/
theorem visits_seen (package : String) (bases : List String) {seen : List String}
    (h : ∀ b ∈ table.definitions, b.fullName ∈ seen) : table.Visits package bases seen [] seen := by
  induction bases with
  | nil => exact .nil
  | cons base bases ih =>
    cases hb : table.base? package base with
    | none => exact .unknown hb ih
    | some b => exact .again hb (h b (mem_definitions_of_base? hb)) ih

/-- the visits that a lineage of some depth is made of end -/
def Laid (table : SymbolTable) (depth : Nat) (d : Definition) (seen : List String) : Prop :=
  ∃ order after, table.Visits d.module d.bases (d.fullName :: seen) order after ∧
    table.lineageFrom depth d seen = ⟨order ++ [d], after⟩

/-- visits of bases in turn end if those of each single one do -/
theorem visits_foldl {depth : Nat}
    (hlaid : ∀ b seen, (table.unvisited (b.fullName :: seen)).length ≤ depth → table.Laid depth b seen)
    (package : String) (bases : List String) (acc : Lineage) (hacc : (table.unvisited acc.seen).length ≤ depth + 1) :
    ∃ order after, table.Visits package bases acc.seen order after ∧
      bases.foldl (Lineage.addBase table (table.lineageFrom depth) package) acc
        = ⟨acc.classes ++ order, after⟩ := by
  induction bases generalizing acc with
  | nil => exact ⟨[], _, .nil, by simp⟩
  | cons base bases ih =>
    rw [List.foldl_cons, Lineage.addBase]
    cases hb : table.lookup (elementType base).name package with
    | none =>
      obtain ⟨order, after, hvisits, heq⟩ := ih acc hacc
      exact ⟨order, after, .unknown hb hvisits, heq⟩
    | some b =>
      dsimp only
      split
      · next hold =>
        obtain ⟨order, after, hvisits, heq⟩ := ih acc hacc
        exact ⟨order, after, .again hb hold hvisits, heq⟩
      · next hnew =>
        have hfewer := length_unvisited_cons (mem_of_lookup hb).1 hnew
        obtain ⟨inner, middle, hinside, hsub⟩ := hlaid b acc.seen (by omega)
        rw [hsub]
        have hmiddle : (table.unvisited middle).length ≤ depth + 1 := by
          refine (length_unvisited_mono fun name hname => ?_).trans hacc
          exact (hinside.mem_after name).2 (Or.inl (List.mem_cons_of_mem _ hname))
        obtain ⟨order, after, hvisits, heq⟩ := ih ⟨acc.classes ++ (inner ++ [b]), middle⟩ hmiddle
        exact ⟨inner ++ b :: order, after, .enter hb hnew hinside hvisits, by simp [heq]⟩

/-- they end if they may go as deep as there are definitions that have not been seen -/
theorem laid_of_unvisited {depth : Nat} {d : Definition} {seen : List String}
    (hdepth : (table.unvisited (d.fullName :: seen)).length ≤ depth) : table.Laid depth d seen := by
  induction depth generalizing d seen with
  | zero =>
    have hnone := List.filter_eq_nil_iff.1 (List.length_eq_zero_iff.1 (Nat.le_zero.1 hdepth))
    have hall : ∀ b ∈ table.definitions, b.fullName ∈ d.fullName :: seen := by
      intro b hb
      by_contra hnew
      exact hnone b hb (decide_eq_true hnew)
    exact ⟨[], _, visits_seen d.module d.bases hall, rfl⟩
  | succ depth ih =>
    obtain ⟨order, after, hvisits, heq⟩ :=
      visits_foldl (fun b seen => ih) d.module d.bases ⟨[], d.fullName :: seen⟩ hdepth
    refine ⟨order, after, hvisits, ?_⟩
    rw [lineageFrom, heq]
    rfl

/-- **Visits end.** Visiting the bases of a class ends, whatever the table and the class are, and the classes that are
left make its lineage, together with the class itself. -/
theorem visits_lineage (table : SymbolTable) (d : Definition) :
    ∃ order after, table.Visits d.module d.bases [d.fullName] order after ∧ table.lineage d = order ++ [d] := by
  obtain ⟨order, after, hvisits, heq⟩ : table.Laid table.definitions.length d [] :=
    laid_of_unvisited (List.length_filter_le _ _)
  exact ⟨order, after, hvisits, by rw [lineage, heq]⟩

/-! ## The fields of a class -/

section Lineage

variable {d : Definition} {order : List Definition} {after : List String}

/-- no class is twice in a lineage -/
theorem Visits.nodup (h : table.Visits d.module d.bases [d.fullName] order after) : (order ++ [d]).Nodup := by
  refine (h.nodup_names.of_map _).append (List.nodup_singleton d) (List.disjoint_singleton.2 fun hd => ?_)
  exact h.not_seen d hd List.mem_cons_self

/-- a lineage has exactly the class itself and all that it inherits -/
theorem Visits.mem_lineage (h : table.Visits d.module d.bases [d.fullName] order after) (hd : table.Found d)
    (b : Definition) : b ∈ order ++ [d] ↔ table.Descends d b := by
  rw [List.mem_append, List.mem_singleton]
  constructor
  · rintro (hb | rfl)
    · obtain ⟨base, hbase, c, hc, hdescends⟩ := h.sound b hb
      exact .head ⟨base, hbase, hc⟩ hdescends
    · exact .refl
  · intro hdescends
    induction hdescends with
    | refl => exact Or.inr rfl
    | @tail x y _ hlast ih =>
      -- the bases of a class that is left have been seen when the visits are over
      have hseen : y.fullName ∈ after := by
        rcases ih with hx | rfl
        · exact h.covers.2 x hx y hlast
        · obtain ⟨base, hbase, hmeans⟩ := hlast
          exact h.covers.1 base hbase y hmeans
      have hy : table.Found y := hlast.found
      rcases (h.mem_after _).1 hseen with hself | ⟨z, hz, hname⟩
      · exact Or.inr (hy.eq hd (List.mem_singleton.1 hself))
      · obtain rfl := (h.found z hz).eq hy hname
        exact Or.inl hz

/-- in a lineage without cycles a class comes after all that it inherits -/
theorem Visits.inherited_first (h : table.Visits d.module d.bases [d.fullName] order after) (hd : table.Found d)
    (hacyclic : ∀ b, table.Descends d b → ¬ table.Inherits b b) {before later : List Definition} {x b : Definition}
    (hsplit : order ++ [d] = before ++ x :: later) (hb : table.Inherits x b) : b ∈ before := by
  have hreached (y : Definition) (hy : y ∈ order ++ [d]) : table.Descends d y := (h.mem_lineage hd y).1 hy
  have hdirect {before later : List Definition} {x b : Definition} (hsplit : order ++ [d] = before ++ x :: later)
      (hb : table.IsBase x b) : b ∈ before := by
    have hx : table.Descends d x := hreached x (by simp [hsplit])
    have hbFound : table.Found b := hb.found
    have hne : b ≠ d := by
      rintro rfl
      exact hacyclic b .refl (TransGen.tail' hx hb)
    rcases split_cases hsplit with ⟨rest, hbefore⟩ | ⟨rfl, rfl⟩ | ⟨between, rfl, hlater⟩
    · have hfirst := h.bases_first (fun y hy => hacyclic y (hreached y (by simp [hy]))) hbefore b hb
      refine hfirst.resolve_right fun hseen => ?_
      exact hne (hbFound.eq hd (List.mem_singleton.1 hseen))
    · have hmem := (h.mem_lineage hd b).2 (.single hb)
      exact (List.mem_append.1 hmem).resolve_right fun hself => hne (List.mem_singleton.1 hself)
    · simp at hlater
  induction hb using TransGen.head_induction_on generalizing before later with
  | single hb => exact hdirect hsplit hb
  | @head x y hy hrest ih =>
    obtain ⟨front, back, rfl⟩ := List.append_of_mem (hdirect hsplit hy)
    have hsplit' : order ++ [d] = front ++ y :: (back ++ x :: later) := by rw [hsplit]; simp
    exact List.mem_append_left _ (ih hsplit')

/-- the fields of a class are put in class after class -/
theorem fieldsOf_lineage (table : SymbolTable) (d : Definition) :
    (fieldsOf table d).1 = (FieldMap.ofClasses (table.lineage d)).values := by
  have hfold (classes : List Definition) (m : FieldMap) :
      classes.foldl (fun m b => FieldMap.addAll m b.fields) m = m.addAll (classes.flatMap Definition.fields) := by
    induction classes generalizing m with
    | nil => rfl
    | cons b rest ih => rw [List.foldl_cons, ih, List.flatMap_cons, FieldMap.addAll_append]
  rw [fieldsOf_eq, FieldMap.ofClasses, hfold]
  simp [contributions, List.map_flatMap, Function.comp_def]

theorem Visits.fieldsOf_eq (h : table.Visits d.module d.bases [d.fullName] order after) :
    (fieldsOf table d).1 = (FieldMap.ofClasses (order ++ [d])).values := by
  obtain ⟨order', after', h', hlineage⟩ := table.visits_lineage d
  obtain ⟨rfl, rfl⟩ := h.unique h'
  rw [fieldsOf_lineage, hlineage]

/-- the last entry of a list with a property -/
theorem exists_last {α : Type} {P : α → Prop} {l : List α} (h : ∃ x ∈ l, P x) :
    ∃ earlier x later, l = earlier ++ x :: later ∧ P x ∧ ∀ y ∈ later, ¬ P y := by
  induction l with
  | nil => simp at h
  | cons a l ih =>
    by_cases hl : ∃ x ∈ l, P x
    · obtain ⟨earlier, x, later, rfl, hx, hlater⟩ := ih hl
      exact ⟨a :: earlier, x, later, rfl, hx, hlater⟩
    · obtain ⟨x, hx, hPx⟩ := h
      rcases List.mem_cons.1 hx with rfl | hx
      · exact ⟨[], x, l, rfl, hPx, fun y hy hPy => hl ⟨y, hy, hPy⟩⟩
      · exact absurd ⟨x, hx, hPx⟩ hl

/-- A field of a class in a lineage is not overridden by a class that comes before that class. -/
theorem exists_provides {before later : List Definition} {b : Definition}
    (hsplit : table.lineage d = before ++ b :: later) (hnodup : (table.lineage d).Nodup) {f : Field}
    (hf : f ∈ b.fields) : ∃ p g, table.Provides d p g ∧ g.name = f.name ∧ p ∉ before := by
  have hcontributions : table.contributions d = before.flatMap (fun c => c.fields.map (c, ·)) ++
      (b :: later).flatMap fun c => c.fields.map (c, ·) := by
    rw [contributions, hsplit, List.flatMap_append]
  have hmem : (b, f) ∈ (b :: later).flatMap fun c => c.fields.map (c, ·) :=
    List.mem_flatMap.2 ⟨b, List.mem_cons_self, List.mem_map_of_mem hf⟩
  obtain ⟨earlier, ⟨p, g⟩, rest, hrest, hname, hlast⟩ :=
    exists_last (P := fun e : Definition × Field => e.2.name = f.name) ⟨(b, f), hmem, rfl⟩
  have hprovides : table.Provides d p g := by
    refine ⟨before.flatMap (fun c => c.fields.map (c, ·)) ++ earlier, rest, ?_, fun e he => ?_⟩
    · rw [hcontributions, hrest, List.append_assoc]
    · rw [hname]
      exact hlast e he
  refine ⟨p, g, hprovides, hname, fun hp => ?_⟩
  -- what comes last is in the part of the class itself and of later ones
  have hpg : (p, g) ∈ (b :: later).flatMap fun c => c.fields.map (c, ·) := by simp [hrest]
  obtain ⟨c, hc, hfield⟩ := List.mem_flatMap.1 hpg
  obtain ⟨g', -, heq⟩ := List.mem_map.1 hfield
  obtain rfl : c = p := (Prod.mk.inj heq).1
  rw [hsplit] at hnodup
  exact List.disjoint_of_nodup_append hnodup hp hc

/-- **Inheritance follows the depth-first post-order.** The bases of a class are visited depth first, each class once;
the fields of the classes are put in one class after the other, in the order in which they are left, the class itself
last, and a field replaces one of its name in its place. Classes are told apart by their full names, so let some
reference mean the class. Then the names of the fields are those that some inherited class or the class itself declares;
and if no class is among its own bases, what a class declares is not replaced by what one of its direct or indirect
bases declares. -/
theorem fieldsOf_postOrder (table : SymbolTable) (d : Definition) :
    ∃ order after, table.Visits d.module d.bases [d.fullName] order after ∧ (order ++ [d]).Nodup ∧
      (fieldsOf table d).1 = (FieldMap.ofClasses (order ++ [d])).values ∧
      (table.Found d →
        (∀ b, b ∈ order ++ [d] ↔ table.Descends d b) ∧
        (∀ name, name ∈ (fieldsOf table d).1.map Field.name ↔
          ∃ b, table.Descends d b ∧ ∃ f ∈ b.fields, f.name = name) ∧
        ((∀ b, table.Descends d b → ¬ table.Inherits b b) → ∀ b, table.Descends d b → ∀ f ∈ b.fields,
          ∃ p g, table.Provides d p g ∧ g.name = f.name ∧ ¬ table.Inherits b p)) := by
  obtain ⟨order, after, hvisits, hlineage⟩ := table.visits_lineage d
  have hnodup := hvisits.nodup
  refine ⟨order, after, hvisits, hnodup, hvisits.fieldsOf_eq, fun hd => ?_⟩
  have hmem := hvisits.mem_lineage hd
  have hprovides {b : Definition} (hb : table.Descends d b) {f : Field} (hf : f ∈ b.fields) :
      ∃ before later p g, order ++ [d] = before ++ b :: later ∧ table.Provides d p g ∧ g.name = f.name ∧
        p ∉ before := by
    obtain ⟨before, later, hsplit⟩ := List.append_of_mem ((hmem b).2 hb)
    obtain ⟨p, g, hg⟩ := exists_provides (hlineage.trans hsplit) (hlineage ▸ hnodup) hf
    exact ⟨before, later, p, g, hsplit, hg⟩
  refine ⟨hmem, fun name => ⟨fun hname => ?_, ?_⟩, fun hacyclic b hb f hf => ?_⟩
  · obtain ⟨f, hf, rfl⟩ := List.mem_map.1 hname
    obtain ⟨b, hb⟩ := mem_fieldsOf.1 hf
    exact ⟨b, (hmem b).1 (hlineage ▸ hb.declared.1), f, hb.declared.2, rfl⟩
  · rintro ⟨b, hb, f, hf, rfl⟩
    obtain ⟨-, -, p, g, -, hg, hname, -⟩ := hprovides hb hf
    exact List.mem_map.2 ⟨g, mem_fieldsOf.2 ⟨p, hg⟩, hname⟩
  · obtain ⟨before, later, p, g, hsplit, hg, hname, hp⟩ := hprovides hb hf
    exact ⟨p, g, hg, hname, fun hinherits => hp (hvisits.inherited_first hd hacyclic hsplit hinherits)⟩

end Lineage

/-- what the classes of the example have in common -/
def recordClass : Definition := ⟨"Record", "app.base", [], [⟨"id", "int", true⟩, ⟨"note", "str", false⟩]⟩

def namedClass : Definition :=
  ⟨"Named", "app.parts", ["base.Record"], [⟨"name", "str", true⟩, ⟨"note", "str", true⟩]⟩

def datedClass : Definition := ⟨"Dated", "app.parts", ["Optional[Record]"], [⟨"at", "date", true⟩]⟩

/-- a record with a name and a date, and with an identifier of its own -/
def visitClass : Definition := ⟨"Visit", "app.visits", ["Named", "Unknown", "Dated"], [⟨"id", "str", true⟩]⟩

/-- Two bases of a class have a base in common. -/
def visitClasses : SymbolTable := ⟨[visitClass, datedClass, namedClass, recordClass]⟩

/-- The bases of each class of the example have fewer bases than the class. -/
theorem visitClasses_acyclic {x b : Definition} (hx : x ∈ visitClasses.definitions)
    (h : visitClasses.Inherits x b) : b.bases.length < x.bases.length := by
  have hdirect : ∀ x ∈ visitClasses.definitions, ∀ base ∈ x.bases, ∀ b ∈ visitClasses.base? x.module base,
      b.bases.length < x.bases.length := by
    decide +kernel
  induction h using TransGen.head_induction_on with
  | single hb =>
    obtain ⟨base, hbase, hmeans⟩ := hb
    exact hdirect _ hx base hbase _ hmeans
  | head hb _ ih =>
    obtain ⟨base, hbase, hmeans⟩ := hb
    exact (ih (mem_definitions_of_base? hmeans)).trans (hdirect _ hx base hbase _ hmeans)

/-- The common base contributes once, before both; what is declared later keeps the place of what it replaces. -/
theorem fieldsOf_postOrder_visit :
    visitClasses.Found visitClass ∧
      (fieldsOf visitClasses visitClass).1
        = [⟨"id", "str", true⟩, ⟨"note", "str", true⟩, ⟨"name", "str", true⟩, ⟨"at", "date", true⟩] ∧
      (∀ b, visitClasses.Descends visitClass b → ¬ visitClasses.Inherits b b) ∧
      ∀ b, visitClasses.Descends visitClass b → ∀ f ∈ b.fields,
        ∃ p g, visitClasses.Provides visitClass p g ∧ g.name = f.name ∧ ¬ visitClasses.Inherits b p := by
  have hfound : visitClasses.Found visitClass := ⟨"Visit", "app.visits", by decide +kernel⟩
  have hacyclic : ∀ b, visitClasses.Descends visitClass b → ¬ visitClasses.Inherits b b := by
    intro b hb hcycle
    have hmem : b ∈ visitClasses.definitions := by
      cases hb with
      | refl => exact List.mem_cons_self
      | tail _ hlast =>
        obtain ⟨base, -, hmeans⟩ := hlast
        exact mem_definitions_of_base? hmeans
    exact absurd (visitClasses_acyclic hmem hcycle) (Nat.lt_irrefl _)
  obtain ⟨order, after, -, -, -, hmeant⟩ := visitClasses.fieldsOf_postOrder visitClass
  obtain ⟨-, -, hkept⟩ := hmeant hfound
  exact ⟨hfound, by decide +kernel, hacyclic, hkept hacyclic⟩

end SymbolTable

end RouteDocs.Schema
