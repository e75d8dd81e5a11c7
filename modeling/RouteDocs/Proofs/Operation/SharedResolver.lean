/-
Comment blocks that are read one after another with one resolver, over a symbol table.

What has been read before can not be seen in the operation that a block documents. It can be seen in one failure only:
a class that the block needs may have the name of one that has been recorded.

- `readComment_within`: of two resolvers, the one that has recorded less reads a block like the other one, unless that
  one meets a second class of a name.
- `Admits`: the classes that a block names have been recorded. Such a block is read without recording
  anything (`readComment_admitted`), and every block that has been read to its end is one (`admitted_of_read`).
-/
import RouteDocs.Proofs.Operation.Supported
import RouteDocs.Proofs.Schema.CacheTransparency

namespace RouteDocs

open Schema

variable {table : SymbolTable} {aliases : Aliases}

/-- the failure is that of a second class of a name -/
def CommentError.IsCollision (e : CommentError) : Prop := ∃ id, e = .resolve (.collision id)

/-! ## Resolvers that have recorded less -/

namespace Draft

/-- `v` is the draft that `w` is, but its resolver has recorded less -/
structure Trails (table : SymbolTable) (aliases : Aliases) (v w : Draft SymbolTable) : Prop where
  operation : v.operation = w.operation
  behind : v.resolver.Faithful table aliases
  ahead : w.resolver.Faithful table aliases
  within : v.resolver.cache.Within w.resolver.cache

variable {v w : Draft SymbolTable} {package : String}

/-- a directive is applied alike, unless the draft ahead meets a second class of a name -/
theorem Trails.applies (h : Trails table aliases v w) {directive : Directive} {v' w' : Draft SymbolTable}
    {e e' : Option CommentError} (hv : v.Applies package directive v' e) (hw : w.Applies package directive w' e') :
    (∃ err ∈ e', err.IsCollision) ∨ (e = e' ∧ Trails table aliases v' w') := by
  have hp (ref : String) : v.resolver.primitiveName? ref = w.resolver.primitiveName? ref := by
    rw [h.behind.primitiveName?_eq, h.ahead.primitiveName?_eq]
  have hoperation := h.operation
  cases hw with
  | plain hd log =>
    cases hv with
    | plain hd' log' => exact Or.inr ⟨rfl, by rw [hoperation], h.behind, h.ahead, h.within⟩
    | primitive hprim' log' => cases hd
    | asked hnone' log' => cases hd
  | @primitive code isArray ref name hprim log =>
    cases hv with
    | plain hd' log' => cases hd'
    | primitive hprim' log' =>
      obtain rfl := Option.some.inj (hprim'.symm.trans ((hp ref).trans hprim))
      exact Or.inr ⟨rfl, by rw [hoperation], h.behind, h.ahead, h.within⟩
    | asked hnone' log' => cases hprim.symm.trans ((hp ref).symm.trans hnone')
  | @asked code isArray ref hnone log =>
    cases hv with
    | plain hd' log' => cases hd'
    | primitive hprim' log' => cases hprim'.symm.trans ((hp ref).trans hnone)
    | asked hnone' log' =>
      rcases Resolver.resolve_within h.behind h.ahead h.within ref package
        with ⟨id, hcollision⟩ | ⟨hsame, hwithin⟩
      · rw [hcollision]
        exact Or.inl ⟨_, rfl, id, rfl⟩
      · rw [hsame, hoperation]
        exact Or.inr ⟨rfl, rfl, h.behind.resolve ref package, h.ahead.resolve ref package, hwithin⟩

/-- a line is read alike, unless the draft ahead meets a second class of a name -/
theorem Trails.reads (h : Trails table aliases v w) {raw : String} {v' w' : Draft SymbolTable}
    {e e' : Option CommentError} (hv : v.Reads package raw v' e) (hw : w.Reads package raw w' e') :
    (∃ err ∈ e', err.IsCollision) ∨ (e = e' ∧ Trails table aliases v' w') := by
  cases hw with
  | prose line =>
    cases hv with
    | prose line' => exact Or.inr ⟨rfl, h⟩
    | malformed line' => cases line.symm.trans line'
    | directive line' => cases line.symm.trans line'
  | malformed line =>
    cases hv with
    | prose line' => cases line.symm.trans line'
    | malformed line' => cases line.symm.trans line'; exact Or.inr ⟨rfl, h⟩
    | directive line' => cases line.symm.trans line'
  | directive line applies =>
    cases hv with
    | prose line' => cases line.symm.trans line'
    | malformed line' => cases line.symm.trans line'
    | directive line' applies' => cases line.symm.trans line'; exact h.applies applies' applies

theorem Trails.applyLines (h : Trails table aliases v w) (package : String) (lines : List String) :
    (∃ err ∈ (w.applyLines package lines).2, err.IsCollision) ∨
      ((v.applyLines package lines).2 = (w.applyLines package lines).2 ∧
        Trails table aliases (v.applyLines package lines).1 (w.applyLines package lines).1) := by
  induction lines generalizing v w with
  | nil => exact Or.inr ⟨rfl, h⟩
  | cons raw rest ih =>
    have hline := h.reads (reads_applyLine package v raw) (reads_applyLine package w raw)
    rw [Draft.applyLines, Draft.applyLines]
    generalize v.applyLine package raw = first at hline
    generalize w.applyLine package raw = second at hline
    obtain ⟨v', e⟩ := first
    obtain ⟨w', e'⟩ := second
    rcases hline with ⟨err, he, hcollision⟩ | ⟨rfl, h'⟩
    · obtain rfl : e' = some err := he
      exact Or.inl ⟨err, rfl, hcollision⟩
    · cases e with
      | none => exact ih h'
      | some err => exact Or.inr ⟨rfl, h'⟩

end Draft

/-- **Blocks are read alike.** Of two resolvers, the one that has recorded less reads a block like the other one and
records nothing else, unless the other one meets a second class of a name. -/
theorem readComment_within {r s : Resolver} (hr : r.Faithful table aliases) (hs : s.Faithful table aliases)
    (hw : r.cache.Within s.cache) (comments : List String) (package : String) :
    (∃ id, (readComment comments s package).answer = .error (.resolve (.collision id))) ∨
      ((readComment comments r package).answer = (readComment comments s package).answer ∧
        (readComment comments r package).resolver.cache.Within (readComment comments s package).resolver.cache) := by
  have hblank : Draft.Trails table aliases ⟨.blank, r, []⟩ ⟨.blank, s, []⟩ := ⟨rfl, hr, hs, hw⟩
  have hlines := hblank.applyLines package comments
  unfold readComment
  by_cases hempty : comments.isEmpty = true
  · rw [if_pos hempty, if_pos hempty]
    exact Or.inr ⟨rfl, hw⟩
  · rw [if_neg hempty, if_neg hempty]
    generalize Draft.applyLines package ⟨.blank, r, []⟩ comments = first at hlines
    generalize Draft.applyLines package ⟨.blank, s, []⟩ comments = second at hlines
    obtain ⟨v, e⟩ := first
    obtain ⟨w, e'⟩ := second
    rcases hlines with ⟨err, he, id, rfl⟩ | ⟨rfl, h⟩
    · obtain rfl : e' = some _ := he
      exact Or.inl ⟨id, rfl⟩
    · cases e with
      | some err => exact Or.inr ⟨rfl, h.within⟩
      | none => exact Or.inr ⟨by dsimp only; rw [h.operation], h.within⟩

/-! ## Collisions -/

namespace Draft

/-- a line meets a second class of a name only if there are two -/
theorem Reads.clashes {d after : Draft SymbolTable} {package raw id : String}
    (h : d.Reads package raw after (some (.resolve (.collision id)))) (hd : d.resolver.Faithful table aliases) :
    table.Clashes id := by
  generalize he : some (CommentError.resolve (.collision id)) = e at h
  cases h with
  | prose line => cases he
  | malformed line => cases he
  | directive line applies =>
    cases applies with
    | plain hplain log => cases he
    | primitive hprim log => cases he
    | @asked code isArray ref hnone log =>
      cases answer : (d.resolver.resolve ref package).answer with
      | ok ms =>
        rw [answer] at he
        cases ms <;> cases he
      | error err =>
        rw [answer] at he
        cases he
        exact hd.clashes answer

end Draft

/-- a block meets a second class of a name only if there are two -/
theorem clashes_of_read {r : Resolver} (hr : r.Faithful table aliases) {comments : List String} {package id : String}
    (h : (readComment comments r package).answer = .error (.resolve (.collision id))) : table.Clashes id := by
  have hfault := (Draft.applyLines_keeps package comments (d := ⟨.blank, r, []⟩)
    (P := fun d : Draft SymbolTable => d.resolver.Faithful table aliases)
    (fun _ _ _ _ _ hd hline => hline.resolver (fun _ ref package hr => hr.resolve ref package) hd) hr).2
  have hblock := readsBlock_readComment comments r package
  generalize readComment comments r package = reading at hblock h
  cases hblock with
  | empty => cases h
  | routeless applied noPath => cases h
  | read applied path => cases h
  | stopped applied =>
    obtain rfl := Except.error.inj h
    rw [applied] at hfault
    obtain ⟨d, raw, after, -, hd, hline⟩ := hfault _ rfl
    exact hline.clashes hd

/-! ## Blocks whose classes have been recorded -/

/-- every class that lines name for a response, as seen from a module, has been recorded -/
def Admits (table : SymbolTable) (aliases : Aliases) (c : Cache) (package : String) (lines : List String) : Prop :=
  ∀ raw ∈ lines, ∀ isArray ref, typedLine? raw = some (isArray, ref) → primitiveName? aliases ref = none →
    c.Covers table ref package

variable {package : String}

theorem Admits.mono {b c : Cache} {lines : List String} (h : Admits table aliases b package lines)
    (hw : b.Within c) : Admits table aliases c package lines :=
  fun raw hraw isArray ref htyped hp => (h raw hraw isArray ref htyped hp).mono hw

theorem Admits.concat {c : Cache} {lines : List String} {raw : String} (h : Admits table aliases c package lines)
    (hraw : ∀ isArray ref, typedLine? raw = some (isArray, ref) → primitiveName? aliases ref = none →
      c.Covers table ref package) : Admits table aliases c package (lines ++ [raw]) := by
  intro raw' hraw'
  rcases List.mem_append.1 hraw' with hraw' | hraw'
  · exact h raw' hraw'
  · obtain rfl := List.mem_singleton.1 hraw'
    exact hraw

namespace Draft

/-- a line that does not fail is admitted from then on -/
theorem Reads.admits {d after : Draft SymbolTable} {raw : String} {e : Option CommentError} {seen : List String}
    (h : d.Reads package raw after e) (he : e = none) (hd : d.resolver.Faithful table aliases)
    (hseen : Admits table aliases d.resolver.cache package seen) :
    after.resolver.Faithful table aliases ∧ Admits table aliases after.resolver.cache package (seen ++ [raw]) := by
  cases h with
  | prose line =>
    have hline : typedLine? raw = none := by rw [typedLine?, line]
    exact ⟨hd, hseen.concat fun isArray ref htyped => by rw [hline] at htyped; cases htyped⟩
  | malformed line => cases he
  | @directive directive after e line applies =>
    have hline : typedLine? raw = directive.typed? := by rw [typedLine?, line]
    cases applies with
    | plain hplain log =>
      exact ⟨hd, hseen.concat fun isArray ref htyped => by rw [hline, hplain] at htyped; cases htyped⟩
    | @primitive code isArray ref name hprim log =>
      refine ⟨hd, hseen.concat fun isArray' ref' htyped hp => ?_⟩
      rw [hline] at htyped
      obtain ⟨-, rfl⟩ := Prod.mk.inj (Option.some.inj htyped)
      rw [hd.primitiveName?_eq, hp] at hprim
      cases hprim
    | @asked code isArray ref hnone log =>
      refine ⟨hd.resolve ref package, (hseen.mono (hd.within_resolve ref package)).concat ?_⟩
      intro isArray' ref' htyped hp
      rw [hline] at htyped
      obtain ⟨-, rfl⟩ := Prod.mk.inj (Option.some.inj htyped)
      cases answer : (d.resolver.resolve ref package).answer with
      | error err => rw [answer] at he; cases he
      | ok ms => exact hd.covers hnone answer

/-- an admitted line is read without recording anything, and no class has the name of another one -/
theorem Reads.admitted {d after : Draft SymbolTable} {raw : String} {e : Option CommentError} {lines : List String}
    (h : d.Reads package raw after e) (hraw : raw ∈ lines) (hd : d.resolver.Faithful table aliases)
    (hlines : Admits table aliases d.resolver.cache package lines) :
    after.resolver = d.resolver ∧ ∀ err ∈ e, ¬ err.IsCollision := by
  cases h with
  | prose line => exact ⟨rfl, fun err he => (by cases he)⟩
  | malformed line =>
    refine ⟨rfl, fun err he hcollision => ?_⟩
    obtain ⟨id, rfl⟩ := hcollision
    cases he
  | @directive directive after e line applies =>
    cases applies with
    | plain hplain log => exact ⟨rfl, fun err he => (by cases he)⟩
    | primitive hprim log => exact ⟨rfl, fun err he => (by cases he)⟩
    | @asked code isArray ref hnone log =>
      have htyped : typedLine? raw = some (isArray, ref) := by rw [typedLine?, line]; rfl
      have hcovers := hlines raw hraw isArray ref htyped ((hd.primitiveName?_eq ref).symm.trans hnone)
      obtain ⟨ms, completed, hresolve⟩ := hd.resolve_covered hnone hcovers
      rw [hresolve]
      refine ⟨rfl, fun err he hcollision => ?_⟩
      obtain ⟨id, rfl⟩ := hcollision
      cases ms <;> cases he

end Draft

/-- a block whose classes have been recorded is read without recording anything, and no class has the name of another
one -/
theorem readComment_admitted {s : Resolver} (hs : s.Faithful table aliases) {comments : List String}
    (h : Admits table aliases s.cache package comments) :
    (readComment comments s package).resolver = s ∧
      ∀ id, (readComment comments s package).answer ≠ .error (.resolve (.collision id)) := by
  have hline {d after : Draft SymbolTable} {raw : String} {e : Option CommentError} (hraw : raw ∈ comments)
      (hd : d.resolver = s) (hread : d.Reads package raw after e) :
      after.resolver = s ∧ ∀ err ∈ e, ¬ err.IsCollision := by
    subst hd
    exact hread.admitted hraw hs h
  obtain ⟨hend, hfault⟩ :=
    Draft.applyLines_keeps package comments (P := fun d : Draft SymbolTable => d.resolver = s)
    (fun _ _ _ _ hraw hd hread => (hline hraw hd hread).1) (d := ⟨.blank, s, []⟩) rfl
  have hblock := readsBlock_readComment comments s package
  generalize readComment comments s package = reading at hblock
  cases hblock with
  | empty => exact ⟨rfl, fun id he => (by cases he)⟩
  | routeless applied noPath => rw [applied] at hend; exact ⟨hend, fun id he => (by cases he)⟩
  | read applied path => rw [applied] at hend; exact ⟨hend, fun id he => (by cases he)⟩
  | stopped applied =>
    rw [applied] at hend hfault
    refine ⟨hend, fun id he => ?_⟩
    obtain rfl := Except.error.inj he
    obtain ⟨d, raw, after, hraw, hd, hread⟩ := hfault _ rfl
    exact (hline hraw hd hread).2 _ rfl ⟨id, rfl⟩

/-- a block that has been read to its end is admitted from then on -/
theorem admits_of_read {r : Resolver} (hr : r.Faithful table aliases) {comments : List String}
    (h : ∀ e, (readComment comments r package).answer = .error e → e.isUndocumented = true) :
    Admits table aliases (readComment comments r package).resolver.cache package comments := by
  have hlines {d : Draft SymbolTable} (applied : Draft.applyLines package ⟨.blank, r, []⟩ comments = (d, none)) :
      Admits table aliases d.resolver.cache package comments := by
    have hblank : r.Faithful table aliases ∧ Admits table aliases r.cache package [] :=
      ⟨hr, fun raw hraw => (by cases hraw)⟩
    have hend := Draft.applyLines_induction
      (P := fun lines (d : Draft SymbolTable) =>
        d.resolver.Faithful table aliases ∧ Admits table aliases d.resolver.cache package lines)
      (fun _ _ _ _ hP hline => hline.admits rfl hP.1 hP.2) hblank applied
    exact hend.2
  have hblock := readsBlock_readComment comments r package
  generalize readComment comments r package = reading at hblock h
  cases hblock with
  | empty => exact fun raw hraw => (by cases hraw)
  | routeless applied noPath => exact hlines applied
  | read applied path => exact hlines applied
  | stopped applied =>
    -- a line that fails is not a missing route
    have hfault := (Draft.applyLines_keeps package comments (P := fun _ => True)
      (fun _ _ _ _ _ _ _ => trivial) (d := (⟨.blank, r, []⟩ : Draft SymbolTable)) trivial).2
    rw [applied] at hfault
    obtain ⟨d, raw, after, -, -, hread⟩ := hfault _ rfl
    cases (h _ rfl).symm.trans hread.documented

end RouteDocs
