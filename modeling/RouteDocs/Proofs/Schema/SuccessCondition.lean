/-
When a reference can be resolved, said of the classes of the table only.

A walk stops at every class that has been recorded, so it does not visit all that is reached from the class which it
starts with. It succeeds nevertheless exactly when all references among the reached classes are found and no class name
is needed for two modules, by them or by what has been recorded before: what a faithful cache holds is closed under
references.

- `Moves.needed`: a walk opens reached classes only, and records nothing else.
- `Resolver.Faithful.cause`: a call fails for one of the reasons in `SymbolTable.Cause`.
- `Resolver.Faithful.resolvable`: a call that succeeds has recorded all that is reached.
- `Resolver.resolve_succeeds_iff`: a call succeeds if and only if nothing is missing and no name is ambiguous.
-/
import Mathlib.Logic.Relation
import RouteDocs.Proofs.Schema.CacheTransparency

namespace RouteDocs.Schema

namespace SymbolTable

variable (table : SymbolTable) (aliases : Aliases)

/-- a field of the one class refers to the other one, as seen from the module of the first -/
def Refers (d e : Definition) : Prop := ∃ ref ∈ table.mentions aliases d, table.lookup ref d.module = some e

/-- the one class leads to the other one, by any number of references -/
def Reaches : Definition → Definition → Prop := Relation.ReflTransGen (table.Refers aliases)

/-- every reference in the fields of the classes that are reached from a class is found -/
def Closed (root : Definition) : Prop :=
  ∀ d, table.Reaches aliases root d →
    ∀ ref ∈ table.mentions aliases d, ∃ e, table.lookup ref d.module = some e

/-- a class of the name and module is reached from a class, or has been recorded -/
def Needs (c : Cache) (root : Definition) (name module : String) : Prop :=
  (∃ d, table.Reaches aliases root d ∧ d.name = name ∧ d.module = module) ∨ c.origins.get? name = some module

/-- no class name is needed for two modules -/
def Unambiguous (c : Cache) (root : Definition) : Prop :=
  ∀ name m n, table.Needs aliases c root name m → table.Needs aliases c root name n → m = n

/-- why a reference, as seen from a module, can not be resolved when some classes have been recorded -/
inductive Cause (c : Cache) (ref package : String) : ResolveError → Prop
  /-- the reference means no class -/
  | unfound (missing : table.lookup ref package = none) : Cause c ref package (.unresolved ref package)
  /-- a field of a reached class refers to no class -/
  | dangling {root d : Definition} {target : String} (found : table.lookup ref package = some root)
    (reached : table.Reaches aliases root d) (mentioned : target ∈ table.mentions aliases d)
    (missing : table.lookup target d.module = none) : Cause c ref package (.unresolved target d.module)
  /-- a class name is needed for two modules -/
  | ambiguous {root : Definition} {name m n : String} (found : table.lookup ref package = some root)
    (first : table.Needs aliases c root name m) (second : table.Needs aliases c root name n) (other : m ≠ n) :
    Cause c ref package (.collision name)

end SymbolTable

variable {table : SymbolTable} {aliases : Aliases} {root : Definition} {c : Cache}

/-! ## Walks need what they open -/

/-- the open classes are reached from a class, and all that is recorded is needed -/
structure Walk.Needed (table : SymbolTable) (aliases : Aliases) (c : Cache) (root : Definition)
    (w : Walk SymbolTable) : Prop where
  frames : ∀ f ∈ w.frames, table.Reaches aliases root f.definition
  recorded : ∀ name module, w.cache.origins.get? name = some module → table.Needs aliases c root name module

/-- the class that the next field of an open class refers to is reached -/
theorem Frame.Tracks.reaches {f : Frame} {b : Cache} (hf : f.Tracks table aliases b) {field : Field} {rest : List Field}
    {ref : String} {isArray : Bool} (todo : f.todo = field :: rest)
    (typed : field.typeIn aliases = .composite ref isArray) {d : Definition}
    (hlookup : table.lookup ref f.definition.module = some d) (hroot : table.Reaches aliases root f.definition) :
    table.Reaches aliases root d :=
  hroot.tail ⟨ref, hf.mem_mentions todo typed, hlookup⟩

/-- recording a reached class records nothing that is not needed -/
theorem SymbolTable.Needs.start {b : Cache} {d : Definition} (hd : table.Reaches aliases root d)
    (h : ∀ name module, b.origins.get? name = some module → table.Needs aliases c root name module)
    {name module : String} (hname : (b.start d).origins.get? name = some module) :
    table.Needs aliases c root name module := by
  rw [Cache.get?_start] at hname
  split at hname
  · next he => exact Or.inl ⟨d, hd, he.symm, Option.some.inj hname⟩
  · exact h name module hname

/-- **Walks open what is reached.** A step of a walk opens a class that is reached, and records no other one. -/
theorem Moves.needed {w v : Walk SymbolTable} (h : Moves aliases w v) (hw : w.Faithful table aliases)
    (hn : w.Needed table aliases c root) : v.Needed table aliases c root := by
  obtain rfl := hw.tracks.sameTable
  cases h with
  | close todo => exact ⟨(List.forall_mem_cons.1 hn.frames).2, hn.recorded⟩
  | primitive todo typed => exact ⟨List.forall_mem_cons.2 (List.forall_mem_cons.1 hn.frames), hn.recorded⟩
  | known todo typed asked found => exact ⟨List.forall_mem_cons.2 (List.forall_mem_cons.1 hn.frames), hn.recorded⟩
  | @opened f outer b t after field rest ref isArray d todo typed asked new =>
    obtain ⟨hf, houter⟩ := List.forall_mem_cons.1 hn.frames
    have htracks := hw.tracks.frames f List.mem_cons_self
    have hd : t.Reaches aliases root d := htracks.reaches todo typed (Prod.mk.inj asked).1 hf
    exact ⟨List.forall_mem_cons.2 ⟨hd, List.forall_mem_cons.2 ⟨hf, houter⟩⟩,
      fun name module hname => .start hd hn.recorded hname⟩

/-- a walk fails because a reached class refers to no class, or because a name is needed for two modules -/
theorem Walk.cause_of_run {w : Walk SymbolTable} (hw : w.Faithful table aliases)
    (hn : w.Needed table aliases c root) {ref package : String} (found : table.lookup ref package = some root)
    {e : ResolveError} (h : (w.run aliases).1 = some e) : table.Cause aliases c ref package e := by
  fun_induction Walk.run aliases w with
  | case1 w hs => cases h
  | case2 w e' v hs =>
    obtain rfl := Option.some.inj h
    cases fails_of_step hs with
    | @unresolved f outer b t after field rest target isArray todo typed asked =>
      obtain rfl := hw.tracks.sameTable
      have htracks := hw.tracks.frames f List.mem_cons_self
      exact .dangling found (hn.frames f List.mem_cons_self) (htracks.mem_mentions todo typed) (Prod.mk.inj asked).1
    | @collision f outer b t after field rest target isArray d module todo typed asked recorded other =>
      obtain rfl := hw.tracks.sameTable
      have htracks := hw.tracks.frames f List.mem_cons_self
      have hd := htracks.reaches todo typed (Prod.mk.inj asked).1 (hn.frames f List.mem_cons_self)
      exact .ambiguous found (hn.recorded _ _ recorded) (Or.inl ⟨d, hd, rfl, rfl⟩) other
  | case3 w v hs ih =>
    have hm := moves_of_step hs
    exact ih (hm.faithful hw) (hm.needed hw hn) h

/-! ## Calls -/

namespace Resolver

variable {r : Resolver} {ref package : String}

/-- a call fails only for a cause -/
theorem Faithful.cause (h : r.Faithful table aliases) {e : ResolveError}
    (hr : (r.resolve ref package).answer = .error e) : table.Cause aliases r.cache ref package e := by
  have hanswers := h.answers_resolve ref package
  generalize r.resolve ref package = resolution at hanswers hr
  cases hanswers with
  | primitive hp => cases hr
  | resolved hp models growth faithful covers completed => cases hr
  | failed hp reached completed =>
    obtain rfl := Except.error.inj hr
    have hwalk := h.faithful_walk ref package
    unfold Resolver.reached at reached
    obtain ⟨rfl, rfl, -, -⟩ := h
    have hfollow := follows_follow r.cache r.table ref package
    unfold walk at hwalk reached
    generalize follow r.cache r.table ref package = entry at hwalk reached hfollow
    have hrecorded (root : Definition) : ∀ name module, r.cache.origins.get? name = some module →
        r.table.Needs r.aliases r.cache root name module := fun _ _ hname => Or.inr hname
    cases hfollow with
    | unresolved asked =>
      rw [Walk.run_finished rfl] at reached
      cases reached
      exact .unfound (Prod.mk.inj asked).1
    | @collision d module after asked found other =>
      rw [Walk.run_finished rfl] at reached
      cases reached
      exact .ambiguous (Prod.mk.inj asked).1 (Or.inr found) (Or.inl ⟨d, .refl, rfl, rfl⟩) other
    | known asked found =>
      rw [Walk.run_finished rfl] at reached
      cases reached
    | @opened d after asked new =>
      have hneeded : (⟨[.start d (fieldsOf after d).1], r.cache.start d, (fieldsOf after d).2⟩ : Walk _).Needed
          r.table r.aliases r.cache d :=
        ⟨fun f hf => List.mem_singleton.1 hf ▸ .refl, fun name module hname => .start .refl (hrecorded d) hname⟩
      split at reached
      · next err hrun =>
        obtain rfl := Except.error.inj reached
        exact Walk.cause_of_run hwalk hneeded (Prod.mk.inj asked).1 hrun
      · cases reached

/-- when a call succeeds, all that is reached is recorded, and all references there are found -/
theorem Faithful.resolvable (h : r.Faithful table aliases) (hp : r.primitiveName? ref = none) {ms : List Model}
    (hr : (r.resolve ref package).answer = .ok ms) :
    ∃ root, table.lookup ref package = some root ∧ table.Closed aliases root ∧
      table.Unambiguous aliases r.cache root := by
  obtain ⟨root, found, hroot⟩ := h.covers hp hr
  have hafter := (h.resolve ref package).faithful
  have hwithin := h.within_resolve ref package
  generalize (r.resolve ref package).resolver.cache = after at hroot hafter hwithin
  have hrecords : ∀ d, table.Reaches aliases root d → after.Records table d := by
    intro d hd
    induction hd with
    | refl => exact ⟨SymbolTable.visible_of_lookup found, hroot⟩
    | tail _ hstep ih =>
      obtain ⟨target, hmentioned, hlookup⟩ := hstep
      obtain ⟨e, he, hrecorded⟩ := (hafter.holds ih.visible ih.recorded).covered target hmentioned
      obtain rfl := Option.some.inj (hlookup.symm.trans he)
      exact ⟨SymbolTable.visible_of_lookup he, hrecorded⟩
  have hneeds : ∀ name module, table.Needs aliases r.cache root name module →
      after.origins.get? name = some module := by
    rintro name module (⟨d, hd, rfl, rfl⟩ | hold)
    · exact (hrecords d hd).recorded
    · exact hwithin name module hold
  refine ⟨root, found, fun d hd target hmentioned => ?_, fun name m n hm hn => ?_⟩
  · have hd' := hrecords d hd
    obtain ⟨e, he, -⟩ := (hafter.holds hd'.visible hd'.recorded).covered target hmentioned
    exact ⟨e, he⟩
  · exact Option.some.inj ((hneeds name m hm).symm.trans (hneeds name n hn))

/-- **When a call succeeds.** A call of a resolver that has answered or failed any calls before succeeds if and only if
the reference means a class, all references in the classes that are reached from it are found, and no class name is
needed for two modules. Otherwise it says that a reference is not found only if one is not, and that there is a second
class of a name only if a name is needed for two modules. -/
theorem resolve_succeeds_iff (table : SymbolTable) (aliases : Aliases) (calls : List (String × String))
    (ref package : String) (hp : Schema.primitiveName? aliases ref = none) :
    ((∃ ms, (((new table aliases).after calls).resolve ref package).answer = .ok ms) ↔
        ∃ root, table.lookup ref package = some root ∧ table.Closed aliases root ∧
          table.Unambiguous aliases ((new table aliases).after calls).cache root) ∧
      ∀ e, (((new table aliases).after calls).resolve ref package).answer = .error e →
        (∃ target module, e = .unresolved target module ∧
          ¬ ∃ root, table.lookup ref package = some root ∧ table.Closed aliases root) ∨
        ∃ name root, e = .collision name ∧ table.lookup ref package = some root ∧
          ¬ table.Unambiguous aliases ((new table aliases).after calls).cache root := by
  have h := (faithful_new table aliases).after calls
  generalize (new table aliases).after calls = r at h
  have hfails : ∀ e, (r.resolve ref package).answer = .error e →
      (∃ target module, e = .unresolved target module ∧
        ¬ ∃ root, table.lookup ref package = some root ∧ table.Closed aliases root) ∨
      ∃ name root, e = .collision name ∧ table.lookup ref package = some root ∧
        ¬ table.Unambiguous aliases r.cache root := by
    intro e he
    cases h.cause he with
    | unfound missing =>
      refine Or.inl ⟨ref, package, rfl, ?_⟩
      rintro ⟨root, found, -⟩
      rw [missing] at found
      cases found
    | @dangling root d target found reached mentioned missing =>
      refine Or.inl ⟨target, d.module, rfl, ?_⟩
      rintro ⟨root', found', hclosed⟩
      obtain rfl := Option.some.inj (found.symm.trans found')
      obtain ⟨e, he⟩ := hclosed d reached target mentioned
      rw [missing] at he
      cases he
    | @ambiguous root name m n found first second other =>
      exact Or.inr ⟨name, root, rfl, found, fun hone => other (hone name m n first second)⟩
  refine ⟨⟨fun ⟨ms, hms⟩ => h.resolvable (h.primitiveName?_eq ref ▸ hp) hms, ?_⟩, hfails⟩
  rintro ⟨root, found, hclosed, hone⟩
  cases hr : (r.resolve ref package).answer with
  | ok ms => exact ⟨ms, rfl⟩
  | error e =>
    rcases hfails e hr with ⟨target, module, -, hmissing⟩ | ⟨name, root', -, found', hambiguous⟩
    · exact absurd ⟨root, found, hclosed⟩ hmissing
    · obtain rfl := Option.some.inj (found.symm.trans found')
      exact absurd hone hambiguous

/-- two classes of one name in different modules, and classes that lead to the second one -/
def shopClasses : SymbolTable := ⟨[
  ⟨"Pet", "farm", [], [⟨"name", "str", true⟩]⟩,
  ⟨"Pet", "shop", [], [⟨"price", "int", true⟩]⟩,
  ⟨"Order", "shop", [], [⟨"items", "list[Item]", true⟩]⟩,
  ⟨"Item", "shop", [], [⟨"order", "Order", true⟩, ⟨"pet", "Optional[Pet]", false⟩]⟩]⟩

/-- On a new resolver nothing is missing; once the class of the other module has been recorded, a name that is met two
references away is ambiguous. -/
theorem resolve_succeeds_iff_shop :
    Schema.primitiveName? ∅ "Order" = none ∧
      (∃ root, shopClasses.lookup "Order" "shop" = some root ∧ shopClasses.Closed ∅ root ∧
        shopClasses.Unambiguous ∅ ((new shopClasses ∅).after []).cache root) ∧
      ∃ root, shopClasses.lookup "Order" "shop" = some root ∧
        ¬ shopClasses.Unambiguous ∅ ((new shopClasses ∅).after [("Pet", "farm")]).cache root := by
  have hp : Schema.primitiveName? ∅ "Order" = none := by decide +kernel
  have hnew : ∃ ms, (((new shopClasses ∅).after []).resolve "Order" "shop").answer = .ok ms := by
    refine ⟨?_, ?_⟩
    · exact [⟨"Order", ["items"], .ofList [("items", .models "Item")]⟩,
        ⟨"Item", ["order"], .ofList [("order", .model "Order"), ("pet", .model "Pet")]⟩,
        ⟨"Pet", ["price"], .ofList [("price", .primitive ⟨"integer", some "int64"⟩)]⟩]
    · decide +kernel
  have hused : (((new shopClasses ∅).after [("Pet", "farm")]).resolve "Order" "shop").answer
      = .error (.collision "Pet") := by
    decide +kernel
  refine ⟨hp, (resolve_succeeds_iff shopClasses ∅ [] "Order" "shop" hp).1.1 hnew, ?_⟩
  rcases (resolve_succeeds_iff shopClasses ∅ [("Pet", "farm")] "Order" "shop" hp).2 _ hused with
    ⟨target, module, he, -⟩ | ⟨name, root, -, found, hambiguous⟩
  · cases he
  · exact ⟨root, found, hambiguous⟩

end Resolver

end RouteDocs.Schema
