/-
Additions that are refused, and what they leave behind.

An operation is refused because it has no path, or because one of its models collides with what is registered for its
resource, be it from before or from the same operation. The first refusal comes before anything is recorded. The second
comes after the operation, and the models in front of the one that collides; none of it is taken back.

- `Registry.mergeAll_collision`: models are merged up to the first that collides.
- `Builder.alike_add_iff`: an operation with a path always shows, also if it is refused.
- `Builder.operationsOf_addAll`: after any additions a resource has all operations of its paths, the refused ones with
  them.
- `Builder.add_refused`: why an operation is refused, what the builder is afterwards, and that nothing has changed only
  for want of a path.
- `Builder.collision_shows`: an operation that was refused is in the document of its resource, and a model of it, too.
-/
import RouteDocs.Proofs.Document.Grouping

namespace RouteDocs

open Schema

/-! ## Registries -/

namespace Registry

/-- another model is registered under the name of a model -/
def Collides (r : Registry) (m : Model) : Prop := ∃ known, r.models.get? m.id = some known ∧ known.agrees m = false

theorem merge_error {r : Registry} {m : Model} {e : ResolveError} (h : r.merge m = .error e) :
    r.Collides m ∧ e = .collision m.id := by
  rw [merge] at h
  split at h
  · cases h
  · next known hknown =>
    split at h
    · cases h
    · next hagrees =>
      obtain rfl := Except.error.inj h
      exact ⟨⟨known, hknown, Bool.eq_false_iff.2 hagrees⟩, rfl⟩

/-- **Up to the first collision.** If merging models fails, those in front of some model have been merged, and this one
collides with what is registered then. -/
theorem mergeAll_collision {r r' : Registry} {ms : List Model} {e : ResolveError} (h : r.mergeAll ms = (r', some e)) :
    ∃ before m after, ms = before ++ m :: after ∧ r.mergeAll before = (r', none) ∧ r'.Collides m ∧
      e = .collision m.id := by
  induction ms generalizing r with
  | nil =>
    rw [mergeAll] at h
    cases h
  | cons m rest ih =>
    rw [mergeAll] at h
    split at h
    · next r₁ hmerge =>
      obtain ⟨before, m', after, rfl, hbefore, hcollides, he⟩ := ih h
      refine ⟨m :: before, m', after, rfl, ?_, hcollides, he⟩
      rw [mergeAll, hmerge]
      exact hbefore
    · next e' hmerge =>
      obtain ⟨rfl, he⟩ := Prod.mk.inj h
      obtain rfl := Option.some.inj he
      obtain ⟨hcollides, he⟩ := merge_error hmerge
      exact ⟨[], m, rest, rfl, rfl, hcollides, he⟩

end Registry

namespace Builder

/-! ## What a builder shows -/

/-- two builders can not be told apart by what can be asked of them -/
structure Alike (b b' : Builder) : Prop where
  resources : b.resources = b'.resources
  declaration : ∀ key, b.declaration key = b'.declaration key
  description : ∀ key, b.description key = b'.description key
  listing : b.listing = b'.listing

theorem Alike.refl (b : Builder) : b.Alike b := ⟨rfl, fun _ => rfl, fun _ => rfl, rfl⟩

theorem perm_declarationOf (b : Builder) (key : String) (operations : List Operation) (registry : Registry) :
    ((b.declarationOf key operations registry).apis.flatMap Api.operations).Perm operations := by
  have happly : (b.declarationOf key operations registry).apis.flatMap Api.operations
      = (groupByPath operations).entries.flatMap Prod.snd := by
    rw [declarationOf, List.flatMap_map]
  rw [happly]
  exact perm_groupByPath operations

/-- the document of a resource has one operation more after an addition -/
theorem declaration_add_ne (b : Builder) {o : Operation} (hpath : o.path.isEmpty = false) :
    b.declaration (resourceKey o.path) ≠ (b.add o).1.declaration (resourceKey o.path) := by
  intro hsame
  have hmem : resourceKey o.path ∈ (b.add o).1.operations.keys := (mem_keys_add b hpath _).2 (Or.inl rfl)
  rw [declaration_of_mem hmem, operationsOf_add b hpath, if_pos rfl] at hsame
  by_cases hknown : resourceKey o.path ∈ b.operations.keys
  · rw [declaration_of_mem hknown] at hsame
    have hbefore := perm_declarationOf b (resourceKey o.path) (b.operationsOf (resourceKey o.path))
      (b.registryOf (resourceKey o.path))
    rw [Except.ok.inj hsame] at hbefore
    have hlength := (hbefore.symm.trans (perm_declarationOf ..)).length_eq
    rw [List.length_append, List.length_singleton] at hlength
    omega
  · have hnone : b.operations.get? (resourceKey o.path) = none := by
      rw [Option.eq_none_iff_forall_not_mem]
      intro group hgroup
      exact hknown (OrderedMap.mem_keys.2 (OrderedMap.contains_of_get? hgroup))
    rw [declaration, hnone] at hsame
    cases hsame

/-- an addition leaves no trace only if the operation has no path -/
theorem alike_add_iff (b : Builder) (o : Operation) : b.Alike (b.add o).1 ↔ o.path = "" := by
  constructor
  · intro h
    by_contra hne
    have hpath : o.path.isEmpty = false := by simpa using hne
    exact declaration_add_ne b hpath (h.declaration _)
  · intro hempty
    rw [add, if_pos (by simp [hempty])]
    exact .refl b

/-- **Refused operations stay.** After any additions a resource has its former operations and all those that were added
under it, whether or not they were refused. -/
theorem operationsOf_addAll (b : Builder) {operations : List Operation}
    (hpath : ∀ o ∈ operations, o.path.isEmpty = false) (key : String) :
    (b.addAll operations).operationsOf key = b.operationsOf key ++ ofResource key operations := by
  unfold addAll
  induction operations generalizing b with
  | nil => simp [ofResource]
  | cons o rest ih =>
    rw [List.foldl_cons, ih _ fun o' ho' => hpath o' (List.mem_cons_of_mem _ ho'),
      operationsOf_add b (hpath o List.mem_cons_self), ofResource, ofResource, List.filter_cons, List.append_assoc]
    by_cases hkey : key = resourceKey o.path
    · simp [hkey]
    · simp [hkey, Ne.symm hkey]

/-! ## Refusals -/

/-- why a builder refuses an operation, and the builder afterwards -/
inductive Refused (b : Builder) (o : Operation) : BuildError → Builder → Prop
  /-- nothing has been recorded -/
  | noPath (path : o.path = "") : Refused b o .noPath b
  /-- a model collides, after those in front of it have been registered -/
  | collision {before after : List Model} {m : Model} {r : Registry} (path : o.path ≠ "")
    (models : o.models = before ++ m :: after)
    (merged : (b.registryOf (resourceKey o.path)).mergeAll before = (r, none)) (collides : r.Collides m) :
    Refused b o (.model (.collision m.id))
      { b with
        operations := b.operations.insert (resourceKey o.path) (b.operationsOf (resourceKey o.path) ++ [o])
        registries := b.registries.insert (resourceKey o.path) r }

theorem refused_of_add {b : Builder} {o : Operation} {e : BuildError} (h : (b.add o).2 = .error e) :
    b.Refused o e (b.add o).1 := by
  by_cases hempty : o.path = ""
  · rw [add, if_pos (by simp [hempty])] at h ⊢
    cases h
    exact .noPath hempty
  · have hpath : o.path.isEmpty = false := by simpa using hempty
    have hmerged : ∃ failure, e = .model failure ∧
        (b.registryOf (resourceKey o.path)).mergeAll o.models
          = (((b.registryOf (resourceKey o.path)).mergeAll o.models).1, some failure) := by
      rw [add, if_neg (by simp [hpath])] at h
      dsimp only at h
      split at h
      · cases h
      · next failure hfailure =>
        cases h
        exact ⟨failure, rfl, Prod.ext rfl hfailure⟩
    obtain ⟨failure, rfl, hmerge⟩ := hmerged
    obtain ⟨before, m, after, hmodels, hbefore, hcollides, rfl⟩ := Registry.mergeAll_collision hmerge
    rw [add_fst b hpath]
    exact .collision hempty hmodels hbefore hcollides

/-- **Refusals.** An operation is refused for want of a path, and then the builder is as it was; or because a model of
it collides, and then the builder has the operation and the models in front of that one. So what the builder shows is
the same as before if and only if the path was missing. -/
theorem add_refused (b : Builder) (o : Operation) (e : BuildError) (h : (b.add o).2 = .error e) :
    b.Refused o e (b.add o).1 ∧ (b.Alike (b.add o).1 ↔ e = .noPath) := by
  have hrefused := refused_of_add h
  refine ⟨hrefused, ?_⟩
  rw [alike_add_iff]
  generalize (b.add o).1 = b' at hrefused
  cases hrefused with
  | noPath path => simp [path]
  | collision path models merged collides => simp [path]

/-- a pet, known by a value of some type -/
def petWith (type : String) : Model := ⟨"Pet", [], .ofList [("id", { Property.blank with type := some type })]⟩

def tag : Model := ⟨"Tag", [], ∅⟩

def bringing (path : String) (models : List Model) : Operation :=
  { Operation.blank with path := path, models := models }

def numbered : Builder := ((new .blank "").add (bringing "/pets" [petWith "integer"])).1

/-- Without a path the builder is as it was. With a path and another notion of a pet, it is not. -/
theorem add_refused_noPath :
    ((numbered.add (bringing "" [petWith "string"])).2 = .error .noPath ∧
      numbered.Alike (numbered.add (bringing "" [petWith "string"])).1) ∧
      (numbered.add (bringing "/pets/\x7bid\x7d" [tag, petWith "string"])).2 = .error (.model (.collision "Pet")) ∧
      numbered.Refused (bringing "/pets/\x7bid\x7d" [tag, petWith "string"]) (.model (.collision "Pet"))
        (numbered.add (bringing "/pets/\x7bid\x7d" [tag, petWith "string"])).1 ∧
      ¬ numbered.Alike (numbered.add (bringing "/pets/\x7bid\x7d" [tag, petWith "string"])).1 := by
  have hrefused : (numbered.add (bringing "" [petWith "string"])).2 = .error .noPath := rfl
  have hcollides : (numbered.add (bringing "/pets/\x7bid\x7d" [tag, petWith "string"])).2
      = .error (.model (.collision "Pet")) := rfl
  obtain ⟨hcollision, halike⟩ := add_refused _ _ _ hcollides
  refine ⟨⟨hrefused, (add_refused _ _ _ hrefused).2.2 rfl⟩, hcollides, hcollision, fun h => ?_⟩
  cases halike.1 h

/-- **A refused operation shows.** An operation is refused as it has another notion of a pet. Its path is in the
document of the resource all the same, and so is the model in front of the pet. -/
theorem collision_shows :
    (numbered.add (bringing "/pets/\x7bid\x7d" [tag, petWith "string"])).2 = .error (.model (.collision "Pet")) ∧
      ∃ d d', numbered.declaration "pets" = .ok d ∧
        (numbered.add (bringing "/pets/\x7bid\x7d" [tag, petWith "string"])).1.declaration "pets" = .ok d' ∧
        d.apis.map Api.path = ["/pets"] ∧ d'.apis.map Api.path = ["/pets", "/pets/\x7bid\x7d"] ∧
        d.models.get? "Tag" = none ∧ d'.models.get? "Tag" = some tag := by
  refine ⟨rfl, _, _, rfl, rfl, by decide +kernel, by decide +kernel, ?_, ?_⟩
  · exact (OrderedMap.get?_sortKeys ..).trans rfl
  · exact (OrderedMap.get?_sortKeys ..).trans rfl

end Builder

end RouteDocs
