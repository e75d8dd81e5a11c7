/-
Models merged into a registry in any order.

Two models are the same if they have the same fields, where the properties count as a map: their order does not matter
(`Model.Same`). Merging fails at the first model that is not the same as the one that is registered under its name, and
leaves the registry as it was. So a registry keeps the first model of each name, and whether anything fails does not
depend on the order.

- `Model.agrees_iff`: what the comparison of models decides.
- `Registry.get?_mergeEach`: past all collisions, the first model of a name stays.
- `Registry.mergeAll_eq_none_iff`: all models are merged just if those of one name are the same.
- `Registry.mergeAll_again`: models that have been merged may come again.
- `Registry.merging_orderFree`: what any order of the models gives.
-/
import Mathlib.Data.List.Perm.Subperm
import RouteDocs.Proofs.Document.Refusal

namespace RouteDocs

open Schema

/-! ## Equal models -/

namespace OrderedMap

variable {α β : Type} [DecidableEq α] [DecidableEq β]

/-- two maps have the same entries if they answer alike -/
theorem sameEntries_iff {m n : OrderedMap α β} : m.sameEntries n = true ↔ ∀ k, m.get? k = n.get? k := by
  rw [sameEntries, Bool.and_eq_true, beq_iff_eq, List.all_eq_true]
  constructor
  · rintro ⟨hsize, hall⟩
    have hsub : m.entries ⊆ n.entries := fun e he => get?_eq_some.1 (of_decide_eq_true (hall e he))
    have hperm : m.entries.Perm n.entries :=
      (List.subperm_of_subset m.nodup_entries hsub).perm_of_length_le hsize.ge
    exact get?_congr_of_perm hperm
  · intro h
    refine ⟨(perm_of_get? h).length_eq, fun e he => decide_eq_true ?_⟩
    rw [← h]
    exact get?_eq_some.2 he

end OrderedMap

namespace Schema.Model

/-- two models have the same fields, whatever the order of their properties -/
structure Same (a b : Model) : Prop where
  id : a.id = b.id
  required : a.required = b.required
  properties : ∀ name, a.properties.get? name = b.properties.get? name

theorem agrees_iff {a b : Model} : a.agrees b = true ↔ a.Same b := by
  rw [agrees, Bool.and_eq_true, Bool.and_eq_true, beq_iff_eq, beq_iff_eq, OrderedMap.sameEntries_iff]
  exact ⟨fun h => ⟨h.1.1, h.1.2, h.2⟩, fun h => ⟨⟨h.id, h.required⟩, h.properties⟩⟩

theorem Same.symm {a b : Model} (h : a.Same b) : b.Same a :=
  ⟨h.id.symm, h.required.symm, fun name => (h.properties name).symm⟩

theorem Same.trans {a b c : Model} (hab : a.Same b) (hbc : b.Same c) : a.Same c :=
  ⟨hab.id.trans hbc.id, hab.required.trans hbc.required,
    fun name => (hab.properties name).trans (hbc.properties name)⟩

end Schema.Model

namespace Registry

variable {r : Registry} {m : Model} {ms : List Model}

/-! ## One model -/

/-- the registry after a model has been merged, or has been refused -/
def attempt (r : Registry) (m : Model) : Registry := (r.mergeAll [m]).1

theorem mergeAll_singleton (r : Registry) (m : Model) :
    r.mergeAll [m] =
      match r.merge m with
      | .ok r' => (r', none)
      | .error e => (r, some e) := by
  rw [mergeAll]
  cases r.merge m <;> rfl

/-- **Refused models leave no trace.** -/
theorem attempt_refused {e : ResolveError} (h : (r.mergeAll [m]).2 = some e) :
    r.attempt m = r ∧ e = .collision m.id ∧ ∃ known, r.models.get? m.id = some known ∧ ¬ known.Same m := by
  rw [attempt]
  rw [mergeAll_singleton] at h ⊢
  cases hmerge : r.merge m with
  | ok r' =>
    rw [hmerge] at h
    cases h
  | error e' =>
    rw [hmerge] at h
    obtain rfl := Option.some.inj h
    obtain ⟨⟨known, hknown, hagrees⟩, rfl⟩ := merge_error hmerge
    refine ⟨rfl, rfl, known, hknown, fun hsame => ?_⟩
    rw [Model.agrees_iff.2 hsame] at hagrees
    cases hagrees

/-- a name that is new gets the model; under any other, nothing changes -/
theorem get?_attempt (r : Registry) (m : Model) (id : String) :
    (r.attempt m).models.get? id = (r.models.get? id).or (if m.id = id then some m else none) := by
  rw [attempt, mergeAll_singleton, merge]
  cases hknown : r.models.get? m.id with
  | none =>
    dsimp only
    rw [OrderedMap.get?_insert]
    by_cases hid : id = m.id
    · subst hid
      simp [hknown]
    · simp [hid, Ne.symm hid]
  | some known =>
    have hsame : r.models.get? id = (r.models.get? id).or (if m.id = id then some m else none) := by
      by_cases hid : m.id = id
      · subst hid
        simp [hknown]
      · simp [hid]
    dsimp only
    by_cases hagrees : known.agrees m = true
    · rw [if_pos hagrees]
      exact hsame
    · rw [if_neg hagrees]
      exact hsame

/-! ## Lists of models -/

/-- the registry after models have been merged one after another, past those that are refused -/
def mergeEach (r : Registry) (ms : List Model) : Registry := ms.foldl attempt r

/-- **The first model of a name stays.** -/
theorem get?_mergeEach (r : Registry) (ms : List Model) (id : String) :
    (r.mergeEach ms).models.get? id = (r.models.get? id).or (ms.find? (·.id = id)) := by
  induction ms generalizing r with
  | nil => simp [mergeEach]
  | cons m rest ih =>
    have hstep : r.mergeEach (m :: rest) = (r.attempt m).mergeEach rest := rfl
    rw [hstep, ih, get?_attempt, Option.or_assoc, List.find?_cons]
    by_cases hid : m.id = id <;> simp [hid]

/-- if nothing is refused, merging to the end and merging up to the first collision are the same -/
theorem mergeEach_of_merged (h : (r.mergeAll ms).2 = none) : r.mergeEach ms = (r.mergeAll ms).1 := by
  induction ms generalizing r with
  | nil => rfl
  | cons m rest ih =>
    have hstep : r.mergeEach (m :: rest) = (r.attempt m).mergeEach rest := rfl
    rw [hstep, attempt, mergeAll_singleton]
    rw [mergeAll] at h ⊢
    cases hmerge : r.merge m with
    | ok r' =>
      rw [hmerge] at h
      exact ih h
    | error e =>
      rw [hmerge] at h
      cases h

/-- any two models of one name are the same -/
def Consistent (ms : List Model) : Prop := ∀ a ∈ ms, ∀ b ∈ ms, a.id = b.id → a.Same b

/-- **When all are merged.** Just if any two models of one name are the same. -/
theorem mergeAll_eq_none_iff : (empty.mergeAll ms).2 = none ↔ Consistent ms := by
  constructor
  · intro h a ha b hb hid
    have hregisters := registers_empty.mergeAll (Prod.ext rfl h : empty.mergeAll ms = ((empty.mergeAll ms).1, none))
    -- both are the same as the model that is registered under the name
    obtain ⟨known, hknown, hagrees⟩ := hregisters.agrees a ha
    obtain ⟨known', hknown', hagrees'⟩ := hregisters.agrees b hb
    rw [hid, hknown'] at hknown
    obtain rfl := Option.some.inj hknown
    exact (Model.agrees_iff.1 hagrees).symm.trans (Model.agrees_iff.1 hagrees')
  · intro h
    cases he : (empty.mergeAll ms).2 with
    | none => rfl
    | some e =>
      obtain ⟨before, m, after, rfl, hbefore, ⟨known, hknown, hdiffers⟩, -⟩ :=
        mergeAll_collision (Prod.ext rfl he : empty.mergeAll ms = ((empty.mergeAll ms).1, some e))
      -- the model that it collides with is one of those in front of it
      obtain ⟨hid, hmem⟩ := (registers_empty.mergeAll hbefore).named _ known hknown
      have hsame : known.Same m := h known (by simpa using Or.inl hmem) m (by simp) hid
      rw [Model.agrees_iff.2 hsame] at hdiffers
      cases hdiffers

theorem Consistent.perm {ms' : List Model} (h : Consistent ms) (hperm : ms.Perm ms') : Consistent ms' :=
  fun a ha b hb => h a (hperm.mem_iff.2 ha) b (hperm.mem_iff.2 hb)

/-- **Merging again** changes nothing. -/
theorem mergeAll_again (h : (empty.mergeAll ms).2 = none) {again : List Model} (hagain : ∀ m ∈ again, m ∈ ms) :
    (empty.mergeAll ms).1.mergeAll again = ((empty.mergeAll ms).1, none) := by
  have hregisters := registers_empty.mergeAll (Prod.ext rfl h : empty.mergeAll ms = ((empty.mergeAll ms).1, none))
  generalize (empty.mergeAll ms).1 = r at hregisters
  induction again with
  | nil => rfl
  | cons m rest ih =>
    obtain ⟨hm, hrest⟩ := List.forall_mem_cons.1 hagain
    obtain ⟨known, hknown, hagrees⟩ := hregisters.agrees m (by simpa using hm)
    have hmerge : r.merge m = .ok r := by
      rw [merge, hknown]
      exact if_pos hagrees
    rw [mergeAll, hmerge]
    exact ih hrest

theorem mem_keys_mergeEach {id : String} : id ∈ (empty.mergeEach ms).models.keys ↔ ∃ m ∈ ms, m.id = id := by
  have hempty : empty.models.get? id = none := rfl
  rw [OrderedMap.mem_keys, OrderedMap.contains, get?_mergeEach, hempty, Option.none_or, List.find?_isSome]
  simp

/-- what two registries hold under a name is the same model, or nothing in both -/
def HoldsSame (r r' : Registry) (id : String) : Prop :=
  Option.Rel Model.Same (r.models.get? id) (r'.models.get? id)

/-- in any order of models that are the same by name, the same models stay -/
theorem Consistent.holdsSame {ms' : List Model} (h : Consistent ms) (hperm : ms.Perm ms') (id : String) :
    (empty.mergeEach ms).HoldsSame (empty.mergeEach ms') id := by
  have hempty : empty.models.get? id = none := rfl
  rw [HoldsSame, get?_mergeEach, get?_mergeEach, hempty, Option.none_or, Option.none_or]
  cases hfirst : ms.find? (·.id = id) with
  | none =>
    have hnone : ms'.find? (·.id = id) = none := by
      rw [List.find?_eq_none] at hfirst ⊢
      exact fun m hm => hfirst m (hperm.mem_iff.2 hm)
    rw [hnone]
    exact .none
  | some m =>
    have hm := List.mem_of_find?_eq_some hfirst
    have hid : m.id = id := by simpa using List.find?_some hfirst
    obtain ⟨m', hfirst'⟩ : ∃ m', ms'.find? (·.id = id) = some m' :=
      Option.isSome_iff_exists.1 (List.find?_isSome.2 ⟨m, hperm.mem_iff.1 hm, by simpa using hid⟩)
    have hm' := hperm.mem_iff.2 (List.mem_of_find?_eq_some hfirst')
    have hid' : m'.id = id := by simpa using List.find?_some hfirst'
    rw [hfirst']
    exact .some (h m hm m' hm' (hid.trans hid'.symm))

/-- **Merging in any order.** Models merged one after another into the empty registry are all accepted just if any two
of one name are the same. In another order of the models, this is so just if it was before; the names that are
registered are those before, and, if all are accepted, the models are the same ones. Accepted models may come again
without any effect. A model that is refused leaves the registry as it was, so past all refusals the registry has for
each name the first model that came under it. -/
theorem merging_orderFree (ms : List Model) :
    ((empty.mergeAll ms).2 = none ↔ Consistent ms) ∧
      (∀ ms', ms.Perm ms' →
        ((empty.mergeAll ms).2 = none ↔ (empty.mergeAll ms').2 = none) ∧
          (∀ id, id ∈ (empty.mergeEach ms).models.keys ↔ id ∈ (empty.mergeEach ms').models.keys) ∧
          ((empty.mergeAll ms).2 = none → ∀ id, (empty.mergeAll ms).1.HoldsSame (empty.mergeAll ms').1 id)) ∧
      ((empty.mergeAll ms).2 = none →
        ∀ again, (∀ m ∈ again, m ∈ ms) →
          (empty.mergeAll ms).1.mergeAll again = ((empty.mergeAll ms).1, none)) ∧
      (∀ (r : Registry) (m : Model) (e : ResolveError), (r.mergeAll [m]).2 = some e →
        (r.mergeAll [m]).1 = r ∧ e = .collision m.id) ∧
      ∀ id, (empty.mergeEach ms).models.get? id = ms.find? (·.id = id) := by
  refine ⟨mergeAll_eq_none_iff, fun ms' hperm => ?_, fun h again => mergeAll_again h, fun r m e h => ?_,
    fun id => ?_⟩
  · have hcondition : (empty.mergeAll ms).2 = none ↔ (empty.mergeAll ms').2 = none := by
      rw [mergeAll_eq_none_iff, mergeAll_eq_none_iff]
      exact ⟨fun h => h.perm hperm, fun h => h.perm hperm.symm⟩
    refine ⟨hcondition, fun id => ?_, fun h id => ?_⟩
    · simp only [mem_keys_mergeEach, hperm.mem_iff]
    · rw [← mergeEach_of_merged h, ← mergeEach_of_merged (hcondition.1 h)]
      exact (mergeAll_eq_none_iff.1 h).holdsSame hperm id
  · obtain ⟨hkept, he, -⟩ := attempt_refused h
    exact ⟨hkept, he⟩
  · have hempty : empty.models.get? id = none := rfl
    rw [get?_mergeEach, hempty, Option.none_or]

def cage (properties : List (String × Property)) : Model := ⟨"Cage", ["size"], .ofList properties⟩

def cageSize : String × Property := ("size", .primitive ⟨"integer", none⟩)

def cageAnimal : String × Property := ("animal", .model "Animal")

/-- models with a repetition, in which the properties have another order -/
def cages : List Model := [cage [cageSize, cageAnimal], ⟨"Animal", [], ∅⟩, cage [cageAnimal, cageSize]]

/-- The cages are the same, whatever comes first; one without an animal is refused. -/
theorem merging_orderFree_cages :
    (empty.mergeAll cages).2 = none ∧ (empty.mergeAll cages.reverse).2 = none ∧
      (∀ id, (empty.mergeAll cages).1.HoldsSame (empty.mergeAll cages.reverse).1 id) ∧
      (empty.mergeAll cages).1.mergeAll cages.reverse = ((empty.mergeAll cages).1, none) ∧
      ((empty.mergeAll cages).1.mergeAll [cage [cageSize]]).2 = some (.collision "Cage") ∧
      ((empty.mergeAll cages).1.mergeAll [cage [cageSize]]).1 = (empty.mergeAll cages).1 := by
  obtain ⟨-, horder, hagain, hrefused, -⟩ := merging_orderFree cages
  have hmerged : (empty.mergeAll cages).2 = none := by decide +kernel
  have hother : ((empty.mergeAll cages).1.mergeAll [cage [cageSize]]).2 = some (.collision "Cage") := by decide +kernel
  obtain ⟨hcondition, -, hsame⟩ := horder cages.reverse (List.reverse_perm _).symm
  exact ⟨hmerged, hcondition.1 hmerged, hsame hmerged, hagain hmerged _ fun m hm => List.mem_reverse.1 hm, hother,
    (hrefused _ _ _ hother).1⟩

end Registry

end RouteDocs
