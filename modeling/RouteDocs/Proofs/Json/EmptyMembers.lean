/-
What is left of a tree without its empty members.

A value is hollow if nothing is left of it but one of the four empty values: it is one of them, or an object of hollow
members. A list with items is never hollow, whatever these are. Just the hollow members of objects are dropped, so the
way to a value stays open unless it goes through a hollow member (`Stays`).

- `dropEmpty_mem_empties_iff`: the hollow values are those of which something empty is left.
- `at_dropEmpty_iff`: where what is left of a value stands.
- `At.stays`: a value that is not hollow stays where it is, and so do all items of lists.
- `dropEmpty_dropEmpty`: what is left has nothing to drop.
- `dropEmpty_exact`: what is dropped, and what stays.
-/
import RouteDocs.Json.Basic

namespace RouteDocs.Json

/-! ## Trees -/

/-- is the value neither a list nor an object? -/
def isScalar : Json → Bool
  | .arr _ | .obj _ => false
  | _ => true

/-- what holds of scalars, and passes from items to lists and from members to objects, holds of every tree -/
@[elab_as_elim]
theorem treeInduction {motive : Json → Prop} (v : Json) (scalar : ∀ v : Json, v.isScalar = true → motive v)
    (arr : ∀ items, (∀ v ∈ items, motive v) → motive (.arr items))
    (obj : ∀ members : List (String × Json), (∀ m ∈ members, motive m.2) → motive (.obj members)) : motive v :=
  match v with
  | .null | .bool _ | .int _ | .real _ | .str _ => scalar _ rfl
  | .arr items => arr items fun v _ => treeInduction v scalar arr obj
  | .obj members => obj members fun m _ => treeInduction m.2 scalar arr obj
termination_by sizeOf v
decreasing_by
  · next hv =>
    have := List.sizeOf_lt_of_mem hv
    simp only [Json.arr.sizeOf_spec]
    omega
  · next hm =>
    have := List.sizeOf_lt_of_mem hm
    have hpair : sizeOf m = 1 + sizeOf m.1 + sizeOf m.2 := by cases m; simp
    simp only [Json.obj.sizeOf_spec]
    omega

/-- a step down a tree -/
inductive Step where
  | item (position : Nat)
  | member (name : String)

/-- the value at the end of a path -/
inductive At : Json → List Step → Json → Prop
  | here (v : Json) : At v [] v
  | item {items : List Json} {i : Nat} {v w : Json} {path : List Step} (found : items[i]? = some v)
    (rest : At v path w) : At (.arr items) (.item i :: path) w
  | member {members : List (String × Json)} {name : String} {v w : Json} {path : List Step}
    (found : (name, v) ∈ members) (rest : At v path w) : At (.obj members) (.member name :: path) w

theorem At.append {u v w : Json} {path more : List Step} (h : At v path u) (hmore : At u more w) :
    At v (path ++ more) w := by
  induction h with
  | here => exact hmore
  | item found _ ih => exact .item found (ih hmore)
  | member found _ ih => exact .member found (ih hmore)

/-! ## Hollow values -/

def empties : List Json := [.null, .str "", .arr [], .obj []]

theorem isEmpty_iff {v : Json} : v.isEmpty = true ↔ v ∈ empties := by
  cases v with
  | arr items => cases items <;> simp [isEmpty, empties]
  | obj members => cases members <;> simp [isEmpty, empties]
  | _ => simp [isEmpty, empties]

/-- a value with nothing in it but empty values -/
inductive Hollow : Json → Prop
  | null : Hollow .null
  | text : Hollow (.str "")
  | list : Hollow (.arr [])
  | object {members : List (String × Json)} (inside : ∀ m ∈ members, Hollow m.2) : Hollow (.obj members)

/-- the value at the end of a path that leads through no hollow member -/
inductive Stays : Json → List Step → Json → Prop
  | here (v : Json) : Stays v [] v
  | item {items : List Json} {i : Nat} {v w : Json} {path : List Step} (found : items[i]? = some v)
    (rest : Stays v path w) : Stays (.arr items) (.item i :: path) w
  | member {members : List (String × Json)} {name : String} {v w : Json} {path : List Step}
    (found : (name, v) ∈ members) (solid : ¬ Hollow v) (rest : Stays v path w) :
    Stays (.obj members) (.member name :: path) w

theorem not_hollow_of_item {items : List Json} {i : Nat} {v : Json} (h : items[i]? = some v) :
    ¬ Hollow (.arr items) := by
  rintro ⟨⟩
  cases h

theorem At.not_hollow {v w : Json} {path : List Step} (h : At v path w) (hw : ¬ Hollow w) : ¬ Hollow v := by
  induction h with
  | here => exact hw
  | item found => exact not_hollow_of_item found
  | member found _ ih =>
    intro hhollow
    cases hhollow with
    | object inside => exact ih hw (inside _ found)

/-- the way to a value that is not hollow leads through no hollow member -/
theorem At.stays {v w : Json} {path : List Step} (h : At v path w) (hw : ¬ Hollow w) : Stays v path w := by
  induction h with
  | here => exact .here _
  | item found _ ih => exact .item found (ih hw)
  | member found rest ih => exact .member found (rest.not_hollow hw) (ih hw)

/-! ## What is left -/

theorem dropEmpty_of_isScalar {v : Json} (h : v.isScalar = true) : v.dropEmpty = v := by
  cases v with
  | arr | obj => cases h
  | _ => rfl

/-- a member with what is left of its value -/
def cleaned (m : String × Json) : String × Json := (m.1, m.2.dropEmpty)

theorem dropEmpty_arr (items : List Json) : dropEmpty (.arr items) = .arr (items.map dropEmpty) := by
  have hitems (items : List Json) : dropEmptyItems items = items.map dropEmpty := by
    induction items with
    | nil => rfl
    | cons v rest ih => rw [dropEmptyItems, ih, List.map_cons]
  rw [dropEmpty, hitems]

theorem dropEmpty_obj (members : List (String × Json)) :
    dropEmpty (.obj members) = .obj ((members.map cleaned).filter (·.2 ∉ empties)) := by
  have hmembers (members : List (String × Json)) :
      dropEmptyMembers members = (members.map cleaned).filter (·.2 ∉ empties) := by
    induction members with
    | nil => rfl
    | cons m rest ih =>
      rw [dropEmptyMembers, ih, List.map_cons, List.filter_cons]
      by_cases h : m.2.dropEmpty ∈ empties
      · simp [isEmpty_iff.2 h, cleaned, h]
      · simp [Bool.eq_false_iff.2 fun hempty => h (isEmpty_iff.1 hempty), cleaned, h]
  rw [dropEmpty, hmembers]

/-- **Hollow values** are those of which something empty is left. -/
theorem dropEmpty_mem_empties_iff (v : Json) : v.dropEmpty ∈ empties ↔ Hollow v := by
  induction v using treeInduction with
  | scalar v hv =>
    rw [dropEmpty_of_isScalar hv]
    cases v with
    | null => exact iff_of_true (by simp [empties]) .null
    | str s =>
      by_cases hs : s = ""
      · subst hs
        exact iff_of_true (by simp [empties]) .text
      · refine iff_of_false (by simp [empties, hs]) ?_
        rintro ⟨⟩
        exact hs rfl
    | arr | obj => cases hv
    | _ => exact iff_of_false (by simp [empties]) (by rintro ⟨⟩)
  | arr items ih =>
    rw [dropEmpty_arr]
    cases items with
    | nil => exact iff_of_true (by simp [empties]) .list
    | cons v rest => exact iff_of_false (by simp [empties]) (not_hollow_of_item (i := 0) rfl)
  | obj members ih =>
    have hleft : dropEmpty (.obj members) ∈ empties ↔ ∀ m ∈ members, m.2.dropEmpty ∈ empties := by
      have hnil (left : List (String × Json)) : Json.obj left ∈ empties ↔ left = [] := by simp [empties]
      rw [dropEmpty_obj, hnil, List.filter_eq_nil_iff, List.forall_mem_map]
      refine forall_congr' fun m => imp_congr_right fun _ => ?_
      rw [decide_eq_true_eq, Decidable.not_not, cleaned]
    rw [hleft]
    constructor
    · intro h
      exact .object fun m hm => (ih m hm).1 (h m hm)
    · rintro ⟨⟩
      next inside => exact fun m hm => (ih m hm).2 (inside m hm)

theorem Stays.at_dropEmpty {v w : Json} {path : List Step} (h : Stays v path w) : At v.dropEmpty path w.dropEmpty := by
  induction h with
  | here => exact .here _
  | item found _ ih =>
    rw [dropEmpty_arr]
    exact .item (by rw [List.getElem?_map, found]; rfl) ih
  | member found solid _ ih =>
    rw [dropEmpty_obj]
    refine .member (List.mem_filter.2 ⟨List.mem_map.2 ⟨_, found, rfl⟩, ?_⟩) ih
    exact decide_eq_true fun hempty => solid ((dropEmpty_mem_empties_iff _).1 hempty)

/-- a list is what is left of a list -/
theorem eq_arr_of_dropEmpty {v : Json} {items : List Json} (h : v.dropEmpty = .arr items) :
    ∃ before, v = .arr before ∧ items = before.map dropEmpty := by
  cases v with
  | arr before => exact ⟨before, rfl, (Json.arr.inj ((dropEmpty_arr before).symm.trans h)).symm⟩
  | _ => cases h

/-- an object is what is left of an object -/
theorem eq_obj_of_dropEmpty {v : Json} {members : List (String × Json)} (h : v.dropEmpty = .obj members) :
    ∃ before, v = .obj before ∧ members = (before.map cleaned).filter (·.2 ∉ empties) := by
  cases v with
  | obj before => exact ⟨before, rfl, (Json.obj.inj ((dropEmpty_obj before).symm.trans h)).symm⟩
  | _ => cases h

theorem At.of_dropEmpty {v left w : Json} {path : List Step} (h : At left path w) (hleft : left = v.dropEmpty) :
    ∃ u, Stays v path u ∧ w = u.dropEmpty := by
  induction h generalizing v with
  | here => exact ⟨v, .here v, hleft⟩
  | item found _ ih =>
    obtain ⟨before, rfl, rfl⟩ := eq_arr_of_dropEmpty hleft.symm
    rw [List.getElem?_map] at found
    obtain ⟨x, hx, rfl⟩ := Option.map_eq_some_iff.1 found
    obtain ⟨u, hstays, hu⟩ := ih rfl
    exact ⟨u, .item hx hstays, hu⟩
  | member found _ ih =>
    obtain ⟨before, rfl, rfl⟩ := eq_obj_of_dropEmpty hleft.symm
    obtain ⟨hmem, hsolid⟩ := List.mem_filter.1 found
    obtain ⟨m, hm, heq⟩ := List.mem_map.1 hmem
    obtain ⟨rfl, rfl⟩ := Prod.mk.inj heq
    obtain ⟨u, hstays, hu⟩ := ih rfl
    refine ⟨u, .member hm (fun hhollow => ?_) hstays, hu⟩
    exact of_decide_eq_true hsolid ((dropEmpty_mem_empties_iff _).2 hhollow)

/-- **Where what is left stands.** Just what can be reached past the hollow members is left, each value in its place. -/
theorem at_dropEmpty_iff {v w : Json} {path : List Step} :
    At v.dropEmpty path w ↔ ∃ u, Stays v path u ∧ w = u.dropEmpty := by
  constructor
  · exact fun h => h.of_dropEmpty rfl
  · rintro ⟨u, hstays, rfl⟩
    exact hstays.at_dropEmpty

/-- no object that is left has an empty member -/
theorem At.not_mem_empties {v : Json} {path : List Step} {members : List (String × Json)}
    (h : At v.dropEmpty path (.obj members)) : ∀ m ∈ members, m.2 ∉ empties := by
  obtain ⟨u, -, hu⟩ := h.of_dropEmpty rfl
  obtain ⟨before, -, rfl⟩ := eq_obj_of_dropEmpty hu.symm
  exact fun m hm => of_decide_eq_true (List.mem_filter.1 hm).2

/-- **Nothing is left to drop.** -/
theorem dropEmpty_dropEmpty (v : Json) : v.dropEmpty.dropEmpty = v.dropEmpty := by
  induction v using treeInduction with
  | scalar v hv => rw [dropEmpty_of_isScalar hv, dropEmpty_of_isScalar hv]
  | arr items ih =>
    rw [dropEmpty_arr, dropEmpty_arr, List.map_map]
    exact congrArg Json.arr (List.map_congr_left ih)
  | obj members ih =>
    rw [dropEmpty_obj, dropEmpty_obj]
    -- the members that are left are clean, and none of them is empty
    have hclean : ((members.map cleaned).filter (·.2 ∉ empties)).map cleaned
        = (members.map cleaned).filter (·.2 ∉ empties) := by
      refine (List.map_congr_left fun m hm => ?_).trans (List.map_id _)
      obtain ⟨before, hbefore, rfl⟩ := List.mem_map.1 (List.mem_filter.1 hm).1
      exact Prod.ext rfl (ih before hbefore)
    rw [hclean, List.filter_filter]
    simp only [Bool.and_self]

/-- **Dropping empty members.** In what is left of a tree no object has an empty member. A list that can be reached past
hollow members has all its items, in their places; an object, in their order, those members of which something is left
that is not empty; and nothing else is there. So a member is dropped just if it is hollow; a scalar that is not empty
stays where it is, and so does every item of a list. A second time nothing is dropped. -/
theorem dropEmpty_exact (v : Json) :
    (∀ path members, At v.dropEmpty path (.obj members) → ∀ m ∈ members, m.2 ∉ empties) ∧
      (∀ path items, Stays v path (.arr items) → At v.dropEmpty path (.arr (items.map dropEmpty))) ∧
      (∀ path members, Stays v path (.obj members) →
        At v.dropEmpty path (.obj ((members.map cleaned).filter (·.2 ∉ empties)))) ∧
      (∀ path w, At v.dropEmpty path w ↔ ∃ u, Stays v path u ∧ w = u.dropEmpty) ∧
      (∀ u : Json, u.dropEmpty ∈ empties ↔ Hollow u) ∧
      (∀ path u, At v path u → u.isScalar = true → u ∉ empties → At v.dropEmpty path u) ∧
      (∀ path items i u, At v path (.arr items) → items[i]? = some u →
        At v.dropEmpty (path ++ [.item i]) u.dropEmpty) ∧
      v.dropEmpty.dropEmpty = v.dropEmpty := by
  refine ⟨fun path members h => h.not_mem_empties, fun path items h => ?_, fun path members h => ?_,
    fun path w => at_dropEmpty_iff, dropEmpty_mem_empties_iff, fun path u h hscalar hempty => ?_,
    fun path items i u h hitem => ?_, dropEmpty_dropEmpty v⟩
  · rw [← dropEmpty_arr]
    exact h.at_dropEmpty
  · rw [← dropEmpty_obj]
    exact h.at_dropEmpty
  · have hleft := dropEmpty_of_isScalar hscalar
    have hsolid : ¬ Hollow u := by rwa [← dropEmpty_mem_empties_iff, hleft]
    rw [← hleft]
    exact (h.stays hsolid).at_dropEmpty
  · have hlist := (h.stays (not_hollow_of_item hitem)).at_dropEmpty
    rw [dropEmpty_arr] at hlist
    exact hlist.append (.item (by rw [List.getElem?_map, hitem]; rfl) (.here _))

/-- Zero and `false` stay, and so does an object in a list, though nothing is left of it. -/
example :
    dropEmpty (.obj [("a", .obj [("b", .obj []), ("c", .str "")]), ("d", .arr [.obj [("e", .null)], .null]),
      ("f", .int 0), ("g", .bool false)])
      = .obj [("d", .arr [.obj [], .null]), ("f", .int 0), ("g", .bool false)] := rfl

end RouteDocs.Json
