/-
Documents as trees that are read back from their text.

- `isPlain_dropEmpty`: dropping what is empty keeps the members of an object distinct.
- `isPlain_wire_listing`, `isPlain_wire_declaration`: both kinds of documents, if the authorizations are plain trees.
- `parse?_renderDocument`: a document is read back from its text.
-/
import RouteDocs.Document.Text
import RouteDocs.Proofs.Json.RoundTrip

namespace RouteDocs

namespace Json

/-! ## Dropping what is empty -/

mutual

theorem isPlain_dropEmpty : (v : Json) → v.isPlain = true → v.dropEmpty.isPlain = true
  | .null, _ | .bool _, _ | .int _, _ | .str _, _ => rfl
  | .real _, h => h
  | .arr items, h => arePlain_dropEmptyItems items h
  | .obj members, h => by
    rw [isPlain, Bool.and_eq_true, decide_eq_true_eq] at h
    rw [dropEmpty, isPlain, Bool.and_eq_true, decide_eq_true_eq]
    exact ⟨h.1.sublist (dropEmptyMembers_names members), areMembersPlain_dropEmptyMembers members h.2⟩

theorem arePlain_dropEmptyItems :
    (items : List Json) → arePlain items = true → arePlain (dropEmptyItems items) = true
  | [], _ => rfl
  | v :: rest, h => by
    rw [arePlain, Bool.and_eq_true] at h
    rw [dropEmptyItems, arePlain, isPlain_dropEmpty v h.1, arePlain_dropEmptyItems rest h.2, Bool.and_self]

theorem areMembersPlain_dropEmptyMembers : (members : List (String × Json)) → areMembersPlain members = true →
    areMembersPlain (dropEmptyMembers members) = true
  | [], _ => rfl
  | (k, v) :: rest, h => by
    rw [areMembersPlain, Bool.and_eq_true] at h
    rw [dropEmptyMembers]
    split
    · exact areMembersPlain_dropEmptyMembers rest h.2
    · rw [areMembersPlain, isPlain_dropEmpty v h.1, areMembersPlain_dropEmptyMembers rest h.2, Bool.and_self]

/-- what is left of the members keeps its names, in their order -/
theorem dropEmptyMembers_names : (members : List (String × Json)) →
    ((dropEmptyMembers members).map Prod.fst).Sublist (members.map Prod.fst)
  | [] => .slnil
  | (k, v) :: rest => by
    rw [dropEmptyMembers]
    split
    · exact (dropEmptyMembers_names rest).cons k
    · exact (dropEmptyMembers_names rest).cons_cons k

end

/-! ## Trees of fields -/

theorem arePlain_iff {items : List Json} : arePlain items = true ↔ ∀ v ∈ items, v.isPlain = true := by
  induction items with
  | nil => simp [arePlain]
  | cons v rest ih => simp [arePlain, ih]

theorem areMembersPlain_iff {members : List (String × Json)} :
    areMembersPlain members = true ↔ ∀ m ∈ members, m.2.isPlain = true := by
  induction members with
  | nil => simp [areMembersPlain]
  | cons m rest ih => simp [areMembersPlain, ih]

@[simp] theorem isPlain_ofText? (s : Option String) : (ofText? s).isPlain = true := by cases s <;> rfl

@[simp] theorem isPlain_ofTexts (texts : List String) : (ofTexts texts).isPlain = true :=
  arePlain_iff.2 fun v hv => by
    obtain ⟨s, -, rfl⟩ := List.mem_map.1 hv
    rfl

end Json

open Json

theorem isPlain_treeItems {α : Type} [Tree α] {xs : List α} (h : ∀ x ∈ xs, (tree x).isPlain = true) :
    (treeItems xs).isPlain = true :=
  arePlain_iff.2 fun v hv => by
    obtain ⟨x, hx, rfl⟩ := List.mem_map.1 hv
    exact h x hx

/-- the names in a map are distinct -/
theorem isPlain_obj_entries {α : Type} (m : OrderedMap String α) {f : α → Json}
    (h : ∀ x ∈ m.values, (f x).isPlain = true) :
    (Json.obj (m.entries.map fun e => (e.1, f e.2))).isPlain = true := by
  rw [isPlain, Bool.and_eq_true, decide_eq_true_eq]
  constructor
  · simpa [List.map_map, Function.comp_def] using m.distinct
  · refine areMembersPlain_iff.2 fun e he => ?_
    obtain ⟨e', he', rfl⟩ := List.mem_map.1 he
    exact h e'.2 (List.mem_map_of_mem he')

/-! ## Documents -/

/-- are the authorizations of an operation trees that a text can hold exactly? -/
def Operation.isPlain (o : Operation) : Bool := o.authorizations.all fun members => (Json.obj members).isPlain

def Declaration.isPlain (d : Declaration) : Bool := d.apis.all fun a => a.operations.all Operation.isPlain

theorem isPlain_tree_items (i : Option Schema.Items) : (tree? i).isPlain = true := by
  cases i with
  | none => rfl
  | some i => simp [tree?, tree, Json.isPlain, areMembersPlain]

theorem isPlain_tree_model (m : Schema.Model) : (tree m).isPlain = true := by
  have hproperties : (treeMembers m.properties).isPlain = true :=
    isPlain_obj_entries m.properties fun p _ => by simp [tree, Json.isPlain, areMembersPlain, isPlain_tree_items]
  simp [tree, Json.isPlain, areMembersPlain, hproperties]

theorem isPlain_tree_operation {o : Operation} (h : o.isPlain = true) : (tree o).isPlain = true := by
  have hparameters : (treeItems o.parameters).isPlain = true :=
    isPlain_treeItems fun p _ => by simp [tree, Json.isPlain, areMembersPlain]
  have hresponses : (treeItems o.responses).isPlain = true :=
    isPlain_treeItems fun r _ => by simp [tree, Json.isPlain, areMembersPlain]
  have hauthorizations : arePlain (o.authorizations.map .obj) = true := by
    refine arePlain_iff.2 fun v hv => ?_
    obtain ⟨members, hmembers, rfl⟩ := List.mem_map.1 hv
    exact List.all_eq_true.1 h members hmembers
  simp [tree, Json.isPlain, areMembersPlain, isPlain_tree_items, hparameters, hresponses, hauthorizations]

theorem isPlain_wire_listing (l : Listing) : (wire l).isPlain = true := by
  have hapis : (treeItems l.apis).isPlain = true :=
    isPlain_treeItems fun r _ => by simp [tree, Json.isPlain, areMembersPlain]
  have hinfo : (Json.obj (l.info.entries.map fun e => (e.1, Json.str e.2))).isPlain = true :=
    isPlain_obj_entries l.info fun _ _ => rfl
  refine isPlain_dropEmpty _ ?_
  simp only [tree]
  generalize Json.obj (l.info.entries.map fun e => (e.1, Json.str e.2)) = info at hinfo
  simp [Json.isPlain, areMembersPlain, hapis, hinfo]

theorem isPlain_wire_declaration {d : Declaration} (h : d.isPlain = true) : (wire d).isPlain = true := by
  have hoperations (a : Api) (ha : a ∈ d.apis) : (treeItems a.operations).isPlain = true :=
    isPlain_treeItems fun o ho => isPlain_tree_operation (List.all_eq_true.1 (List.all_eq_true.1 h a ha) o ho)
  have hapis : (treeItems d.apis).isPlain = true :=
    isPlain_treeItems fun a ha => by simp [tree, Json.isPlain, areMembersPlain, hoperations a ha]
  have hmodels : (treeMembers d.models).isPlain = true := isPlain_obj_entries d.models fun m _ => isPlain_tree_model m
  refine isPlain_dropEmpty _ ?_
  simp [tree, Json.isPlain, areMembersPlain, hapis, hmodels]

/-- **A document is read back from its text.** -/
theorem parse?_renderDocument {α : Type} [Tree α] {x : α} (h : (wire x).isPlain = true) :
    Json.parse? (renderDocument x) = some (wire x) := parse?_print h .indented

end RouteDocs
