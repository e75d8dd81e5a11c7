/-
Documents that are read back from their trees.

The members that are empty are not written, and a field whose member is absent has its default when it is read. Nothing
is lost if every value that is dropped is the default of its field: a name that must be given is not empty, an optional
text is not the empty one, and an optional value has a field that is written. Such values are `Lossless`. What is not
written of an operation are its models.

- `Json.member?_dropEmptyMembers`: the members that are left.
- `Decoder.field?_dropEmptyMembers`: the same for fields; the lemmas after it say of each kind of field what is read.
- `decode_operation`: an operation is read back without its models.
- `decode_declaration`, `decode_listing`: both kinds of documents are read back.
-/
import RouteDocs.Document.Decode
import RouteDocs.Proofs.Document.Wire
import RouteDocs.Proofs.OrderedMap

namespace RouteDocs

/-! ## Members -/

namespace Json

/-- what is written of the value of a member: nothing if it is empty -/
def kept? (v : Json) : Option Json := if v.dropEmpty.isEmpty then none else some v.dropEmpty

@[simp] theorem member?_nil (name : String) : member? [] name = none := rfl

@[simp] theorem member?_cons (k : String) (v : Json) (ms : List (String × Json)) (name : String) :
    member? ((k, v) :: ms) name = if name = k then some v else member? ms name := by
  by_cases h : name = k
  · simp [member?, h]
  · simp [member?, List.lookup_cons, h, beq_eq_false_iff_ne.2 h]

theorem member?_eq_none {ms : List (String × Json)} {name : String} (h : name ∉ ms.map Prod.fst) :
    member? ms name = none := by
  induction ms with
  | nil => rfl
  | cons m rest ih =>
    rw [List.map_cons, List.mem_cons, not_or] at h
    rw [member?_cons, if_neg h.1, ih h.2]

theorem dropEmptyMembers_cons (k : String) (v : Json) (ms : List (String × Json)) :
    dropEmptyMembers ((k, v) :: ms) = (v.kept?.map (k, ·)).toList ++ dropEmptyMembers ms := by
  rw [dropEmptyMembers, kept?]
  split <;> rfl

/-- the members that are left, of members with distinct names -/
theorem member?_dropEmptyMembers {ms : List (String × Json)} (h : (ms.map Prod.fst).Nodup) (name : String) :
    member? (dropEmptyMembers ms) name = (member? ms name).bind kept? := by
  induction ms with
  | nil => rfl
  | cons m rest ih =>
    obtain ⟨k, v⟩ := m
    obtain ⟨hk, hrest⟩ := List.nodup_cons.1 h
    rw [dropEmptyMembers_cons, member?_cons]
    by_cases hname : name = k
    · subst hname
      -- the name does not come again
      have hnone : member? (dropEmptyMembers rest) name = none :=
        member?_eq_none fun hmem => hk ((dropEmptyMembers_names rest).subset hmem)
      cases hv : v.kept? with
      | none => simp [hv, hnone]
      | some w => simp [hv, member?_cons]
    · cases hv : v.kept? with
      | none => simp [hname, ih hrest]
      | some w => simp [hname, member?_cons, ih hrest]

theorem dropEmptyItems_eq (items : List Json) : dropEmptyItems items = items.map dropEmpty := by
  induction items with
  | nil => rfl
  | cons v rest ih => rw [dropEmptyItems, ih, List.map_cons]

/-- members all of which are written -/
theorem dropEmptyMembers_of_kept {ms : List (String × Json)} (h : ∀ m ∈ ms, m.2.dropEmpty.isEmpty = false) :
    dropEmptyMembers ms = ms.map fun m => (m.1, m.2.dropEmpty) := by
  induction ms with
  | nil => rfl
  | cons m rest ih =>
    obtain ⟨hm, hrest⟩ := List.forall_mem_cons.1 h
    rw [dropEmptyMembers, hm, ih hrest]
    rfl

/-! ### What is written of values -/

@[simp] theorem kept?_null : kept? .null = none := rfl

@[simp] theorem kept?_bool (b : Bool) : kept? (.bool b) = some (.bool b) := rfl

@[simp] theorem kept?_int (n : Int) : kept? (.int n) = some (.int n) := rfl

theorem kept?_str {s : String} (h : s ≠ "") : kept? (.str s) = some (.str s) := by
  simp [kept?, dropEmpty, isEmpty, h]

/-- what is written of a list is the list of what is written of its items -/
theorem kept?_arr (items : List Json) :
    kept? (.arr items) = if items = [] then none else some (.arr (items.map dropEmpty)) := by
  cases items with
  | nil => rfl
  | cons v rest => simp [kept?, dropEmpty, dropEmptyItems_eq, isEmpty]

end Json

open Json

/-! ## Fields -/

namespace Decoder

/-- the member that is read for a field, among members of distinct names that were written -/
theorem field?_dropEmptyMembers {ms : List (String × Json)} (h : (ms.map Prod.fst).Nodup)
    (wireName plainName : String) :
    field? (dropEmptyMembers ms) wireName plainName
      = ((member? ms wireName).bind kept?).or ((member? ms plainName).bind kept?) := by
  rw [field?, member?_dropEmptyMembers h, member?_dropEmptyMembers h]

theorem withDefault_eq {α : Type} (d : Decoder α) (default : α) (ms : List (String × Json))
    (wireName plainName : String) :
    withDefault d default ms wireName plainName = (field? ms wireName plainName).elim (some default) d := by
  rw [withDefault]
  split <;> simp [*]

theorem bind_kept?_str {s : String} (h : s ≠ "") : (kept? (.str s)).bind text = some s := by
  rw [kept?_str h]
  rfl

theorem elim_kept?_str (s : String) : (kept? (.str s)).elim (some "") text = some s := by
  by_cases h : s = ""
  · rw [h]
    rfl
  · rw [kept?_str h]
    rfl

theorem elim_kept?_str_of_ne {s : String} (h : s ≠ "") (default : String) :
    (kept? (.str s)).elim (some default) text = some s := by
  rw [kept?_str h]
  rfl

theorem elim_kept?_ofText? {s : Option String} (h : s ≠ some "") :
    (kept? (ofText? s)).elim (some none) (optional text) = some s := by
  cases s with
  | none => rfl
  | some s =>
    rw [ofText?, kept?_str (by simpa using h)]
    rfl

/-- what is read of each image is what is read of their list -/
theorem mapM_map_eq_some {α β γ : Type} {d : β → Option γ} {xs : List α} {g : α → β} {f : α → γ}
    (h : ∀ x ∈ xs, d (g x) = some (f x)) : (xs.map g).mapM d = some (xs.map f) := by
  induction xs with
  | nil => rfl
  | cons x rest ih =>
    obtain ⟨hx, hrest⟩ := List.forall_mem_cons.1 h
    rw [List.map_cons, List.mapM_cons, hx, ih hrest]
    rfl

/-- a list of values that are read back, up to what is not written of them -/
theorem elim_kept?_list {α β : Type} {d : Decoder β} {xs : List α} {g : α → Json} {f : α → β}
    (h : ∀ x ∈ xs, d (g x).dropEmpty = some (f x)) :
    (kept? (.arr (xs.map g))).elim (some []) (list d) = some (xs.map f) := by
  rw [kept?_arr]
  split
  · next hnil =>
    rw [List.map_eq_nil_iff.1 hnil]
    rfl
  · rw [Option.elim_some, list, List.map_map]
    exact mapM_map_eq_some h

theorem elim_kept?_treeItems {α : Type} [Tree α] {d : Decoder α} {xs : List α} {f : α → α}
    (h : ∀ x ∈ xs, d (wire x) = some (f x)) : (kept? (treeItems xs)).elim (some []) (list d) = some (xs.map f) :=
  elim_kept?_list h

theorem elim_kept?_ofTexts (texts : List String) : (kept? (ofTexts texts)).elim (some []) (list text) = some texts := by
  have hread : ∀ s ∈ texts, text (Json.str s).dropEmpty = some (id s) := fun _ _ => rfl
  have hlist := elim_kept?_list hread
  rwa [List.map_id] at hlist

/-- a map of values that are written and read back -/
theorem elim_kept?_map {α : Type} {d : Decoder α} {m : OrderedMap String α} {g : α → Json}
    (h : ∀ x ∈ m.values, (g x).dropEmpty.isEmpty = false ∧ d (g x).dropEmpty = some x) :
    (kept? (.obj (m.entries.map fun e => (e.1, g e.2)))).elim (some ∅) (map d) = some m := by
  have hentries : ∀ e ∈ m.entries, (g e.2).dropEmpty.isEmpty = false ∧ d (g e.2).dropEmpty = some e.2 :=
    fun e he => h e.2 (List.mem_map_of_mem he)
  have hdrop : dropEmpty (.obj (m.entries.map fun e => (e.1, g e.2)))
      = .obj (m.entries.map fun e => (e.1, (g e.2).dropEmpty)) := by
    rw [dropEmpty, dropEmptyMembers_of_kept, List.map_map]
    · rfl
    · intro e he
      obtain ⟨e', he', rfl⟩ := List.mem_map.1 he
      exact (hentries e' he').1
  rw [kept?, hdrop]
  split
  · next hempty =>
    have hnil : m.entries = [] := by
      cases hcases : m.entries with
      | nil => rfl
      | cons e rest => rw [hcases] at hempty; cases hempty
    have hm : m = ∅ := OrderedMap.ext_entries hnil
    rw [hm]
    rfl
  · have hread : (m.entries.map fun e => (e.1, (g e.2).dropEmpty)).mapM (fun e => do return (e.1, ← d e.2))
        = some (m.entries.map id) := by
      refine mapM_map_eq_some fun e he => ?_
      rw [(hentries e he).2]
      rfl
    rw [List.map_id] at hread
    have hmap : OrderedMap.ofList m.entries = m := OrderedMap.ext_entries (OrderedMap.entries_ofList m.distinct)
    rw [Option.elim_some, map, members, Option.bind_eq_bind, Option.bind_some, hread]
    simp [hmap]

theorem elim_kept?_treeMembers {α : Type} [Tree α] {d : Decoder α} {m : OrderedMap String α}
    (h : ∀ x ∈ m.values, (wire x).isEmpty = false ∧ d (wire x) = some x) :
    (kept? (treeMembers m)).elim (some ∅) (map d) = some m := elim_kept?_map h

/-- an optional value that is written and read back -/
theorem elim_kept?_tree? {α : Type} [Tree α] {d : Decoder α} {x : Option α}
    (h : ∀ y, x = some y → (wire y).isEmpty = false ∧ d (wire y) = some y) :
    (kept? (tree? x)).elim (some none) (optional d) = some x := by
  cases x with
  | none => rfl
  | some y =>
    obtain ⟨hfull, hread⟩ := h y rfl
    have hkept : kept? (tree? (some y)) = some (wire y) := by
      rw [kept?, if_neg]
      · rfl
      · exact Bool.eq_false_iff.1 hfull
    rw [hkept, Option.elim_some, optional]
    · rw [hread]
      rfl
    · intro hnull
      rw [hnull] at hfull
      cases hfull

end Decoder

/-! ## Values that lose nothing -/

open Schema

namespace Json

/-- an object is not empty if one of its members is written -/
theorem isEmpty_dropEmptyMembers {ms : List (String × Json)} {m : String × Json} (hm : m ∈ ms)
    (hkept : m.2.kept? ≠ none) : (Json.obj (dropEmptyMembers ms)).isEmpty = false := by
  induction ms with
  | nil => cases hm
  | cons n rest ih =>
    rw [dropEmptyMembers_cons]
    rcases List.mem_cons.1 hm with rfl | hm
    · obtain ⟨v, hv⟩ := Option.ne_none_iff_exists'.1 hkept
      rw [hv]
      rfl
    · have hrest := ih hm
      cases n.2.kept? with
      | none => exact hrest
      | some v => rfl

theorem kept?_ofText?_ne_none {s : Option String} (h : s ≠ some "") (hsome : s ≠ none) :
    kept? (ofText? s) ≠ none := by
  cases s with
  | none => exact absurd rfl hsome
  | some s => simp [ofText?, kept?_str (show s ≠ "" by simpa using h)]

end Json

/-- the elements of an array have a reference or a type, and neither is the empty text -/
structure Schema.Items.Lossless (i : Items) : Prop where
  ref : i.ref ≠ some ""
  type : i.type ≠ some ""
  given : i.ref ≠ none ∨ i.type ≠ none

/-- a property has a type or a reference, and none of its texts is empty -/
structure Schema.Property.Lossless (p : Property) : Prop where
  type : p.type ≠ some ""
  format : p.format ≠ some ""
  ref : p.ref ≠ some ""
  items : ∀ i, p.items = some i → i.Lossless
  given : p.type ≠ none ∨ p.ref ≠ none

/-- a model has a name, and properties that lose nothing -/
structure Schema.Model.Lossless (m : Model) : Prop where
  id : m.id ≠ ""
  properties : ∀ p ∈ m.properties.values, p.Lossless

/-- a parameter has a name, a place and its types -/
structure Parameter.Lossless (p : Parameter) : Prop where
  name : p.name ≠ ""
  paramType : p.paramType ≠ ""
  type : p.type ≠ ""
  dataType : p.dataType ≠ ""

/-- an operation loses nothing but its models; of its method nothing is said -/
structure Operation.Lossless (o : Operation) : Prop where
  items : ∀ i, o.items = some i → i.Lossless
  parameters : ∀ p ∈ o.parameters, p.Lossless
  responses : ∀ r ∈ o.responses, r.model ≠ some ""
  authorizations : ∀ ms ∈ o.authorizations, Json.dropEmptyMembers ms = ms

/-- a document has its names, and all in it loses nothing -/
structure Declaration.Lossless (d : Declaration) : Prop where
  swaggerVersion : d.swaggerVersion ≠ ""
  resourcePath : d.resourcePath ≠ ""
  paths : ∀ a ∈ d.apis, a.path ≠ ""
  methods : ∀ a ∈ d.apis, ∀ o ∈ a.operations, o.method ≠ ""
  operations : ∀ a ∈ d.apis, ∀ o ∈ a.operations, o.Lossless
  models : ∀ m ∈ d.models.values, m.Lossless

/-- a listing has its names, and nothing empty in the general information -/
structure Listing.Lossless (l : Listing) : Prop where
  swaggerVersion : l.swaggerVersion ≠ ""
  paths : ∀ r ∈ l.apis, r.path ≠ ""
  info : ∀ v ∈ l.info.values, v ≠ ""

/-- an operation as it is written: without its models -/
def Operation.withoutModels (o : Operation) : Operation := { o with models := [] }

/-- the operations of a path as they are written -/
def Api.withoutModels (a : Api) : Api := { a with operations := a.operations.map Operation.withoutModels }

/-- a document as it is written -/
def Declaration.withoutModels (d : Declaration) : Declaration := { d with apis := d.apis.map Api.withoutModels }

/-! ## Reading values back -/

theorem decode_items {i : Items} (h : i.Lossless) : (wire i).isEmpty = false ∧ Decoder.items (wire i) = some i := by
  constructor
  · rcases h.given with hgiven | hgiven
    · exact isEmpty_dropEmptyMembers List.mem_cons_self (kept?_ofText?_ne_none h.ref hgiven)
    · exact isEmpty_dropEmptyMembers (List.mem_cons_of_mem _ List.mem_cons_self) (kept?_ofText?_ne_none h.type hgiven)
  · have hnames : ([("$ref", ofText? i.ref), ("type", ofText? i.type)].map Prod.fst).Nodup := by simp
    simp [wire, tree, dropEmpty, Decoder.items, Decoder.members, Decoder.optionalText, Decoder.withDefault_eq,
      Decoder.field?_dropEmptyMembers hnames, Decoder.elim_kept?_ofText? h.ref,
      Decoder.elim_kept?_ofText? h.type]

theorem decode_property {p : Property} (h : p.Lossless) :
    (wire p).isEmpty = false ∧ Decoder.property (wire p) = some p := by
  constructor
  · rcases h.given with hgiven | hgiven
    · exact isEmpty_dropEmptyMembers List.mem_cons_self (kept?_ofText?_ne_none h.type hgiven)
    · have hmem : ("$ref", ofText? p.ref) ∈ [("type", ofText? p.type), ("format", ofText? p.format),
          ("$ref", ofText? p.ref), ("items", tree? p.items)] := by simp
      exact isEmpty_dropEmptyMembers hmem (kept?_ofText?_ne_none h.ref hgiven)
  · have hnames : ([("type", ofText? p.type), ("format", ofText? p.format), ("$ref", ofText? p.ref),
        ("items", tree? p.items)].map Prod.fst).Nodup := by simp
    have hitems := Decoder.elim_kept?_tree? fun i hi => decode_items (h.items i hi)
    simp [wire, tree, dropEmpty, Decoder.property, Decoder.members, Decoder.optionalText, Decoder.withDefault_eq,
      Decoder.field?_dropEmptyMembers hnames, Decoder.elim_kept?_ofText? h.type, Decoder.elim_kept?_ofText? h.format,
      Decoder.elim_kept?_ofText? h.ref, hitems]

theorem decode_model {m : Model} (h : m.Lossless) : (wire m).isEmpty = false ∧ Decoder.model (wire m) = some m := by
  constructor
  · refine isEmpty_dropEmptyMembers List.mem_cons_self ?_
    rw [kept?_str h.id]
    exact nofun
  · have hnames : ([("id", Json.str m.id), ("required", Json.ofTexts m.required),
        ("properties", treeMembers m.properties)].map Prod.fst).Nodup := by simp
    have hproperties := Decoder.elim_kept?_treeMembers fun p hp => decode_property (h.properties p hp)
    simp [wire, tree, dropEmpty, Decoder.model, Decoder.members, Decoder.required, Decoder.listField,
      Decoder.withDefault_eq, Decoder.field?_dropEmptyMembers hnames, Decoder.bind_kept?_str h.id,
      Decoder.elim_kept?_ofTexts, hproperties]

theorem decode_parameter {p : Parameter} (h : p.Lossless) : Decoder.parameter (wire p) = some p := by
  have hnames : ([("name", Json.str p.name), ("paramType", .str p.paramType), ("type", .str p.type),
      ("dataType", .str p.dataType), ("required", .bool p.required), ("description", .str p.description)].map
      Prod.fst).Nodup := by simp
  simp [wire, tree, dropEmpty, Decoder.parameter, Decoder.members, Decoder.required, Decoder.textField,
    Decoder.withDefault_eq, Decoder.field?_dropEmptyMembers hnames, Decoder.bind_kept?_str h.name,
    Decoder.bind_kept?_str h.paramType, Decoder.bind_kept?_str h.type, Decoder.bind_kept?_str h.dataType,
    Decoder.flag, Decoder.elim_kept?_str]

theorem decode_response {r : Response} (h : r.model ≠ some "") : Decoder.response (wire r) = some r := by
  have hnames : ([("code", Json.int r.code), ("message", .str r.message),
      ("responseModel", ofText? r.model)].map Prod.fst).Nodup := by simp
  simp [wire, tree, dropEmpty, Decoder.response, Decoder.members, Decoder.required, Decoder.textField,
    Decoder.optionalText, Decoder.withDefault_eq, Decoder.field?_dropEmptyMembers hnames, Decoder.integer,
    Decoder.elim_kept?_str, Decoder.elim_kept?_ofText? h]

/-- **Operations** are read back without their models, if they have a method. -/
theorem decode_operation {o : Operation} (hmethod : o.method ≠ "") (h : o.Lossless) :
    Decoder.operation (wire o) = some o.withoutModels := by
  have hnames : ([("httpMethod", Json.str o.method), ("nickname", .str o.nickname), ("type", .str o.type),
      ("items", tree? o.items), ("summary", .str o.summary), ("notes", .str o.notes),
      ("parameters", treeItems o.parameters), ("responseMessages", treeItems o.responses),
      ("consumes", ofTexts o.consumes), ("produces", ofTexts o.produces),
      ("authorizations", .arr (o.authorizations.map .obj)), ("protocols", ofTexts o.protocols),
      ("path", .str o.path)].map Prod.fst).Nodup := by simp
  have hitems := Decoder.elim_kept?_tree? fun i hi => decode_items (h.items i hi)
  have hparameters := Decoder.elim_kept?_treeItems fun p hp => decode_parameter (h.parameters p hp)
  have hresponses := Decoder.elim_kept?_treeItems fun r hr => decode_response (h.responses r hr)
  have hauthorizations : (kept? (.arr (o.authorizations.map .obj))).elim (some []) (Decoder.list Decoder.members)
      = some (o.authorizations.map id) := by
    refine Decoder.elim_kept?_list fun ms hms => ?_
    rw [dropEmpty, h.authorizations ms hms]
    rfl
  rw [List.map_id'] at hparameters hresponses
  rw [List.map_id] at hauthorizations
  -- the steps of the reader stay as they are until all fields are known
  simp only [wire, tree, dropEmpty]
  rw [Decoder.operation, Decoder.members, Option.bind_eq_bind, Option.bind_some]
  simp only [Decoder.textField, Decoder.listField, Decoder.withDefault_eq, Decoder.field?_dropEmptyMembers hnames,
    member?_cons, member?_nil, String.reduceEq, reduceIte, Option.bind_some, Option.bind_none, Option.or_self,
    Option.or_none, Option.elim_none, Decoder.elim_kept?_str, Decoder.elim_kept?_str_of_ne hmethod,
    Decoder.elim_kept?_ofTexts, hitems, hparameters, hresponses, hauthorizations]
  rfl

theorem decode_api {a : Api} (hpath : a.path ≠ "") (h : ∀ o ∈ a.operations, o.method ≠ "" ∧ o.Lossless) :
    Decoder.api (wire a) = some a.withoutModels := by
  have hnames : ([("path", Json.str a.path), ("description", .str a.description),
      ("operations", treeItems a.operations)].map Prod.fst).Nodup := by simp
  have hoperations := Decoder.elim_kept?_treeItems fun o ho => decode_operation (h o ho).1 (h o ho).2
  simp [wire, tree, dropEmpty, Decoder.api, Decoder.members, Decoder.required, Decoder.textField, Decoder.listField,
    Decoder.withDefault_eq, Decoder.field?_dropEmptyMembers hnames, Decoder.bind_kept?_str hpath,
    Decoder.elim_kept?_str, hoperations, Api.withoutModels]

/-- **Documents of resources** are read back, with operations that have no models. -/
theorem decode_declaration {d : Declaration} (h : d.Lossless) :
    Decoder.declaration (wire d) = some d.withoutModels := by
  have hnames : ([("apiVersion", Json.str d.apiVersion), ("swaggerVersion", .str d.swaggerVersion),
      ("basePath", .str d.basePath), ("resourcePath", .str d.resourcePath), ("apis", treeItems d.apis),
      ("models", treeMembers d.models)].map Prod.fst).Nodup := by simp
  have hapis := Decoder.elim_kept?_treeItems fun a ha =>
    decode_api (h.paths a ha) fun o ho => ⟨h.methods a ha o ho, h.operations a ha o ho⟩
  have hmodels := Decoder.elim_kept?_treeMembers fun m hm => decode_model (h.models m hm)
  simp [wire, tree, dropEmpty, Decoder.declaration, Decoder.members, Decoder.required, Decoder.textField,
    Decoder.listField, Decoder.withDefault_eq, Decoder.field?_dropEmptyMembers hnames, Decoder.elim_kept?_str,
    Decoder.elim_kept?_str_of_ne h.swaggerVersion, Decoder.bind_kept?_str h.resourcePath, hapis, hmodels,
    Declaration.withoutModels]

theorem decode_resourceRef {r : ResourceRef} (h : r.path ≠ "") : Decoder.resourceRef (wire r) = some r := by
  have hnames : ([("path", Json.str r.path), ("description", .str r.description)].map Prod.fst).Nodup := by simp
  simp [wire, tree, dropEmpty, Decoder.resourceRef, Decoder.members, Decoder.required, Decoder.textField,
    Decoder.withDefault_eq, Decoder.field?_dropEmptyMembers hnames, Decoder.bind_kept?_str h, Decoder.elim_kept?_str]

/-- **Listings** are read back. -/
theorem decode_listing {l : Listing} (h : l.Lossless) : Decoder.listing (wire l) = some l := by
  have hnames : ([("apiVersion", Json.str l.apiVersion), ("swaggerVersion", .str l.swaggerVersion),
      ("basePath", .str l.basePath), ("apis", treeItems l.apis),
      ("info", .obj (l.info.entries.map fun e => (e.1, .str e.2)))].map Prod.fst).Nodup := by simp
  have hapis := Decoder.elim_kept?_treeItems fun r hr => decode_resourceRef (h.paths r hr)
  have hinfo : (kept? (.obj (l.info.entries.map fun e => (e.1, .str e.2)))).elim (some ∅) (Decoder.map Decoder.text)
      = some l.info := by
    refine Decoder.elim_kept?_map fun v hv => ⟨?_, rfl⟩
    simpa [dropEmpty, isEmpty] using h.info v hv
  rw [List.map_id'] at hapis
  simp [wire, tree, dropEmpty, Decoder.listing, Decoder.members, Decoder.textField, Decoder.listField,
    Decoder.withDefault_eq, Decoder.field?_dropEmptyMembers hnames, Decoder.elim_kept?_str,
    Decoder.elim_kept?_str_of_ne h.swaggerVersion, hapis, hinfo]

end RouteDocs
