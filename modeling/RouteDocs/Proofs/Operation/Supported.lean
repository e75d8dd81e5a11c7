/-
The models of an operation are all that it refers to.

An operation is `Supported` by a cache if its models are held there, refer to one another only, and include every model
that its responses and its items name. The last line of a block that names a type decides the type of the operation
(`lastTyped?`); if that line names one object, and not a primitive, the type is the name of a model too.

- `readComment_supported`: every operation that is read from a block is supported by the resolver afterwards.
-/
import RouteDocs.Proofs.Operation.Directives
import RouteDocs.Proofs.Schema.Resolution

namespace RouteDocs

open Schema

/-- a model of the name is among some models -/
def Names (ms : List Model) (id : String) : Prop := ∃ m ∈ ms, m.id = id

/-! ## Lists of models -/

theorem names_of_any_agrees {ms : List Model} {m : Model} (h : ms.any (·.agrees m) = true) : Names ms m.id := by
  obtain ⟨n, hn, hagrees⟩ := List.any_eq_true.1 h
  simp only [Model.agrees, Bool.and_eq_true, beq_iff_eq] at hagrees
  exact ⟨n, hn, hagrees.1.1⟩

/-- adding models keeps the old ones, takes in no others than the new ones, and leaves a model of each name -/
theorem addModels_spec (known ms : List Model) :
    (∀ m ∈ known, m ∈ addModels known ms) ∧ (∀ m ∈ addModels known ms, m ∈ known ∨ m ∈ ms) ∧
      ∀ m ∈ ms, Names (addModels known ms) m.id := by
  unfold addModels
  induction ms generalizing known with
  | nil => exact ⟨fun m hm => hm, fun m hm => Or.inl hm, fun m hm => nomatch hm⟩
  | cons n rest ih =>
    rw [List.foldl_cons]
    split
    · next hagrees =>
      obtain ⟨hold, hnew, hnames⟩ := ih known
      refine ⟨hold, fun m hm => (hnew m hm).imp_right (List.mem_cons_of_mem _), fun m hm => ?_⟩
      rcases List.mem_cons.1 hm with rfl | hm
      · obtain ⟨k, hk, hid⟩ := names_of_any_agrees hagrees
        exact ⟨k, hold k hk, hid⟩
      · exact hnames m hm
    · obtain ⟨hold, hnew, hnames⟩ := ih (known ++ [n])
      refine ⟨fun m hm => hold m (List.mem_append_left _ hm), fun m hm => ?_, fun m hm => ?_⟩
      · rcases hnew m hm with hm | hm
        · rcases List.mem_append.1 hm with hm | hm
          · exact Or.inl hm
          · exact Or.inr (List.mem_singleton.1 hm ▸ List.mem_cons_self)
        · exact Or.inr (List.mem_cons_of_mem _ hm)
      · rcases List.mem_cons.1 hm with rfl | hm
        · exact ⟨m, hold m (List.mem_append_right _ List.mem_cons_self), rfl⟩
        · exact hnames m hm

theorem Names.addModels {known : List Model} {id : String} (h : Names known id) (ms : List Model) :
    Names (addModels known ms) id :=
  h.imp fun m hm => ⟨(addModels_spec known ms).1 m hm.1, hm.2⟩

theorem closedModels_addModels {c : Cache} {known ms : List Model} (hk : c.ClosedModels known)
    (hm : c.ClosedModels ms) : c.ClosedModels (addModels known ms) := by
  obtain ⟨hold, hnew, hnames⟩ := addModels_spec known ms
  refine ⟨fun m hmem => (hnew m hmem).elim (hk.held m) (hm.held m), fun m hmem t ht => ?_⟩
  rcases hnew m hmem with hmem | hmem
  · obtain ⟨n, hn, rfl⟩ := hk.closed m hmem t ht
    exact ⟨n, hold n hn, rfl⟩
  · obtain ⟨n, hn, rfl⟩ := hm.closed m hmem t ht
    exact hnames n hn

/-! ## Operations -/

/-- the models of an operation are held by a cache, and they are all that it refers to -/
structure Operation.Supported (c : Cache) (o : Operation) : Prop where
  models : c.ClosedModels o.models
  responses : ∀ r ∈ o.responses, ∀ id, r.model = some id → Names o.models id
  items : ∀ i, o.items = some i → ∀ id, i.ref = some id → Names o.models id

namespace Operation

variable {c : Cache} {o : Operation}

theorem supported_blank (c : Cache) : blank.Supported c := by
  constructor
  · exact ⟨fun m hm => (by cases hm), fun m hm => (by cases hm)⟩
  · intro r hr
    cases hr
  · intro i hi
    cases hi

theorem Supported.mono {b : Cache} (h : o.Supported b) (hext : b.Extends c) : o.Supported c :=
  ⟨h.models.mono hext, h.responses, h.items⟩

/-- a directive that names no type leaves the models, the type and the items alone -/
theorem note_frame (o : Operation) (directive : Directive) :
    (o.note directive).models = o.models ∧ (o.note directive).type = o.type ∧ (o.note directive).items = o.items ∧
      ∀ r ∈ (o.note directive).responses, r ∈ o.responses ∨ r.model = none := by
  have hsame : ∀ r ∈ o.responses, r ∈ o.responses ∨ r.model = none := fun r hr => Or.inl hr
  have hrespond (code : Int) (message : String) :
      ∀ r ∈ (o.respond ⟨code, message, none⟩).responses, r ∈ o.responses ∨ r.model = none := by
    intro r hr
    rcases List.mem_append.1 hr with hr | hr
    · exact Or.inl hr
    · exact Or.inr (List.mem_singleton.1 hr ▸ rfl)
  cases directive with
  | failure code message => exact ⟨rfl, rfl, rfl, hrespond code message⟩
  | successMessage code message => exact ⟨rfl, rfl, rfl, hrespond code message⟩
  | _ => exact ⟨rfl, rfl, rfl, hsame⟩

theorem Supported.note (h : o.Supported c) (directive : Directive) : (o.note directive).Supported c := by
  obtain ⟨hmodels, -, hitems, hresponses⟩ := o.note_frame directive
  refine ⟨hmodels ▸ h.models, fun r hr id hid => ?_, fun i hi id hid => ?_⟩
  · rcases hresponses r hr with hr | hr
    · exact hmodels ▸ h.responses r hr id hid
    · rw [hr] at hid
      cases hid
  · exact hmodels ▸ h.items i (hitems ▸ hi) id hid

theorem Supported.respondPrimitive (h : o.Supported c) (code : Int) (isArray : Bool) (name : String) :
    (o.respondPrimitive code isArray name).Supported c := by
  have hmodels : (o.respondPrimitive code isArray name).models = o.models := by cases isArray <;> rfl
  refine ⟨hmodels ▸ h.models, fun r hr id hid => ?_, fun i hi id hid => ?_⟩
  · rcases List.mem_append.1 hr with hr | hr
    · have hr' : r ∈ o.responses := by cases isArray <;> exact hr
      exact hmodels ▸ h.responses r hr' id hid
    · rw [List.mem_singleton.1 hr] at hid
      cases hid
  · cases isArray with
    | true =>
      obtain rfl := Option.some.inj hi
      cases hid
    | false => exact h.items i hi id hid

theorem Supported.respondModel (h : o.Supported c) (code : Int) (isArray : Bool) {m : Model} {ms : List Model}
    (hms : c.ClosedModels (m :: ms)) : (o.respondModel code isArray m ms).Supported c := by
  have hmodels : (o.respondModel code isArray m ms).models = addModels o.models (m :: ms) := by cases isArray <;> rfl
  have hm : Names (addModels o.models (m :: ms)) m.id := (addModels_spec _ _).2.2 m List.mem_cons_self
  refine ⟨hmodels ▸ closedModels_addModels h.models hms, fun r hr id hid => ?_, fun i hi id hid => ?_⟩
  · rw [hmodels]
    rcases List.mem_append.1 hr with hr | hr
    · have hr' : r ∈ o.responses := by cases isArray <;> exact hr
      exact (h.responses r hr' id hid).addModels _
    · rw [List.mem_singleton.1 hr] at hid
      obtain rfl := Option.some.inj hid
      exact hm
  · rw [hmodels]
    cases isArray with
    | true =>
      obtain rfl := Option.some.inj hi
      obtain rfl := Option.some.inj hid
      exact hm
    | false => exact (h.items i hi id hid).addModels _

end Operation

/-! ## Blocks -/

/-- the type that a comment line names for a response, and whether it is that of an array -/
def typedLine? (raw : String) : Option (Bool × String) :=
  match Directive.ofLine raw with
  | some (.ok directive) => directive.typed?
  | _ => none

/-- the last type that comment lines name for a response -/
def lastTyped? (lines : List String) : Option (Bool × String) := (lines.filterMap typedLine?).getLast?

theorem lastTyped?_concat (lines : List String) (raw : String) :
    lastTyped? (lines ++ [raw]) = (typedLine? raw).or (lastTyped? lines) := by
  rw [lastTyped?, List.filterMap_append, List.filterMap_cons, List.filterMap_nil]
  cases typedLine? raw with
  | none => rw [List.append_nil]; rfl
  | some t => rw [List.getLast?_concat]; rfl

/-- the last type that lines name is that of one object, and not a primitive -/
def EndsInObject (aliases : Aliases) (lines : List String) : Prop :=
  ∃ ref, lastTyped? lines = some (false, ref) ∧ primitiveName? aliases ref = none

variable {τ : Type} [TypeLookup τ] {aliases : Aliases}

/-- a draft whose operation is supported, after some lines -/
structure Draft.Supported (aliases : Aliases) (b : Cache) (lines : List String) (d : Draft τ) : Prop where
  ready : d.resolver.Ready aliases b
  operation : d.operation.Supported d.resolver.cache
  typed : EndsInObject aliases lines → Names d.operation.models d.operation.type

theorem Draft.Supported.read {b : Cache} {lines : List String} {d after : Draft τ} {package raw : String}
    {e : Option CommentError} (h : d.Supported aliases b lines) (hread : d.Reads package raw after e) (he : e = none) :
    after.Supported aliases b (lines ++ [raw]) := by
  -- a line that names no type leaves the last type as it was
  have huntyped (hline : typedLine? raw = none) (hends : EndsInObject aliases (lines ++ [raw])) :
      EndsInObject aliases lines := by
    obtain ⟨ref, hlast, hp⟩ := hends
    rw [lastTyped?_concat, hline, Option.none_or] at hlast
    exact ⟨ref, hlast, hp⟩
  cases hread with
  | prose line => exact ⟨h.ready, h.operation, fun hends => h.typed (huntyped (by rw [typedLine?, line]) hends)⟩
  | malformed line => cases he
  | @directive directive after e line applies =>
    have hline : typedLine? raw = directive.typed? := by rw [typedLine?, line]
    cases applies with
    | plain hd log =>
      obtain ⟨hmodels, htype, -, -⟩ := d.operation.note_frame directive
      refine ⟨h.ready, h.operation.note directive, fun hends => ?_⟩
      dsimp only
      rw [hmodels, htype]
      exact h.typed (huntyped (hline.trans hd) hends)
    | @primitive code isArray ref name hp log =>
      refine ⟨h.ready, h.operation.respondPrimitive code isArray name, fun ⟨ref', hlast, hp'⟩ => ?_⟩
      -- the last type is a primitive
      rw [lastTyped?_concat, hline] at hlast
      obtain ⟨-, rfl⟩ := Prod.mk.inj (Option.some.inj hlast)
      rw [Resolver.primitiveName?, h.ready.aliases, hp'] at hp
      cases hp
    | @asked code isArray ref hp log =>
      have hready := h.ready.resolve ref package
      have houtcome := d.resolver.resolve_outcome h.ready.sound ref package
      generalize d.resolver.resolve ref package = resolution at hready houtcome he
      cases houtcome with
      | primitive hp' => cases he
      | failed hp' e table completed => cases he
      | resolved hp' sound growth closed table completed =>
        refine ⟨hready, (h.operation.mono growth).respondModel code isArray closed, fun ⟨ref', hlast, _⟩ => ?_⟩
        rw [lastTyped?_concat, hline] at hlast
        obtain ⟨rfl, -⟩ := Prod.mk.inj (Option.some.inj hlast)
        exact (addModels_spec _ _).2.2 _ List.mem_cons_self

/-- **Operations bring their models.** An operation that is read from a block is supported by the resolver afterwards;
if the block ends in an object, the type of the operation is one of its models. -/
theorem readComment_supported {b : Cache} {r : Resolver τ} (h : r.Ready aliases b) {comments : List String}
    {package : String} {o : Operation} (hread : (readComment comments r package).answer = .ok o) :
    o.Supported (readComment comments r package).resolver.cache ∧
      (EndsInObject aliases comments → Names o.models o.type) ∧ o.path.isEmpty = false := by
  obtain ⟨d, hlines, rfl, hresolver, hpath⟩ := readComment_ok hread
  have hblank : (⟨.blank, r, []⟩ : Draft τ).Supported aliases b [] :=
    ⟨h, Operation.supported_blank _, fun ⟨_, hlast, _⟩ => (by cases hlast)⟩
  have hend := Draft.applyLines_induction (P := fun lines (d : Draft τ) => d.Supported aliases b lines)
    (fun _ _ _ _ hd hline => hd.read hline rfl) hblank hlines
  rw [List.nil_append] at hend
  exact ⟨hresolver ▸ hend.operation, hend.typed, hpath⟩

end RouteDocs
