/-
What a pass makes loses nothing when it is written.

The models that are recorded, and the operations that are read, say nothing by an empty text: the names of classes are
taken from the table, the types of primitives from a fixed list, and the parts of a parameter from the line. Of an
operation only the method can be empty. So the documents of a pass over classes with names are read back from what is
written of them, but for the models that the operations bring, if its operations have methods.

- `Moves.lossless`: a step of a walk keeps all models lossless.
- `Resolver.Lossless.resolve`: so does a call of a resolver.
- `Draft.Lossless.read`: a line keeps an operation lossless.
- `Generator.lossless_run`: after any batches all operations are lossless.
- `Generator.documents_lossless`: listing and declarations are read back.
-/
import RouteDocs.Proofs.Document.Decoding
import RouteDocs.Proofs.Generation.Agreement
import RouteDocs.Proofs.Generation.SelfContained
import RouteDocs.Proofs.Operation.ParameterPlace
import RouteDocs.Proofs.Schema.ModelShape

namespace RouteDocs

open Schema

/-! ## Models -/

namespace Schema

/-- nothing that is said of a primitive type is empty, and no primitive name is -/
theorem wireType?_nonempty {name : String} {t : WireType} (h : wireType? name = some t) :
    name ≠ "" ∧ t.type ≠ "" ∧ t.format ≠ some "" := by
  have hdistinct : (primitives.map Prod.fst).Nodup := by decide
  have hall : ∀ e ∈ primitives, e.1 ≠ "" ∧ e.2.type ≠ "" ∧ e.2.format ≠ some "" := by decide
  exact hall (name, t) ((OrderedMap.lookup_eq_some hdistinct).1 h)

theorem wireType?_of_primitiveName? {aliases : Aliases} {ref name : String}
    (h : primitiveName? aliases ref = some name) : ∃ t, wireType? name = some t :=
  Option.isSome_iff_exists.1 (List.find?_some (p := fun candidate => (wireType? candidate).isSome) h)

theorem Property.lossless_ofPrimitive {name : String} {t : WireType} (h : wireType? name = some t) (isArray : Bool) :
    (Property.ofPrimitive t isArray).Lossless := by
  obtain ⟨-, htype, hformat⟩ := wireType?_nonempty h
  cases isArray with
  | false =>
    refine ⟨?_, hformat, nofun, nofun, Or.inl nofun⟩
    intro he
    exact htype (Option.some.inj he)
  | true =>
    have harray : (some "array" : Option String) ≠ some "" := by decide
    refine ⟨harray, nofun, nofun, fun i hi => ?_, Or.inl nofun⟩
    obtain rfl := Option.some.inj hi
    refine ⟨nofun, ?_, Or.inr nofun⟩
    intro he
    exact htype (Option.some.inj he)

theorem Property.lossless_ofModel {id : String} (h : id ≠ "") (isArray : Bool) :
    (Property.ofModel id isArray).Lossless := by
  have hid : some id ≠ some "" := fun he => h (Option.some.inj he)
  cases isArray with
  | false => exact ⟨nofun, nofun, hid, nofun, Or.inr nofun⟩
  | true =>
    have harray : (some "array" : Option String) ≠ some "" := by decide
    refine ⟨harray, nofun, nofun, fun i hi => ?_, Or.inl nofun⟩
    obtain rfl := Option.some.inj hi
    exact ⟨hid, nofun, Or.inl nofun⟩

/-- an open class has a name, and its properties lose nothing so far -/
structure Frame.Lossless (f : Frame) : Prop where
  named : f.definition.name ≠ ""
  properties : ∀ p ∈ f.properties.values, p.Lossless

def Cache.Lossless (c : Cache) : Prop := ∀ k m, c.models.get? k = some m → m.Lossless

variable {τ : Type} [TypeLookup τ] {aliases : Aliases}

/-- every class that a table can answer has a name -/
def Named (table : τ) : Prop := ∀ d ∈ TypeLookup.range table, d.name ≠ ""

/-- during a walk the recorded models, and the open classes, lose nothing -/
structure Walk.Lossless (w : Walk τ) : Prop where
  frames : ∀ f ∈ w.frames, f.Lossless
  cache : w.cache.Lossless
  table : Named w.table

theorem Named.ask {table after : τ} {ref package : String} {answer : Option Definition} (h : Named table)
    (asked : TypeLookup.ask table ref package = (answer, after)) : Named after ∧ ∀ d ∈ answer, d.name ≠ "" := by
  have hrange := TypeLookup.range_ask table ref package
  rw [asked] at hrange
  constructor
  · intro d hd
    exact h d (hrange ▸ hd)
  · intro d hd
    have hfound : (TypeLookup.ask table ref package).1 = some d := by
      rw [asked]
      exact hd
    exact h d (TypeLookup.mem_range hfound)

theorem Frame.Lossless.describe {f : Frame} (h : f.Lossless) {p : Property} (hp : p.Lossless) (name : String) :
    (f.describe name p).Lossless := by
  refine ⟨h.named, fun q hq => ?_⟩
  rcases OrderedMap.mem_values_insert hq with rfl | hq
  · exact hp
  · exact h.properties q hq

theorem Frame.Lossless.refer {f : Frame} (h : f.Lossless) {id : String} (hid : id ≠ "") (name : String)
    (isArray : Bool) : (f.refer name id isArray).Lossless :=
  ⟨h.named, (h.describe (Property.lossless_ofModel hid isArray) name).properties⟩

theorem Frame.lossless_start {d : Definition} (h : d.name ≠ "") (fields : List Field) :
    (Frame.start d fields).Lossless :=
  ⟨h, fun p hp => by cases hp⟩

theorem Cache.Lossless.complete {c : Cache} (h : c.Lossless) {f : Frame} (hf : f.Lossless) (references : List String) :
    (c.complete f.model references).Lossless := by
  intro k m hk
  rw [Cache.complete, OrderedMap.get?_insert] at hk
  split at hk
  · obtain rfl := Option.some.inj hk
    exact ⟨hf.named, hf.properties⟩
  · exact h k m hk

/-- **Steps keep models lossless.** A property is that of a primitive type, or refers to a class that has a name. -/
theorem Moves.lossless {w v : Walk τ} (h : Moves aliases w v) (hw : w.Lossless) : v.Lossless := by
  cases h with
  | close todo =>
    obtain ⟨hf, houter⟩ := List.forall_mem_cons.1 hw.frames
    exact ⟨houter, hw.cache.complete hf _, hw.table⟩
  | @primitive f outer c table field rest type isArray todo typed =>
    obtain ⟨hf, houter⟩ := List.forall_mem_cons.1 hw.frames
    obtain ⟨name, hwire⟩ := Field.wireType_of_typeIn typed
    have hproperty := Property.lossless_ofPrimitive hwire isArray
    exact ⟨List.forall_mem_cons.2 ⟨hf.describe hproperty field.name, houter⟩, hw.cache, hw.table⟩
  | @known f outer c table after field rest ref isArray d todo typed asked found =>
    obtain ⟨hf, houter⟩ := List.forall_mem_cons.1 hw.frames
    obtain ⟨hafter, hd⟩ := hw.table.ask asked
    have hrefer := hf.refer (hd d rfl) field.name isArray
    exact ⟨List.forall_mem_cons.2 ⟨hrefer, houter⟩, hw.cache, hafter⟩
  | @opened f outer c table after field rest ref isArray d todo typed asked new =>
    obtain ⟨hf, houter⟩ := List.forall_mem_cons.1 hw.frames
    obtain ⟨hafter, hd⟩ := hw.table.ask asked
    have hrefer := hf.refer (hd d rfl) field.name isArray
    have hstart := Frame.lossless_start (hd d rfl) (fieldsOf after d).1
    refine ⟨List.forall_mem_cons.2 ⟨hstart, List.forall_mem_cons.2 ⟨hrefer, houter⟩⟩, hw.cache, ?_⟩
    rw [Named, range_fieldsOf]
    exact hafter

theorem Walk.lossless_run (aliases : Aliases) {w : Walk τ} (h : w.Lossless) : (w.run aliases).2.Lossless := by
  refine run_invariant (fun w v hm hw => hm.lossless hw) (fun w e v hf hw => ?_) w h
  -- a failing step changes nothing but the table
  cases hf with
  | unresolved todo typed asked => exact ⟨hw.frames, hw.cache, (hw.table.ask asked).1⟩
  | collision todo typed asked found other => exact ⟨hw.frames, hw.cache, (hw.table.ask asked).1⟩

/-- following a reference opens a class with a name, or none -/
theorem lossless_follow {c : Cache} (hc : c.Lossless) {table : τ} (htable : Named table) {ref package : String}
    {e : Entry τ} (h : Follows c table ref package e) : (⟨e.opened, e.cache, e.table⟩ : Walk τ).Lossless := by
  cases h with
  | @opened d after asked new =>
    obtain ⟨hafter, hd⟩ := htable.ask asked
    refine ⟨by simpa using Frame.lossless_start (hd d rfl) _, hc, ?_⟩
    rw [Named, range_fieldsOf]
    exact hafter
  | unresolved asked => exact ⟨by simp, hc, (htable.ask asked).1⟩
  | collision asked found other => exact ⟨by simp, hc, (htable.ask asked).1⟩
  | known asked found => exact ⟨by simp, hc, (htable.ask asked).1⟩

/-- a resolver of classes with names, all of whose models lose nothing -/
structure Resolver.Lossless (r : Resolver τ) : Prop where
  cache : r.cache.Lossless
  table : Named r.table

/-- **Calls keep models lossless**, whatever they come to. -/
theorem Resolver.Lossless.resolve {r : Resolver τ} (h : r.Lossless) (ref package : String) :
    (r.resolve ref package).resolver.Lossless := by
  cases hprim : r.primitiveName? ref with
  | some name =>
    rw [resolve_primitive (Option.isSome_iff_exists.2 ⟨name, hprim⟩)]
    exact h
  | none =>
    have hfollow := lossless_follow h.cache h.table (follows_follow r.cache r.table ref package)
    have hend : (r.walked ref package).Lossless := Walk.lossless_run r.aliases hfollow
    rw [resolve_eq hprim]
    cases r.reached ref package with
    | ok id => exact ⟨hend.cache, hend.table⟩
    | error e =>
      refine ⟨fun k m hk => ?_, hend.table⟩
      have hback : (Cache.rollback r.cache (r.walked ref package).cache).models.get? k = some m := hk
      rw [Cache.rollback, OrderedMap.get?_filterKeys] at hback
      split at hback
      · exact hend.cache k m hback
      · cases hback

end Schema

/-! ## Operations -/

namespace Directive

/-- only a line of that kind describes a parameter, and it does so by five parts that stand on it -/
theorem parts_of_parse {kind : DirectiveKind} {rest : List Char} {name paramType dataType text : String}
    {required : Bool} (h : parse kind rest = .ok (.param name paramType dataType required text)) :
    ∃ p before after, ParamParts.IsFirst p before after rest ∧
      .param name paramType dataType required text = p.directive := by
  cases kind with
  | param =>
    rw [parse, parseParam] at h
    split at h
    · next d hfind =>
      obtain rfl := Except.ok.inj h
      exact ParamParts.isFirst_of_findParam? hfind
    · cases h
  | router =>
    rw [parse, parseRouter.eq_def] at h
    split at h <;> cases h
  | title => cases h
  | description => cases h
  | accept => cases h
  | failure =>
    rw [parse, parseFailure] at h
    split at h
    · cases h
    · next token message _ _ =>
      cases hcode : parseCode token with
      | error fault => rw [hcode] at h; cases h
      | ok code => rw [hcode] at h; cases h
  | success =>
    rw [parse, parseSuccess.eq_def] at h
    split at h
    · cases h
    · next token parts _ =>
      cases hcode : parseCode token with
      | error fault => rw [hcode] at h; cases h
      | ok code =>
        rw [hcode] at h
        simp only [bind, Except.bind, pure, Except.pure] at h
        repeat' split at h
        all_goals cases h

/-- the name, the place and the type of a parameter that is read from a line are not empty -/
theorem nonempty_of_ofLine {raw name paramType dataType text : String} {required : Bool}
    (h : ofLine raw = some (.ok (.param name paramType dataType required text))) :
    name ≠ "" ∧ paramType ≠ "" ∧ dataType ≠ "" := by
  cases hline : dispatch (stripMarker raw.toList) with
  | none => rw [ofLine, hline] at h; cases h
  | some found =>
    obtain ⟨kind, rest⟩ := found
    have hparse : parse kind rest = .ok (.param name paramType dataType required text) := by
      rw [ofLine_eq hline] at h
      have hread := Option.some.inj h
      cases hparsed : parse kind rest with
      | error fault => rw [hparsed] at hread; cases hread
      | ok d => rw [hparsed] at hread; rw [Except.ok.inj hread]
    obtain ⟨p, before, after, hp, hdirective⟩ := parts_of_parse hparse
    cases hdirective
    have hofList {s : List Char} (hs : s ≠ []) : String.ofList s ≠ "" := by simpa using hs
    obtain ⟨hwf, -⟩ := hp.stands
    exact ⟨hofList hwf.name.nonempty, hofList hwf.paramType.nonempty, hofList hwf.dataType.nonempty⟩

end Directive

namespace Operation

theorem lossless_blank : blank.Lossless :=
  ⟨nofun, fun p hp => (by cases hp), fun r hr => (by cases hr), fun ms hms => (by cases hms)⟩

variable {o : Operation}

theorem Lossless.respond (h : o.Lossless) {r : Response} (hr : r.model ≠ some "") : (o.respond r).Lossless := by
  refine ⟨h.items, h.parameters, fun r' hr' => ?_, h.authorizations⟩
  rcases List.mem_append.1 hr' with hr' | hr'
  · exact h.responses r' hr'
  · exact List.mem_singleton.1 hr' ▸ hr

theorem Lossless.answerPrimitive (h : o.Lossless) (isArray : Bool) {name : String} (hname : name ≠ "") :
    (o.answerPrimitive isArray name).Lossless := by
  cases isArray with
  | false => exact ⟨h.items, h.parameters, h.responses, h.authorizations⟩
  | true =>
    refine ⟨fun i hi => ?_, h.parameters, h.responses, h.authorizations⟩
    obtain rfl := Option.some.inj hi
    exact ⟨nofun, fun he => hname (Option.some.inj he), Or.inr nofun⟩

theorem Lossless.answerModel (h : o.Lossless) (isArray : Bool) {id : String} (hid : id ≠ "") :
    (o.answerModel isArray id).Lossless := by
  cases isArray with
  | false => exact ⟨h.items, h.parameters, h.responses, h.authorizations⟩
  | true =>
    refine ⟨fun i hi => ?_, h.parameters, h.responses, h.authorizations⟩
    obtain rfl := Option.some.inj hi
    exact ⟨fun he => hid (Option.some.inj he), nofun, Or.inl nofun⟩

/-- a directive that names no type keeps an operation lossless -/
theorem Lossless.note (h : o.Lossless) {directive : Directive} {raw : String}
    (hline : Directive.ofLine raw = some (.ok directive)) : (o.note directive).Lossless := by
  cases directive with
  | param name paramType dataType required text =>
    obtain ⟨hname, hparamType, hdataType⟩ := Directive.nonempty_of_ofLine hline
    refine ⟨h.items, fun p hp => ?_, h.responses, h.authorizations⟩
    rcases List.mem_append.1 hp with hp | hp
    · exact h.parameters p hp
    · obtain rfl := List.mem_singleton.1 hp
      exact ⟨hname, hparamType, hdataType, hdataType⟩
  | failure code message => exact h.respond nofun
  | successMessage code message => exact h.respond nofun
  | _ => exact ⟨h.items, h.parameters, h.responses, h.authorizations⟩

theorem Lossless.respondPrimitive (h : o.Lossless) (code : Int) (isArray : Bool) {name : String} (hname : name ≠ "") :
    (o.respondPrimitive code isArray name).Lossless :=
  (h.answerPrimitive isArray hname).respond nofun

theorem Lossless.respondModel (h : o.Lossless) (code : Int) (isArray : Bool) {m : Model} (hm : m.Lossless)
    (ms : List Model) : (o.respondModel code isArray m ms).Lossless := by
  have hmodels : ({ o with models := addModels o.models (m :: ms) } : Operation).Lossless :=
    ⟨h.items, h.parameters, h.responses, h.authorizations⟩
  exact (hmodels.answerModel isArray hm.id).respond fun he => hm.id (Option.some.inj he)

end Operation

variable {τ : Type} [TypeLookup τ] {aliases : Aliases}

structure Draft.Lossless (aliases : Aliases) (d : Draft τ) : Prop where
  ready : d.resolver.Ready aliases .empty
  resolver : d.resolver.Lossless
  operation : d.operation.Lossless

/-- **Lines keep an operation lossless**, whether they fail or not. -/
theorem Draft.Lossless.read {d after : Draft τ} {package raw : String} {e : Option CommentError}
    (h : d.Lossless aliases) (hread : d.Reads package raw after e) : after.Lossless aliases := by
  cases hread with
  | prose line => exact h
  | malformed line => exact h
  | directive line applies =>
    cases applies with
    | plain hd log => exact ⟨h.ready, h.resolver, h.operation.note line⟩
    | @primitive code isArray ref name hp log =>
      obtain ⟨t, ht⟩ := wireType?_of_primitiveName? hp
      exact ⟨h.ready, h.resolver, h.operation.respondPrimitive code isArray (wireType?_nonempty ht).1⟩
    | @asked code isArray ref hp log =>
      have hready := h.ready.resolve ref package
      have hresolver := h.resolver.resolve ref package
      have houtcome := d.resolver.resolve_outcome h.ready.sound ref package
      generalize d.resolver.resolve ref package = resolution at hready hresolver houtcome
      cases houtcome with
      | primitive hp' => exact ⟨hready, hresolver, h.operation⟩
      | failed hp' e table completed => exact ⟨hready, hresolver, h.operation⟩
      | @resolved hp' m ms c sound growth closed table completed =>
        have hm : m.Lossless := hresolver.cache m.id m (closed.held m List.mem_cons_self)
        exact ⟨hready, hresolver, h.operation.respondModel code isArray hm ms⟩

/-- an operation that is read from a block loses nothing -/
theorem readComment_lossless {r : Resolver τ} (hready : r.Ready aliases .empty) (hr : r.Lossless)
    {comments : List String} {package : String} {o : Operation}
    (hread : (readComment comments r package).answer = .ok o) : o.Lossless ∧ o.path ≠ "" := by
  obtain ⟨d, hlines, rfl, -, hpath⟩ := readComment_ok hread
  have hblank : (⟨.blank, r, []⟩ : Draft τ).Lossless aliases := ⟨hready, hr, Operation.lossless_blank⟩
  have hend := (Draft.applyLines_keeps package comments (P := fun d : Draft τ => d.Lossless aliases)
    (fun _ _ _ _ _ hd hline => hd.read hline) hblank).1
  rw [hlines] at hend
  refine ⟨hend.operation, ?_⟩
  simpa using hpath

/-! ## Passes -/

namespace Generator

/-- the resolver of a pass has lossless models, and its operations lose nothing -/
structure Lossless (g : Generator τ) : Prop where
  resolver : g.resolver.Lossless
  operations : ∀ o ∈ g.operations, o.Lossless ∧ o.path ≠ ""

theorem Handles.lossless {g g' : Generator τ} {c : Candidate} {e : Option GenerationError} (h : g.Handles c g' e)
    (hinv : g.Inv aliases) (hg : g.Lossless) : g'.Lossless := by
  have hresolver : (g.reading c).resolver.Lossless :=
    readComment_resolver (fun _ ref package hr => hr.resolve ref package) c.comments g.resolver _ hg.resolver
  cases h with
  | skipped answer undocumented log => exact ⟨hresolver, hg.operations⟩
  | failed answer documented log => exact ⟨hresolver, hg.operations⟩
  | added answer log =>
    refine ⟨hresolver, fun o ho => ?_⟩
    rcases List.mem_append.1 ho with ho | ho
    · exact hg.operations o ho
    · obtain rfl := List.mem_singleton.1 ho
      exact readComment_lossless hinv.ready hg.resolver answer

/-- **Operations of a pass lose nothing**, after any batches, if the classes have names. -/
theorem lossless_run {table : τ} (hnamed : Named table) (aliases : Aliases) (info : ApiInfo) (basePath : String)
    (isHandler : Signature → Bool) (batches : List (List Candidate)) :
    ((new table aliases info basePath).run isHandler batches).Lossless := by
  have hstart : (new table aliases info basePath).Lossless :=
    ⟨⟨fun k m hk => (by cases hk), hnamed⟩, fun o ho => (by cases ho)⟩
  exact (run_induction isHandler batches (inv_new table aliases info basePath) hstart
    (fun _ _ _ _ _ _ hinv hP hhandles => hhandles.lossless hinv hP) fun _ _ hP => ⟨hP.resolver, hP.operations⟩).2

/-- the declarations of a pass lose nothing but the models of operations, if these have methods -/
theorem Inv.lossless_declaration {g : Generator τ} (hinv : g.Inv aliases) (hgathers : g.builder.Gathers g.operations)
    (hg : g.Lossless) (hmethods : ∀ o ∈ g.operations, o.method ≠ "") {key : String} {d : Declaration}
    (h : g.builder.declaration key = .ok d) : d.Lossless := by
  have hmem {a : Api} (ha : a ∈ d.apis) {o : Operation} (ho : o ∈ a.operations) : o ∈ g.operations := by
    have hin := Builder.mem_operationsOf h ha ho
    rw [hgathers.grouped] at hin
    exact (List.mem_filter.1 hin).1
  have hpaths : ∀ a ∈ d.apis, a.path ≠ "" := by
    intro a ha
    rw [Builder.declaration_eq h, Builder.declarationOf] at ha
    obtain ⟨e, he, rfl⟩ := List.mem_map.1 ha
    rw [Builder.entries_groupByPath] at he
    obtain ⟨path, hpath, rfl⟩ := List.mem_map.1 he
    obtain ⟨o, ho, rfl⟩ := List.mem_map.1 (List.mem_eraseDups.1 hpath)
    rw [hgathers.grouped] at ho
    exact (hg.operations o (List.mem_filter.1 ho).1).2
  have hresource : d.resourcePath = "/" ++ key := by
    rw [Builder.declaration_eq h]
    rfl
  have hversion : d.swaggerVersion = swaggerVersion := by
    rw [Builder.declaration_eq h]
    rfl
  refine ⟨?_, ?_, hpaths, fun a ha o ho => hmethods o (hmem ha ho), fun a ha o ho => (hg.operations o (hmem ha ho)).1,
    fun m hm => ?_⟩
  · rw [hversion]
    decide
  · rw [hresource]
    simp
  · obtain ⟨id, hid⟩ := OrderedMap.mem_values.1 hm
    rw [Builder.get?_models h] at hid
    exact hg.resolver.cache id m (hinv.builder.held key id m hid).2

end Generator

/-- nothing that the listing repeats of the general information is empty -/
theorem Builder.nonempty_listedInfo {info : ApiInfo} {v : String} (h : v ∈ (listedInfo info).values) : v ≠ "" := by
  have hdistinct : ([("title", info.title), ("description", info.description), ("contact", info.contact),
      ("termsOfServiceUrl", info.termsOfServiceUrl), ("license", info.license),
      ("licenseUrl", info.licenseUrl)].map Prod.fst).Nodup := by simp
  rw [OrderedMap.values, listedInfo, OrderedMap.entries_ofList (OrderedMap.nodup_filter _ _ hdistinct)] at h
  obtain ⟨e, he, rfl⟩ := List.mem_map.1 h
  have hfull := (List.mem_filter.1 he).2
  simpa using hfull

theorem Builder.lossless_listing (b : Builder) : b.listing.Lossless := by
  have hversion : swaggerVersion ≠ "" := by decide
  refine ⟨hversion, fun r hr => ?_, fun v hv => nonempty_listedInfo hv⟩
  obtain ⟨e, -, rfl⟩ := List.mem_map.1 hr
  simp

/-- the documents of all resources are those that can be asked for one by one -/
theorem Builder.declaration_of_mem_values {b : Builder} {d : Declaration} (h : d ∈ b.declarations.values) :
    ∃ key, b.declaration key = .ok d := by
  obtain ⟨key, hget⟩ := OrderedMap.mem_values.1 h
  have hkey : key ∈ b.resources := by
    rw [← keys_declarations, OrderedMap.mem_keys]
    exact OrderedMap.contains_of_get? hget
  rw [get?_declarations b hkey] at hget
  refine ⟨key, ?_⟩
  rw [declaration_of_mem ((b.mem_resources key).1 hkey), Option.some.inj hget]

namespace Generator

/-- **Nothing is lost.** After any batches of a pass over classes with names, all of whose operations have methods: the
listing is read back from what is written of it, and so is every declaration, but for the models of its operations. -/
theorem documents_lossless (table : τ) (aliases : Aliases) (info : ApiInfo) (basePath : String)
    (isHandler : Signature → Bool) (batches : List (List Candidate))
    (hnamed : ∀ d ∈ TypeLookup.range table, d.name ≠ "")
    (hmethods : ∀ o ∈ ((new table aliases info basePath).run isHandler batches).operations, o.method ≠ "") :
    let b := ((new table aliases info basePath).run isHandler batches).builder
    Decoder.listing (wire b.listing) = some b.listing ∧
      (∀ key d, b.declaration key = .ok d → Decoder.declaration (wire d) = some d.withoutModels) ∧
      ∀ d ∈ b.declarations.values, Decoder.declaration (wire d) = some d.withoutModels := by
  intro b
  obtain ⟨hinv, hgathers⟩ := gathers_run isHandler table aliases info basePath batches
  have hlossless := lossless_run hnamed aliases info basePath isHandler batches
  have hdeclaration : ∀ key d, b.declaration key = .ok d → Decoder.declaration (wire d) = some d.withoutModels := by
    intro key d h
    exact decode_declaration (hinv.lossless_declaration hgathers hlossless hmethods h)
  refine ⟨decode_listing b.lossless_listing, hdeclaration, fun d hd => ?_⟩
  obtain ⟨key, h⟩ := Builder.declaration_of_mem_values hd
  exact hdeclaration key d h

/-- a function with a response of code zero and a parameter that is not required -/
def listPets : Candidate :=
  petHandler "list"
    ["# @Success 0 \x7barray\x7d Pet", "# @Param tag query list[str] false \"a tag\"", "# @router /pets"]

def petsOperation : Operation where
  type := "array"
  items := some ⟨some "Pet", none⟩
  parameters := [⟨"tag", "query", "list[str]", "list[str]", false, "a tag"⟩]
  responses := [⟨0, "", some "Pet"⟩]
  path := "/pets"
  models := [⟨"Pet", [], .ofList [("parent", .model "Pet")]⟩]

theorem documents_lossless_pets : ∃ d,
    ((new petClasses ∅ .blank "").run (fun _ => true) [[listPets]]).builder.declaration "pets" = .ok d ∧
      (d.models.contains "Pet", d.apis) = (true, [⟨"/pets", "", [petsOperation]⟩]) ∧
      Decoder.declaration (wire d) = some d.withoutModels := by
  have hnamed : ∀ d ∈ TypeLookup.range petClasses, d.name ≠ "" := by decide
  have hmethods : ∀ o ∈ ((new petClasses ∅ .blank "").run (fun _ => true) [[listPets]]).operations,
    o.method ≠ "" := by
    decide +kernel
  have hmade : (((new petClasses ∅ .blank "").run (fun _ => true) [[listPets]]).builder.declaration "pets").map
      (fun d => (d.models.contains "Pet", d.apis)) = .ok (true, [⟨"/pets", "", [petsOperation]⟩]) := by
    decide +kernel
  cases h : ((new petClasses ∅ .blank "").run (fun _ => true) [[listPets]]).builder.declaration "pets" with
  | error e => rw [h] at hmade; cases hmade
  | ok d =>
    rw [h] at hmade
    have hread :=
      (documents_lossless petClasses ∅ .blank "" (fun _ => true) [[listPets]] hnamed hmethods).2.1 "pets" d
    exact ⟨d, rfl, Except.ok.inj hmade, hread h⟩

end Generator

end RouteDocs
