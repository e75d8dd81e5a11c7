/-
Every declaration brings all models that it refers to.

This holds for any table of definitions, however its answers change, and for any batches, also when some of them ended
in a failure midway.

- `Generator.declaration_selfContained`: the models that responses, items and properties name are models of the
  declaration, and so is the type of an operation whose block ends in an object.
-/
import RouteDocs.Proofs.Generation.Pass

namespace RouteDocs

open Schema

/-- all models that a declaration refers to are its own, each under its name -/
structure Declaration.SelfContained (d : Declaration) : Prop where
  named : ∀ key m, d.models.get? key = some m → m.id = key
  responses : ∀ api ∈ d.apis, ∀ o ∈ api.operations, ∀ r ∈ o.responses, ∀ id, r.model = some id →
    d.models.contains id = true
  items : ∀ api ∈ d.apis, ∀ o ∈ api.operations, ∀ i, o.items = some i → ∀ id, i.ref = some id →
    d.models.contains id = true
  properties : ∀ key m, d.models.get? key = some m → ∀ id, m.RefersTo id → d.models.contains id = true

/-- reading the comments of a candidate gives the operation, for some state of the resolver between two calls -/
def Candidate.Documents (τ : Type) [TypeLookup τ] (aliases : Aliases) (c : Candidate) (o : Operation) : Prop :=
  ∃ r : Resolver τ, r.Ready aliases .empty ∧ (readComment c.comments r c.signature.module).answer = .ok o

namespace Builder

variable {c : Cache} {b : Builder} {key : String} {d : Declaration}

theorem declaration_eq (h : b.declaration key = .ok d) :
    d = b.declarationOf key (b.operationsOf key) (b.registryOf key) := by
  unfold declaration at h
  unfold operationsOf
  split at h
  · cases h
  · next operations hoperations =>
    rw [hoperations]
    exact (Except.ok.inj h).symm

/-- the operations of a declaration are those of the resource -/
theorem mem_operationsOf (h : b.declaration key = .ok d) {api : Api} (hapi : api ∈ d.apis) {o : Operation}
    (ho : o ∈ api.operations) : o ∈ b.operationsOf key := by
  rw [declaration_eq h] at hapi
  obtain ⟨e, he, rfl⟩ := List.mem_map.1 hapi
  exact (grouped_groupByPath _ e.1 e.2 (OrderedMap.get?_eq_some.2 he) o ho).1

/-- the models of a declaration are those that are registered with the resource -/
theorem get?_models (h : b.declaration key = .ok d) (id : String) :
    d.models.get? id = (b.registryOf key).models.get? id := by
  rw [declaration_eq h]
  exact OrderedMap.get?_sortKeys _ _ _

theorem contains_models (h : b.declaration key = .ok d) (id : String) :
    d.models.contains id = (b.registryOf key).models.contains id := by
  rw [OrderedMap.contains, get?_models h, OrderedMap.contains]

theorem SelfContained.contains (hb : b.SelfContained c) (h : b.declaration key = .ok d) {o : Operation}
    (ho : o ∈ b.operationsOf key) {id : String} (hid : Names o.models id) : d.models.contains id = true := by
  obtain ⟨m, hm, rfl⟩ := hid
  rw [contains_models h]
  exact hb.registered key o ho m hm

theorem SelfContained.declaration (hb : b.SelfContained c) (h : b.declaration key = .ok d) : d.SelfContained := by
  refine ⟨fun k m hk => ?_, fun api hapi o ho r hr id hid => ?_, fun api hapi o ho i hi id hid => ?_,
    fun k m hk id hid => ?_⟩
  · rw [get?_models h] at hk
    exact (hb.held key k m hk).1
  · have hin := mem_operationsOf h hapi ho
    exact hb.contains h hin ((hb.supported key o hin).responses r hr id hid)
  · have hin := mem_operationsOf h hapi ho
    exact hb.contains h hin ((hb.supported key o hin).items i hi id hid)
  · rw [get?_models h] at hk
    rw [contains_models h]
    exact hb.closed key k m hk id hid

end Builder

variable {τ : Type} [TypeLookup τ]

namespace Generator

/-- every operation of a resource was read from one of some candidates -/
def ReadFrom (aliases : Aliases) (candidates : Candidate → Prop) (g : Generator τ) : Prop :=
  ∀ key, ∀ o ∈ g.builder.operationsOf key, ∃ c, candidates c ∧ c.Documents τ aliases o

theorem Handles.readFrom {aliases : Aliases} {candidates : Candidate → Prop} {g g' : Generator τ} {c : Candidate}
    {e : Option GenerationError} (h : g.Handles c g' e) (hc : candidates c) (hg : g.Inv aliases)
    (hread : g.ReadFrom aliases candidates) : g'.ReadFrom aliases candidates := by
  cases h with
  | skipped answer undocumented log => exact hread
  | failed answer documented log => exact hread
  | added answer log =>
    intro key o ho
    obtain ⟨-, -, hpath⟩ := readComment_supported ⟨hg.ready.aliases, hg.ready.sound, .refl _⟩ answer
    rw [Builder.operationsOf_add _ hpath] at ho
    rcases List.mem_append.1 ho with ho | ho
    · exact hread key o ho
    · split at ho
      · exact ⟨c, hc, g.resolver, hg.ready, List.mem_singleton.1 ho ▸ answer⟩
      · cases ho

/-- **Self-contained declarations.** After any batches, in every declaration that can be made: what responses, items and
properties refer to are models of the declaration, each under its name. Every operation was read from a candidate that
the predicate selects, and if the block of a candidate that documents it ends in an object, its type is the name of a
model of the declaration too. -/
theorem declaration_selfContained (table : τ) (aliases : Aliases) (info : ApiInfo) (basePath : String)
    (isHandler : Signature → Bool) (batches : List (List Candidate)) (key : String) (d : Declaration)
    (h : ((new table aliases info basePath).run isHandler batches).builder.declaration key = .ok d) :
    d.SelfContained ∧ ∀ api ∈ d.apis, ∀ o ∈ api.operations,
      (∃ c, (c ∈ batches.flatten ∧ isHandler c.signature = true) ∧ c.Documents τ aliases o) ∧
      ∀ c : Candidate, c.Documents τ aliases o → EndsInObject aliases c.comments →
        d.models.contains o.type = true := by
  obtain ⟨hinv, hread⟩ := run_induction isHandler batches
    (P := ReadFrom aliases fun c => c ∈ batches.flatten ∧ isHandler c.signature = true)
    (inv_new table aliases info basePath) (fun _ _ ho => (by cases ho))
    (fun _ _ _ _ hc hhandler hg hP hhandles => hhandles.readFrom ⟨hc, hhandler⟩ hg hP) fun _ _ hP => hP
  refine ⟨hinv.builder.declaration h, fun api hapi o ho => ?_⟩
  have hin := Builder.mem_operationsOf h hapi ho
  refine ⟨hread key o hin, fun c ⟨r, hr, hdocuments⟩ hends => ?_⟩
  exact hinv.builder.contains h hin ((readComment_supported hr hdocuments).2.1 hends)

/-- a function that answers with a class that does not exist -/
def brokenPet : Candidate := petHandler "broken" ["# @Success 200 \x7bobject\x7d Nobody", "# @router /pets"]

/-- a table that knows the class only from the second question on -/
def latePets : GrowingTable := ⟨.empty, petClasses.definitions⟩

/-- The first of the batches has ended in a failure: after an operation was added, or because the class comes late. -/
theorem declaration_selfContained_raised :
    (∃ d, ((new petClasses ∅ .blank "").run (fun _ => true)
          [[showPet, brokenPet], [showPet]]).builder.declaration "pets" = .ok d ∧
        d.models.contains "Pet" = true ∧ d.SelfContained) ∧
      ∃ d, ((new latePets ∅ .blank "").run (fun _ => true)
          [[showPet], [showPet]]).builder.declaration "pets" = .ok d ∧
        ((new latePets ∅ .blank "").generate (fun _ => true) [showPet]).2.isOk = false ∧
        d.models.contains "Pet" = true ∧ d.SelfContained := by
  constructor
  · have hmade : ((((new petClasses ∅ .blank "").run (fun _ => true)
        [[showPet, brokenPet], [showPet]]).builder.declaration "pets").map (·.models.contains "Pet")) = .ok true := by
      decide +kernel
    cases h : ((new petClasses ∅ .blank "").run (fun _ => true)
        [[showPet, brokenPet], [showPet]]).builder.declaration "pets" with
    | error e => rw [h] at hmade; cases hmade
    | ok d =>
      rw [h] at hmade
      exact ⟨d, rfl, Except.ok.inj hmade, (declaration_selfContained _ _ _ _ _ _ _ _ h).1⟩
  · have hmade : ((((new latePets ∅ .blank "").run (fun _ => true)
        [[showPet], [showPet]]).builder.declaration "pets").map (·.models.contains "Pet")) = .ok true := by
      decide +kernel
    cases h : ((new latePets ∅ .blank "").run (fun _ => true) [[showPet], [showPet]]).builder.declaration "pets" with
    | error e => rw [h] at hmade; cases hmade
    | ok d =>
      rw [h] at hmade
      exact ⟨d, rfl, by decide +kernel, Except.ok.inj hmade, (declaration_selfContained _ _ _ _ _ _ _ _ h).1⟩

end Generator

end RouteDocs
