/-
What a generation pass does with a candidate.

The operations of a pass bring their models, and all models come from one cache, so an operation is never refused by the
builder: a candidate is skipped, ends the pass by its comments alone, or is added.

- `Generator.handles_addHandler`: the three cases.
- `Generator.run_induction`: what every candidate that is read keeps holds after any number of batches, also when some
  of them ended in a failure.
-/
import RouteDocs.Generation
import RouteDocs.Proofs.Document.Builder

namespace RouteDocs

open Schema

variable {τ : Type} [TypeLookup τ] {aliases : Aliases}

/-- why reading the comments of a candidate ends a pass, if it does -/
def Candidate.failure? (c : Candidate) : Except CommentError Operation → Option GenerationError
  | .ok _ => none
  | .error e => if e.isUndocumented then none else some ⟨c.signature.fullName, .comment e⟩

theorem Candidate.failure?_eq_none_iff {c : Candidate} {answer : Except CommentError Operation} :
    c.failure? answer = none ↔ ∀ e, answer = .error e → e.isUndocumented = true := by
  cases answer with
  | ok o => exact ⟨fun _ e he => (by cases he), fun _ => rfl⟩
  | error e => simp [failure?]

namespace Generator

/-- the outcome of reading the comments of a candidate -/
def reading (g : Generator τ) (c : Candidate) : Reading τ := readComment c.comments g.resolver c.signature.module

/-- the resolver is as between two calls, and what the resources refer to is registered -/
structure Inv (aliases : Aliases) (g : Generator τ) : Prop where
  ready : g.resolver.Ready aliases .empty
  builder : g.builder.SelfContained g.resolver.cache

/-- what reading a candidate comes to -/
inductive Handles (g : Generator τ) (c : Candidate) : Generator τ → Option GenerationError → Prop
  | skipped {e : CommentError} (answer : (g.reading c).answer = .error e) (undocumented : e.isUndocumented = true)
    (log : List Event) :
    Handles g c
      { g with resolver := (g.reading c).resolver, skipped := g.skipped ++ [c.signature.fullName], log := log } none
  | failed {e : CommentError} (answer : (g.reading c).answer = .error e) (documented : e.isUndocumented = false)
    (log : List Event) :
    Handles g c { g with resolver := (g.reading c).resolver, log := log } (some ⟨c.signature.fullName, .comment e⟩)
  | added {o : Operation} (answer : (g.reading c).answer = .ok o) (log : List Event) :
    Handles g c
      { g with
        resolver := (g.reading c).resolver
        builder := (g.builder.add o).1
        operations := g.operations ++ [o]
        log := log } none

omit [TypeLookup τ] in
theorem inv_new (table : τ) (aliases : Aliases) (info : ApiInfo) (basePath : String) :
    (new table aliases info basePath).Inv aliases :=
  ⟨⟨rfl, Cache.sound_empty, .refl _⟩, Builder.selfContained_new _ info basePath⟩

/-- the resolver after a candidate has been read -/
theorem Inv.reading {g : Generator τ} (h : g.Inv aliases) (c : Candidate) :
    (g.reading c).resolver.Ready aliases g.resolver.cache :=
  readComment_resolver (fun _ ref package hr => hr.resolve ref package) c.comments g.resolver _
    ⟨h.ready.aliases, h.ready.sound, .refl _⟩

/-- **Cases of a candidate.** A candidate is skipped, ends the pass by its comments, or is added with its models. -/
theorem handles_addHandler {g : Generator τ} (h : g.Inv aliases) (c : Candidate) :
    g.Handles c (g.addHandler c).1 (g.addHandler c).2 := by
  have hready := h.reading c
  unfold addHandler
  dsimp only
  split
  · next e answer =>
    unfold refuse
    dsimp only
    split
    · next hundocumented => exact .skipped answer hundocumented _
    · next hdocumented => exact .failed answer (Bool.eq_false_iff.2 hdocumented) _
  · next o answer =>
    obtain ⟨hsupported, -, hpath⟩ := readComment_supported ⟨h.ready.aliases, h.ready.sound, .refl _⟩ answer
    obtain ⟨⟨event, hadded⟩, -⟩ := (h.builder.mono hready.growth).add hsupported hpath
    rw [hadded]
    exact .added answer _

theorem Handles.inv {g g' : Generator τ} {c : Candidate} {e : Option GenerationError} (h : g.Handles c g' e)
    (hg : g.Inv aliases) : g'.Inv aliases := by
  have hready := hg.reading c
  have hready' : (g.reading c).resolver.Ready aliases .empty :=
    ⟨hready.aliases, hready.sound, hg.ready.growth.trans hready.growth⟩
  have hbuilder := hg.builder.mono hready.growth
  cases h with
  | skipped answer undocumented log => exact ⟨hready', hbuilder⟩
  | failed answer documented log => exact ⟨hready', hbuilder⟩
  | added answer log =>
    obtain ⟨hsupported, -, hpath⟩ := readComment_supported ⟨hg.ready.aliases, hg.ready.sound, .refl _⟩ answer
    exact ⟨hready', (hbuilder.add hsupported hpath).2⟩

/-- all that a candidate comes to depends on what reading its comments answers -/
theorem Handles.effect {g g' : Generator τ} {c : Candidate} {e : Option GenerationError} (h : g.Handles c g' e) :
    g'.resolver = (g.reading c).resolver ∧ e = c.failure? (g.reading c).answer ∧
      g'.operations = g.operations ++ (g.reading c).answer.toOption.toList ∧
      g'.builder = g.builder.addAll (g.reading c).answer.toOption.toList := by
  cases h with
  | skipped answer undocumented log =>
    rw [answer]
    exact ⟨rfl, (if_pos undocumented).symm, (List.append_nil _).symm, rfl⟩
  | failed answer documented log =>
    rw [answer]
    exact ⟨rfl, (if_neg (Bool.eq_false_iff.1 documented)).symm, (List.append_nil _).symm, rfl⟩
  | added answer log =>
    rw [answer]
    exact ⟨rfl, rfl, rfl, rfl⟩

/-! ## Batches -/

/-- a pass after batches, also when some of them ended in a failure -/
def run (isHandler : Signature → Bool) (g : Generator τ) (batches : List (List Candidate)) : Generator τ :=
  batches.foldl (fun g batch => (g.generate isHandler batch).1) g

variable (isHandler : Signature → Bool) {P : Generator τ → Prop}

/-- what every candidate that is read keeps holds after a list of candidates, whether the pass ends early or not -/
theorem addHandlers_induction {g : Generator τ} (batch : List Candidate) (hg : g.Inv aliases) (h : P g)
    (step : ∀ g c g' e, c ∈ batch → isHandler c.signature = true → g.Inv aliases → P g →
      g.Handles c g' e → P g') :
    (g.addHandlers isHandler batch).1.Inv aliases ∧ P (g.addHandlers isHandler batch).1 := by
  induction batch generalizing g with
  | nil => exact ⟨hg, h⟩
  | cons c rest ih =>
    have hrest : ∀ g k g' e, k ∈ rest → isHandler k.signature = true → g.Inv aliases → P g →
      g.Handles k g' e → P g' :=
      fun g k g' e hk => step g k g' e (List.mem_cons_of_mem _ hk)
    rw [addHandlers]
    split
    · next haccepted =>
      have hhandles := handles_addHandler hg c
      have hfirst := step g c _ _ List.mem_cons_self haccepted hg h hhandles
      have hinv := hhandles.inv hg
      split
      · next g' hadd => rw [hadd] at hfirst hinv; exact ih hinv hfirst hrest
      · next g' e hadd => rw [hadd] at hfirst hinv; exact ⟨hinv, hfirst⟩
    · exact ih hg h hrest

/-- a batch ends in the failure of a candidate, or the documents are made and that is reported -/
theorem generate_cases (g : Generator τ) (batch : List Candidate) :
    (∃ e, (g.addHandlers isHandler batch).2 = some e ∧
      g.generate isHandler batch = ((g.addHandlers isHandler batch).1, .error e)) ∨
    ((g.addHandlers isHandler batch).2 = none ∧ ∃ event,
      g.generate isHandler batch
        = ((g.addHandlers isHandler batch).1.report event, .ok (g.addHandlers isHandler batch).1.documents)) := by
  unfold generate
  split
  · next g' e hadd => exact Or.inl ⟨e, by rw [hadd], by rw [hadd]⟩
  · next g' hadd => exact Or.inr ⟨by rw [hadd], _, by rw [hadd]⟩

/-- what every candidate that is read keeps, and reports do not touch, holds after any number of batches -/
theorem run_induction {g : Generator τ} (batches : List (List Candidate)) (hg : g.Inv aliases) (h : P g)
    (step : ∀ g c g' e, c ∈ batches.flatten → isHandler c.signature = true → g.Inv aliases → P g →
      g.Handles c g' e → P g')
    (report : ∀ g e, P g → P (g.report e)) :
    (g.run isHandler batches).Inv aliases ∧ P (g.run isHandler batches) := by
  induction batches generalizing g with
  | nil => exact ⟨hg, h⟩
  | cons batch rest ih =>
    obtain ⟨hinv, hP⟩ := addHandlers_induction isHandler batch hg h
      fun g c g' e hc => step g c g' e (List.mem_append_left _ hc)
    have hrest : ∀ g c g' e, c ∈ rest.flatten → isHandler c.signature = true → g.Inv aliases → P g →
        g.Handles c g' e → P g' := fun g c g' e hc => step g c g' e (List.mem_append_right _ hc)
    rw [run, List.foldl_cons]
    rcases generate_cases isHandler g batch with ⟨e, -, hgenerate⟩ | ⟨-, event, hgenerate⟩
    · rw [hgenerate]
      exact ih hinv hP hrest
    · rw [hgenerate]
      exact ih ⟨hinv.ready, hinv.builder⟩ (report _ event hP) hrest

end Generator

/-! ## A small source tree -/

def petClasses : SymbolTable := ⟨[⟨"Pet", "shop", [], [⟨"parent", "Pet", false⟩]⟩]⟩

def petHandler (name : String) (comments : List String) : Candidate := ⟨⟨name, name, "shop", [], []⟩, comments⟩

def showPet : Candidate := petHandler "show" ["# @Success 200 \x7bobject\x7d Pet", "# @router /pets"]

end RouteDocs
