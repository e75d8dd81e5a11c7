/-
Functions that turn out not to be documented, and their influence on a pass.

The comments of such a function are read with the resolver of the pass before it is skipped, so the classes that it
names stay recorded. They show in one way only: a documented function may fail because a class that it needs has the
name of one of them.

- `Generator.result_ending`: how a batch ends says what it gives.
- `Generator.ending_trails`: unless a pass ends in a collision, it ends as the pass over the documented candidates.
- `Generator.ending_kept_iff`: the two passes end alike if and only if every collision is one among the documented
  candidates.
- `Generator.skipped_pet_collides`: they do not end alike in general.
- `Generator.ending_kept_of_distinct`: they do if no two classes have one name.
-/
import RouteDocs.Proofs.Generation.FaithfulPass

namespace RouteDocs

open Schema

/-! ## How a pass ends -/

/-- how a batch ends -/
inductive Ending where
  /-- a candidate is faulty, and those after it are not read -/
  | stopped (faulty : Candidate) (unread : List Candidate) (e : GenerationError)
  | finished (docs : GeneratedDocs)
deriving DecidableEq

def Ending.result : Ending → Except GenerationError GeneratedDocs
  | .stopped _ _ e => .error e
  | .finished docs => .ok docs

/-- a candidate fails because a class of the name has been recorded for another module -/
def Candidate.collision (c : Candidate) (id : String) : GenerationError :=
  ⟨c.signature.fullName, .comment (.resolve (.collision id))⟩

namespace Generator

variable {τ : Type} [TypeLookup τ]

def ending (isHandler : Signature → Bool) : Generator τ → List Candidate → Ending
  | g, [] => .finished g.documents
  | g, c :: rest =>
    if isHandler c.signature then
      match g.addHandler c with
      | (g, none) => g.ending isHandler rest
      | (_, some e) => .stopped c rest e
    else g.ending isHandler rest

/-- does reading the candidate put it among the skipped ones? -/
def skips (g : Generator τ) (c : Candidate) : Bool := (g.addHandler c).1.skipped != g.skipped

/-- a batch without the candidates that are skipped when it is read -/
def kept (isHandler : Signature → Bool) : Generator τ → List Candidate → List Candidate
  | _, [] => []
  | g, c :: rest =>
    if isHandler c.signature then
      match g.addHandler c with
      | (g', none) => if g.skips c then g'.kept isHandler rest else c :: g'.kept isHandler rest
      | (_, some _) => c :: rest
    else c :: g.kept isHandler rest

/-- the candidates of `before` are read without a fault, and `f` is faulty -/
structure StopsAt (isHandler : Signature → Bool) (g : Generator τ) (before : List Candidate) (f : Candidate)
    (e : GenerationError) : Prop where
  passed : (g.addHandlers isHandler before).2 = none
  selected : isHandler f.signature = true
  faulty : ((g.addHandlers isHandler before).1.addHandler f).2 = some e

variable (isHandler : Signature → Bool)

/-- a batch has the result of its end -/
theorem result_ending (g : Generator τ) (l : List Candidate) :
    (g.generate isHandler l).2 = (g.ending isHandler l).result := by
  have hadd : (∃ e, (g.addHandlers isHandler l).2 = some e ∧ (g.ending isHandler l).result = .error e) ∨
      ((g.addHandlers isHandler l).2 = none ∧
        g.ending isHandler l = .finished (g.addHandlers isHandler l).1.documents) := by
    fun_induction ending isHandler g l with
    | case1 g => exact Or.inr ⟨rfl, rfl⟩
    | case2 g c rest haccepted g' hc ih => rw [addHandlers, if_pos haccepted, hc]; exact ih
    | case3 g c rest haccepted g' e hc => rw [addHandlers, if_pos haccepted, hc]; exact Or.inl ⟨e, rfl, rfl⟩
    | case4 g c rest haccepted ih => rw [addHandlers, if_neg haccepted]; exact ih
  rcases generate_cases isHandler g l with ⟨e, he, hgenerate⟩ | ⟨hnone, event, hgenerate⟩
  · rcases hadd with ⟨e', he', hending⟩ | ⟨hnone, -⟩
    · rw [hgenerate, hending, Option.some.inj (he.symm.trans he')]
    · cases he.symm.trans hnone
  · rcases hadd with ⟨e', he', -⟩ | ⟨-, hending⟩
    · cases he'.symm.trans hnone
    · rw [hgenerate, hending]
      rfl

/-- candidates that are read without a fault may be read beforehand -/
theorem ending_append {g : Generator τ} {before rest : List Candidate}
    (h : (g.addHandlers isHandler before).2 = none) :
    g.ending isHandler (before ++ rest) = (g.addHandlers isHandler before).1.ending isHandler rest := by
  fun_induction addHandlers isHandler g before with
  | case1 g => rfl
  | case2 g c before haccepted g' hc ih => rw [List.cons_append, ending, if_pos haccepted, hc]; exact ih h
  | case3 g c before haccepted g' e hc => cases h
  | case4 g c before haccepted ih => rw [List.cons_append, ending, if_neg haccepted]; exact ih h

theorem kept_append {g : Generator τ} {before rest : List Candidate}
    (h : (g.addHandlers isHandler before).2 = none) :
    g.kept isHandler (before ++ rest)
      = g.kept isHandler before ++ (g.addHandlers isHandler before).1.kept isHandler rest := by
  fun_induction addHandlers isHandler g before with
  | case1 g => rfl
  | case2 g c before haccepted g' hc ih =>
    rw [List.cons_append, kept, kept, if_pos haccepted, if_pos haccepted, hc]
    dsimp only
    rw [ih h]
    split <;> rfl
  | case3 g c before haccepted g' e hc => cases h
  | case4 g c before haccepted ih =>
    rw [List.cons_append, kept, kept, if_neg haccepted, if_neg haccepted, ih h]
    rfl

/-- a batch stops at the first candidate that is faulty after those before it have been read -/
theorem ending_stopped_iff (g : Generator τ) (l : List Candidate) (f : Candidate) (unread : List Candidate)
    (e : GenerationError) :
    g.ending isHandler l = .stopped f unread e ↔
      ∃ before, l = before ++ f :: unread ∧ g.StopsAt isHandler before f e := by
  constructor
  · intro h
    fun_induction ending isHandler g l with
    | case1 g => cases h
    | case2 g c rest haccepted g' hc ih =>
      obtain ⟨before, rfl, hstops⟩ := ih h
      refine ⟨c :: before, rfl, ?_, hstops.selected, ?_⟩
      · rw [addHandlers, if_pos haccepted, hc]
        exact hstops.passed
      · rw [addHandlers, if_pos haccepted, hc]
        exact hstops.faulty
    | case3 g c rest haccepted g' e' hc =>
      cases h
      exact ⟨[], rfl, rfl, haccepted, by rw [addHandlers, hc]⟩
    | case4 g c rest haccepted ih =>
      obtain ⟨before, rfl, hstops⟩ := ih h
      refine ⟨c :: before, rfl, ?_, hstops.selected, ?_⟩
      · rw [addHandlers, if_neg haccepted]
        exact hstops.passed
      · rw [addHandlers, if_neg haccepted]
        exact hstops.faulty
  · rintro ⟨before, rfl, hpassed, hselected, hfaulty⟩
    rw [ending_append isHandler hpassed, ending, if_pos hselected]
    split
    · next g' hc => rw [hc] at hfaulty; cases hfaulty
    · next g' e' hc => rw [hc] at hfaulty; rw [Option.some.inj hfaulty]

/-! ## Passes without the skipped candidates -/

variable {table : SymbolTable} {aliases : Aliases}

/-- the pass `g` is where `h` is, with a resolver that has recorded less -/
structure Trails (table : SymbolTable) (aliases : Aliases) (g h : Generator) : Prop where
  behind : g.Faithful table aliases
  ahead : h.Faithful table aliases
  within : g.resolver.cache.Within h.resolver.cache
  builder : g.builder = h.builder
  operations : g.operations = h.operations

variable {g h : Generator} {c : Candidate}

/-- a candidate that is skipped is read by the pass ahead only -/
theorem Trails.skip (ht : Trails table aliases g h) {h' : Generator} (hadd : h.addHandler c = (h', none))
    (hskips : h.skips c = true) : Trails table aliases g h' := by
  have hhandles := handles_addHandler ht.ahead.inv c
  have hwithin := ht.within.trans (ht.ahead.within_reading c)
  rw [skips, hadd, bne_iff_ne] at hskips
  rw [hadd] at hhandles
  have hahead := ht.ahead.handles hhandles
  cases hhandles with
  | skipped answer undocumented log => exact ⟨ht.behind, hahead, hwithin, ht.builder, ht.operations⟩
  | added answer log => exact absurd rfl hskips

/-- a candidate comes to the same in both passes, unless the pass ahead meets a second class of a name -/
theorem Trails.step (ht : Trails table aliases g h) {g' h' : Generator} {e e' : Option GenerationError}
    (hg : g.Handles c g' e) (hh : h.Handles c h' e') :
    (∃ id, e' = some (c.collision id)) ∨ (e = e' ∧ Trails table aliases g' h') := by
  obtain ⟨hresolver, he, hoperations, hbuilder⟩ := hg.effect
  obtain ⟨hresolver', he', hoperations', hbuilder'⟩ := hh.effect
  have hread := readComment_within ht.behind.resolver ht.ahead.resolver ht.within c.comments c.signature.module
  rcases hread with ⟨id, hcollision⟩ | ⟨hsame, hwithin⟩
  · rw [show (h.reading c).answer = _ from hcollision] at he'
    exact Or.inl ⟨id, he'⟩
  · rw [show (g.reading c).answer = (h.reading c).answer from hsame] at he hoperations hbuilder
    refine Or.inr ⟨he.trans he'.symm, ht.behind.handles hg, ht.ahead.handles hh, ?_, ?_, ?_⟩
    · rw [hresolver, hresolver']
      exact hwithin
    · rw [hbuilder, hbuilder', ht.builder]
    · rw [hoperations, hoperations', ht.operations]

/-- **Only collisions show.** Unless a pass ends in a collision, the pass over the candidates that are not skipped ends
alike. -/
theorem ending_trails (ht : Trails table aliases g h) (l : List Candidate) :
    (∃ f unread id, h.ending isHandler l = .stopped f unread (f.collision id)) ∨
      g.ending isHandler (h.kept isHandler l) = h.ending isHandler l := by
  fun_induction ending isHandler h l generalizing g with
  | case1 h =>
    refine Or.inr ?_
    rw [kept, ending, documents, documents, ht.builder, ht.operations]
  | case2 h c rest haccepted h' hc ih =>
    rw [kept, if_pos haccepted, hc]
    dsimp only
    split
    · next hskips => exact ih (ht.skip hc hskips)
    · have hstep := ht.step (handles_addHandler ht.behind.inv c) (handles_addHandler ht.ahead.inv c)
      rw [hc] at hstep
      rw [ending, if_pos haccepted]
      rcases hstep with ⟨id, hcollision⟩ | ⟨hnone, ht'⟩
      · cases hcollision
      · generalize g.addHandler c = outcome at hnone ht'
        obtain ⟨g', e⟩ := outcome
        obtain rfl : e = none := hnone
        exact ih ht'
  | case3 h c rest haccepted h' e hc =>
    have hstep := ht.step (handles_addHandler ht.behind.inv c) (handles_addHandler ht.ahead.inv c)
    rw [hc] at hstep
    rw [kept, if_pos haccepted, hc]
    dsimp only
    rcases hstep with ⟨id, hcollision⟩ | ⟨hsame, -⟩
    · rw [Option.some.inj hcollision]
      exact Or.inl ⟨c, rest, id, rfl⟩
    · refine Or.inr ?_
      rw [ending, if_pos haccepted]
      generalize g.addHandler c = outcome at hsame
      obtain ⟨g', e'⟩ := outcome
      obtain rfl : e' = some e := hsame
      rfl
  | case4 h c rest haccepted ih =>
    rw [kept, if_neg haccepted, ending, if_neg haccepted]
    exact ih ht

theorem trails_new (table : SymbolTable) (aliases : Aliases) (info : ApiInfo) (basePath : String) :
    Trails table aliases (new table aliases info basePath) (new table aliases info basePath) :=
  ⟨faithful_new table aliases info basePath, faithful_new table aliases info basePath, .refl _, rfl, rfl⟩

omit isHandler in
/-- a candidate that is faulty is kept, with those that are not read -/
theorem StopsAt.kept {isHandler : Signature → Bool} {before unread : List Candidate} {f : Candidate}
    {e : GenerationError} (h : g.StopsAt isHandler before f e) :
    g.kept isHandler (before ++ f :: unread) = g.kept isHandler before ++ f :: unread := by
  have hfaulty := h.faulty
  rw [kept_append isHandler h.passed, Generator.kept, if_pos h.selected]
  generalize (g.addHandlers isHandler before).1.addHandler f = outcome at hfaulty
  obtain ⟨g', e'⟩ := outcome
  obtain rfl : e' = some e := hfaulty
  rfl

/-- **Influence of skipped functions.** A new pass over the candidates without the skipped ones ends like a new pass
over all of them, at the same candidate with the same failure or with the same documents, if and only if every
collision that a candidate meets after all those before it is one that it meets after the documented ones alone. The
ends of both passes say what the passes give. -/
theorem ending_kept_iff (table : SymbolTable) (aliases : Aliases) (info : ApiInfo) (basePath : String)
    (l : List Candidate) :
    ((new table aliases info basePath).ending isHandler ((new table aliases info basePath).kept isHandler l)
        = (new table aliases info basePath).ending isHandler l ↔
      ∀ before f unread id, l = before ++ f :: unread →
        (new table aliases info basePath).StopsAt isHandler before f (f.collision id) →
        (new table aliases info basePath).StopsAt isHandler ((new table aliases info basePath).kept isHandler before) f
          (f.collision id)) ∧
      ∀ batch : List Candidate, ((new table aliases info basePath).generate isHandler batch).2
        = ((new table aliases info basePath).ending isHandler batch).result := by
  refine ⟨?_, result_ending isHandler _⟩
  have ht := trails_new table aliases info basePath
  generalize new table aliases info basePath = g at ht
  constructor
  · rintro hsame before f unread id rfl hstops
    have hending := (ending_stopped_iff isHandler g _ f unread _).2 ⟨before, rfl, hstops⟩
    rw [← hsame, hstops.kept, ending_stopped_iff] at hending
    obtain ⟨before', hbefore, hstops'⟩ := hending
    rwa [List.append_cancel_right hbefore]
  · intro hcollisions
    rcases ending_trails isHandler ht l with ⟨f, unread, id, hending⟩ | hsame
    · obtain ⟨before, rfl, hstops⟩ := (ending_stopped_iff isHandler g _ f unread _).1 hending
      rw [hending, hstops.kept, ending_stopped_iff]
      exact ⟨_, rfl, hcollisions before f unread id rfl hstops⟩
    · exact hsame

/-- **No influence without clashes.** If no two classes of the table have one name, the skipped candidates may be left
out: the pass ends alike. -/
theorem ending_kept_of_distinct {table : SymbolTable} (hdistinct : ∀ name, ¬ table.Clashes name) (aliases : Aliases)
    (info : ApiInfo) (basePath : String) (l : List Candidate) :
    (new table aliases info basePath).ending isHandler ((new table aliases info basePath).kept isHandler l)
      = (new table aliases info basePath).ending isHandler l := by
  have ht := trails_new table aliases info basePath
  generalize new table aliases info basePath = g at ht
  refine (ending_trails isHandler ht l).resolve_left ?_
  rintro ⟨f, unread, id, hending⟩
  obtain ⟨before, rfl, hstops⟩ := (ending_stopped_iff isHandler g _ f unread _).1 hending
  have hfaithful := ht.ahead.addHandlers isHandler before
  have hhandles := handles_addHandler hfaithful.inv f
  rw [hstops.faulty] at hhandles
  generalize ((g.addHandlers isHandler before).1.addHandler f).1 = after at hhandles
  cases hhandles with
  | failed answer documented log => exact hdistinct id (clashes_of_read hfaithful.resolver answer)

/-- two classes of one name -/
def twoPets : SymbolTable := ⟨[⟨"Pet", "farm", [], []⟩, ⟨"Pet", "shop", [], []⟩]⟩

/-- a function without a route that mentions the class of another module -/
def mentionPet : Candidate := ⟨⟨"mention", "mention", "farm", [], []⟩, ["# @Success 200 \x7bobject\x7d Pet"]⟩

/-- **A skipped function shows.** A function without a route is skipped, and yet the function after it fails because of
the class that the first one names; alone it is documented. -/
theorem skipped_pet_collides :
    ((new twoPets ∅ .blank "").generate (fun _ => true) [mentionPet, showPet]).2
        = .error (showPet.collision "Pet") ∧
      (new twoPets ∅ .blank "").kept (fun _ => true) [mentionPet, showPet] = [showPet] ∧
      ((new twoPets ∅ .blank "").generate (fun _ => true) [showPet]).2.isOk = true := by
  decide +kernel

end Generator

end RouteDocs
