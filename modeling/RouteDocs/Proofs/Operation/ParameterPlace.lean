/-
Parameters are found wherever they stand on their line.

A parameter has five parts with blanks between them: a name, the place where it is sent, a type, a word that says
whether it is required, and a quoted text. A line is not asked to hold nothing else. The first place counts at which the
five parts stand, also inside a word, and what is before and after them is passed over.

- `ParamParts.paramAt?_eq_some_iff`: what is read at the front of a text is five parts and a rest.
- `ParamParts.findParam?_eq_some_iff`: what is found in a text is the first five parts there.
- `Draft.applyLine_param_iff`: which parameter a line adds, when it is malformed, and that the grammar of five parts is
  kept on those lines only where nothing stands before or after them.
- `Draft.truncated_name`: of a hyphened name the end is taken for all of it.
-/
import RouteDocs.Proofs.Operation.Clause
import RouteDocs.Proofs.Operation.Directives

namespace RouteDocs

open Text Directive Schema

/-- the five parts of a parameter, as they are written; the text without its quotes -/
structure ParamParts where
  name : List Char
  paramType : List Char
  dataType : List Char
  required : List Char
  description : List Char

namespace ParamParts

/-- has every part the characters that it may have, and at least one of them? -/
structure WellFormed (p : ParamParts) : Prop where
  name : MadeOf isWord p.name
  paramType : MadeOf isWord p.paramType
  dataType : MadeOf isTypeChar p.dataType
  required : MadeOf isWord p.required
  description : MadeOf (· != '"') p.description

/-- a text is the five parts, with blanks between them, and nothing else -/
def Spells (p : ParamParts) (s : List Char) : Prop :=
  ∃ g₁ g₂ g₃ g₄, (∀ g ∈ [g₁, g₂, g₃, g₄], MadeOf isBlank g) ∧
    s = p.name ++ (g₁ ++ (p.paramType ++ (g₂ ++ (p.dataType ++ (g₃ ++ (p.required ++ (g₄ ++
      '"' :: (p.description ++ ['"']))))))))

/-- the five parts stand at the front of a text, and `after` comes after them -/
def StandsAt (p : ParamParts) (s after : List Char) : Prop :=
  p.WellFormed ∧ ∃ written, p.Spells written ∧ s = written ++ after

def parameter (p : ParamParts) : Parameter where
  name := String.ofList p.name
  paramType := String.ofList p.paramType
  type := String.ofList p.dataType
  dataType := String.ofList p.dataType
  required := isTrue p.required
  description := String.ofList p.description

def directive (p : ParamParts) : Directive :=
  .param (String.ofList p.name) (String.ofList p.paramType) (String.ofList p.dataType) (isTrue p.required)
    (String.ofList p.description)

/-! ## At the front of a text -/

theorem StandsAt.paramAt? {p : ParamParts} {s after : List Char} (h : p.StandsAt s after) :
    Directive.paramAt? s = some p.directive := by
  obtain ⟨hp, written, ⟨g₁, g₂, g₃, g₄, hgaps, rfl⟩, rfl⟩ := h
  have hquote : '"' ∉ p.description := by
    intro hmem
    simpa using hp.description.all _ hmem
  have hread := paramAt?_parts hp.name hp.paramType hp.dataType hp.required hp.description.nonempty hquote hgaps after
  simpa [directive] using hread

/-- a run that is read is a word of its class, with blanks after it -/
theorem of_spaced? {p : Char → Bool} {s w rest : List Char} (h : spaced? p s = some (w, rest)) :
    MadeOf p w ∧ ∃ gap, MadeOf isBlank gap ∧ s = w ++ (gap ++ rest) := by
  simp only [spaced?] at h
  split at h
  · cases h
  · next hfits =>
    cases h
    simp only [Bool.or_eq_true, not_or, List.isEmpty_iff, beq_iff_eq] at hfits
    obtain ⟨hword, hgap⟩ := hfits
    have hsplit : (s.dropWhile p).takeWhile isBlank ++ (s.dropWhile p).dropWhile isBlank = s.dropWhile p :=
      List.takeWhile_append_dropWhile
    refine ⟨⟨hword, fun c hc => List.mem_takeWhile_imp hc⟩, (s.dropWhile p).takeWhile isBlank,
      ⟨fun hnil => ?_, fun c hc => List.mem_takeWhile_imp hc⟩, ?_⟩
    · rw [hnil, List.nil_append] at hsplit
      exact hgap (by rw [hsplit])
    · rw [hsplit, List.takeWhile_append_dropWhile]

/-- a quoted text that is read ends at its second quote -/
theorem of_quoted {s : List Char} (hend : s.dropWhile (· != '"') ≠ []) :
    ∃ after, s = s.takeWhile (· != '"') ++ '"' :: after := by
  obtain ⟨c, after, hdrop⟩ := List.exists_cons_of_ne_nil hend
  have hc := List.head?_dropWhile_not (· != '"') s
  rw [hdrop] at hc
  obtain rfl : c = '"' := by simpa using hc
  refine ⟨after, ?_⟩
  rw [← hdrop, List.takeWhile_append_dropWhile]

theorem standsAt_of_paramAt? {s : List Char} {d : Directive} (h : Directive.paramAt? s = some d) :
    ∃ p after, StandsAt p s after ∧ d = p.directive := by
  simp only [Directive.paramAt?, Option.bind_eq_bind, Option.bind_eq_some_iff, Prod.exists] at h
  obtain ⟨name, s₁, h₁, paramType, s₂, h₂, dataType, s₃, h₃, required, s₄, h₄, h⟩ := h
  obtain ⟨hname, g₁, hg₁, rfl⟩ := of_spaced? h₁
  obtain ⟨hparamType, g₂, hg₂, rfl⟩ := of_spaced? h₂
  obtain ⟨hdataType, g₃, hg₃, rfl⟩ := of_spaced? h₃
  obtain ⟨hrequired, g₄, hg₄, rfl⟩ := of_spaced? h₄
  split at h
  · next s =>
    split at h
    · cases h
    · next hfits =>
      cases h
      simp only [Bool.or_eq_true, not_or, List.isEmpty_iff] at hfits
      obtain ⟨hdescription, hend⟩ := hfits
      obtain ⟨after, hs⟩ := of_quoted hend
      have hmade : MadeOf (· != '"') (s.takeWhile (· != '"')) :=
        ⟨hdescription, fun c hc => List.mem_takeWhile_imp (p := (· != '"')) hc⟩
      refine ⟨⟨name, paramType, dataType, required, s.takeWhile (· != '"')⟩, after,
        ⟨⟨hname, hparamType, hdataType, hrequired, hmade⟩, _, ⟨g₁, g₂, g₃, g₄, ?_, rfl⟩, ?_⟩, rfl⟩
      · simpa using ⟨hg₁, hg₂, hg₃, hg₄⟩
      · conv_lhs => rw [hs]
        simp
  · cases h

/-- **Five parts at the front.** What is read at the front of a text is five parts that stand there. -/
theorem paramAt?_eq_some_iff {s : List Char} {d : Directive} :
    Directive.paramAt? s = some d ↔ ∃ p after, StandsAt p s after ∧ d = p.directive := by
  constructor
  · exact standsAt_of_paramAt?
  · rintro ⟨p, after, hp, rfl⟩
    exact hp.paramAt?

theorem paramAt?_eq_none_iff {s : List Char} : Directive.paramAt? s = none ↔ ∀ p after, ¬ StandsAt p s after := by
  rw [Option.eq_none_iff_forall_not_mem]
  constructor
  · intro h p after hp
    exact h _ hp.paramAt?
  · intro h d hd
    obtain ⟨p, after, hp, -⟩ := standsAt_of_paramAt? hd
    exact h p after hp

/-! ## Anywhere in a text -/

/-- the five parts stand behind `before`, and at no earlier place do five parts stand -/
structure IsFirst (p : ParamParts) (before after s : List Char) : Prop where
  stands : p.StandsAt (s.drop before.length) after
  within : before <+: s
  first : ∀ n < before.length, ∀ q rest, ¬ StandsAt q (s.drop n) rest

theorem IsFirst.findParam? {p : ParamParts} {before after s : List Char} (h : p.IsFirst before after s) :
    Directive.findParam? s = some p.directive := by
  induction before generalizing s with
  | nil =>
    have hread := h.stands.paramAt?
    cases s with
    | nil => simp [Directive.paramAt?, spaced?] at hread
    | cons c s => rw [Directive.findParam?, show Directive.paramAt? (c :: s) = _ from hread, Option.some_or]
  | cons c before ih =>
    obtain ⟨rest, rfl⟩ := h.within
    have hnot : Directive.paramAt? (c :: (before ++ rest)) = none :=
      paramAt?_eq_none_iff.2 (h.first 0 (by simp))
    have hrest : p.IsFirst before after (before ++ rest) := by
      refine ⟨by simpa using h.stands, List.prefix_append _ _, fun n hn q after' hq => ?_⟩
      exact h.first (n + 1) (by simpa using hn) q after' (by simpa using hq)
    rw [List.cons_append, Directive.findParam?, hnot, Option.none_or]
    exact ih hrest

theorem isFirst_of_findParam? {s : List Char} {d : Directive} (h : Directive.findParam? s = some d) :
    ∃ p before after, IsFirst p before after s ∧ d = p.directive := by
  induction s with
  | nil => cases h
  | cons c s ih =>
    rw [Directive.findParam?] at h
    cases hat : Directive.paramAt? (c :: s) with
    | some d' =>
      rw [hat, Option.some_or] at h
      obtain ⟨p, after, hp, hd⟩ := standsAt_of_paramAt? hat
      obtain rfl := Option.some.inj h
      exact ⟨p, [], after, ⟨hp, List.nil_prefix, by simp⟩, hd⟩
    | none =>
      rw [hat, Option.none_or] at h
      obtain ⟨p, before, after, hp, hd⟩ := ih h
      refine ⟨p, c :: before, after, ⟨hp.stands, ?_, fun n hn q rest hq => ?_⟩, hd⟩
      · exact List.cons_prefix_cons.2 ⟨rfl, hp.within⟩
      · cases n with
        | zero => exact paramAt?_eq_none_iff.1 hat q rest hq
        | succ n => exact hp.first n (by simpa using hn) q rest hq

/-- **The first five parts.** What is found in a text is the first five parts that stand there. -/
theorem findParam?_eq_some_iff {s : List Char} {d : Directive} :
    Directive.findParam? s = some d ↔ ∃ p before after, IsFirst p before after s ∧ d = p.directive := by
  constructor
  · exact isFirst_of_findParam?
  · rintro ⟨p, before, after, hp, rfl⟩
    exact hp.findParam?

/-- nothing is found in a text just if five parts stand at no place of it -/
theorem findParam?_eq_none_iff {s : List Char} :
    Directive.findParam? s = none ↔ ∀ n p after, ¬ StandsAt p (s.drop n) after := by
  induction s with
  | nil =>
    have hempty : Directive.paramAt? [] = none := rfl
    simpa [Directive.findParam?] using paramAt?_eq_none_iff.1 hempty
  | cons c s ih =>
    rw [Directive.findParam?, Option.or_eq_none_iff, paramAt?_eq_none_iff, ih]
    constructor
    · rintro ⟨hhere, hlater⟩ n
      cases n with
      | zero => exact hhere
      | succ n => exact hlater n
    · intro h
      exact ⟨h 0, fun n => h (n + 1)⟩

/-! ## Nothing else on the line -/

/-- the five parts have two quotes, and end in the second one -/
theorem Spells.count_quote {p : ParamParts} {s : List Char} (hp : p.WellFormed) (h : p.Spells s) :
    s.count '"' = 2 ∧ s.getLast? = some '"' := by
  obtain ⟨g₁, g₂, g₃, g₄, hgaps, rfl⟩ := h
  have hnone {q : Char → Bool} {w : List Char} (hq : q '"' = false) (hw : MadeOf q w) : w.count '"' = 0 := by
    rw [List.count_eq_zero]
    intro hmem
    rw [hw.all _ hmem] at hq
    cases hq
  have hblank {g : List Char} (hg : g ∈ [g₁, g₂, g₃, g₄]) : g.count '"' = 0 := hnone (by decide) (hgaps g hg)
  constructor
  · simp only [List.count_append, List.count_cons, List.count_nil]
    rw [hnone (by decide) hp.name, hnone (by decide) hp.paramType, hnone (by decide) hp.dataType,
      hnone (by decide) hp.required, hnone (by decide) hp.description, hblank (by simp), hblank (by simp),
      hblank (by simp), hblank (by simp)]
    rfl
  · have hquoted : ('"' :: (p.description ++ ['"'])).getLast? = some '"' :=
      List.getLast?_concat (l := '"' :: p.description)
    simp only [List.getLast?_append, hquoted, Option.some_or]

/-- two ways to see five parts at the front of a text leave the same rest -/
theorem StandsAt.nil_of_spells {p q : ParamParts} {s after : List Char} (hp : p.StandsAt s after) (hq : q.WellFormed)
    (hs : q.Spells s) : after = [] := by
  obtain ⟨hwf, written, hwritten, rfl⟩ := hp
  obtain ⟨hcount, -⟩ := hwritten.count_quote hwf
  obtain ⟨htotal, hlast⟩ := hs.count_quote hq
  rw [List.count_append, hcount] at htotal
  by_contra hne
  -- a rest would end in a quote
  rw [List.getLast?_append_of_ne_nil _ hne] at hlast
  have hmem := List.mem_of_getLast? hlast
  have hzero : after.count '"' = 0 := by omega
  exact List.count_eq_zero.1 hzero hmem

theorem isFirst_of_spells {p : ParamParts} {s : List Char} (hp : p.WellFormed) (hs : p.Spells s) :
    p.IsFirst [] [] s :=
  ⟨⟨hp, s, hs, by simp⟩, List.nil_prefix, by simp⟩

/-- the first five parts of a text are all of it if it is five parts -/
theorem IsFirst.nil_of_spells {p q : ParamParts} {before after s : List Char} (h : p.IsFirst before after s)
    (hq : q.WellFormed) (hs : q.Spells s) : before = [] ∧ after = [] := by
  have hbefore : before = [] := by
    by_contra hne
    exact h.first 0 (List.length_pos_iff.2 hne) q [] (isFirst_of_spells hq hs).stands
  subst hbefore
  exact ⟨rfl, h.stands.nil_of_spells hq hs⟩

theorem IsFirst.spells_of_nil {p : ParamParts} {s : List Char} (h : p.IsFirst [] [] s) :
    p.WellFormed ∧ p.Spells s := by
  obtain ⟨hp, written, hwritten, hs⟩ := h.stands
  obtain rfl : s = written := by simpa using hs
  exact ⟨hp, hwritten⟩

end ParamParts

/-! ## Lines -/

/-- what a line says is what its text after the token says -/
theorem ofLine_eq {raw : String} {kind : DirectiveKind} {rest : List Char}
    (h : Directive.dispatch (stripMarker raw.toList) = some (kind, rest)) :
    Directive.ofLine raw = some ((Directive.parse kind rest).mapError fun fault =>
      ⟨kind, String.ofList (stripMarker raw.toList), fault⟩) := by
  rw [Directive.ofLine]
  dsimp only
  rw [h, Option.map_some]

namespace Draft

open ParamParts

variable {τ : Type} [TypeLookup τ]

theorem applyLine_of_isFirst (d : Draft τ) (package : String) {raw : String} {rest : List Char}
    (h : Directive.dispatch (stripMarker raw.toList) = some (.param, rest)) {p : ParamParts} {before after : List Char}
    (hp : p.IsFirst before after rest) : d.applyLine package raw
      = (d.edit fun o => { o with parameters := o.parameters ++ [p.parameter] }, none) := by
  have hline : Directive.ofLine raw = some (.ok p.directive) := by
    rw [ofLine_eq h, Directive.parse, parseParam, hp.findParam?]
    rfl
  rw [applyLine, hline]
  rfl

theorem applyLine_of_not_isFirst (d : Draft τ) (package : String) {raw : String} {rest : List Char}
    (h : Directive.dispatch (stripMarker raw.toList) = some (.param, rest))
    (hnone : ∀ p before after, ¬ IsFirst p before after rest) : d.applyLine package raw
      = (d, some (.directive ⟨.param, String.ofList (stripMarker raw.toList), .malformedParam⟩)) := by
  have hfind : findParam? rest = none := by
    rw [Option.eq_none_iff_forall_not_mem]
    intro directive hdirective
    obtain ⟨p, before, after, hp, -⟩ := isFirst_of_findParam? hdirective
    exact hnone p before after hp
  have hline : Directive.ofLine raw
      = some (.error ⟨.param, String.ofList (stripMarker raw.toList), .malformedParam⟩) := by
    rw [ofLine_eq h, Directive.parse, parseParam, hfind]
    rfl
  rw [applyLine, hline]

/-- **Where parameters are found.** A line of this kind adds the parameter of the first five parts that stand on it, and
is malformed if none do. So the lines that are accepted are those of five parts and nothing else just where no other
text stands before or after the parts that are found. -/
theorem applyLine_param_iff (d : Draft τ) (package raw : String) (rest : List Char)
    (h : Directive.dispatch (stripMarker raw.toList) = some (.param, rest)) :
    (∀ p before after, IsFirst p before after rest → d.applyLine package raw
      = (d.edit fun o => { o with parameters := o.parameters ++ [p.parameter] }, none)) ∧
    ((∀ p before after, ¬ IsFirst p before after rest) → d.applyLine package raw
      = (d, some (.directive ⟨.param, String.ofList (stripMarker raw.toList), .malformedParam⟩))) ∧
    (((d.applyLine package raw).2 = none ↔ ∃ p, WellFormed p ∧ p.Spells rest) ↔
      ∀ p before after, IsFirst p before after rest → before = [] ∧ after = []) := by
  refine ⟨fun p before after => d.applyLine_of_isFirst package h, d.applyLine_of_not_isFirst package h, ?_⟩
  constructor
  · intro hgrammar p before after hp
    obtain ⟨q, hq, hs⟩ := hgrammar.1 (by rw [d.applyLine_of_isFirst package h hp])
    exact hp.nil_of_spells hq hs
  · intro hnothing
    constructor
    · intro haccepted
      by_cases hnone : ∀ p before after, ¬ IsFirst p before after rest
      · rw [d.applyLine_of_not_isFirst package h hnone] at haccepted
        cases haccepted
      · push Not at hnone
        obtain ⟨p, before, after, hp⟩ := hnone
        obtain ⟨rfl, rfl⟩ := hnothing p before after hp
        exact ⟨p, hp.spells_of_nil⟩
    · rintro ⟨p, hp, hs⟩
      rw [d.applyLine_of_isFirst package h (isFirst_of_spells hp hs)]

/-- nothing is known about the operation, and there are no classes -/
def untouched : Draft SymbolTable := ⟨.blank, .new ⟨[]⟩ ∅, []⟩

/-- the five parts of `id path int true "pet id"` -/
def petIdParts : ParamParts := ⟨"id".toList, "path".toList, "int".toList, "true".toList, "pet id".toList⟩

def petIdLine : String := "# @Param id  path\tint true \"pet id\""

theorem applyLine_param_iff_petId :
    Directive.dispatch (stripMarker petIdLine.toList) = some (.param, "id  path\tint true \"pet id\"".toList) ∧
      untouched.applyLine "" petIdLine
        = (untouched.edit fun o => { o with parameters := o.parameters ++ [petIdParts.parameter] }, none) := by
  have hdispatch : Directive.dispatch (stripMarker petIdLine.toList)
      = some (.param, "id  path\tint true \"pet id\"".toList) := by decide +kernel
  have hparts : petIdParts.WellFormed := ⟨by decide, by decide, by decide, by decide, by decide⟩
  have hspells : petIdParts.Spells "id  path\tint true \"pet id\"".toList :=
    ⟨"  ".toList, "\t".toList, " ".toList, " ".toList, by decide, rfl⟩
  have hfirst := isFirst_of_spells hparts hspells
  exact ⟨hdispatch, (applyLine_param_iff untouched "" petIdLine _ hdispatch).1 petIdParts [] [] hfirst⟩

/-- a line whose first word has a hyphen -/
def tokenLine : String := "# @Param X-Token header string true \"the token\""

/-- **A name cut short.** A hyphenated name is no name, so the line is not five parts; it is read, and the end of the
name is taken for all of it. -/
theorem truncated_name :
    Directive.dispatch (stripMarker tokenLine.toList)
        = some (.param, "X-Token header string true \"the token\"".toList) ∧
      (¬ ∃ p, WellFormed p ∧ p.Spells "X-Token header string true \"the token\"".toList) ∧
      untouched.applyLine "" tokenLine
        = (untouched.edit fun o =>
            { o with parameters := [⟨"Token", "header", "string", "string", true, "the token"⟩] }, none) := by
  refine ⟨by decide +kernel, ?_, by decide +kernel⟩
  rintro ⟨p, hp, hs⟩
  have hread := (isFirst_of_spells hp hs).stands.paramAt?
  have hnone : Directive.paramAt? "X-Token header string true \"the token\"".toList = none := by decide
  rw [List.length_nil, List.drop_zero, hnone] at hread
  cases hread

end Draft

end RouteDocs
