/-
What the text after the token of a directive says, in terms of its words.

- `Directive.parseRouter_eq`: the path and the method of a route line.
- `Directive.successReads_parseSuccess`: the cases of a success line.
- `Directive.kind_of_parse`: a directive is of the kind that its token says.
- `Directive.parse_error_iff`: a text can not be read just if it has one of five faults.
- `Directive.typed_iff_namesType`: a text names a type if it has a code, a marker and a third word.
- `Directive.ofLine_ok_iff`, `Directive.ofLine_error_iff`: the same for whole lines.
-/
import RouteDocs.Proofs.Operation.ParameterPlace

namespace RouteDocs

open Text

namespace Directive

variable {rest : List Char} {fault : DirectiveFault}

/-- the text after a token has no blanks at its ends -/
theorem trim_of_dispatch {line : List Char} {kind : DirectiveKind} (h : dispatch line = some (kind, rest)) :
    trim rest = rest := by
  obtain ⟨kind', -, heq⟩ := Option.map_eq_some_iff.1 h
  obtain ⟨rfl, rfl⟩ := Prod.mk.inj heq
  exact trim_trim _

/-! ## Words of the three kinds of lines that are read by their words -/

/-- the method that the text after a path gives -/
def methodOf (more : List Char) : String :=
  if more = [] then "GET" else String.ofList (upper (trimWhile isBracket (firstWord more).1))

/-- the first word of a route line is its path -/
theorem parseRouter_eq (h : ¬ Blanks rest) :
    parseRouter rest = .ok (.router (String.ofList (firstWord rest).1) (methodOf (firstWord rest).2)) := by
  rw [parseRouter, words_cons h]
  by_cases hmore : Blanks (firstWord rest).2
  · rw [words_blanks hmore, methodOf, if_pos (firstWord_rest.1 hmore)]
  · have hne : (firstWord rest).2 ≠ [] := fun hnil => hmore (firstWord_rest.2 hnil)
    rw [words_cons hmore, methodOf, if_neg hne]

/-- a failure line is read by its words too, up to its message -/
theorem parseFailure_eq (rest : List Char) : parseFailure rest =
    match words rest with
    | [] => .error .missingCode
    | token :: _ => (parseCode token).map fun code => .failure code (String.ofList (trim (firstWord rest).2)) := by
  by_cases hblanks : Blanks rest
  · rw [words_blanks hblanks, parseFailure, firstWord_blanks hblanks]
  · have hword := (firstWord_solid hblanks).nonempty
    rw [words_cons hblanks, parseFailure]
    split
    · next hfirst => simp [hfirst] at hword
    · next token message _ hfirst =>
      simp only [hfirst]
      cases parseCode token <;> rfl

/-- is the word the marker of an object or of an array? -/
def IsMarker (word : List Char) : Prop := word = objectMarker ∨ word = arrayMarker

/-- how a success line is read -/
inductive SuccessReads (rest : List Char) : Except DirectiveFault Directive → Prop
  | empty (written : words rest = []) : SuccessReads rest (.error .missingCode)
  | nonInteger {token : List Char} {others : List (List Char)} (written : words rest = token :: others)
    (number : Numeral.integer? token = none) : SuccessReads rest (.error (.nonIntegerCode (String.ofList token)))
  | message {token : List Char} {others : List (List Char)} {code : Int} (written : words rest = token :: others)
    (number : Numeral.integer? token = some code) (unmarked : ∀ word ∈ others.head?, ¬ IsMarker word)
    (text : String) : SuccessReads rest (.ok (.successMessage code text))
  | missingType {token marker : List Char} {code : Int} (written : words rest = [token, marker])
    (number : Numeral.integer? token = some code) (marked : IsMarker marker) :
    SuccessReads rest (.error (.missingType (String.ofList marker)))
  | typed {token marker word : List Char} {others : List (List Char)} {code : Int}
    (written : words rest = token :: marker :: word :: others) (number : Numeral.integer? token = some code)
    (marked : IsMarker marker) :
    SuccessReads rest (.ok (.successType code (marker = arrayMarker) (String.ofList word)))

theorem successReads_parseSuccess (rest : List Char) : SuccessReads rest (parseSuccess rest) := by
  rw [parseSuccess]
  split
  · next written => exact .empty written
  · next token parts written =>
    cases number : Numeral.integer? token with
    | none =>
      simp only [parseCode, number]
      exact .nonInteger written number
    | some code =>
      simp only [parseCode, number]
      cases parts with
      | nil => exact .message written number (by simp) _
      | cons marker others =>
        have unmarked (h : ¬ IsMarker marker) : ∀ word ∈ (marker :: others).head?, ¬ IsMarker word := by
          rintro word ⟨⟩
          exact h
        cases others with
        | nil =>
          change SuccessReads rest (ite (marker = objectMarker ∨ marker = arrayMarker) _ _)
          split
          · next marked => exact .missingType written number marked
          · next h => exact .message written number (unmarked h) _
        | cons word others =>
          change SuccessReads rest (ite (marker = objectMarker ∨ marker = arrayMarker) _ _)
          split
          · next marked => exact .typed written number marked
          · next h => exact .message written number (unmarked h) _

/-! ## Kinds -/

/-- the kind of line that a directive stands on -/
def kind : Directive → DirectiveKind
  | .router _ _ => .router
  | .title _ => .title
  | .description _ => .description
  | .param _ _ _ _ _ => .param
  | .failure _ _ => .failure
  | .successMessage _ _ | .successType _ _ _ => .success
  | .accept _ => .accept

/-- **Kinds.** A directive is of the kind that its token says. -/
theorem kind_of_parse {kind : DirectiveKind} {directive : Directive} (h : parse kind rest = .ok directive) :
    directive.kind = kind := by
  cases kind with
  | router =>
    rw [parse, parseRouter] at h
    split at h <;> cases h <;> rfl
  | success =>
    have hreads := successReads_parseSuccess rest
    rw [parse] at h
    rw [h] at hreads
    cases hreads <;> rfl
  | failure =>
    rw [parse, parseFailure_eq] at h
    split at h
    · cases h
    · next token others written =>
      cases hcode : parseCode token <;> rw [hcode] at h <;> cases h
      rfl
  | param =>
    rw [parse, parseParam] at h
    split at h
    · next hfound =>
      cases h
      obtain ⟨p, before, after, -, rfl⟩ := ParamParts.isFirst_of_findParam? hfound
      rfl
    · cases h
  | title => cases h; rfl
  | description => cases h; rfl
  | accept => cases h; rfl

/-- a text after the token of a success line that names a type: a code, a marker and the type, and anything else -/
def NamesType (rest : List Char) (ref : String) : Prop :=
  ∃ token marker word others code, words rest = token :: marker :: word :: others ∧
    Numeral.integer? token = some code ∧ IsMarker marker ∧ ref = String.ofList word

/-- **Types.** A text of a kind is read as one that names a type just if it is that of a success line and names it. -/
theorem typed_iff_namesType {kind : DirectiveKind} {ref : String} :
    (∃ code isArray, parse kind rest = .ok (.successType code isArray ref)) ↔
      kind = .success ∧ NamesType rest ref := by
  constructor
  · rintro ⟨code, isArray, h⟩
    obtain rfl := kind_of_parse h
    have hreads := successReads_parseSuccess rest
    rw [show parseSuccess rest = _ from h] at hreads
    generalize hread : Except.ok (Directive.successType code isArray ref) = reading at hreads
    cases hreads with
    | typed written number marked =>
      cases hread
      exact ⟨rfl, _, _, _, _, _, written, number, marked, rfl⟩
    | _ => cases hread
  · rintro ⟨rfl, token, marker, word, others, code, written, number, marked, rfl⟩
    refine ⟨code, decide (marker = arrayMarker), ?_⟩
    rw [parse, parseSuccess, written]
    simp only [parseCode, number]
    exact if_pos marked

/-! ## Faults -/

/-- does the token begin a response line, which has a status code? -/
def IsResponse (kind : DirectiveKind) : Prop := kind = .success ∨ kind = .failure

/-- what is wrong with the text after the token of a directive -/
inductive Faulty : DirectiveKind → List Char → DirectiveFault → Prop
  | missingPath : Faulty .router [] .missingPath
  | missingCode {kind : DirectiveKind} (response : IsResponse kind) : Faulty kind [] .missingCode
  | nonIntegerCode {kind : DirectiveKind} {rest token : List Char} {others : List (List Char)}
    (response : IsResponse kind) (written : words rest = token :: others) (number : Numeral.integer? token = none) :
    Faulty kind rest (.nonIntegerCode (String.ofList token))
  | missingType {rest token marker : List Char} {code : Int} (written : words rest = [token, marker])
    (number : Numeral.integer? token = some code) (marked : IsMarker marker) :
    Faulty .success rest (.missingType (String.ofList marker))
  | malformedParam {rest : List Char} (nowhere : ∀ n p after, ¬ ParamParts.StandsAt p (rest.drop n) after) :
    Faulty .param rest .malformedParam

variable {kind : DirectiveKind}

theorem parse_of_faulty (h : Faulty kind rest fault) : parse kind rest = .error fault := by
  cases h with
  | missingPath => rfl
  | missingCode response => rcases response with rfl | rfl <;> rfl
  | nonIntegerCode response written number =>
    rcases response with rfl | rfl
    · rw [parse, parseSuccess, written]
      simp only [parseCode, number]
      rfl
    · rw [parse, parseFailure_eq, written]
      simp only [parseCode, number]
      rfl
  | missingType written number marked =>
    rw [parse, parseSuccess, written]
    simp only [parseCode, number]
    exact if_pos marked
  | malformedParam nowhere => rw [parse, parseParam, ParamParts.findParam?_eq_none_iff.2 nowhere]

theorem faulty_of_parse (htrim : trim rest = rest) (h : parse kind rest = .error fault) : Faulty kind rest fault := by
  have hempty (written : words rest = []) : rest = [] := eq_nil_of_blanks htrim (words_eq_nil_iff.1 written)
  cases kind with
  | router =>
    by_cases hblanks : Blanks rest
    · obtain rfl := eq_nil_of_blanks htrim hblanks
      cases h
      exact .missingPath
    · rw [parse, parseRouter_eq hblanks] at h
      cases h
  | success =>
    have hreads := successReads_parseSuccess rest
    rw [parse] at h
    rw [h] at hreads
    cases hreads with
    | empty written =>
      obtain rfl := hempty written
      exact .missingCode (.inl rfl)
    | nonInteger written number => exact .nonIntegerCode (.inl rfl) written number
    | missingType written number marked => exact .missingType written number marked
  | failure =>
    rw [parse, parseFailure_eq] at h
    split at h
    · next written =>
      obtain rfl := hempty written
      cases h
      exact .missingCode (.inr rfl)
    · next token others written =>
      cases number : Numeral.integer? token with
      | none =>
        simp only [parseCode, number] at h
        cases h
        exact .nonIntegerCode (.inr rfl) written number
      | some code =>
        simp only [parseCode, number] at h
        cases h
  | param =>
    rw [parse, parseParam] at h
    split at h
    · cases h
    · next hnone =>
      cases h
      exact .malformedParam (ParamParts.findParam?_eq_none_iff.1 hnone)
  | title => cases h
  | description => cases h
  | accept => cases h

/-- **Faults.** A trimmed text after a token can not be read just if it has one of the five faults. -/
theorem parse_error_iff (htrim : trim rest = rest) : parse kind rest = .error fault ↔ Faulty kind rest fault :=
  ⟨faulty_of_parse htrim, parse_of_faulty⟩

/-! ## Lines -/

variable {raw : String}

/-- a line holds a directive just if its text after the token is read as that one -/
theorem ofLine_ok_iff {directive : Directive} : ofLine raw = some (.ok directive) ↔
    ∃ kind rest, dispatch (stripMarker raw.toList) = some (kind, rest) ∧ parse kind rest = .ok directive := by
  constructor
  · intro h
    obtain ⟨⟨kind, rest⟩, hline, hparse⟩ := Option.map_eq_some_iff.1 h
    dsimp only at hparse
    cases hread : parse kind rest with
    | error fault => rw [hread] at hparse; cases hparse
    | ok directive' =>
      rw [hread] at hparse
      obtain rfl := Except.ok.inj hparse
      exact ⟨kind, rest, hline, hread⟩
  · rintro ⟨kind, rest, hline, hread⟩
    rw [ofLine_eq hline, hread]
    rfl

/-- **Lines that can not be read.** They are those whose text after the token has a fault. -/
theorem ofLine_error_iff {err : DirectiveError} : ofLine raw = some (.error err) ↔
    ∃ kind rest fault, dispatch (stripMarker raw.toList) = some (kind, rest) ∧ Faulty kind rest fault ∧
      err = ⟨kind, String.ofList (stripMarker raw.toList), fault⟩ := by
  constructor
  · intro h
    obtain ⟨⟨kind, rest⟩, hline, hparse⟩ := Option.map_eq_some_iff.1 h
    dsimp only at hparse
    cases hread : parse kind rest with
    | error fault =>
      rw [hread] at hparse
      cases hparse
      exact ⟨kind, rest, fault, hline, faulty_of_parse (trim_of_dispatch hline) hread, rfl⟩
    | ok directive => rw [hread] at hparse; cases hparse
  · rintro ⟨kind, rest, fault, hline, hfaulty, rfl⟩
    rw [ofLine_eq hline, parse_of_faulty hfaulty]
    rfl

/-- a line names the type that its text does -/
theorem ofLine_typed_iff {ref : String} :
    (∃ code isArray, ofLine raw = some (.ok (.successType code isArray ref))) ↔
    ∃ rest, dispatch (stripMarker raw.toList) = some (.success, rest) ∧ NamesType rest ref := by
  constructor
  · rintro ⟨code, isArray, h⟩
    obtain ⟨kind, rest, hline, hread⟩ := ofLine_ok_iff.1 h
    obtain ⟨rfl, hnames⟩ := typed_iff_namesType.1 ⟨code, isArray, hread⟩
    exact ⟨rest, hline, hnames⟩
  · rintro ⟨rest, hline, hnames⟩
    obtain ⟨code, isArray, hread⟩ := typed_iff_namesType.2 ⟨rfl, hnames⟩
    exact ⟨code, isArray, ofLine_ok_iff.2 ⟨_, rest, hline, hread⟩⟩

end Directive

end RouteDocs
