/-
Directives as they are written, and that a line is read as the directive written on it.

A clause is what the author of a comment means to say. It can be written in many ways: blanks, the marker in front, the
digits of a code and the brackets around a method are free.

- `Clause.parse_of_writes`: the text after the token of a directive is read as the clause written there.
- `Clause.ofLine_of_renders`: a comment line is read as the clause written on it.
- `Clause.exists_renders`: every well-formed clause can be written.
- `ofLine_of_prose`: a line that begins with no token is read as prose.
-/
import RouteDocs.Operation.Directive
import RouteDocs.Proofs.Numeral.Integer

namespace RouteDocs

open Text

/-! ## Clauses -/

/-- a directive as its author means it -/
inductive Clause where
  | router (path : String) (method : Option String)
  | title (text : String)
  | description (text : String)
  | param (name paramType dataType required description : String)
  | failure (code : Int) (message : String)
  /-- a response with a message; its first word is left out if there are others -/
  | successMessage (code : Int) (literal : String) (others : List String)
  /-- a response whose body is of a type, or an array of it -/
  | successType (code : Int) (isArray : Bool) (ref : String)
  | accept (tokens : List String)
deriving DecidableEq

namespace Clause

/-- the kind of directive that a clause is written as -/
def kind : Clause → DirectiveKind
  | router .. => .router
  | title .. => .title
  | description .. => .description
  | param .. => .param
  | failure .. => .failure
  | successMessage .. | successType .. => .success
  | accept .. => .accept

def meaning : Clause → Directive
  | router path method => .router path ((method.map fun m => String.ofList (upper m.toList)).getD "GET")
  | title text => .title text
  | description text => .description text
  | param name paramType dataType required text =>
    .param name paramType dataType (Directive.isTrue required.toList) text
  | failure code message => .failure code message
  | successMessage code literal [] => .successMessage code literal
  | successMessage code _ others => .successMessage code (" ".intercalate others)
  | successType code isArray ref => .successType code isArray ref
  | accept tokens => .accept (tokens.filter (· ≠ ""))

end Clause

/-- a text that is not empty and has characters of one class only -/
structure MadeOf (p : Char → Bool) (s : List Char) : Prop where
  nonempty : s ≠ []
  all : ∀ c ∈ s, p c = true

instance (p : Char → Bool) (s : List Char) : Decidable (MadeOf p s) :=
  decidable_of_iff (s ≠ [] ∧ s.all p = true)
    ⟨fun h => ⟨h.1, List.all_eq_true.1 h.2⟩, fun h => ⟨h.nonempty, List.all_eq_true.2 h.all⟩⟩

/-- a token of a spaced text has blanks before it -/
theorem Text.Spaced.gap {t s : List Char} {ts : List (List Char)} (h : Spaced (t :: ts) s) :
    ∃ gap rest, MadeOf isBlank gap ∧ Spaced ts rest ∧ s = gap ++ (t ++ rest) := by
  cases h with
  | @cons gap _ rest _ blanks apart hrest => exact ⟨gap, rest, ⟨apart, blanks⟩, hrest, rfl⟩

/-- can a clause be written, and be told from other clauses? -/
def Clause.WellFormed : Clause → Prop
  | .router path method =>
    Solid path.toList ∧ ∀ m ∈ method, MadeOf (fun c => !isBlank c && !Directive.isBracket c) m.toList
  | .title text | .description text => trim text.toList = text.toList
  | .param name paramType dataType required text =>
    MadeOf isWord name.toList ∧ MadeOf isWord paramType.toList ∧ MadeOf Directive.isTypeChar dataType.toList ∧
      MadeOf isWord required.toList ∧ text ≠ "" ∧ '"' ∉ text.toList
  | .failure code message => Numeral.Short code ∧ trim message.toList = message.toList
  | .successMessage code literal others =>
    Numeral.Short code ∧ Solid literal.toList ∧ literal.toList ≠ Directive.objectMarker ∧
      literal.toList ≠ Directive.arrayMarker ∧ ∀ w ∈ others, Solid w.toList
  | .successType code _ ref => Numeral.Short code ∧ Solid ref.toList
  | .accept tokens => ∀ t ∈ tokens, trim t.toList = t.toList ∧ ',' ∉ t.toList

instance (c : Clause) : Decidable c.WellFormed := by
  cases c <;> dsimp only [Clause.WellFormed] <;> infer_instance

/-! ## Ways to write a clause -/

def textTokens (text : String) : List (List Char) := if text = "" then [] else [text.toList]

def typeMarker (isArray : Bool) : List Char := if isArray then Directive.arrayMarker else Directive.objectMarker

/-- the texts that may stand after the token of a directive -/
def Clause.Writes : Clause → List Char → Prop
  | .router path none, s => Spaced [path.toList] s
  | .router path (some method), s =>
    ∃ left right, (∀ c ∈ left ++ right, Directive.isBracket c = true) ∧
      Spaced [path.toList, left ++ (method.toList ++ right)] s
  | .title text, s | .description text, s => Spaced (textTokens text) s
  | .param name paramType dataType required text, s =>
    Spaced [name.toList, paramType.toList, dataType.toList, required.toList, '"' :: (text.toList ++ ['"'])] s
  | .failure code message, s => ∃ digits, Numeral.Spells digits code ∧ Spaced (digits :: textTokens message) s
  | .successMessage code literal others, s =>
    ∃ digits, Numeral.Spells digits code ∧ Spaced (digits :: literal.toList :: others.map String.toList) s
  | .successType code isArray ref, s =>
    ∃ digits, Numeral.Spells digits code ∧ Spaced [digits, typeMarker isArray, ref.toList] s
  | .accept tokens, s => (∀ c ∈ s.head?, isBlank c = true) ∧ Listed ',' (tokens.map String.toList) s

/-- a comment line that has a text after the token of a kind: it may be indented, and may have a marker in front -/
def Begins (kind : DirectiveKind) (raw : String) (text : List Char) : Prop :=
  ∃ indent marker gap, Blanks indent ∧ (∀ c ∈ marker, c = '#' ∨ c = '/') ∧ Blanks gap ∧
    raw.toList = indent ++ (marker ++ (gap ++ (kind.token.toList ++ text)))

/-- a comment line that a clause is written on -/
def Clause.Renders (c : Clause) (raw : String) : Prop := ∃ text, Begins c.kind raw text ∧ c.Writes text

/-- a comment line whose first word, after the marker, is the token of no directive -/
def Prose (raw : String) : Prop :=
  ∀ kind : DirectiveKind, (words (stripMarker raw.toList)).head? ≠ some kind.token.toList

/-! ## Lines -/

namespace DirectiveKind

theorem ofToken?_token (kind : DirectiveKind) : ofToken? kind.token.toList = some kind := by
  cases kind <;> decide

theorem token_of_ofToken? {kind : DirectiveKind} {token : List Char} (h : ofToken? token = some kind) :
    kind.token.toList = token := by
  have := List.find?_some h
  exact beq_iff_eq.1 this

/-- a token begins with a sign that is neither blank nor part of a marker -/
theorem token_head (kind : DirectiveKind) : ∃ rest, kind.token.toList = '@' :: rest := by
  cases kind <;> exact ⟨_, rfl⟩

theorem solid_token (kind : DirectiveKind) : Solid kind.token.toList := by
  cases kind <;> decide

end DirectiveKind

/-- a run of marks is dropped up to a text that is not more of it, whatever blanks stand between them -/
theorem dropMarker {marker gap : List Char} {c : Char} {body : List Char}
    (hmarker : ∀ m ∈ marker, m = '#' ∨ m = '/')
    (hgap : Blanks gap) (hc : (c == '#' || c == '/') = false) :
    (marker ++ (gap ++ c :: body)).dropWhile (fun m => m == '#' || m == '/') = gap ++ c :: body := by
  refine dropWhile_run (by simpa using hmarker) fun m hm => ?_
  cases gap with
  | nil =>
    cases hm
    exact hc
  | cons g gap =>
    cases hm
    have hblank : isBlank m = true := hgap m List.mem_cons_self
    refine Bool.eq_false_iff.2 fun hmark => ?_
    rcases Bool.or_eq_true_iff.1 hmark with h | h <;> rw [beq_iff_eq.1 h] at hblank <;> cases hblank

/-- a marker is taken off in front of a text that does not look like more of it -/
theorem stripMarker_append {indent marker gap : List Char} {c : Char} {body : List Char} (hindent : Blanks indent)
    (hmarker : ∀ m ∈ marker, m = '#' ∨ m = '/') (hgap : Blanks gap) (hblank : isBlank c = false)
    (hc : (c == '#' || c == '/') = false) :
    stripMarker (indent ++ (marker ++ (gap ++ c :: body))) = trim (c :: body) := by
  rw [stripMarker, trim_append_left hindent]
  cases marker with
  | nil =>
    -- without a marker, the gap is more of the indentation
    rw [List.nil_append, trim_append_left hgap, trim_cons hblank, List.dropWhile_cons_of_neg (by simp [hc]),
      ← trim_cons hblank, trim_trim]
  | cons m marker =>
    have hm : isBlank m = false := by rcases hmarker m List.mem_cons_self with rfl | rfl <;> decide
    have htrim : trim (m :: marker ++ (gap ++ c :: body)) = m :: marker ++ (gap ++ trim (c :: body)) := by
      have := trim_between hm hblank (marker ++ gap) body
      simpa using this
    rw [htrim, trim_cons hblank, dropMarker hmarker hgap hc, trim_append_left hgap, ← trim_cons hblank, trim_trim]

/-- the kind of a line that begins with the token of a kind, and the text after it -/
theorem dispatch_of_begins {kind : DirectiveKind} {raw : String} {text : List Char} (h : Begins kind raw text)
    (hstarts : ∀ c ∈ text.head?, isBlank c = true) :
    Directive.dispatch (stripMarker raw.toList) = some (kind, trim text) := by
  obtain ⟨indent, marker, gap, hindent, hmarker, hgap, hraw⟩ := h
  have hsolid := kind.solid_token
  have hline : stripMarker raw.toList = kind.token.toList ++ dropWhileEnd isBlank text := by
    obtain ⟨rest, hrest⟩ := kind.token_head
    have hstrip : stripMarker (indent ++ (marker ++ (gap ++ '@' :: (rest ++ text)))) = trim ('@' :: (rest ++ text)) :=
      stripMarker_append hindent hmarker hgap (by decide) (by decide)
    rw [← List.cons_append, ← hrest] at hstrip
    rw [hraw, hstrip, trim, trimWhile, hsolid.token.dropWhile_append,
      dropWhileEnd_append (dropWhileEnd_eq_self_of_trim hsolid.token.trimmed)]
  -- the end of the text is cut off, but not its front
  have hcut : ∀ c ∈ (dropWhileEnd isBlank text).head?, isBlank c = true := by
    intro c hc
    rw [dropWhileEnd_eq_rdropWhile] at hc
    obtain ⟨blanks, hblanks⟩ := List.rdropWhile_prefix isBlank text
    have hhead : c ∈ text.head? := by
      rw [← hblanks, List.head?_append, Option.mem_def.1 hc]
      rfl
    exact hstarts c hhead
  obtain ⟨htake, hdrop⟩ := hsolid.cut hcut
  rw [Directive.dispatch, hline, htake, hdrop, kind.ofToken?_token, Option.map_some, trim_dropWhileEnd]

/-! ## The grammars of the directives -/

theorem MadeOf.solid {p : Char → Bool} (hp : ∀ c, p c = true → isBlank c = false) {s : List Char}
    (h : MadeOf p s) :
    Solid s := ⟨h.nonempty, fun c hc => hp c (h.all c hc)⟩

theorem textTokens_token {text : String} (h : trim text.toList = text.toList) : ∀ t ∈ textTokens text, Token t := by
  intro t ht
  rw [textTokens] at ht
  split at ht
  · cases ht
  · next hne =>
    obtain rfl := List.mem_singleton.1 ht
    exact ⟨by simpa using hne, h⟩

/-- a text that may be empty is what is left when the blanks around it are dropped -/
theorem trim_textTokens {text : String} (h : trim text.toList = text.toList) {s : List Char}
    (hs : Spaced (textTokens text) s) : trim s = text.toList := by
  rw [textTokens] at hs
  split at hs
  · next hempty => rw [hs.trim_nil, hempty]; rfl
  · exact hs.trim_singleton h

namespace Directive

theorem isBlank_of_isBracket {c : Char} (h : isBracket c = true) : isBlank c = false :=
  isBlank_of_class (by decide) h

theorem isBlank_of_isTypeChar {c : Char} (h : isTypeChar c = true) : isBlank c = false :=
  isBlank_of_class (by decide +kernel) h

/-- a run of a class is read with the blanks after it -/
theorem spaced?_gap {p : Char → Bool} (hp : ∀ c, p c = true → isBlank c = false) {w gap rest : List Char}
    (hw : MadeOf p w) (hgap : MadeOf isBlank gap) (hrest : rest.dropWhile isBlank = rest) :
    spaced? p (w ++ (gap ++ rest)) = some (w, rest) := by
  have hstop : ∀ c ∈ (gap ++ rest).head?, p c = false := by
    intro c hc
    rw [List.head?_append_of_ne_nil _ hgap.nonempty] at hc
    refine Bool.eq_false_iff.2 fun hpc => ?_
    have hblank := hgap.all c (List.mem_of_mem_head? hc)
    rw [hp c hpc] at hblank
    cases hblank
  have hafter : (gap ++ rest).dropWhile isBlank = rest := by rw [List.dropWhile_append_of_pos hgap.all, hrest]
  rw [spaced?, takeWhile_run hw.all hstop, dropWhile_run hw.all hstop, hafter, if_neg]
  simp [hw.nonempty, hgap.nonempty]

/-- a quoted text is read up to its second quote -/
theorem quoted_run {description : List Char} (hquote : '"' ∉ description) (rest : List Char) :
    (description ++ '"' :: rest).takeWhile (· != '"') = description ∧
      (description ++ '"' :: rest).dropWhile (· != '"') = '"' :: rest := by
  have hrun : ∀ c ∈ description, (c != '"') = true := fun c hc => bne_iff_ne.2 fun h => hquote (h ▸ hc)
  exact ⟨takeWhile_run hrun (by simp), dropWhile_run hrun (by simp)⟩

theorem token_quoted (text : List Char) : Token ('"' :: (text ++ ['"'])) :=
  ⟨by simp, trim_bracketed (by decide) (by decide) text⟩

/-- the five parts of a parameter are read at the front of a text, whatever comes after them -/
theorem paramAt?_parts {name paramType dataType required description g₁ g₂ g₃ g₄ : List Char}
    (hname : MadeOf isWord name) (hparamType : MadeOf isWord paramType) (hdataType : MadeOf isTypeChar dataType)
    (hrequired : MadeOf isWord required) (hne : description ≠ []) (hquote : '"' ∉ description)
    (hgaps : ∀ g ∈ [g₁, g₂, g₃, g₄], MadeOf isBlank g) (after : List Char) :
    paramAt? (name ++ (g₁ ++ (paramType ++ (g₂ ++ (dataType ++ (g₃ ++ (required ++ (g₄ ++ '"' :: (description
        ++ '"' :: after)))))))))
      = some (.param (String.ofList name) (String.ofList paramType) (String.ofList dataType) (isTrue required)
        (String.ofList description)) := by
  have hword : ∀ c, isWord c = true → isBlank c = false := fun _ => isBlank_of_isWord
  have htype : ∀ c, isTypeChar c = true → isBlank c = false := fun _ => isBlank_of_isTypeChar
  obtain ⟨hg₁, hg₂, hg₃, hg₄⟩ : MadeOf isBlank g₁ ∧ MadeOf isBlank g₂ ∧ MadeOf isBlank g₃ ∧
    MadeOf isBlank g₄ := by
    simpa using hgaps
  have hopen : ∀ s : List Char, ('"' :: s).dropWhile isBlank = '"' :: s :=
    fun s => List.dropWhile_cons_of_neg (by decide)
  obtain ⟨htake, hdrop⟩ := quoted_run hquote after
  rw [paramAt?, spaced?_gap hword hname hg₁ ((hparamType.solid hword).token.dropWhile_append _), Option.bind_eq_bind,
    Option.bind_some]
  dsimp only
  rw [spaced?_gap hword hparamType hg₂ ((hdataType.solid htype).token.dropWhile_append _), Option.bind_some]
  dsimp only
  rw [spaced?_gap htype hdataType hg₃ ((hrequired.solid hword).token.dropWhile_append _), Option.bind_some]
  dsimp only
  rw [spaced?_gap hword hrequired hg₄ (hopen _), Option.bind_some]
  simp [htake, hdrop, hne]

/-- so they are if the text is spaced -/
theorem paramAt?_spaced {name paramType dataType required description s : List Char} (hname : MadeOf isWord name)
    (hparamType : MadeOf isWord paramType) (hdataType : MadeOf isTypeChar dataType) (hrequired : MadeOf isWord required)
    (hne : description ≠ []) (hquote : '"' ∉ description)
    (hs : Spaced [paramType, dataType, required, '"' :: (description ++ ['"'])] s) :
    paramAt? (name ++ s) = some (.param (String.ofList name) (String.ofList paramType) (String.ofList dataType)
      (isTrue required) (String.ofList description)) := by
  obtain ⟨g₁, s₁, hg₁, hs₁, rfl⟩ := hs.gap
  obtain ⟨g₂, s₂, hg₂, hs₂, rfl⟩ := hs₁.gap
  obtain ⟨g₃, s₃, hg₃, hs₃, rfl⟩ := hs₂.gap
  obtain ⟨g₄, after, hg₄, -, rfl⟩ := hs₃.gap
  have hgaps : ∀ g ∈ [g₁, g₂, g₃, g₄], MadeOf isBlank g := by simpa using ⟨hg₁, hg₂, hg₃, hg₄⟩
  have hread := paramAt?_parts hname hparamType hdataType hrequired hne hquote hgaps after
  simpa using hread

/-- a spelled code is read, and reading goes on -/
theorem parseCode_bind {digits : List Char} {code : Int} (h : Numeral.Spells digits code)
    (next : Int → Except DirectiveFault Directive) : (parseCode digits >>= next) = next code := by
  rw [parseCode, Numeral.integer?_of_spells h]
  rfl

end Directive

namespace Clause

open Directive

variable {s : List Char}

theorem parse_router {path : String} {method : Option String} (h : (router path method).WellFormed)
    (hs : (router path method).Writes s) : parseRouter (trim s) = .ok (router path method).meaning := by
  obtain ⟨hpath, hmethod⟩ := h
  cases method with
  | none =>
    have hwords : words (trim s) = [path.toList] := hs.words_trim (by simpa using hpath)
    rw [parseRouter, hwords]
    simp [meaning]
  | some method =>
    obtain ⟨left, right, hbrackets, hs⟩ := hs
    have hmade := hmethod method rfl
    have hsolid : Solid method.toList := hmade.solid fun c hc => by simpa using (Bool.and_eq_true_iff.1 hc).1
    have hplain : ∀ c ∈ method.toList, isBracket c = false :=
      fun c hc => by simpa using (Bool.and_eq_true_iff.1 (hmade.all c hc)).2
    obtain ⟨hleft, hright⟩ := List.forall_mem_append.1 hbrackets
    have hword : Solid (left ++ (method.toList ++ right)) := by
      refine ⟨by simp [hsolid.nonempty], fun c hc => ?_⟩
      rcases List.mem_append.1 hc with hc | hc
      · exact isBlank_of_isBracket (hleft c hc)
      · rcases List.mem_append.1 hc with hc | hc
        · exact hsolid.unbroken c hc
        · exact isBlank_of_isBracket (hright c hc)
    have hwords := hs.words_trim (by simpa using ⟨hpath, hword⟩)
    rw [parseRouter, hwords]
    dsimp only
    rw [trimWhile_surrounded hleft hplain hright]
    simp [meaning]

theorem parse_param {name paramType dataType required text : String}
    (h : (param name paramType dataType required text).WellFormed)
    (hs : (param name paramType dataType required text).Writes s) :
    parseParam (trim s) = .ok (param name paramType dataType required text).meaning := by
  obtain ⟨hname, hparamType, hdataType, hrequired, hne, hquote⟩ := h
  have hword : ∀ c, isWord c = true → isBlank c = false := fun _ => isBlank_of_isWord
  have htokens : ∀ t ∈ [name.toList, paramType.toList, dataType.toList, required.toList,
      '"' :: (text.toList ++ ['"'])], Token t := by
    simpa using ⟨(hname.solid hword).token, (hparamType.solid hword).token,
      (hdataType.solid fun _ => isBlank_of_isTypeChar).token, (hrequired.solid hword).token, token_quoted _⟩
  obtain ⟨rest, hrest, hspaced⟩ := Spaced.trim hs htokens
  have hread := paramAt?_spaced hname hparamType hdataType hrequired (by simpa using hne) hquote hspaced
  rw [parseParam, hrest]
  -- the parts stand at the front of the text
  have hfind : ∀ {u : List Char} {d}, u ≠ [] → paramAt? u = some d → findParam? u = some d := by
    intro u d hu hd
    cases u with
    | nil => exact absurd rfl hu
    | cons c u => rw [findParam?, hd, Option.some_or]
  rw [hfind (by simp [hname.nonempty]) hread]
  simp [meaning]

theorem parse_failure {code : Int} {message : String} (h : (failure code message).WellFormed)
    (hs : (failure code message).Writes s) : parseFailure (trim s) = .ok (failure code message).meaning := by
  obtain ⟨digits, hdigits, hs⟩ := hs
  have hsolid := hdigits.solid
  obtain ⟨rest, hfirst, hrest⟩ := hs.firstWord_trim hsolid (textTokens_token h.2)
  have hmessage : trim (rest.dropWhile isBlank) = message.toList := by rw [trim_dropWhile, trim_textTokens h.2 hrest]
  rw [parseFailure, hfirst]
  cases digits with
  | nil => exact absurd rfl hsolid.nonempty
  | cons c digits =>
    dsimp only
    rw [parseCode_bind hdigits, hmessage, String.ofList_toList]
    rfl

theorem parse_successMessage {code : Int} {literal : String} {others : List String}
    (h : (successMessage code literal others).WellFormed) (hs : (successMessage code literal others).Writes s) :
    parseSuccess (trim s) = .ok (successMessage code literal others).meaning := by
  obtain ⟨-, hliteral, hobject, harray, hothers⟩ := h
  obtain ⟨digits, hdigits, hs⟩ := hs
  have hwords := hs.words_trim (by simpa using ⟨hdigits.solid, hliteral, hothers⟩)
  have hmarker : ¬(literal.toList = objectMarker ∨ literal.toList = arrayMarker) := by simp [hobject, harray]
  rw [parseSuccess, hwords]
  dsimp only
  rw [parseCode_bind hdigits, if_neg hmarker]
  cases others with
  | nil => rw [String.ofList_toList]; rfl
  | cons w others =>
    have hjoin : String.ofList (join [' '] ((w :: others).map String.toList)) = " ".intercalate (w :: others) := by
      rw [← String.toList_inj, String.toList_ofList, String.toList_intercalate]
      rfl
    rw [meaning, ← hjoin]
    · rfl
    · simp

theorem parse_successType {code : Int} {isArray : Bool} {ref : String}
    (h : (successType code isArray ref).WellFormed) (hs : (successType code isArray ref).Writes s) :
    parseSuccess (trim s) = .ok (successType code isArray ref).meaning := by
  obtain ⟨-, hsolid⟩ := h
  obtain ⟨digits, hdigits, hs⟩ := hs
  have hmarker : Solid (typeMarker isArray) := by
    cases isArray <;> decide
  have htyped : typeMarker isArray = objectMarker ∨ typeMarker isArray = arrayMarker := by
    cases isArray <;> simp [typeMarker]
  have harray : decide (typeMarker isArray = arrayMarker) = isArray := by
    cases isArray <;> decide
  have hwords := hs.words_trim (by simpa using ⟨hdigits.solid, hmarker, hsolid⟩)
  rw [parseSuccess, hwords]
  dsimp only
  rw [parseCode_bind hdigits, if_pos htyped, harray, String.ofList_toList]
  rfl

theorem parse_accept {tokens : List String} (h : (accept tokens).WellFormed) (hs : (accept tokens).Writes s) :
    parseAccept (trim s) = (accept tokens).meaning := by
  have htrim : ∀ t ∈ tokens.map String.toList, trim t = t := by
    simpa using fun t ht => (h t ht).1
  have hplain : ∀ t ∈ tokens.map String.toList, ',' ∉ t := by
    simpa using fun t ht => (h t ht).2
  have hback : String.ofList ∘ String.toList = id := funext fun t => String.ofList_toList
  have hempty : ((fun t : List Char => !t.isEmpty) ∘ String.toList) = fun t => decide (t ≠ "") := by
    funext t
    by_cases ht : t = "" <;> simp [ht]
  rw [parseAccept, hs.2.tokens_trim (by decide) htrim hplain, meaning, List.filter_map, List.map_map, hback,
    List.map_id, hempty]

/-- **Grammars.** The text after the token of a directive is read as the clause that is written there. -/
theorem parse_of_writes {c : Clause} (h : c.WellFormed) (hs : c.Writes s) :
    parse c.kind (trim s) = .ok c.meaning := by
  cases c with
  | router path method => exact parse_router h hs
  | title text => exact congrArg Except.ok (by rw [trim_textTokens h hs, String.ofList_toList, meaning])
  | description text => exact congrArg Except.ok (by rw [trim_textTokens h hs, String.ofList_toList, meaning])
  | param name paramType dataType required text => exact parse_param h hs
  | failure code message => exact parse_failure h hs
  | successMessage code literal others => exact parse_successMessage h hs
  | successType code isArray ref => exact parse_successType h hs
  | accept tokens => exact congrArg Except.ok (parse_accept h hs)

/-- the text after the token of a directive does not go on with the token -/
theorem Writes.starts {c : Clause} (hs : c.Writes s) : ∀ x ∈ s.head?, isBlank x = true := by
  cases c with
  | router path method =>
    cases method with
    | none => exact Spaced.starts hs
    | some method =>
      obtain ⟨left, right, -, hs⟩ := hs
      exact hs.starts
  | title text => exact Spaced.starts hs
  | description text => exact Spaced.starts hs
  | param name paramType dataType required text => exact Spaced.starts hs
  | failure code message => exact Exists.elim hs fun _ h => h.2.starts
  | successMessage code literal others => exact Exists.elim hs fun _ h => h.2.starts
  | successType code isArray ref => exact Exists.elim hs fun _ h => h.2.starts
  | accept tokens => exact hs.1

/-- every well-formed clause can be written -/
theorem exists_renders {c : Clause} (h : c.WellFormed) : ∃ raw, c.Renders raw := by
  have hwrites : ∃ text, c.Writes text := by
    cases c with
    | router path method =>
      cases method with
      | none => exact exists_spaced _
      | some method =>
        obtain ⟨text, htext⟩ := exists_spaced [path.toList, [] ++ (method.toList ++ [])]
        exact ⟨text, [], [], List.forall_mem_nil _, htext⟩
    | title text => exact exists_spaced _
    | description text => exact exists_spaced _
    | param name paramType dataType required text => exact exists_spaced _
    | failure code message =>
      exact (exists_spaced _).imp fun _ hs => ⟨_, Numeral.spells_decimalInt code h.1, hs⟩
    | successMessage code literal others =>
      exact (exists_spaced _).imp fun _ hs => ⟨_, Numeral.spells_decimalInt code h.1, hs⟩
    | successType code isArray ref =>
      exact (exists_spaced _).imp fun _ hs => ⟨_, Numeral.spells_decimalInt code h.1, hs⟩
    | accept tokens => exact exists_listed ',' _
  obtain ⟨text, htext⟩ := hwrites
  exact ⟨String.ofList (c.kind.token.toList ++ text), text,
    ⟨[], [], [], List.forall_mem_nil _, List.forall_mem_nil _, List.forall_mem_nil _, String.toList_ofList⟩,
    htext⟩

/-- **Lines.** A comment line is read as the clause that is written on it. -/
theorem ofLine_of_renders {c : Clause} {raw : String} (h : c.WellFormed) (hraw : c.Renders raw) :
    Directive.ofLine raw = some (.ok c.meaning) := by
  obtain ⟨text, hbegins, hwrites⟩ := hraw
  rw [Directive.ofLine]
  dsimp only
  rw [dispatch_of_begins hbegins hwrites.starts, Option.map_some]
  dsimp only
  rw [parse_of_writes h hwrites]
  rfl

end Clause

/-- **Prose.** A line that begins with the token of no directive is passed over. -/
theorem ofLine_of_prose {raw : String} (h : Prose raw) : Directive.ofLine raw = none := by
  have hprose : DirectiveKind.ofToken? ((stripMarker raw.toList).takeWhile (!isBlank ·)) = none := by
    cases hkind : DirectiveKind.ofToken? ((stripMarker raw.toList).takeWhile (!isBlank ·)) with
    | none => rfl
    | some kind =>
      -- the token would be the first word of the line
      have htoken := DirectiveKind.token_of_ofToken? hkind
      have hstop : ∀ c ∈ ((stripMarker raw.toList).dropWhile (!isBlank ·)).head?, isBlank c = true := by
        intro c hc
        simpa using dropWhile_stop hc
      have hwords := words_append kind.solid_token hstop
      rw [htoken, List.takeWhile_append_dropWhile] at hwords
      refine absurd ?_ (h kind)
      rw [hwords, List.head?_cons, htoken]
  rw [Directive.ofLine]
  dsimp only
  rw [Directive.dispatch, hprose]
  rfl

end RouteDocs
