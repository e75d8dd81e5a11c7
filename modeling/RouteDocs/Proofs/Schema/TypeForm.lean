/-
The grammar of type expressions, and what an expression comes down to.

- `TypeExpr.Form`: type expressions as trees, each with its text and with what the path through it comes down to.
- `TypeExpr.Form.reads`: a text is reduced to what its path comes down to, whatever may follow it.
- `elementType_of_form`: the element of every type expression is found.
- `elementType_hiddenNone`: unions in which an expression that hides a `None` is taken for one.
-/
import RouteDocs.Proofs.Schema.Reduction

namespace RouteDocs.Schema

open Text

namespace TypeExpr

/-! ## Names and heads -/

def Head.words : Head → List String
  | .transparent => ["Optional", "Annotated"]
  | .union => ["Union"]
  | .array => arrayNames
  | .mapping => mappingNames
  | .literal => ["Literal"]
  | .other => []

/-- one of the words for a head, perhaps with a dotted name in front -/
structure Word (h : Head) where
  qualifier : List Char
  word : String
  named : ∀ c ∈ qualifier, isNameChar c = true
  qualifies : Qualifies qualifier
  known : word ∈ h.words

def Word.text {h : Head} (w : Word h) : List Char := w.qualifier ++ w.word.toList

/-- a character without any meaning of its own in an expression -/
def isOrdinary (c : Char) : Bool := isEdge c && isPlain c && isOther '|' c && isOther ',' c

/-- a name that is neither `None` nor one of a container -/
structure Name where
  text : List Char
  nonempty : text ≠ []
  ordinary : ∀ c ∈ text, isOrdinary c = true
  visible : text ≠ noneName
  simple : String.ofList (bareName text) ∉ arrayNames ++ mappingNames

/-- a head of no known meaning, perhaps with the module of the known ones in front -/
structure Generic where
  inTyping : Bool
  name : List Char
  nonempty : name ≠ []
  named : ∀ c ∈ name, isNameChar c = true
  other : ∀ h : Head, String.ofList (bareName name) ∉ h.words
  direct : inTyping = false → typingPrefix <+: name → name = typingPrefix

def Generic.text (g : Generic) : List Char := if g.inTyping then typingPrefix ++ g.name else g.name

theorem Head.ofName_words (h : Head) : ∀ w ∈ h.words, Head.ofName w.toList = h ∧ w.toList ≠ [] ∧
    ∀ c ∈ w.toList, isNameChar c = true ∧ c ≠ '.' := by
  have hall : h.words.all (fun w => decide (Head.ofName w.toList = h) && !w.toList.isEmpty &&
      w.toList.all fun c => isNameChar c && c != '.') = true := by
    cases h <;> decide +kernel
  simpa [List.all_eq_true, and_assoc] using hall

/-- every word has its meaning -/
theorem Head.mem_words (name : List Char) :
    Head.ofName name = .other ∨ String.ofList name ∈ (Head.ofName name).words := by
  unfold Head.ofName
  dsimp only
  split
  · next h => exact Or.inr (by simpa [words] using h)
  · split
    · next h => exact Or.inr (by simpa [words] using h)
    · split
      · next h => exact Or.inr h
      · split
        · next h => exact Or.inr h
        · split
          · next h => exact Or.inr (by simpa [words] using h)
          · exact Or.inl rfl

/-- a text of name characters that is not empty -/
structure Named (t : List Char) : Prop where
  nonempty : t ≠ []
  named : ∀ c ∈ t, isNameChar c = true

theorem Word.named_text {h : Head} (w : Word h) : Named w.text := by
  obtain ⟨-, hne, hchars⟩ := h.ofName_words w.word w.known
  refine ⟨by simp [Word.text, hne], fun c hc => ?_⟩
  rcases List.mem_append.1 hc with hc | hc
  · exact w.named c hc
  · exact (hchars c hc).1

theorem Word.head_text {h : Head} (w : Word h) : Head.ofName (bareName w.text) = h := by
  obtain ⟨hword, -, hchars⟩ := h.ofName_words w.word w.known
  have hdot : '.' ∉ w.word.toList := fun hmem => (hchars '.' hmem).2 rfl
  rw [Word.text, bareName_append w.qualifies, bareName_eq_self hdot, hword]

theorem Generic.head_text (g : Generic) : Head.ofName (bareName g.text) = .other := by
  have hname : bareName g.text = bareName g.name := by
    unfold Generic.text
    split
    · exact bareName_append (Or.inr (by decide)) g.name
    · rfl
  rw [hname]
  exact (Head.mem_words (bareName g.name)).resolve_right (g.other _)

theorem Generic.named_text (g : Generic) : Named g.text := by
  have htyping : ∀ c ∈ typingPrefix, isNameChar c = true := List.all_eq_true.1 (by decide +kernel)
  unfold Generic.text
  split
  · refine ⟨by simp [g.nonempty], fun c hc => ?_⟩
    rcases List.mem_append.1 hc with hc | hc
    · exact htyping c hc
    · exact g.named c hc
  · exact ⟨g.nonempty, g.named⟩

theorem Generic.dropTyping_text (g : Generic) : dropTyping g.text = g.name := by
  unfold Generic.text
  split
  · have hne := List.length_pos_iff.2 g.nonempty
    rw [dropTyping, if_pos ⟨by simp, by rw [List.length_append]; omega⟩, List.drop_left]
  · next hdirect =>
    rw [dropTyping, if_neg]
    rintro ⟨htyping, hlength⟩
    have heq := g.direct (by simpa using hdirect) (List.isPrefixOf_iff_prefix.1 htyping)
    rw [heq] at hlength
    omega

/-! ## Forms -/

/-- text between brackets whose brackets match -/
abbrev Free := { s : List Char // Balanced s }

/-- a container that stands alone -/
inductive BareHead where
  | array (w : Word .array)
  | mapping (w : Word .mapping)

/-- a head whose arguments do not matter -/
inductive FixedHead where
  | mapping (w : Word .mapping)
  | literal (w : Word .literal)
  | generic (g : Generic)

/-- a head whose first argument counts -/
inductive WrapHead where
  | transparent (w : Word .transparent)
  | array (w : Word .array)

inductive Mark where
  | single
  | double

def BareHead.text : BareHead → List Char
  | .array w => w.text
  | .mapping w => w.text

/-- what a container comes down to alone -/
def BareHead.answer : BareHead → Reduced
  | .array _ => ⟨"object".toList, true⟩
  | .mapping _ => ⟨"dict".toList, false⟩

def FixedHead.text : FixedHead → List Char
  | .mapping w => w.text
  | .literal w => w.text
  | .generic g => g.text

def FixedHead.element : FixedHead → List Char
  | .mapping _ => "dict".toList
  | .literal _ => "str".toList
  | .generic g => g.name

def WrapHead.text : WrapHead → List Char
  | .transparent w => w.text
  | .array w => w.text

/-- does the head make an array of its argument? -/
def WrapHead.isArray : WrapHead → Bool
  | .transparent _ => false
  | .array _ => true

def Mark.char : Mark → Char
  | .single => '\''
  | .double => '"'

mutual
/-- a type expression -/
inductive Form where
  /-- a dotted name -/
  | name (n : Name)
  /-- a container without arguments -/
  | bare (h : BareHead)
  /-- a head with arguments that do not matter -/
  | fixed (h : FixedHead) (args : Free)
  /-- a head with an expression as its argument, and perhaps with further arguments -/
  | wrapped (h : WrapHead) (left : Gap) (arg : Form) (right : Gap) (more : Option Free)
  /-- a union in brackets: members that are `None`, a first other one, and further members -/
  | union (w : Word .union) (left : Gap) (missing : List (Gap × Gap)) (first : Form) (others : Others) (right : Gap)
  /-- a union with bars, likewise -/
  | either (missing : List (Gap × Gap)) (first : Form) (others : Others)
  | quoted (mark : Mark) (inner : Form)
  /-- an expression behind empty brackets -/
  | listOf (inner : Form)
/-- further members of a union, each after a separator with blanks around it -/
inductive Others where
  | nil
  | none (before after : Gap) (rest : Others)
  | some (before after : Gap) (member : Form) (rest : Others)
end

def moreText : Option Free → List Char
  | .none => []
  | .some args => ',' :: args.val

mutual
def Form.text : Form → List Char
  | .name n => n.text
  | .bare h => h.text
  | .fixed h args => applied h.text args.val
  | .wrapped h left arg right more => applied h.text (left.val ++ (arg.text ++ (right.val ++ moreText more)))
  | .union w left missing first others right =>
    applied w.text (left.val ++ (nones ',' missing ++ (first.text ++ (others.text ',' ++ right.val))))
  | .either missing first others => nones '|' missing ++ (first.text ++ others.text '|')
  | .quoted mark inner => mark.char :: (inner.text ++ [mark.char])
  | .listOf inner => '[' :: ']' :: inner.text
def Others.text (sep : Char) : Others → List Char
  | .nil => []
  | .none before after rest => before.val ++ sep :: (after.val ++ (noneName ++ rest.text sep))
  | .some before after member rest => before.val ++ sep :: (after.val ++ (member.text ++ rest.text sep))
end

/-- What the path through an expression comes down to. The path goes from the outside in to the wrapped type, to the
first member of a union that is not `None`, and to the first argument of an array. -/
def Form.selected : Form → Reduced
  | .name n => ⟨n.text, false⟩
  | .bare h => h.answer
  | .fixed h _ => ⟨h.element, false⟩
  | .wrapped h _ arg _ _ => ⟨arg.selected.element, h.isArray || arg.selected.isArray⟩
  | .union _ _ _ first _ _ => first.selected
  | .either _ first _ => first.selected
  | .quoted _ inner => inner.selected
  | .listOf inner => ⟨inner.selected.element, true⟩

/-- Does a `None` with a bar stand at the front of an expression, quotes and empty brackets aside? -/
def Form.beginsWithNone : Form → Bool
  | .either missing first _ => !missing.isEmpty || first.beginsWithNone
  | .quoted _ inner => inner.beginsWithNone
  | .listOf inner => inner.beginsWithNone
  | _ => false

/-- does it stand there under quotes or behind empty brackets? -/
def Form.hidesNone : Form → Bool
  | .either missing first _ => missing.isEmpty && first.hidesNone
  | .quoted _ inner => inner.beginsWithNone
  | .listOf inner => inner.beginsWithNone
  | _ => false

/-- no union with bars on the path through an expression begins with `None` and goes on with an expression that hides
another one -/
def Form.Clear : Form → Prop
  | .wrapped _ _ arg _ _ => arg.Clear
  | .union _ _ _ first _ _ => first.Clear
  | .either missing first _ => first.Clear ∧ (missing ≠ [] → first.hidesNone = false)
  | .quoted _ inner => inner.Clear
  | .listOf inner => inner.Clear
  | _ => True

/-! ## Brackets match -/

theorem isOrdinary_of_isNameChar {c : Char} (h : isNameChar c = true) : isOrdinary c = true := by
  have hblank : isBlank c = false := isBlank_of_class (by decide +kernel) h
  have hmarks : (['\'', '"', '[', ']', '|', ','].any isNameChar) = false := by decide +kernel
  have hne : ∀ d ∈ ['\'', '"', '[', ']', '|', ','], c ≠ d := by
    rintro d hd rfl
    exact List.any_eq_false.1 hmarks c hd h
  simp only [List.forall_mem_cons] at hne
  simp [isOrdinary, isEdge, isQuote, isPlain, isOther, hblank, hne]

theorem Named.ordinary {t : List Char} (h : Named t) : ∀ c ∈ t, isOrdinary c = true :=
  fun c hc => isOrdinary_of_isNameChar (h.named c hc)

/-- a text of ordinary characters has neither brackets nor separators -/
theorem closed_ordinary {p : Char → Bool} {t : List Char} (h : ∀ c ∈ t, isOrdinary c = true)
    (hp : ∀ c, isOrdinary c = true → p c = true) : Closed p t := by
  refine closed_of_forall fun c hc => ⟨?_, hp c (h c hc)⟩
  have hc' := h c hc
  simp only [isOrdinary, Bool.and_eq_true] at hc'
  exact hc'.1.1.2

theorem bracket_not_mem {t : List Char} (h : ∀ c ∈ t, isOrdinary c = true) : '[' ∉ t := by
  intro hmem
  have hbracket := h '[' hmem
  revert hbracket
  decide

theorem closed_applied {p : Char → Bool} (hp : ∀ c, isOrdinary c = true → p c = true) {head args : List Char}
    (hhead : Named head) (hargs : Balanced args) : Closed p (applied head args) :=
  (closed_ordinary hhead.ordinary hp).append (hargs.bracketed rfl)

theorem isOther_comma {c : Char} (h : isOrdinary c = true) : isOther ',' c = true := by
  simp only [isOrdinary, Bool.and_eq_true] at h
  exact h.2

theorem isOther_bar {c : Char} (h : isOrdinary c = true) : isOther '|' c = true := by
  simp only [isOrdinary, Bool.and_eq_true] at h
  exact h.1.2

theorem BareHead.named_text : (h : BareHead) → Named h.text
  | .array w => w.named_text
  | .mapping w => w.named_text

theorem FixedHead.named_text : (h : FixedHead) → Named h.text
  | .mapping w => w.named_text
  | .literal w => w.named_text
  | .generic g => g.named_text

theorem WrapHead.named_text : (h : WrapHead) → Named h.text
  | .transparent w => w.named_text
  | .array w => w.named_text

section Separated

variable {p : Char → Bool} {sep : Char}

theorem closed_gap (hp : ∀ c, isOther ',' c = true → p c = true) (g : Gap) : Closed p g.val :=
  (separates_comma.closed_blanks g.property).mono hp

theorem closed_separator (hsep : isPlain sep = true ∧ p sep = true) : Closed p [sep] :=
  closed_of_forall fun c hc => by rwa [List.mem_singleton.1 hc]

theorem closed_nones (hp : ∀ c, isOther ',' c = true → p c = true) (hsep : isPlain sep = true ∧ p sep = true)
    (gaps : List (Gap × Gap)) : Closed p (nones sep gaps) := by
  induction gaps with
  | nil => rfl
  | cons g gaps ih =>
    have hmember : Closed p (noneName ++ (g.1.val ++ ([sep] ++ g.2.val))) :=
      (separates_comma.closed_none.mono hp).append
        ((closed_gap hp g.1).append ((closed_separator hsep).append (closed_gap hp g.2)))
    exact hmember.append ih

end Separated

theorem balanced_more (more : Option Free) : Balanced (moreText more) := by
  cases more with
  | none => rfl
  | some args => exact Closed.append (s := [',']) rfl args.property

/-- arguments whose first one is an expression are balanced -/
theorem balanced_first {arg : List Char} (harg : Balanced arg) (left right : Gap) (more : Option Free) :
    Balanced (left.val ++ (arg ++ (right.val ++ moreText more))) :=
  (closed_gap (fun _ _ => rfl) left).append
    (harg.append ((closed_gap (fun _ _ => rfl) right).append (balanced_more more)))

/-- so are the members of a union in brackets -/
theorem balanced_union {first others : List Char} (hfirst : Balanced first) (hothers : Balanced others)
    (left right : Gap) (missing : List (Gap × Gap)) :
    Balanced (left.val ++ (nones ',' missing ++ (first ++ (others ++ right.val)))) :=
  (closed_gap (fun _ _ => rfl) left).append ((closed_nones (fun _ _ => rfl) ⟨by decide, rfl⟩ missing).append
    (hfirst.append (hothers.append (closed_gap (fun _ _ => rfl) right))))

mutual
/-- the brackets of an expression match, and no comma stands outside them -/
theorem Form.closed : (f : Form) → Closed (isOther ',') f.text
  | .name n => closed_ordinary n.ordinary fun _ => isOther_comma
  | .bare h => closed_ordinary h.named_text.ordinary fun _ => isOther_comma
  | .fixed h args => closed_applied (fun _ => isOther_comma) h.named_text args.property
  | .wrapped h left arg right more =>
    closed_applied (fun _ => isOther_comma) h.named_text (balanced_first arg.closed.balanced left right more)
  | .union w left missing first others right =>
    closed_applied (fun _ => isOther_comma) w.named_text
      (balanced_union first.closed.balanced (others.closed (fun _ _ => rfl) ⟨by decide, rfl⟩) left right missing)
  | .either missing first others =>
    (closed_nones (fun _ h => h) ⟨by decide, by decide⟩ missing).append
      (first.closed.append (others.closed (fun _ h => h) ⟨by decide, by decide⟩))
  | .quoted mark inner => by
    have hmark : Closed (isOther ',') [mark.char] := by cases mark <;> decide
    exact hmark.append (inner.closed.append hmark)
  | .listOf inner => Balanced.bracketed (s := []) rfl inner.closed
/-- so it is with further members -/
theorem Others.closed {p : Char → Bool} {sep : Char} (hp : ∀ c, isOther ',' c = true → p c = true)
    (hsep : isPlain sep = true ∧ p sep = true) : (o : Others) → Closed p (o.text sep)
  | .nil => rfl
  | .none before after rest =>
    (closed_gap hp before).append ((closed_separator hsep).append ((closed_gap hp after).append
      ((separates_comma.closed_none.mono hp).append (rest.closed hp hsep))))
  | .some before after member rest =>
    (closed_gap hp before).append ((closed_separator hsep).append ((closed_gap hp after).append
      ((member.closed.mono hp).append (rest.closed hp hsep))))
end

/-! ## Both ends -/

/-- a text that ends with quotes, if any, behind a character that may stand at the end of an expression -/
def Ends (s : List Char) : Prop := ∃ front c q, s = front ++ c :: q ∧ isEdge c = true ∧ Quotes q

/-- a text in quotes, which each end has for itself -/
def Shaped (s : List Char) : Prop :=
  ∃ marks body q, s = marks ++ (body ++ q) ∧ Quotes marks ∧ Bare body ∧ Quotes q

theorem Ends.prepend {t : List Char} (h : Ends t) (s : List Char) : Ends (s ++ t) := by
  obtain ⟨front, c, q, rfl, hc, hq⟩ := h
  exact ⟨s ++ front, c, q, (List.append_assoc _ _ _).symm, hc, hq⟩

theorem Shaped.ends {s : List Char} (h : Shaped s) : Ends s := by
  obtain ⟨marks, body, q, rfl, -, hbody, hq⟩ := h
  obtain ⟨front, c, rfl, hc⟩ := hbody.last
  exact ⟨marks ++ front, c, q, by simp, hc, hq⟩

/-- a text in quotes may go on -/
theorem Shaped.append {s t : List Char} (h : Shaped s) (ht : t = [] ∨ Ends t) : Shaped (s ++ t) := by
  rcases ht with rfl | ⟨front, d, r, rfl, hd, hr⟩
  · rwa [List.append_nil]
  · obtain ⟨marks, body, q, rfl, hm, hbody, -⟩ := h
    obtain ⟨c, rest, rfl, hc⟩ := hbody.head
    refine ⟨marks, c :: (rest ++ (q ++ (front ++ [d]))), r, by simp, hm, ⟨⟨c, _, rfl, hc⟩, ?_⟩, hr⟩
    exact ⟨c :: (rest ++ (q ++ front)), d, by simp, hd⟩

theorem shaped_cons {c : Char} (hc : isEdge c = true) {s : List Char} (hs : Ends s) : Shaped (c :: s) := by
  obtain ⟨front, d, q, rfl, hd, hq⟩ := hs
  refine ⟨[], c :: (front ++ [d]), q, by simp, .nil, ⟨⟨c, _, rfl, hc⟩, c :: front, d, by simp, hd⟩, hq⟩

theorem Bare.shaped {s : List Char} (h : Bare s) : Shaped s :=
  ⟨[], s, [], by simp, .nil, h, .nil⟩

theorem Mark.quotes (m : Mark) : Quotes [m.char] := by
  intro c hc
  rw [List.mem_singleton.1 hc]
  cases m <;> rfl

theorem isEdge_of_isOrdinary {c : Char} (h : isOrdinary c = true) : isEdge c = true := by
  simp only [isOrdinary, Bool.and_eq_true] at h
  exact h.1.1.1

theorem bare_ordinary {t : List Char} (hne : t ≠ []) (h : ∀ c ∈ t, isOrdinary c = true) : Bare t := by
  refine ⟨⟨t.head hne, t.tail, (List.cons_head_tail hne).symm, ?_⟩, t.dropLast, t.getLast hne,
    (List.dropLast_append_getLast hne).symm, ?_⟩
  · exact isEdge_of_isOrdinary (h _ (List.head_mem hne))
  · exact isEdge_of_isOrdinary (h _ (List.getLast_mem hne))

theorem bare_applied {head : List Char} (h : Named head) (args : List Char) : Bare (applied head args) := by
  obtain ⟨⟨c, rest, rfl, hc⟩, -⟩ := bare_ordinary h.nonempty h.ordinary
  exact ⟨⟨c, _, rfl, hc⟩, c :: (rest ++ '[' :: args), ']', by simp [applied], by decide⟩

mutual
theorem Form.shaped : (f : Form) → Shaped f.text
  | .name n => (bare_ordinary n.nonempty n.ordinary).shaped
  | .bare h => (bare_ordinary h.named_text.nonempty h.named_text.ordinary).shaped
  | .fixed h args => (bare_applied h.named_text args.val).shaped
  | .wrapped h _ _ _ _ => (bare_applied h.named_text _).shaped
  | .union w _ _ _ _ _ => (bare_applied w.named_text _).shaped
  | .either [] first others => first.shaped.append (others.ends '|')
  | .either (g :: gaps) first others => by
    have hends := (first.shaped.append (others.ends '|')).ends
    exact shaped_cons (c := 'N') (by decide) (hends.prepend (nones '|' (g :: gaps)).tail)
  | .quoted mark inner => by
    obtain ⟨marks, body, q, hinner, hm, hbody, hq⟩ := inner.shaped
    exact ⟨mark.char :: marks, body, q ++ [mark.char], by simp [Form.text, hinner], mark.quotes.append hm, hbody,
      hq.append mark.quotes⟩
  | .listOf inner => shaped_cons (c := '[') (by decide) (inner.shaped.ends.prepend [']'])
theorem Others.ends (sep : Char) : (o : Others) → o.text sep = [] ∨ Ends (o.text sep)
  | .nil => Or.inl rfl
  | .none before after rest => by
    have hnone : Shaped noneName := Bare.shaped ⟨⟨'N', _, rfl, by decide⟩, "Non".toList, 'e', rfl, by decide⟩
    have hends := (hnone.append (rest.ends sep)).ends.prepend (before.val ++ sep :: after.val)
    exact Or.inr (by simpa [Others.text] using hends)
  | .some before after member rest => by
    have hends := (member.shaped.append (rest.ends sep)).ends.prepend (before.val ++ sep :: after.val)
    exact Or.inr (by simpa [Others.text] using hends)
end

/-! ## No form is `None` -/

theorem ne_none_of_mem {t : List Char} {c : Char} (hc : c ∈ t) (hnone : c ∉ noneName) : t ≠ noneName := by
  rintro rfl
  exact hnone hc

theorem Word.ne_none {h : Head} (w : Word h) (hh : h ≠ .other) : w.text ≠ noneName := by
  intro hw
  have hmeaning := w.head_text
  rw [hw] at hmeaning
  exact hh (hmeaning.symm.trans (by decide))

theorem applied_ne_none (head args : List Char) : applied head args ≠ noneName :=
  ne_none_of_mem (c := '[') (by simp [applied]) (by decide)

theorem Form.ne_none : (f : Form) → f.text ≠ noneName
  | .name n => n.visible
  | .bare (.array w) => w.ne_none (by decide)
  | .bare (.mapping w) => w.ne_none (by decide)
  | .fixed h args => applied_ne_none h.text args.val
  | .wrapped h _ _ _ _ => applied_ne_none h.text _
  | .union w _ _ _ _ _ => applied_ne_none w.text _
  | .either [] first .nil => by
    have := first.ne_none
    simpa [Form.text, Others.text, nones] using this
  | .either [] first (.none before after rest) =>
    ne_none_of_mem (c := '|') (by simp [Form.text, Others.text]) (by decide)
  | .either [] first (.some before after member rest) =>
    ne_none_of_mem (c := '|') (by simp [Form.text, Others.text]) (by decide)
  | .either (g :: gaps) first others => ne_none_of_mem (c := '|') (by simp [Form.text, nones]) (by decide)
  | .quoted mark inner => ne_none_of_mem (c := mark.char) (by simp [Form.text]) (by cases mark <;> decide)
  | .listOf inner => ne_none_of_mem (c := '[') (by simp [Form.text]) (by decide)

/-! ## What the front of a form leads to -/

/-- What stands at the front of a text that begins with an expression: some members that are `None`, perhaps quotes, and
then an expression of its own that comes down to what the path through the whole does. -/
structure Front (f : Form) (gaps : List (Gap × Gap)) (marks body w : List Char) : Prop where
  marks : Quotes marks
  bare : Bare body
  closed : Closed (isOther '|') body
  visible : body ≠ noneName
  answer : reduce body = f.selected
  tail : Tail w
  gaps : f.beginsWithNone = false → gaps = []

/-- an expression has such a front, if it is followed by a text -/
def Form.Leads (f : Form) (w : List Char) : Prop :=
  ∃ gaps marks body w', f.text ++ w = nones '|' gaps ++ (marks ++ (body ++ w')) ∧ Front f gaps marks body w'

/-- an expression is reduced to what its path comes down to, whatever may follow, and unless it hides a `None` that
stands at its front -/
structure Form.Reads (f : Form) : Prop where
  reduces : ∀ w, Tail w → reduce (f.text ++ w) = f.selected
  leads : f.hidesNone = false → ∀ w, Tail w → f.Leads w

theorem Form.Reads.alone {f : Form} (h : f.Reads) : reduce f.text = f.selected := by
  simpa using h.reduces [] .nil

theorem Form.beginsWithNone_of_hidesNone : (f : Form) → f.hidesNone = true → f.beginsWithNone = true
  | .either missing first others, h => by
    rw [Form.hidesNone, Bool.and_eq_true] at h
    rw [Form.beginsWithNone, first.beginsWithNone_of_hidesNone h.2, Bool.or_true]
  | .quoted _ _, h => h
  | .listOf _, h => h

/-- a text that is looked at as a whole -/
structure Atom (t : List Char) : Prop where
  bare : Bare t
  closed : Closed (isOther '|') t
  head : t.head? ≠ some '['
  visible : t ≠ noneName

theorem atom_ordinary {t : List Char} (hne : t ≠ []) (h : ∀ c ∈ t, isOrdinary c = true) (hv : t ≠ noneName) :
    Atom t := by
  refine ⟨bare_ordinary hne h, closed_ordinary h fun _ => isOther_bar, fun hhead => ?_, hv⟩
  exact bracket_not_mem h (List.mem_of_mem_head? hhead)

theorem atom_applied {head args : List Char} (h : Named head) (hargs : Balanced args) : Atom (applied head args) := by
  refine ⟨bare_applied h args, closed_applied (fun _ => isOther_bar) h hargs, fun hhead => ?_,
    applied_ne_none head args⟩
  rw [applied, List.head?_append_of_ne_nil head h.nonempty] at hhead
  exact bracket_not_mem h.ordinary (List.mem_of_mem_head? hhead)

theorem Shaped.trim {s : List Char} (h : Shaped s) : Text.trim s = s := by
  obtain ⟨marks, body, q, rfl, hm, hb, hq⟩ := h
  rw [hb.trim_eq hm, hq.dropWhileEnd]

theorem Atom.step {t : List Char} (h : Atom t) : TypeExpr.step t = stepSingle t :=
  step_single h.bare h.head h.closed h.visible

theorem Atom.reads {f : Form} (h : Atom f.text) (hr : reduce f.text = f.selected) : f.Reads where
  reduces _ hw := (reduce_lead [] .nil h.bare h.closed h.visible (fun _ => ⟨rfl, h.head⟩) hw).trans hr
  leads _ w hw := ⟨[], [], f.text, w, rfl, .nil, h.bare, h.closed, h.visible, hr, hw, fun _ => rfl⟩

/-! ## One lemma for each kind of form -/

/-- a text of ordinary characters has no arguments -/
theorem stepSingle_ordinary {t : List Char} (h : ∀ c ∈ t, isOrdinary c = true) : stepSingle t = stepName t := by
  rw [stepSingle, application?_eq_none (bracket_not_mem h)]

/-- a name without arguments is looked at as a whole -/
theorem step_named {head : List Char} (h : Named head) : step head = stepName head := by
  by_cases hnone : head = noneName
  · subst hnone
    decide +kernel
  · rw [(atom_ordinary h.nonempty h.ordinary hnone).step, stepSingle_ordinary h.ordinary]

theorem reads_name (n : Name) : (Form.name n).Reads := by
  have hatom := atom_ordinary n.nonempty n.ordinary n.visible
  have hwords := Head.mem_words (bareName n.text)
  have hsimple := n.simple
  rw [List.mem_append, not_or] at hsimple
  refine Atom.reads hatom (reduce_done (hatom.step.trans ?_))
  rw [stepSingle_ordinary n.ordinary, stepName]
  split
  · next h =>
    rw [h] at hwords
    exact absurd (hwords.resolve_left (by decide)) hsimple.1
  · next h =>
    rw [h] at hwords
    exact absurd (hwords.resolve_left (by decide)) hsimple.2
  · rfl

theorem stepSingle_applied {head : List Char} (h : Named head) (args : List Char) :
    stepSingle (applied head args) = stepApplication (dropTyping head) args := by
  rw [stepSingle, application?_applied h.nonempty h.named]

theorem reads_bare (h : BareHead) : (Form.bare h).Reads := by
  have hatom := atom_ordinary h.named_text.nonempty h.named_text.ordinary (Form.bare h).ne_none
  refine Atom.reads hatom (reduce_done (hatom.step.trans ?_))
  rw [stepSingle_ordinary h.named_text.ordinary, stepName]
  cases h with
  | array w => simp only [BareHead.text, w.head_text]; rfl
  | mapping w => simp only [BareHead.text, w.head_text]; rfl

theorem reads_fixed (h : FixedHead) (args : Free) : (Form.fixed h args).Reads := by
  have hatom := atom_applied h.named_text args.property
  refine Atom.reads hatom (reduce_done (hatom.step.trans ?_))
  rw [stepSingle_applied h.named_text, stepApplication, bareName_dropTyping]
  cases h with
  | mapping w => simp only [FixedHead.text, w.head_text]; rfl
  | literal w => simp only [FixedHead.text, w.head_text]; rfl
  | generic g => simp only [FixedHead.text, g.head_text, g.dropTyping_text]; rfl

theorem reads_wrapped (h : WrapHead) (left : Gap) {arg : Form} (right : Gap) (more : Option Free) (harg : arg.Reads) :
    (Form.wrapped h left arg right more).Reads := by
  have hatom := atom_applied h.named_text (balanced_first arg.closed.balanced left right more)
  have hfirst : firstArgument (left.val ++ (arg.text ++ (right.val ++ moreText more))) = arg.text := by
    have hmore : moreText more = [] ∨ ∃ r, moreText more = ',' :: r := by
      cases more with
      | none => exact Or.inl rfl
      | some args => exact Or.inr ⟨args.val, rfl⟩
    rw [firstArgument_eq left.property right.property arg.closed hmore, arg.shaped.trim]
  have hstep : stepSingle (applied h.text (left.val ++ (arg.text ++ (right.val ++ moreText more))))
      = .into arg.text h.isArray := by
    rw [stepSingle_applied h.named_text, stepApplication, bareName_dropTyping, hfirst]
    cases h with
    | transparent w => simp only [WrapHead.text, w.head_text]; rfl
    | array w => simp only [WrapHead.text, w.head_text]; rfl
  refine Atom.reads hatom ?_
  rw [Form.text, reduce_into (hatom.step.trans hstep), harg.alone]
  rfl

/-- behind a member of a union stand blanks, and then the end or a separator -/
theorem Others.text_gap (sep : Char) (o : Others) (right : Gap) :
    ∃ (gap : Gap) (rest : List Char), o.text sep ++ right.val = gap.val ++ rest ∧
      (rest = [] ∨ ∃ r, rest = sep :: r) := by
  cases o with
  | nil => exact ⟨right, [], by simp [Others.text], Or.inl rfl⟩
  | none before after rest => exact ⟨before, _, by rw [Others.text, List.append_assoc]; rfl, Or.inr ⟨_, rfl⟩⟩
  | some before after member rest =>
    exact ⟨before, _, by rw [Others.text, List.append_assoc]; rfl, Or.inr ⟨_, rfl⟩⟩

theorem reads_union (w : Word .union) (left : Gap) (missing : List (Gap × Gap)) {first : Form} (others : Others)
    (right : Gap) (hfirst : first.Reads) : (Form.union w left missing first others right).Reads := by
  have hothers : Balanced (others.text ',') := others.closed (fun _ _ => rfl) ⟨by decide, rfl⟩
  have hatom := atom_applied w.named_text (balanced_union first.closed.balanced hothers left right missing)
  obtain ⟨gap, rest, htext, hrest⟩ := others.text_gap ',' right
  have hpiece : Closed (isOther ',') (first.text ++ gap.val) :=
    first.closed.append (separates_comma.closed_blanks gap.property)
  have htrim : trim (first.text ++ gap.val) = first.text := by
    rw [trim_append_right _ gap.property, first.shaped.trim]
  have hmember := firstMember_nones separates_comma missing left.property hpiece (by rw [htrim]; exact first.ne_none)
    hrest
  rw [htrim, List.append_assoc, ← htext] at hmember
  have hstep : stepSingle (Form.union w left missing first others right).text = .into first.text false := by
    rw [Form.text, stepSingle_applied w.named_text, stepApplication, bareName_dropTyping, w.head_text]
    dsimp only
    rw [hmember]
  refine Atom.reads hatom ?_
  rw [Form.text, reduce_into (hatom.step.trans hstep), hfirst.alone, Bool.false_or]
  rfl

/-- what is under quotes or behind empty brackets hides no `None`, if it begins with none -/
theorem Form.hidesNone_eq_false {f : Form} (h : f.beginsWithNone = false) : f.hidesNone = false := by
  rw [Bool.eq_false_iff]
  intro hhides
  rw [f.beginsWithNone_of_hidesNone hhides] at h
  cases h

theorem reads_quoted (mark : Mark) {inner : Form} (hinner : inner.Reads) : (Form.quoted mark inner).Reads := by
  have hmark := mark.quotes
  -- the closing quote is the first of what may follow
  have htext (w : List Char) :
      (Form.quoted mark inner).text ++ w = mark.char :: (inner.text ++ ([mark.char] ++ w)) := by
    simp [Form.text]
  constructor
  · intro w hw
    obtain ⟨marks, body, q, hshape, hm, hb, hq⟩ := inner.shaped
    have hunwrap : unwrap (mark.char :: (inner.text ++ ([mark.char] ++ w)))
        = unwrap (inner.text ++ ([mark.char] ++ w)) := by
      have hin := hb.unwrap_eq hm (q ++ ([mark.char] ++ w))
      have hout := hb.unwrap_eq (hmark.append hm) (q ++ ([mark.char] ++ w))
      rw [hshape]
      simpa using hout.trans hin.symm
    rw [htext, reduce_congr hunwrap, hinner.reduces _ (.append hmark hw)]
    rfl
  · intro hhides w hw
    have hbegins : inner.beginsWithNone = false := hhides
    obtain ⟨gaps, marks, body, w', hlead, hfront⟩ :=
      hinner.leads (Form.hidesNone_eq_false hbegins) ([mark.char] ++ w) (.append hmark hw)
    obtain rfl := hfront.gaps hbegins
    refine ⟨[], mark.char :: marks, body, w', by rw [htext, hlead]; rfl, ?_⟩
    exact { hfront with marks := hmark.append hfront.marks, gaps := fun _ => rfl }

theorem bare_listOf (marks : List Char) {body : List Char} (hb : Bare body) : Bare ('[' :: ']' :: (marks ++ body)) := by
  obtain ⟨front, c, rfl, hc⟩ := hb.last
  exact ⟨⟨'[', _, rfl, by decide⟩, '[' :: ']' :: (marks ++ front), c, by simp, hc⟩

theorem reads_listOf {inner : Form} (hinner : inner.Reads) : (Form.listOf inner).Reads := by
  constructor
  · intro w hw
    obtain ⟨marks, body, q, hshape, hm, hb, hq⟩ := inner.shaped
    have htext : (Form.listOf inner).text ++ w = [] ++ ('[' :: ']' :: (marks ++ body) ++ (q ++ w)) := by
      simp [Form.text, hshape]
    rw [htext]
    cases hw with
    | quotes hw =>
      have hreduce : reduce (marks ++ body) = inner.selected := by
        rw [reduce_congr ((hb.unwrap_marks hm).trans (hb.unwrap_quotes hm hq).symm), ← hshape, hinner.alone]
      rw [reduce_listOf ((bare_listOf marks hb).unwrap_quotes .nil (hq.append hw)), hreduce]
      rfl
    | @bar q' gap hq' hgap rest =>
      obtain ⟨rest', hunwrap⟩ := (bare_listOf marks hb).unwrap_bar .nil (q ++ (q' ++ gap)) rest
      have hinnerText : marks ++ body ++ (q ++ (q' ++ gap) ++ '|' :: rest')
          = inner.text ++ (q' ++ (gap ++ '|' :: rest')) := by simp [hshape]
      have hassoc : q ++ (q' ++ (gap ++ '|' :: rest)) = q ++ (q' ++ gap) ++ '|' :: rest := by simp
      have hlist : reduce ([] ++ ('[' :: ']' :: (marks ++ body) ++ (q ++ (q' ++ gap) ++ '|' :: rest)))
          = ⟨(reduce (marks ++ body ++ (q ++ (q' ++ gap) ++ '|' :: rest'))).element, true⟩ := reduce_listOf hunwrap
      rw [hassoc, hlist, hinnerText, hinner.reduces _ (.bar hq' hgap rest')]
      rfl
  · intro hhides w hw
    have hbegins : inner.beginsWithNone = false := hhides
    obtain ⟨gaps, marks, body, w', hlead, hfront⟩ := hinner.leads (Form.hidesNone_eq_false hbegins) w hw
    obtain rfl := hfront.gaps hbegins
    have hb := hfront.bare
    have hreduce : reduce (marks ++ body) = inner.selected := by
      rw [reduce_congr ((hb.unwrap_marks hfront.marks).trans hb.unwrap_self.symm), hfront.answer]
    refine ⟨[], [], '[' :: ']' :: (marks ++ body), w', ?_, .nil, bare_listOf marks hb, ?_, ?_, ?_, hfront.tail,
      fun _ => rfl⟩
    · simp [Form.text, hlead, nones]
    · exact Balanced.bracketed (s := []) rfl ((closed_quotes hfront.marks).append hfront.closed)
    · exact ne_none_of_mem (c := '[') List.mem_cons_self (by decide)
    · rw [reduce_listOf (bare_listOf marks hb).unwrap_self, hreduce]
      rfl

/-- behind the first member of a union with bars stands the next one, or what follows the union -/
theorem Others.tail (o : Others) {w : List Char} (hw : Tail w) : Tail (o.text '|' ++ w) := by
  cases o with
  | nil => exact hw
  | none before after rest =>
    rw [Others.text, List.append_assoc]
    exact .bar .nil before.property _
  | some before after member rest =>
    rw [Others.text, List.append_assoc]
    exact .bar .nil before.property _

theorem reads_either (missing : List (Gap × Gap)) {first : Form} (others : Others) (hfirst : first.Reads)
    (hclear : missing ≠ [] → first.hidesNone = false) : (Form.either missing first others).Reads := by
  have htext (w : List Char) : (Form.either missing first others).text ++ w
      = nones '|' missing ++ (first.text ++ (others.text '|' ++ w)) := by
    simp [Form.text]
  -- the members that are `None` come before those at the front of the first other member
  have hlead (hhides : first.hidesNone = false) (w : List Char) (hw : Tail w) :
      ∃ gaps marks body w', (Form.either missing first others).text ++ w
          = nones '|' (missing ++ gaps) ++ (marks ++ (body ++ w')) ∧ Front first gaps marks body w' := by
    obtain ⟨gaps, marks, body, w', htail, hfront⟩ := hfirst.leads hhides _ (others.tail hw)
    refine ⟨gaps, marks, body, w', ?_, hfront⟩
    rw [htext, htail]
    simp [nones]
  constructor
  · intro w hw
    by_cases hmissing : missing = []
    · rw [htext, hmissing]
      exact hfirst.reduces _ (others.tail hw)
    · obtain ⟨gaps, marks, body, w', htail, hfront⟩ := hlead (hclear hmissing) w hw
      rw [htail, reduce_lead _ hfront.marks hfront.bare hfront.closed hfront.visible (by simp [hmissing]) hfront.tail]
      exact hfront.answer
  · intro hhides w hw
    have hfirstHides : first.hidesNone = false := by
      by_cases hmissing : missing = []
      · simpa [Form.hidesNone, hmissing] using hhides
      · exact hclear hmissing
    obtain ⟨gaps, marks, body, w', htail, hfront⟩ := hlead hfirstHides w hw
    refine ⟨missing ++ gaps, marks, body, w', htail, ?_⟩
    refine { hfront with answer := hfront.answer, gaps := fun hbegins => ?_ }
    simp only [Form.beginsWithNone, Bool.or_eq_false_iff, Bool.not_eq_false', List.isEmpty_iff] at hbegins
    rw [hbegins.1, hfront.gaps hbegins.2]
    rfl

/-- **Every form is read.** By induction on the path through a form: a text is reduced to what the path comes down to,
whatever may follow it. -/
theorem Form.reads : (f : Form) → f.Clear → f.Reads
  | .name n, _ => reads_name n
  | .bare h, _ => reads_bare h
  | .fixed h args, _ => reads_fixed h args
  | .wrapped h left arg right more, hclear => reads_wrapped h left right more (arg.reads hclear)
  | .union w left missing first others right, hclear => reads_union w left missing others right (first.reads hclear)
  | .either missing first others, hclear => reads_either missing others (first.reads hclear.1) hclear.2
  | .quoted mark inner, hclear => reads_quoted mark (inner.reads hclear)
  | .listOf inner, hclear => reads_listOf (inner.reads hclear)

end TypeExpr

open TypeExpr

/-- **The element of every type expression.** The element of an expression, and whether an array of it is meant, are
what the path through the expression comes down to. -/
theorem elementType_of_form (f : Form) (hclear : f.Clear) (expr : String) (hexpr : Padded f.text expr.toList) :
    elementType expr = ⟨String.ofList f.selected.element, f.selected.isArray⟩ := by
  obtain ⟨left, right, hleft, hright, htext⟩ := hexpr
  have hunwrap : unwrap expr.toList = unwrap f.text := by
    rw [unwrap, unwrap, htext, trim_append_left hleft, trim_append_right _ hright]
  rw [elementType, reduce_congr hunwrap, (f.reads hclear).alone]

def spaceGap : Gap := ⟨[' '], by decide⟩

def emptyGap : Gap := ⟨[], by decide⟩

def petName : Form :=
  .name ⟨"Pet".toList, by decide, List.all_eq_true.1 (by decide +kernel), by decide, by decide +kernel⟩

def intName : Form :=
  .name ⟨"int".toList, by decide, List.all_eq_true.1 (by decide +kernel), by decide, by decide +kernel⟩

/-- a list of annotated pets, in a quoted union that begins with `None` -/
def petsForm : Form :=
  .wrapped (.transparent ⟨[], "Optional", List.forall_mem_nil _, by decide, by decide⟩) emptyGap
    (.quoted .single (.either [(spaceGap, spaceGap)]
      (.wrapped (.array ⟨[], "list", List.forall_mem_nil _, by decide, by decide⟩) emptyGap
        (.wrapped
          (.transparent ⟨typingPrefix, "Annotated", List.all_eq_true.1 (by decide +kernel), by decide, by decide⟩)
          emptyGap (.quoted .double petName) emptyGap (some ⟨" doc[1]".toList, by decide⟩))
        spaceGap none)
      (.some spaceGap spaceGap intName .nil)))
    emptyGap none

/-- Quotes, a union and three heads are looked through. -/
theorem elementType_of_form_pets :
    petsForm.Clear ∧
      elementType "Optional['None | list[typing.Annotated[\"Pet\", doc[1]] ] | int']" = ⟨"Pet", true⟩ := by
  have hclear : petsForm.Clear := ⟨trivial, fun _ => rfl⟩
  exact ⟨hclear, elementType_of_form petsForm hclear _ ⟨[], [], by decide, by decide, by decide +kernel⟩⟩

/-- the pets that may be missing, as a member of a union -/
def missingPet : Form := .either [(spaceGap, spaceGap)] petName .nil

/-- **A hidden `None`.** The path through these unions comes down to an array of pets. The bars are looked at first, and
so the first other member is taken to end before the second bar. -/
theorem elementType_hiddenNone :
    (Form.either [(spaceGap, spaceGap)] (.listOf missingPet) .nil).text = "None | []None | Pet".toList ∧
      (Form.either [(spaceGap, spaceGap)] (.listOf missingPet) .nil).selected = ⟨"Pet".toList, true⟩ ∧
      elementType "None | []None | Pet" = ⟨"None", true⟩ ∧
      (Form.either [(spaceGap, spaceGap)] (.listOf (.quoted .single missingPet)) .nil).text
        = "None | []'None | Pet'".toList ∧
      (Form.either [(spaceGap, spaceGap)] (.listOf (.quoted .single missingPet)) .nil).selected
        = ⟨"Pet".toList, true⟩ ∧
      elementType "None | []'None | Pet'" = ⟨"None", true⟩ := by
  decide +kernel

end RouteDocs.Schema
