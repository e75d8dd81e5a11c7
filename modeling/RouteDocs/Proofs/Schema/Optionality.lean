/-
Optional annotations: an annotation, the same with `None` before or behind it, and the same within `Optional`.

- `IsAnnotation`: annotations as expressions, made of names, attributes, brackets with anything between them, forward
  references and unions.
- `IsAnnotation.isTold`: each one that is not `None` alone is written as an expression told by its members.
- `elementType_optional`: when the three ways to make an annotation optional do not change its element.
- `elementType_literalBracket`: a bracket in a string literal for which one of them does.
-/
import RouteDocs.Proofs.Schema.OptionalText
import RouteDocs.Proofs.Text.Quoted
import RouteDocs.Source.Printer

namespace RouteDocs.Schema

open Source Text TypeExpr

/-! ## Annotations -/

/-- a name: not empty, and of characters without any meaning of their own in a type expression -/
structure IsName (s : String) : Prop where
  nonempty : s.toList ≠ []
  ordinary : ∀ c ∈ s.toList, isOrdinary c = true

/-- a name, perhaps with attributes and with brackets behind it -/
inductive IsPrimary : Expr → Prop
  | name {s : String} (named : IsName s) (visible : s.toList ≠ noneName) : IsPrimary (.name s)
  | member {value : Expr} {id : String} (primary : IsPrimary value) (named : IsName id) :
    IsPrimary (.attribute value id)
  /-- whatever stands between the brackets -/
  | subscript {value index : Expr} (primary : IsPrimary value) : IsPrimary (.subscript value index)

inductive IsAnnotation : Expr → Prop
  | none : IsAnnotation (.constant .none)
  | primary {e : Expr} (h : IsPrimary e) : IsAnnotation e
  /-- a forward reference: its text has neither blanks nor quotes at its ends, and does not begin with a bracket or
  with a member that is `None` -/
  | quoted {s : List Char} (bare : Bare s) (front : s.head? ≠ some '[')
    (first : (split '|' (Quoted.body s)).head? ≠ some noneName) : IsAnnotation (.constant (.str s false))
  | union {left right : Expr} (isLeft : IsAnnotation left) (isRight : IsAnnotation right) :
    IsAnnotation (.binary .bitOr left right)

/-- `None`, or a union of nothing else -/
inductive OnlyNone : Expr → Prop
  | none : OnlyNone (.constant .none)
  | union {left right : Expr} (isLeft : OnlyNone left) (isRight : OnlyNone right) :
    OnlyNone (.binary .bitOr left right)

/-! ## Texts of annotations -/

/-- is the text told by its members, when the quotes around it are taken off? -/
def IsTold (t : List Char) : Prop := ∃ marks body q, t = marks ++ (body ++ q) ∧ Readable marks body q

/-- a text of members that are `None`: no quotes stand around it, and its brackets match -/
structure NoneText (t : List Char) : Prop where
  bare : Bare t
  front : t.head? ≠ some '['
  closed : opened t = 0

theorem TypeExpr.Bare.append {s t : List Char} (hs : Bare s) (ht : Bare t) (w : List Char) : Bare (s ++ (w ++ t)) := by
  obtain ⟨c, rest, rfl, hc⟩ := hs.head
  obtain ⟨front, d, rfl, hd⟩ := ht.last
  exact ⟨⟨c, _, rfl, hc⟩, c :: rest ++ (w ++ front), d, by simp, hd⟩

theorem bare_parenthesized (t : List Char) : Bare ('(' :: t ++ [')']) :=
  ⟨⟨'(', _, rfl, by decide⟩, '(' :: t, ')', rfl, by decide⟩

theorem isTold_of_bare {t : List Char} (hb : Bare t) (hfront : t.head? ≠ some '[') (hm : HasMember t) : IsTold t :=
  ⟨[], t, [], by simp, .nil, hb, .nil, hfront, hm, Or.inl rfl⟩

theorem isTold_parenthesized (t : List Char) : IsTold ('(' :: t ++ [')']) :=
  isTold_of_bare (bare_parenthesized t) (by simp)
    (hasMember_of_first (s := []) (List.forall_mem_nil _) (by decide) (by decide) (by decide) (t ++ [')']))

namespace IsTold

variable {s t : List Char}

theorem shaped (h : IsTold t) : Shaped t := by
  obtain ⟨marks, body, q, rfl, h⟩ := h
  exact ⟨marks, body, q, rfl, h.opening, h.bare, h.closing⟩

/-- a union is told by its members if its left side is -/
theorem append_bar (hs : IsTold s) (ht : Shaped t) : IsTold (s ++ " | ".toList ++ t) := by
  obtain ⟨marks, body, q, rfl, h⟩ := hs
  obtain ⟨marks', body', q', rfl, hm, hb, hq⟩ := ht
  refine ⟨marks, body ++ (q ++ ' ' :: '|' :: ' ' :: (marks' ++ body')), q', by simp, h.opening, ?_, hq, ?_,
    h.member.append_bar h.closing _, h.first.imp_right fun hfirst => first_append_bar hfirst h.closing _⟩
  · have := h.bare.append hb (q ++ ' ' :: '|' :: ' ' :: marks')
    simpa using this
  · obtain ⟨c, rest, rfl, -⟩ := h.bare.head
    exact h.front

/-- or if its right side is, and its left side is `None` -/
theorem none_bar (hs : NoneText s) (ht : IsTold t) : IsTold (s ++ " | ".toList ++ t) := by
  obtain ⟨marks, body, q, rfl, h⟩ := ht
  have hmember := (h.member.quotes_append h.opening).prepend_bar hs.closed .nil
  refine ⟨[], s ++ ([] ++ ' ' :: '|' :: ' ' :: (marks ++ body)), q, by simp, .nil, ?_, h.closing, ?_, hmember,
    Or.inl rfl⟩
  · have := hs.bare.append h.bare (' ' :: '|' :: ' ' :: marks)
    simpa using this
  · obtain ⟨c, rest, rfl, -⟩ := hs.bare.head
    exact hs.front

end IsTold

theorem NoneText.parenthesized {t : List Char} (h : NoneText t) : NoneText ('(' :: t ++ [')']) := by
  refine ⟨bare_parenthesized t, by simp, ?_⟩
  have hleft : opened ['('] = 0 := by decide
  have hright : opened [')'] = 0 := by decide
  rw [opened_append, opened_cons, h.closed, hleft, hright]
  rfl

theorem NoneText.append_bar {s t : List Char} (hs : NoneText s) (ht : NoneText t) :
    NoneText (s ++ " | ".toList ++ t) := by
  refine ⟨?_, ?_, ?_⟩
  · rw [List.append_assoc]
    exact hs.bare.append ht.bare _
  · obtain ⟨c, rest, rfl, -⟩ := hs.bare.head
    exact hs.front
  · have hbar : opened " | ".toList = 0 := by decide
    rw [opened_append, opened_append, hs.closed, ht.closed, hbar]
    rfl

/-! ## Names, attributes and brackets -/

/-- the text of a name with attributes and brackets -/
structure PrimaryText (t : List Char) : Prop where
  starts : ∃ n w, t = n ++ w ∧ n ≠ [] ∧ (∀ c ∈ n, isOrdinary c = true) ∧
    (w = [] ∧ t ≠ noneName ∨ ∃ c rest, w = c :: rest ∧ (c = '.' ∨ c = '['))
  ends : ∃ front c, t = front ++ [c] ∧ isEdge c = true

namespace PrimaryText

variable {t : List Char}

theorem append (h : PrimaryText t) {c : Char} (hc : c = '.' ∨ c = '[') {rest : List Char}
    (hends : ∃ front d, rest = front ++ [d] ∧ isEdge d = true) : PrimaryText (t ++ c :: rest) := by
  obtain ⟨n, w, rfl, hne, hordinary, hw⟩ := h.starts
  obtain ⟨front, d, rfl, hd⟩ := hends
  refine ⟨⟨n, w ++ c :: (front ++ [d]), by simp, hne, hordinary, Or.inr ?_⟩,
    n ++ w ++ c :: front, d, by simp, hd⟩
  rcases hw with ⟨rfl, -⟩ | ⟨a, rest, rfl, ha⟩
  · exact ⟨c, _, rfl, hc⟩
  · exact ⟨a, _, rfl, ha⟩

theorem bare (h : PrimaryText t) : Bare t := by
  obtain ⟨n, w, rfl, hne, hordinary, -⟩ := h.starts
  obtain ⟨c, n, rfl⟩ := List.exists_cons_of_ne_nil hne
  exact ⟨⟨c, n ++ w, rfl, isEdge_of_isOrdinary (hordinary c List.mem_cons_self)⟩, h.ends⟩

theorem front (h : PrimaryText t) : t.head? ≠ some '[' := by
  obtain ⟨n, w, rfl, hne, hordinary, -⟩ := h.starts
  rw [List.head?_append_of_ne_nil n hne]
  exact fun hhead => bracket_not_mem hordinary (List.mem_of_mem_head? hhead)

theorem hasMember (h : PrimaryText t) : HasMember t := by
  obtain ⟨n, w, rfl, hne, hordinary, hw⟩ := h.starts
  rcases hw with ⟨rfl, hvisible⟩ | ⟨c, rest, rfl, hc⟩
  · have hsplit : split '|' (n ++ []) = [n ++ []] := by
      rw [split_closed (closed_ordinary (by simpa using hordinary) fun _ => isOther_bar), h.bare.trim_self]
    exact ⟨n ++ [], by rw [hsplit]; exact List.mem_singleton_self _, hvisible⟩
  · -- the first piece has the point or the bracket
    have hplain : ∀ a ∈ n, isPlain a = true ∧ a ≠ '|' := fun a ha => plain_of_isOrdinary (hordinary a ha)
    rcases hc with rfl | rfl <;> exact hasMember_of_first hplain (by decide) (by decide) (by decide) rest

theorem isTold (h : PrimaryText t) : IsTold t := isTold_of_bare h.bare h.front h.hasMember

end PrimaryText

theorem IsName.ends {s : String} (h : IsName s) : ∃ front c, s.toList = front ++ [c] ∧ isEdge c = true :=
  (bare_ordinary h.nonempty h.ordinary).last

theorem IsPrimary.text {e : Expr} (h : IsPrimary e) (p : Precedence) : PrimaryText (e.print false p) := by
  induction h generalizing p with
  | @name s named visible =>
    rw [Expr.print_name]
    exact ⟨⟨s.toList, [], (List.append_nil _).symm, named.nonempty, named.ordinary, Or.inl ⟨rfl, visible⟩⟩,
      named.ends⟩
  | @member value id primary named ih =>
    have hinteger : Printer.isInteger value = false := by cases primary <;> rfl
    rw [Expr.print_attribute false p hinteger]
    exact (ih .atom).append (Or.inl rfl) named.ends
  | @subscript value index primary ih =>
    obtain ⟨args, hprint⟩ := Expr.print_subscript false p value index
    rw [hprint]
    exact (ih .atom).append (Or.inr rfl) ⟨args, ']', rfl, by decide⟩

/-! ## Forward references -/

theorem isEdge_hexDigit (n : Nat) : isEdge (hexDigit n) = true := by
  have hall : ∀ d, d < 16 → isEdge (Nat.digitChar d) = true := by decide
  exact hall (n % 16) (Nat.mod_lt n (by omega))

/-- the letter of an escape may stand at the end of an expression, if what it means may -/
theorem isEdge_of_simpleEscape {c d : Char} (h : Literal.simpleEscape? d = some c) (hc : isEdge c = true) :
    isEdge d = true := by
  by_contra hd
  have hletters : ∀ x ∈ ['a', 'b', 'f', 'n', 'r', 't', 'v'], isEdge x = true := List.all_eq_true.1 (by decide)
  have hne : ∀ x ∈ ['a', 'b', 'f', 'n', 'r', 't', 'v'], d ≠ x := fun x hx heq => hd (heq ▸ hletters x hx)
  simp only [List.forall_mem_cons] at hne
  -- without these letters, it stands for itself
  have hself : d = c := by
    simp [Literal.simpleEscape?, hne] at h
    exact h.2
  exact hd (hself ▸ hc)

/-- what may stand at the ends of an expression still may when it is escaped, and no bracket comes of it -/
theorem bare_encodeChar {quote c : Char} (hquote : Quoted.IsQuote quote) (hc : isEdge c = true) :
    Bare (Quoted.encodeChar quote c) ∧ ((Quoted.encodeChar quote c).head? = some '[' → c = '[') := by
  have hbackslash : isEdge '\\' = true := by decide
  cases Quoted.encodeChar_shape hquote c with
  | plain encoded notBackslash notQuote printable =>
    rw [encoded]
    exact ⟨⟨⟨c, [], rfl, hc⟩, [], c, rfl, hc⟩, fun h => Option.some.inj h⟩
  | letter d encoded printable means =>
    rw [encoded]
    exact ⟨⟨⟨'\\', [d], rfl, hbackslash⟩, ['\\'], d, rfl, isEdge_of_simpleEscape means hc⟩, by simp⟩
  | code mark width encoded known fits =>
    have hwidth : ∀ m ∈ Quoted.marks, m.2 ≠ 0 := by decide
    obtain ⟨width, rfl⟩ := Nat.exists_eq_succ_of_ne_zero (hwidth _ known)
    rw [encoded]
    exact ⟨⟨⟨'\\', _, rfl, hbackslash⟩, '\\' :: mark :: hexDigits width (c.toNat / 16), hexDigit c.toNat, rfl,
      isEdge_hexDigit c.toNat⟩, by simp⟩

theorem bare_body {s : List Char} (h : Bare s) (hfront : s.head? ≠ some '[') :
    Bare (Quoted.body s) ∧ (Quoted.body s).head? ≠ some '[' := by
  have hquote := Quoted.isQuote_quoteFor s
  rw [Quoted.body]
  generalize Quoted.quoteFor s = quote at hquote
  obtain ⟨c, rest, hs, hc⟩ := h.head
  obtain ⟨hfirst, hbracket⟩ := bare_encodeChar hquote hc
  obtain ⟨d, ds, hd, hedge⟩ := hfirst.head
  rw [hd] at hbracket
  refine ⟨⟨⟨d, ds ++ rest.flatMap (Quoted.encodeChar quote), by rw [hs, List.flatMap_cons, hd]; rfl, hedge⟩,
    ?_⟩, ?_⟩
  · obtain ⟨front, c', hs', hc'⟩ := h.last
    obtain ⟨es, e, he, hedge'⟩ := (bare_encodeChar hquote hc').1.last
    exact ⟨front.flatMap (Quoted.encodeChar quote) ++ es, e, by simp [hs', he], hedge'⟩
  · rw [hs, List.flatMap_cons, hd]
    intro hhead
    rw [hs, hbracket hhead] at hfront
    exact hfront rfl

theorem isTold_encode {s : List Char} (h : Bare s) (hfront : s.head? ≠ some '[')
    (hfirst : (split '|' (Quoted.body s)).head? ≠ some noneName) : IsTold (Quoted.encode s) := by
  obtain ⟨hbare, hbody⟩ := bare_body h hfront
  have hmarks : Quotes [Quoted.quoteFor s] := by
    intro c hc
    rw [List.mem_singleton.1 hc]
    rcases Quoted.isQuote_quoteFor s with h | h <;> (rw [h]; decide)
  refine ⟨[Quoted.quoteFor s], Quoted.body s, [Quoted.quoteFor s], by simp [Quoted.encode, Quoted.body], hmarks,
    hbare, hmarks, hbody, ?_, Or.inr hfirst⟩
  -- the first member is no `None`
  cases hsplit : split '|' (Quoted.body s) with
  | nil => exact absurd hsplit (by simp [split, splitAt_ne_nil])
  | cons m ms =>
    rw [hsplit] at hfirst
    exact ⟨m, by simp [hsplit], fun hm => hfirst (by simp [hm])⟩

/-! ## Annotations as text -/

theorem OnlyNone.text {e : Expr} (h : OnlyNone e) (p : Precedence) : NoneText (e.print false p) := by
  induction h generalizing p with
  | none =>
    rw [Expr.print_constant, Printer.constant]
    exact ⟨⟨⟨'N', _, rfl, by decide⟩, "Non".toList, 'e', rfl, by decide⟩, by decide, by decide⟩
  | union isLeft isRight hleft hright =>
    rw [Expr.print_union, Printer.parenthesize]
    split
    · exact ((hleft _).append_bar (hright _)).parenthesized
    · exact (hleft _).append_bar (hright _)

/-- **An annotation as text.** Unless it is `None` alone, it is told by its members. -/
theorem IsAnnotation.isTold {e : Expr} (h : IsAnnotation e) (hsome : ¬ OnlyNone e) (p : Precedence) :
    IsTold (e.print false p) := by
  induction h generalizing p with
  | none => exact absurd .none hsome
  | primary h => exact (h.text p).isTold
  | @quoted s bare front first =>
    rw [Expr.print_constant, Printer.constant, if_neg Bool.false_ne_true, if_neg Bool.false_ne_true, List.nil_append]
    exact isTold_encode bare front first
  | @union left right _ _ hleft hright =>
    rw [Expr.print_union, Printer.parenthesize]
    split
    · exact isTold_parenthesized _
    · by_cases hnone : OnlyNone left
      · exact .none_bar (hnone.text _) (hright (fun h => hsome (.union hnone h)) _)
      · refine (hleft hnone _).append_bar ?_
        by_cases hright' : OnlyNone right
        · exact (hright'.text _).bare.shaped
        · exact (hright hright' _).shaped

/-! ## Optional annotations -/

/-- Is a bar behind the text no part of the member that decides? Either it is cut at, for as many brackets are closed
as opened, those in string literals counted too; or an earlier member than the last one decides. -/
def CutOff (t : List Char) : Prop :=
  opened t = 0 ∨ ∃ m ∈ (split '|' (unwrap t)).dropLast, m ≠ noneName

/-- a bar is cut at behind a text whose brackets match -/
theorem TypeExpr.Closed.cutOff {p : Char → Bool} {t : List Char} (h : Closed p t) : CutOff t :=
  Or.inl (opened_of_closedFrom h)

theorem elementType_inj {s t : String} : elementType s = elementType t ↔ reduce s.toList = reduce t.toList := by
  simp only [elementType, ElementType.mk.injEq, String.ofList_inj]
  cases reduce s.toList
  cases reduce t.toList
  simp

/-- **Optional annotations.** `None` in front of an annotation does not change its element. Behind one, it does not
exactly if the bar is cut off; and the brackets of `Optional` do not, if nothing divides what is between them. -/
theorem elementType_optional {e : Expr} (he : IsAnnotation e) (hsome : ¬ OnlyNone e) :
    elementType ("None | " ++ e.text) = elementType e.text ∧
      (elementType (e.text ++ " | None") = elementType e.text ↔ CutOff e.text.toList) ∧
      (Undivided e.text.toList → elementType ("Optional[" ++ e.text ++ "]") = elementType e.text) := by
  have htext : e.text.toList = e.print false .test := by rw [Expr.text, String.toList_ofList]
  obtain ⟨marks, body, q, hprint, h⟩ := he.isTold hsome .test
  rw [hprint] at htext
  have hopened : opened e.text.toList = opened body := by
    have hmarks := opened_of_plain fun c hc => (quotes_plain h.opening c hc).1
    have hq := opened_of_plain fun c hc => (quotes_plain h.closing c hc).1
    rw [htext, opened_append, opened_append, hmarks, hq]
    omega
  have hunwrap : unwrap e.text.toList = body := by rw [htext, h.bare.unwrap_quotes h.opening h.closing]
  refine ⟨?_, ?_, fun hundivided => ?_⟩
  · rw [elementType_inj, String.toList_append, htext]
    exact h.reduce_none_bar
  · have hlonger : (e.text ++ " | None").toList = marks ++ (body ++ (q ++ " | None".toList)) := by
      rw [String.toList_append, htext]
      simp
    rw [elementType_inj, hlonger, htext, CutOff, ← htext, hopened, hunwrap, htext]
    exact h.reduce_bar_none_iff
  · have hbrackets : ("Optional[" ++ e.text ++ "]").toList = applied "Optional".toList e.text.toList := by
      rw [String.toList_append, String.toList_append]
      rfl
    rw [elementType_inj, hbrackets]
    exact hundivided.reduce_optional

def patterned : Expr :=
  .subscript (.name "Annotated")
    (.tuple [.name "str", .call (.name "Field") [] [(some "pattern", .constant (.str "[a-z]+".toList false))]])

/-- Brackets in a string literal do no harm if they match. -/
theorem elementType_optional_patterned :
    IsAnnotation patterned ∧ ¬ OnlyNone patterned ∧ patterned.text = "Annotated[str, Field(pattern='[a-z]+')]" ∧
      elementType patterned.text = ⟨"str", false⟩ ∧
      elementType ("None | " ++ patterned.text) = ⟨"str", false⟩ ∧
      elementType (patterned.text ++ " | None") = ⟨"str", false⟩ ∧
      elementType ("Optional[" ++ patterned.text ++ "]") = ⟨"str", false⟩ := by
  have hname : IsName "Annotated" := ⟨by decide, List.all_eq_true.1 (by decide +kernel)⟩
  have hform : IsAnnotation patterned := .primary (.subscript (.name hname (by decide)))
  have hsome : ¬ OnlyNone patterned := nofun
  have hclosed : Closed (isOther ',') patterned.text.toList := by decide +kernel
  have helement : elementType patterned.text = ⟨"str", false⟩ := by decide +kernel
  obtain ⟨hfront, hbehind, hbrackets⟩ := elementType_optional hform hsome
  exact ⟨hform, hsome, by decide +kernel, helement, hfront.trans helement,
    (hbehind.2 hclosed.cutOff).trans helement, (hbrackets hclosed.undivided).trans helement⟩

def bracketLiteral : Expr := .subscript (.name "Literal") (.constant (.str "[".toList false))

/-- two literals, one of which begins with a bracket -/
def bracketLiterals : Expr :=
  .subscript (.name "Literal")
    (.tuple [.constant (.str "]a".toList false), .constant (.str "b".toList false)])

/-- **Brackets in string literals.** The bracket in the literal is taken to be open still, so the bar behind it is not
cut at, and the whole text is taken for a name. The bracket at the front of a literal is taken to close the ones around
it, so within `Optional` the literals are divided at their comma. -/
theorem elementType_literalBracket :
    IsAnnotation bracketLiteral ∧ ¬ OnlyNone bracketLiteral ∧ bracketLiteral.text = "Literal['[']" ∧
      elementType bracketLiteral.text = ⟨"str", false⟩ ∧
      elementType (bracketLiteral.text ++ " | None") = ⟨"Literal['['] | None", false⟩ ∧
      IsAnnotation bracketLiterals ∧ ¬ OnlyNone bracketLiterals ∧ bracketLiterals.text = "Literal[']a', 'b']" ∧
      elementType bracketLiterals.text = ⟨"str", false⟩ ∧
      elementType ("Optional[" ++ bracketLiterals.text ++ "]") = ⟨"Literal[']a", false⟩ := by
  have hname : IsName "Literal" := ⟨by decide, List.all_eq_true.1 (by decide +kernel)⟩
  have hform (index : Expr) : IsAnnotation (.subscript (.name "Literal") index) :=
    .primary (.subscript (.name hname (by decide)))
  exact ⟨hform _, nofun, by decide +kernel, by decide +kernel, by decide +kernel, hform _, nofun,
    by decide +kernel, by decide +kernel, by decide +kernel⟩

end RouteDocs.Schema
