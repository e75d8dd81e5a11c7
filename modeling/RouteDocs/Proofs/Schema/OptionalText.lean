/-
`None` beside a type expression, and the brackets of `Optional` around one.

All brackets count, those in string literals too. So a bar behind an expression need not be one between members, and a
comma or a bar inside an expression may come to stand outside all brackets.

- `Readable.reduce_none_bar`: `None` in front of an expression has no effect.
- `Readable.reduce_bar_none_iff`: `None` behind one has none exactly if it is cut off, or an earlier member decides.
- `Unmatched.reduce_append`: a bar that is not cut at is taken for a part of a name.
- `Undivided.reduce_optional`: the brackets have no effect, if nothing divides what is between them.
-/
import RouteDocs.Proofs.Schema.OpenBrackets
import RouteDocs.Proofs.Schema.TypeForm

namespace RouteDocs.Schema.TypeExpr

open RouteDocs.Text

/-! ## Members beside `None` -/

/-- An expression in quotes that is told by its members: one of them is not `None`, and if there are quotes in front,
the first one is not. -/
structure Readable (marks body q : List Char) : Prop where
  opening : Quotes marks
  bare : Bare body
  closing : Quotes q
  front : body.head? ≠ some '['
  member : HasMember body
  first : marks = [] ∨ (split '|' body).head? ≠ some noneName

namespace Readable

variable {marks body q m : List Char}

theorem reduce_eq (h : Readable marks body q) (hm : firstMember? (split '|' body) = some m) :
    reduce (marks ++ (body ++ q)) = reduce m :=
  reduce_of_member (h.bare.unwrap_quotes h.opening h.closing) h.bare h.front hm

/-- behind `None` and a bar stand the members of the expression; only the first one has the quotes in front of it -/
theorem split_none_bar {r : List Char} {rs : List (List Char)} (hm : Quotes marks)
    (hpieces : splitAt '|' 0 body = r :: rs) :
    split '|' ("None | ".toList ++ (marks ++ body)) = noneName :: trim (marks ++ r) :: rs.map trim := by
  have hplain : ∀ c ∈ [' '] ++ marks, isPlain c = true ∧ c ≠ '|' :=
    List.forall_mem_append.2 ⟨List.forall_mem_singleton.2 (by decide), quotes_plain hm⟩
  have hmarks : splitAt '|' 0 ([' '] ++ (marks ++ body)) = ([' '] ++ marks ++ r) :: rs := by
    rw [← List.append_assoc, splitAt_plain hplain, hpieces, foldr_cons]
  have hnone : Closed (isOther '|') "None ".toList := by decide
  have htrim : trim "None ".toList = noneName := by decide
  have htext : "None | ".toList ++ (marks ++ body) = "None ".toList ++ '|' :: ([' '] ++ (marks ++ body)) := rfl
  rw [htext, split_closed_cons (by decide) hnone, htrim, split, hmarks, List.map_cons, List.append_assoc,
    trim_append_left blanks_space]

/-- the first piece of an expression is empty, or it begins as the expression does -/
theorem unwrap_first (h : Readable marks body q) {r : List Char} {rs : List (List Char)}
    (hpieces : splitAt '|' 0 body = r :: rs) : unwrap (marks ++ r) = unwrap r := by
  obtain ⟨c, rest, rfl, hc⟩ := h.bare.head
  rcases splitAt_cons '|' c 0 with ⟨-, -, -, hcut⟩ | hcons
  · obtain ⟨rfl, -⟩ := List.cons.inj ((hcut rest).symm.trans hpieces)
    rw [List.append_nil, unwrap_quotes_eq_nil h.opening]
    rfl
  · obtain ⟨p, ps, hrest⟩ := List.exists_cons_of_ne_nil (splitAt_ne_nil '|' (0 + opened [c]) rest)
    rw [hcons, hrest, cons] at hpieces
    obtain ⟨rfl, -⟩ := List.cons.inj hpieces
    exact unwrap_quotes_append h.opening hc p

/-- with `None` in front of it, an expression comes down to its first member that is not `None` -/
theorem reduce_preceded (h : Readable marks body q)
    (hm : firstMember? (split '|' ("None | ".toList ++ (marks ++ body))) = some m) :
    reduce ("None | ".toList ++ (marks ++ (body ++ q))) = reduce m := by
  have hbare : Bare ("None | ".toList ++ (marks ++ body)) := by
    obtain ⟨front, c, hlast, hc⟩ := h.bare.last
    exact ⟨⟨'N', _, rfl, by decide⟩, "None | ".toList ++ (marks ++ front), c, by simp [hlast], hc⟩
  have hunwrap : unwrap ("None | ".toList ++ (marks ++ (body ++ q))) = "None | ".toList ++ (marks ++ body) := by
    simpa using hbare.unwrap_quotes .nil h.closing
  exact reduce_of_member hunwrap hbare (by simp) hm

/-- **`None` in front of an expression** has no effect. -/
theorem reduce_none_bar (h : Readable marks body q) :
    reduce ("None | ".toList ++ (marks ++ (body ++ q))) = reduce (marks ++ (body ++ q)) := by
  obtain ⟨r, rs, hpieces⟩ := List.exists_cons_of_ne_nil (splitAt_ne_nil '|' 0 body)
  have hmembers := split_none_bar h.opening hpieces
  have hsplit : split '|' body = trim r :: rs.map trim := by rw [split, hpieces, List.map_cons]
  obtain ⟨m, hm⟩ := h.member.exists_first
  rw [h.reduce_eq hm]
  rw [hsplit] at hm
  rcases h.first with rfl | hfirst
  · -- without quotes in front, the members are the same
    refine h.reduce_preceded ?_
    rw [hmembers, firstMember?_cons, if_pos rfl]
    exact hm
  · -- else the first member decides, with quotes and without them
    have hr : trim r ≠ noneName := by
      intro hnone
      rw [hsplit, hnone] at hfirst
      exact hfirst rfl
    obtain rfl : trim r = m := by
      rw [firstMember?_visible hr] at hm
      exact Option.some.inj hm
    have hvisible : trim (marks ++ r) ≠ noneName := by
      cases marks with
      | nil => exact hr
      | cons c marks => exact trim_ne_none_of_quote (h.opening c List.mem_cons_self) List.mem_cons_self
    have hquoted : firstMember? (split '|' ("None | ".toList ++ (marks ++ body))) = some (trim (marks ++ r)) := by
      rw [hmembers, firstMember?_cons, if_pos rfl, firstMember?_visible hvisible]
    rw [h.reduce_preceded hquoted, reduce_trim, reduce_trim]
    exact reduce_congr (h.unwrap_first hpieces)

/-- what follows the last piece of an expression when a bar and `None` stand behind it -/
def behind (body q : List Char) : List Char := q ++ if opened body = 0 then [' '] else " | None".toList

/-- the text behind an expression is cut at its bar, or not at all -/
theorem splitAt_bar_none (body : List Char) (hq : Quotes q) :
    ∃ others, splitAt '|' (0 + opened body) (q ++ " | None".toList) = behind body q :: others := by
  have htext : q ++ " | None".toList = q ++ ' ' :: '|' :: " None".toList := rfl
  rw [htext, splitAt_bar hq, behind, Int.zero_add]
  split
  · exact ⟨_, rfl⟩
  · next hopened =>
    have hpieces : splitAt '|' (opened body) " None".toList = [" None".toList] := by simp [splitAt, cons]
    exact ⟨[], by rw [hpieces, foldr_cons]; simp⟩

/-- with a bar and `None` behind it, an expression comes down to its first member that is not `None` -/
theorem reduce_longer (h : Readable marks body q)
    (hm : firstMember? (split '|' (body ++ (q ++ " | None".toList))) = some m) :
    reduce (marks ++ (body ++ (q ++ " | None".toList))) = reduce m := by
  obtain ⟨c, rest, hbody, hc⟩ := h.bare.head
  have hlonger : Bare (body ++ (q ++ " | None".toList)) :=
    ⟨⟨c, _, by rw [hbody]; rfl, hc⟩, body ++ (q ++ " | Non".toList), 'e', by simp, by decide⟩
  have hfront : (body ++ (q ++ " | None".toList)).head? ≠ some '[' := by
    have := h.front
    rw [hbody] at this ⊢
    exact this
  exact reduce_of_member (hlonger.unwrap_marks h.opening) hlonger hfront hm

/-- With a bar and `None` behind it, an expression comes down to the same member, if an earlier one than its last piece
decides; else the last piece decides, with what follows it. -/
theorem reduce_behind (h : Readable marks body q) :
    (∃ m, firstMember? (split '|' body).dropLast = some m ∧ reduce (marks ++ (body ++ q)) = reduce m ∧
      reduce (marks ++ (body ++ (q ++ " | None".toList))) = reduce m) ∨
    (firstMember? (split '|' body).dropLast = none ∧ ∃ l, l <:+ body ∧ splitAt '|' 0 l = [l] ∧
      opened l = opened body ∧ reduce (marks ++ (body ++ q)) = reduce l ∧
      reduce (marks ++ (body ++ (q ++ " | None".toList))) = reduce (l ++ behind body q)) := by
  obtain ⟨e, ps, l, hcut⟩ := exists_cut '|' 0 body
  obtain ⟨others, hbehind⟩ := splitAt_bar_none body h.closing
  have hlonger := hcut.split_append hbehind
  rw [hcut.split_eq, List.dropLast_concat]
  obtain ⟨m, hm⟩ := h.member.exists_first
  have hreduce := h.reduce_eq hm
  rw [hcut.split_eq, firstMember?_append] at hm
  cases hearlier : firstMember? (ps.map trim) with
  | some k =>
    rw [hearlier] at hm
    obtain rfl : k = m := Option.some.inj hm
    refine Or.inl ⟨k, rfl, hreduce, h.reduce_longer ?_⟩
    rw [hlonger, firstMember?_append, hearlier]
    rfl
  | none =>
    rw [hearlier, Option.none_or] at hm
    have hl : trim l ≠ noneName := by
      intro hnone
      rw [hnone] at hm
      cases hm
    obtain rfl : trim l = m := by
      rw [firstMember?_visible hl] at hm
      exact Option.some.inj hm
    have hvisible : trim (l ++ behind body q) ≠ noneName := by
      rw [behind]
      split
      · exact trim_append_ne_none hl h.closing (Or.inl rfl)
      · exact trim_append_ne_none hl h.closing (Or.inr (by decide))
    have hwhole := hcut.whole
    rw [hcut.start_zero] at hwhole
    refine Or.inr ⟨rfl, l, hcut.suffix, hwhole, hcut.opened_last, hreduce.trans (reduce_trim l), ?_⟩
    rw [← reduce_trim (l ++ behind body q)]
    refine h.reduce_longer ?_
    rw [hlonger, firstMember?_append, hearlier, Option.none_or, firstMember?_visible hvisible]

/-- a piece at the end of an expression ends as that does -/
theorem unwrap_last (h : Readable marks body q) {l : List Char} (hl : l <:+ body) : unwrap (l ++ q) = unwrap l := by
  by_cases hne : l = []
  · rw [hne, List.nil_append, unwrap_quotes_eq_nil h.closing]
    rfl
  · obtain ⟨front, c, rfl, hc⟩ := last_of_suffix hl h.bare.last hne
    rw [List.append_assoc]
    exact unwrap_append_quotes hc front h.closing

/-- **`None` behind an expression** has no effect if it is cut off, or if an earlier member decides. -/
theorem reduce_bar_none (h : Readable marks body q)
    (hcut : opened body = 0 ∨ ∃ m ∈ (split '|' body).dropLast, m ≠ noneName) :
    reduce (marks ++ (body ++ (q ++ " | None".toList))) = reduce (marks ++ (body ++ q)) := by
  rcases h.reduce_behind with ⟨m, -, hreduce, hlonger⟩ | ⟨hnone, l, hl, -, -, hreduce, hlonger⟩
  · rw [hlonger, hreduce]
  · have hzero : opened body = 0 := by
      refine hcut.resolve_right ?_
      rintro ⟨m, hm, hne⟩
      exact hne (firstMember?_eq_none.1 hnone m hm)
    rw [hlonger, hreduce, behind, if_pos hzero]
    refine reduce_congr ?_
    rw [← List.append_assoc, unwrap, trim_append_right _ blanks_space]
    exact h.unwrap_last hl

end Readable

/-! ## Bars that are not cut at -/

theorem dropTyping_sublist (name : List Char) : (dropTyping name).Sublist name := by
  unfold dropTyping
  split
  · exact List.drop_sublist _ _
  · exact List.Sublist.refl _

/-- the name before the brackets is a part of the text -/
theorem length_name_le {s name args : List Char} (h : application? s = some (name, args)) :
    name.length ≤ s.length := by
  unfold application? at h
  split at h
  · split at h
    · cases h
      exact ((dropTyping_sublist _).trans (List.takeWhile_sublist _)).length_le
    · cases h
  · cases h

/-- the answers that do not depend on the text of an expression -/
def fixedAnswers : List Reduced := [bareArray, mapping, ⟨"str".toList, false⟩, ⟨noneName, false⟩]

/-- the answers of a single expression: a fixed one, the name in front of arguments, or the whole expression -/
theorem stepSingle_done {x : List Char} {answer : Reduced} (h : stepSingle x = .done answer) :
    answer ∈ fixedAnswers ∨
      (∃ name args, application? x = some (name, args) ∧ Head.ofName (bareName name) = .other ∧
        answer = ⟨name, false⟩) ∨
      answer = ⟨x, false⟩ := by
  unfold stepSingle at h
  split at h
  · next name args happ =>
    unfold stepApplication at h
    split at h
    · cases h
    · split at h
      · cases h
      · cases h
        exact Or.inl (by simp [fixedAnswers])
    · cases h
    · cases h
      exact Or.inl (by simp [fixedAnswers])
    · cases h
      exact Or.inl (by simp [fixedAnswers])
    · next hhead =>
      cases h
      exact Or.inr (Or.inl ⟨name, args, happ, hhead, rfl⟩)
  · unfold stepName at h
    split at h
    · cases h
      exact Or.inl (by simp [fixedAnswers])
    · cases h
      exact Or.inl (by simp [fixedAnswers])
    · cases h
      exact Or.inr (Or.inr rfl)

theorem length_stepSingle_done {x : List Char} {answer : Reduced} (h : stepSingle x = .done answer) :
    answer.element.length ≤ max x.length 6 := by
  rcases stepSingle_done h with hfixed | ⟨name, args, happ, -, rfl⟩ | rfl
  · have hlengths : ∀ r ∈ fixedAnswers, r.element.length ≤ 6 := by decide
    exact (hlengths answer hfixed).trans (Nat.le_max_right _ 6)
  · exact (length_name_le happ).trans (Nat.le_max_left _ _)
  · exact Nat.le_max_left _ _

/-- what an expression comes down to is no longer than the expression, or one of the fixed names -/
theorem length_reduce_le (s : List Char) : (reduce s).element.length ≤ max s.length 6 := by
  fun_induction reduce s with
  | case1 s answer hstep =>
    have hs := (unwrap_sublist s).length_le
    have hsingle : ∀ x, x.length ≤ s.length → stepSingle x = .done answer →
      answer.element.length ≤ max s.length 6 :=
      fun x hx h => (length_stepSingle_done h).trans (by omega)
    unfold step at hstep
    split at hstep
    · cases hstep
    · split at hstep
      · split at hstep
        · cases hstep
        · exact hsingle _ hs hstep
      · exact hsingle _ hs hstep
  | case2 s inner isArray hstep r ih =>
    have hinner := length_of_step hstep
    exact ih.trans (by omega)

/-- An expression whose last piece opens more brackets than it closes, or fewer, and that is all in that piece. -/
structure Unmatched (s : List Char) : Prop where
  last : ∃ front c, s = front ++ [c] ∧ isEdge c = true
  whole : splitAt '|' 0 s = [s]
  unbalanced : opened s ≠ 0

namespace Unmatched

variable {s w : List Char}

/-- what is left of it when its front is taken off -/
theorem of_append {b : List Char} (h : Unmatched (b ++ s)) (hb : opened b = 0)
    (hsplit : splitAt '|' 0 (b ++ s) = b.foldr cons (splitAt '|' 0 s)) : Unmatched s := by
  have hunbalanced : opened s ≠ 0 := by
    have := h.unbalanced
    rwa [opened_append, hb, Int.zero_add] at this
  refine ⟨last_of_suffix (List.suffix_append b s) h.last ?_, ?_, hunbalanced⟩
  · rintro rfl
    exact hunbalanced opened_nil
  · obtain ⟨p, ps, hpieces⟩ := List.exists_cons_of_ne_nil (splitAt_ne_nil '|' 0 s)
    rw [h.whole, hpieces, foldr_cons] at hsplit
    obtain ⟨hp, hps⟩ := List.cons.inj hsplit
    rw [hpieces, ← hps, ← List.append_cancel_left hp]

theorem of_plain {b : List Char} (h : Unmatched (b ++ s)) (hb : ∀ c ∈ b, isPlain c = true ∧ c ≠ '|') :
    Unmatched s :=
  h.of_append (opened_of_plain fun c hc => (hb c hc).1) (splitAt_plain hb 0 s)

theorem blanks_plain {b : List Char} (hb : Blanks b) : ∀ c ∈ b, isPlain c = true ∧ c ≠ '|' := by
  intro c hc
  refine ⟨isPlain_of_isBlank (hb c hc), ?_⟩
  rintro rfl
  have := hb _ hc
  revert this
  decide

/-- only the blanks in front of it are trimmed -/
theorem trimmed (h : Unmatched s) : Unmatched (trim s) := by
  obtain ⟨front, c, rfl, hc⟩ := h.last
  have htrim : trim (front ++ [c]) = front.dropWhile isBlank ++ [c] := by
    rw [trim, trimWhile, dropWhile_append_cons (Bare.not_blank hc), dropWhileEnd_append_cons (Bare.not_blank hc)]
    rfl
  rw [htrim]
  refine of_plain (b := front.takeWhile isBlank) ?_ (blanks_plain fun d hd => List.mem_takeWhile_imp hd)
  rwa [← List.append_assoc, List.takeWhile_append_dropWhile]

/-- and only the blanks and quotes there are taken off -/
theorem unwrapped (h : Unmatched s) : Unmatched (unwrap s) := by
  obtain ⟨front, c, rfl, hc⟩ := h.last
  have hunwrap : unwrap (front ++ [c]) = cutFront front ++ [c] := unwrap_append_cons hc front []
  rw [hunwrap]
  refine of_plain (b := front.takeWhile isBlank ++ (front.dropWhile isBlank).takeWhile isQuote) ?_ ?_
  · rwa [cutFront, ← List.append_assoc, List.append_assoc (front.takeWhile isBlank),
      List.takeWhile_append_dropWhile, List.takeWhile_append_dropWhile]
  · refine List.forall_mem_append.2 ⟨blanks_plain fun d hd => List.mem_takeWhile_imp hd, ?_⟩
    exact quotes_plain fun d hd => List.mem_takeWhile_imp hd

/-- what stands behind it is not trimmed, if it ends like an expression -/
theorem trim_append (h : Unmatched s) (hw : ∃ start c, w = start ++ [c] ∧ isEdge c = true) :
    trim (s ++ w) = trim s ++ w := by
  obtain ⟨front, c, rfl, hc⟩ := h.last
  obtain ⟨start, d, rfl, hd⟩ := hw
  rw [List.append_assoc, List.singleton_append, trim, trim, trimWhile, trimWhile,
    dropWhile_append_cons (Bare.not_blank hc), dropWhile_append_cons (Bare.not_blank hc),
    dropWhileEnd_append_cons (Bare.not_blank hc), dropWhileEnd_append_cons (Bare.not_blank hc),
    dropWhileEnd_append_cons (Bare.not_blank hd), List.append_assoc]
  rfl

theorem unwrap_append (h : Unmatched s) (hw : ∃ start c, w = start ++ [c] ∧ isEdge c = true) :
    unwrap (s ++ w) = unwrap s ++ w := by
  obtain ⟨front, c, rfl, hc⟩ := h.last
  obtain ⟨start, d, rfl, hd⟩ := hw
  rw [List.append_assoc, List.singleton_append, unwrap_append_cons hc, unwrap_append_cons hc,
    dropWhileEnd_append_cons (Bare.not_blank hd), dropWhileEnd_append_cons (Bare.not_quote hd), List.append_assoc]
  rfl

end Unmatched

/-- one step of an expression that is one of a list -/
theorem step_listOf {s inner : List Char} (h : unwrap s = '[' :: ']' :: inner) : step s = .into inner true := by
  simp only [step, h]

/-- and of one that is not -/
theorem step_element {s x m : List Char} (hx : unwrap s = x) (hlist : ∀ rest, x ≠ '[' :: ']' :: rest)
    (hm : firstMember? (split '|' x) = some m) : step s = if m ≠ x then .into m false else stepSingle x := by
  rw [step, hx]
  split
  · next rest => exact absurd rfl (hlist rest)
  · rw [hm]

/-- no empty brackets come to stand in front because something is put behind -/
theorem not_list_append {x q : List Char} (hne : x ≠ []) (hlist : ¬ ∃ rest, x = '[' :: ']' :: rest)
    (hq : Quotes q) (rest : List Char) : x ++ (q ++ " | None".toList) ≠ '[' :: ']' :: rest := by
  intro hrest
  match x, hne with
  | [a], _ =>
    rw [List.cons_append, List.nil_append] at hrest
    obtain ⟨-, hclose⟩ := List.cons.inj hrest
    cases q with
    | nil => simp at hclose
    | cons c q =>
      have hquote := hq c List.mem_cons_self
      obtain ⟨rfl, -⟩ := List.cons.inj hclose
      revert hquote
      decide
  | a :: d :: x, _ =>
    simp only [List.cons_append, List.cons.injEq] at hrest
    obtain ⟨rfl, rfl, -⟩ := hrest
    exact hlist ⟨x, rfl⟩

/-- a text with a bar and `None` at its end is a name -/
theorem stepSingle_bar_none (s : List Char) :
    stepSingle (s ++ " | None".toList) = .done ⟨s ++ " | None".toList, false⟩ := by
  have happ : application? (s ++ " | None".toList) = none := by
    rw [application?]
    split
    · next rest hrest =>
      rw [if_neg]
      rintro ⟨-, hlast⟩
      -- the text ends with a letter and not with a bracket
      obtain ⟨front, hfront⟩ := List.dropWhile_suffix (l := s ++ " | None".toList) isNameChar
      have hend := congrArg List.getLast? hfront
      rw [hrest, List.getLast?_append, List.getLast?_append, List.getLast?_cons, hlast] at hend
      simp at hend
    · rfl
  have hother : Head.ofName (bareName (s ++ " | None".toList)) = .other := by
    refine (Head.mem_words _).resolve_right fun hword => ?_
    have hchars := (Head.ofName_words _ _ hword).2.2 '|'
    have hpoint : ∀ c ∈ " | None".toList.reverse, (c != '.') = true := List.all_eq_true.1 (by decide)
    have hbar : '|' ∈ bareName (s ++ " | None".toList) := by
      rw [bareName, cutLast, List.reverse_append, List.takeWhile_append_of_pos hpoint]
      simp
    rw [String.toList_ofList] at hchars
    have hname := (hchars hbar).1
    revert hname
    decide +kernel
  rw [stepSingle, happ]
  dsimp only
  rw [stepName, hother]

/-- what an expression that is looked at as a single one comes down to is no longer than it, or a fixed name -/
theorem length_reduce_single {s x : List Char} (h : step s = stepSingle x) :
    (reduce s).element.length ≤ max x.length 6 := by
  cases hstep : stepSingle x with
  | done answer =>
    rw [reduce_done (h.trans hstep)]
    exact length_stepSingle_done hstep
  | into inner isArray =>
    rw [reduce_into (h.trans hstep)]
    have hinner := length_of_stepSingle hstep
    exact (length_reduce_le inner).trans (by omega)

theorem Unmatched.members {x : List Char} (h : Unmatched x) : firstMember? (split '|' x) = some (trim x) := by
  have hvisible : trim x ≠ noneName := by
    intro hnone
    have hzero := opened_trim x
    rw [hnone] at hzero
    exact h.unbalanced hzero.symm
  rw [split, h.whole, List.map_singleton, firstMember?_visible hvisible]

theorem Unmatched.members_append {x q : List Char} (h : Unmatched x) (hq : Quotes q) :
    firstMember? (split '|' (x ++ (q ++ " | None".toList))) = some (trim (x ++ (q ++ " | None".toList))) := by
  obtain ⟨others, hbehind⟩ := Readable.splitAt_bar_none x hq
  have hvisible : trim (x ++ (q ++ " | None".toList)) ≠ noneName :=
    trim_ne_none (c := '|') (by decide) (by simp) (by decide)
  rw [Readable.behind, if_neg h.unbalanced] at hbehind
  rw [split, splitAt_whole h.whole hbehind, List.map_cons, firstMember?_visible hvisible]

/-- is what stands behind the text kept, and does the text come down to less without it? -/
def Keeps (w s : List Char) : Prop :=
  ∃ z, (reduce (s ++ w)).element = z ++ w ∧ (reduce s).element.length ≤ max z.length 6

theorem Keeps.into {w s inner : List Char} {isArray : Bool} (h : Keeps w inner) (hs : step s = .into inner isArray)
    (hsw : step (s ++ w) = .into (inner ++ w) isArray) : Keeps w s := by
  obtain ⟨z, hz, hle⟩ := h
  refine ⟨z, ?_, ?_⟩
  · rw [reduce_into hsw]
    exact hz
  · rw [reduce_into hs]
    exact hle

/-- one step for a text with unmatched brackets and what stands behind it, if no empty brackets stand in front -/
theorem Unmatched.keeps_element {s x q w : List Char} (hx : Unmatched x) (hs : unwrap s = x)
    (hsw : unwrap (s ++ w) = x ++ w) (hlist : ¬ ∃ rest, x = '[' :: ']' :: rest) (hq : Quotes q)
    (hw : w = q ++ " | None".toList) (hend : ∃ start c, w = start ++ [c] ∧ isEdge c = true)
    (htrim : trim x ≠ x → Keeps w (trim x)) : Keeps w s := by
  have hne : x ≠ [] := fun hnil => hx.unbalanced (by rw [hnil, opened_nil])
  have hlistw : ∀ rest, x ++ w ≠ '[' :: ']' :: rest := hw ▸ not_list_append hne hlist hq
  have hstep := step_element hs (fun rest hrest => hlist ⟨rest, hrest⟩) hx.members
  have hstepw := step_element hsw hlistw (hw ▸ hx.members_append hq)
  rw [hx.trim_append hend] at hstepw
  by_cases hself : trim x = x
  · rw [if_neg (by simp [hself])] at hstep hstepw
    have hsingle := stepSingle_bar_none (x ++ q)
    rw [List.append_assoc, ← hw] at hsingle
    exact ⟨x, by rw [reduce_done (hstepw.trans hsingle)], length_reduce_single hstep⟩
  · rw [if_pos hself] at hstep
    rw [if_pos fun heq => hself (List.append_cancel_right heq)] at hstepw
    exact (htrim hself).into hstep hstepw

theorem length_trim_lt {x : List Char} (h : trim x ≠ x) : (trim x).length < x.length := by
  have hsub : (trim x).Sublist x := trimWhile_sublist isBlank x
  exact Nat.lt_of_le_of_ne hsub.length_le fun heq => h (hsub.eq_of_length heq)

/-- What a text with unmatched brackets comes down to keeps a bar and `None` that stand at its end, and without them it
comes down to less. -/
theorem Unmatched.reduce_append {s q w : List Char} (h : Unmatched s) (hq : Quotes q)
    (hw : w = q ++ " | None".toList) : Keeps w s := by
  induction hn : s.length using Nat.strong_induction_on generalizing s with
  | _ n ih =>
    subst hn
    have hend : ∃ start c, w = start ++ [c] ∧ isEdge c = true :=
      ⟨q ++ " | Non".toList, 'e', by simp [hw], by decide⟩
    have hx := h.unwrapped
    have hxw := h.unwrap_append hend
    have hlength : (unwrap s).length ≤ s.length := (unwrap_sublist s).length_le
    generalize hxs : unwrap s = x at hx hxw hlength
    by_cases hlist : ∃ rest, x = '[' :: ']' :: rest
    · -- empty brackets in front are taken off, and what is behind them is looked at
      obtain ⟨rest, rfl⟩ := hlist
      have hrest : Unmatched rest := hx.of_append (b := ['[', ']']) rfl rfl
      have hshorter : rest.length < s.length := by
        simp only [List.length_cons] at hlength
        omega
      exact (ih _ hshorter hrest rfl).into (step_listOf hxs) (step_listOf hxw)
    · refine hx.keeps_element hxs hxw hlist hq hw hend fun htrim => ?_
      exact ih _ (Nat.lt_of_lt_of_le (length_trim_lt htrim) hlength) hx.trimmed rfl

/-! ## Optional expressions -/

theorem plain_of_isOrdinary {c : Char} (h : isOrdinary c = true) : isPlain c = true ∧ c ≠ '|' := by
  simp only [isOrdinary, Bool.and_eq_true] at h
  exact ⟨h.1.1.2, bne_iff_ne.1 h.1.2⟩

namespace Readable

variable {marks body q : List Char}

/-- **`None` behind an expression** has no effect exactly if it is cut off, or if an earlier member decides. -/
theorem reduce_bar_none_iff (h : Readable marks body q) :
    reduce (marks ++ (body ++ (q ++ " | None".toList))) = reduce (marks ++ (body ++ q)) ↔
      opened body = 0 ∨ ∃ m ∈ (split '|' body).dropLast, m ≠ noneName := by
  refine ⟨fun heq => ?_, h.reduce_bar_none⟩
  by_contra hcut
  obtain ⟨hopened, hearlier⟩ := not_or.1 hcut
  rcases h.reduce_behind with ⟨m, hm, -, -⟩ | ⟨-, l, hl, hwhole, hlast, hreduce, hlonger⟩
  · obtain ⟨hne, hmem⟩ := And.intro (List.find?_some hm) (List.mem_of_find?_eq_some hm)
    exact hearlier ⟨m, hmem, bne_iff_ne.1 hne⟩
  · have hunmatched : Unmatched l := by
      refine ⟨last_of_suffix hl h.bare.last ?_, hwhole, by rwa [hlast]⟩
      rintro rfl
      exact hopened hlast.symm
    obtain ⟨z, hz, hle⟩ := hunmatched.reduce_append h.closing rfl
    rw [behind, if_neg hopened] at hlonger
    have hlength := congrArg (fun r : Reduced => r.element.length) heq
    rw [hlonger, hreduce] at hlength
    simp only [hz, List.length_append] at hlength
    have hnone : " | None".toList.length = 7 := by decide
    omega

end Readable

/-- With all brackets counted, those in string literals too, nothing divides a text that stands between brackets: no
comma stands outside its brackets, and no bar where the brackets around it are closed. -/
structure Undivided (t : List Char) : Prop where
  comma : splitAt ',' 0 t = [t]
  bar : splitAt '|' 1 t = [t]

/-- a name with arguments is looked at as a whole if no bar divides what is between its brackets -/
theorem step_applied {head args : List Char} (h : Named head) (hbar : splitAt '|' 1 args = [args]) :
    step (applied head args) = stepApplication (dropTyping head) args := by
  have hbare := bare_applied h args
  have hsplit : split '|' (applied head args) = [applied head args] := by
    have hclose : splitAt '|' (1 + opened args) [']'] = [[']']] := by simp [splitAt, cons]
    have hplain : ∀ c ∈ head, isPlain c = true ∧ c ≠ '|' := fun c hc => plain_of_isOrdinary (h.ordinary c hc)
    have hbrackets : splitAt '|' 0 ('[' :: (args ++ [']'])) = ['[' :: (args ++ [']'])] := by
      rw [splitAt, if_pos rfl, Int.zero_add, splitAt_whole hbar hclose, cons]
    rw [split, applied, splitAt_plain hplain, hbrackets, foldr_cons, List.map_singleton]
    exact congrArg (fun s => [s]) hbare.trim_self
  have hlist : (applied head args).head? ≠ some '[' := by
    intro hhead
    rw [applied, List.head?_append_of_ne_nil head h.nonempty] at hhead
    exact bracket_not_mem h.ordinary (List.mem_of_mem_head? hhead)
  have hmember : firstMember? (split '|' (applied head args)) = some (applied head args) := by
    rw [hsplit, firstMember?_visible (applied_ne_none head args)]
  rw [step_member hbare.unwrap_self hlist hmember, if_neg (by simp), stepSingle_applied h]

/-- **The brackets of `Optional`** have no effect, if nothing divides what is between them. -/
theorem Undivided.reduce_optional {t : List Char} (h : Undivided t) :
    reduce (applied "Optional".toList t) = reduce t := by
  have hnamed : Named "Optional".toList := ⟨by decide, List.all_eq_true.1 (by decide +kernel)⟩
  have hstep := step_applied hnamed h.bar
  rw [stepApplication, bareName_dropTyping] at hstep
  have hhead : Head.ofName (bareName "Optional".toList) = .transparent := by decide
  have hfirst : firstArgument t = trim t := by rw [firstArgument, split, h.comma]; rfl
  rw [hhead, hfirst] at hstep
  rw [reduce_into hstep, Bool.false_or, reduce_trim]

/-- what is between brackets that match is not divided, if it has no comma outside them -/
theorem Closed.undivided {t : List Char} (h : Closed (isOther ',') t) : Undivided t := by
  constructor
  · have hcomma := splitAt_other h []
    rwa [List.append_nil, splitAt, foldr_cons, List.append_nil] at hcomma
  · have hclosed : closedFrom (isOther '|') 1 (t ++ [']']) = true := by
      have hclose : closedFrom (isOther '|') 1 [']'] = true := by decide
      have := closedFrom_append h hclose (by simp)
      rwa [Nat.zero_add] at this
    have hbar : ∀ c, isOther '|' c = true → c ≠ '|' := by simp [isOther]
    have hwhole := splitAt_closed hbar hclosed []
    rw [List.append_nil, splitAt, foldr_cons, List.append_nil] at hwhole
    -- with the bracket behind it the text is one piece, so it is one without it
    obtain ⟨e, ps, l, hcut⟩ := exists_cut '|' 1 t
    have hclose : splitAt '|' (1 + opened t) [']'] = [[']']] := by simp [splitAt, cons]
    have hpieces := (hcut.goesOn hclose).symm.trans hwhole
    cases ps with
    | cons p ps => simp at hpieces
    | nil =>
      obtain rfl : l = t := by simpa using hpieces
      exact hcut.pieces

end RouteDocs.Schema.TypeExpr
