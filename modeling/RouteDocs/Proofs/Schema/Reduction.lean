/-
Laws of the reduction of type expressions, on raw text.

An expression is cut at separators that stand outside brackets, and loses the blanks and the quotes at its ends, each
end for itself. So what decides an answer stands at the front: quotes, or a further member of a union, may follow an
expression without any effect (`Tail`).

- `splitAt_closed`: a text whose brackets match goes into one piece.
- `firstMember_nones`: the first member of a union that is not `None`.
- `unwrap_quotes`, `unwrap_bar`: what is left of an expression without blanks and quotes.
- `reduce_lead`: members of a union that are `None`, and what follows the first other member, have no effect.
-/
import RouteDocs.Proofs.Text.Blank
import RouteDocs.Schema.TypeExpr

namespace RouteDocs.Schema.TypeExpr

open RouteDocs.Text

/-! ## Texts closed under brackets -/

/-- do the brackets of a text match, if so many are open before it, with characters in `p` only outside brackets? -/
def closedFrom (p : Char → Bool) : (depth : Nat) → List Char → Bool
  | depth, [] => depth == 0
  | depth, c :: rest =>
    if c = '[' then closedFrom p (depth + 1) rest
    else if c = ']' then depth != 0 && closedFrom p (depth - 1) rest
    else (depth != 0 || p c) && closedFrom p depth rest

/-- the brackets of a text match, and outside them there are characters in `p` only -/
def Closed (p : Char → Bool) (s : List Char) : Prop := closedFrom p 0 s = true

instance (p : Char → Bool) (s : List Char) : Decidable (Closed p s) := inferInstanceAs (Decidable (_ = true))

/-- the brackets of a text match -/
def Balanced (s : List Char) : Prop := Closed (fun _ => true) s

instance (s : List Char) : Decidable (Balanced s) := inferInstanceAs (Decidable (Closed _ s))

section Closed

variable {p q : Char → Bool} {s t : List Char}

/-- A text that closes some brackets, and one that closes the others, close all. What stands outside the brackets of the
first text stands inside some, or is in the class. -/
theorem closedFrom_append {d e : Nat} (hs : closedFrom q d s = true) (ht : closedFrom p e t = true)
    (hq : e = 0 → ∀ c, q c = true → p c = true) : closedFrom p (d + e) (s ++ t) = true := by
  induction s generalizing d with
  | nil =>
    obtain rfl : d = 0 := by simpa [closedFrom] using hs
    simpa using ht
  | cons c rest ih =>
    rw [closedFrom] at hs
    rw [List.cons_append, closedFrom]
    split at hs
    · next hopen =>
      rw [if_pos hopen, Nat.add_right_comm]
      exact ih hs
    · next hopen =>
      rw [if_neg hopen]
      split at hs
      · next hclose =>
        rw [if_pos hclose]
        simp only [Bool.and_eq_true, bne_iff_ne, ne_eq] at hs ⊢
        have hdepth : d + e - 1 = d - 1 + e := by omega
        exact ⟨by omega, hdepth ▸ ih hs.2⟩
      · next hclose =>
        rw [if_neg hclose]
        simp only [Bool.and_eq_true, Bool.or_eq_true, bne_iff_ne, ne_eq] at hs ⊢
        refine ⟨?_, ih hs.2⟩
        by_cases he : e = 0
        · exact hs.1.imp (by omega) (hq he c)
        · exact Or.inl (by omega)

theorem Closed.append (hs : Closed p s) (ht : Closed p t) : Closed p (s ++ t) :=
  closedFrom_append hs ht fun _ _ h => h

theorem Closed.mono (hs : Closed p s) (h : ∀ c, p c = true → q c = true) : Closed q s := by
  have := closedFrom_append hs (t := []) (p := q) (e := 0) rfl fun _ => h
  rwa [List.append_nil] at this

theorem Closed.balanced (hs : Closed p s) : Balanced s := hs.mono fun _ _ => rfl

/-- what stands between brackets may be anything whose brackets match -/
theorem Balanced.bracketed (hs : Balanced s) (ht : Closed p t) : Closed p ('[' :: (s ++ ']' :: t)) := by
  have hrest : closedFrom p 1 (']' :: t) = true := by simpa [closedFrom, Closed] using ht
  have := closedFrom_append hs hrest (by simp)
  simpa [Closed, closedFrom] using this

def isPlain (c : Char) : Bool := c != '[' && c != ']'

theorem closed_of_forall (h : ∀ c ∈ s, isPlain c = true ∧ p c = true) : Closed p s := by
  induction s with
  | nil => rfl
  | cons c rest ih =>
    obtain ⟨⟨hplain, hp⟩, hrest⟩ := List.forall_mem_cons.1 h
    simp only [isPlain, Bool.and_eq_true, bne_iff_ne, ne_eq] at hplain
    simpa [Closed, closedFrom, hplain.1, hplain.2, hp] using ih hrest

end Closed

/-! ## Splitting -/

theorem foldr_cons (s piece : List Char) (others : List (List Char)) :
    s.foldr cons (piece :: others) = (s ++ piece) :: others := by
  induction s with
  | nil => rfl
  | cons c rest ih => rw [List.foldr_cons, ih, cons, List.cons_append]

/-- a text whose brackets match goes into one piece -/
theorem splitAt_closed {p : Char → Bool} {sep : Char} (hp : ∀ c, p c = true → c ≠ sep) {d : Nat} {s : List Char}
    (hs : closedFrom p d s = true) (rest : List Char) :
    splitAt sep d (s ++ rest) = s.foldr cons (splitAt sep 0 rest) := by
  induction s generalizing d with
  | nil =>
    obtain rfl : d = 0 := by simpa [closedFrom] using hs
    rfl
  | cons c tail ih =>
    rw [closedFrom] at hs
    rw [List.cons_append, splitAt, List.foldr_cons]
    split at hs
    · next hopen =>
      rw [if_pos hopen, ← ih hs]
      rfl
    · next hopen =>
      rw [if_neg hopen]
      split at hs
      · next hclose =>
        rw [if_pos hclose]
        simp only [Bool.and_eq_true, bne_iff_ne, ne_eq] at hs
        have hdepth : (d : Int) - 1 = (d - 1 : Nat) := by omega
        rw [hdepth, ih hs.2]
      · next hclose =>
        rw [if_neg hclose]
        simp only [Bool.and_eq_true, Bool.or_eq_true, bne_iff_ne, ne_eq] at hs
        have hinside : ¬ (c = sep ∧ (d : Int) = 0) := by
          rintro ⟨hc, hd⟩
          rcases hs.1 with h | h
          · omega
          · exact hp c h hc
        rw [if_neg hinside, ih hs.2]

def isOther (sep c : Char) : Bool := c != sep

theorem splitAt_other {sep : Char} {s : List Char} (hs : Closed (isOther sep) s) (rest : List Char) :
    splitAt sep 0 (s ++ rest) = s.foldr cons (splitAt sep 0 rest) :=
  splitAt_closed (by simp [isOther]) hs rest

theorem split_closed {sep : Char} {s : List Char} (hs : Closed (isOther sep) s) : split sep s = [trim s] := by
  have := splitAt_other hs []
  rw [List.append_nil, splitAt, foldr_cons, List.append_nil] at this
  rw [split, this, List.map_singleton]

theorem split_closed_cons {sep : Char} (hsep : isPlain sep = true) {s : List Char} (hs : Closed (isOther sep) s)
    (rest : List Char) : split sep (s ++ sep :: rest) = trim s :: split sep rest := by
  simp only [isPlain, Bool.and_eq_true, bne_iff_ne, ne_eq] at hsep
  have hpiece : splitAt sep 0 (sep :: rest) = [] :: splitAt sep 0 rest := by
    rw [splitAt, if_neg hsep.1, if_neg hsep.2, if_pos ⟨rfl, rfl⟩]
  rw [split, splitAt_other hs, hpiece, foldr_cons, List.append_nil, List.map_cons, split]

/-! ## Members of a union -/

abbrev Gap := { s : List Char // Blanks s }

/-- members of a union that are `None`, each with the separator after it and with blanks around that -/
def nones (sep : Char) (gaps : List (Gap × Gap)) : List Char :=
  gaps.flatMap fun g => noneName ++ (g.1.val ++ sep :: g.2.val)

/-- the separators of members: no brackets, no blanks, and not in the name of the missing type -/
structure Separates (sep : Char) : Prop where
  plain : isPlain sep = true
  visible : isBlank sep = false
  foreign : sep ∉ noneName

theorem isPlain_of_isBlank {c : Char} (h : isBlank c = true) : isPlain c = true := by
  simp only [isPlain, Bool.and_eq_true, bne_iff_ne, ne_eq]
  refine ⟨?_, ?_⟩ <;> (rintro rfl; revert h; decide)

theorem Separates.closed_blanks {sep : Char} (hsep : Separates sep) {s : List Char} (hs : Blanks s) :
    Closed (isOther sep) s := by
  refine closed_of_forall fun c hc => ⟨isPlain_of_isBlank (hs c hc), ?_⟩
  rw [isOther, bne_iff_ne]
  rintro rfl
  have hblank := hs c hc
  rw [hsep.visible] at hblank
  cases hblank

theorem Separates.closed_none {sep : Char} (hsep : Separates sep) : Closed (isOther sep) noneName := by
  have hplain : noneName.all isPlain = true := by decide
  refine closed_of_forall fun c hc => ⟨List.all_eq_true.1 hplain c hc, ?_⟩
  rw [isOther, bne_iff_ne]
  rintro rfl
  exact hsep.foreign hc

theorem firstMember?_cons (m : List Char) (ms : List (List Char)) :
    firstMember? (m :: ms) = if m = noneName then firstMember? ms else some m := by
  rw [firstMember?, List.find?_cons]
  by_cases h : m = noneName
  · simp [h, firstMember?]
  · simp [h, bne_iff_ne.2 h]

/-- the first member that is not `None`, when some that are come before it -/
theorem firstMember_nones {sep : Char} (hsep : Separates sep) (gaps : List (Gap × Gap)) {left piece rest : List Char}
    (hleft : Blanks left) (hpiece : Closed (isOther sep) piece) (hnone : trim piece ≠ noneName)
    (hrest : rest = [] ∨ ∃ r, rest = sep :: r) :
    firstMember? (split sep (left ++ (nones sep gaps ++ (piece ++ rest)))) = some (trim piece) := by
  induction gaps generalizing left with
  | nil =>
    have hclosed : Closed (isOther sep) (left ++ piece) := (hsep.closed_blanks hleft).append hpiece
    have hfirst : firstMember? [trim (left ++ piece)] = some (trim piece) := by
      rw [trim_append_left hleft, firstMember?_cons, if_neg hnone]
    rw [nones, List.flatMap_nil, List.nil_append, ← List.append_assoc]
    rcases hrest with rfl | ⟨r, rfl⟩
    · rw [List.append_nil, split_closed hclosed, hfirst]
    · rw [split_closed_cons hsep.plain hclosed, trim_append_left hleft, firstMember?_cons, if_neg hnone]
  | cons g gaps ih =>
    obtain ⟨before, after⟩ := g
    have hclosed : Closed (isOther sep) (left ++ (noneName ++ before.val)) :=
      (hsep.closed_blanks hleft).append (hsep.closed_none.append (hsep.closed_blanks before.property))
    have htrim : trim (left ++ (noneName ++ before.val)) = noneName := by
      rw [trim_append_left hleft, trim_append_right _ before.property]
      decide
    have htext : left ++ (nones sep ((before, after) :: gaps) ++ (piece ++ rest))
        = left ++ (noneName ++ before.val) ++ sep :: (after.val ++ (nones sep gaps ++ (piece ++ rest))) := by
      simp [nones]
    rw [htext, split_closed_cons hsep.plain hclosed, htrim, firstMember?_cons, if_pos rfl, ih after.property]

/-! ## Blanks and quotes at the ends -/

def Quotes (s : List Char) : Prop := ∀ c ∈ s, isQuote c = true

/-- may the character stand at the end of an expression that is not in quotes? -/
def isEdge (c : Char) : Bool := !isBlank c && !isQuote c

/-- a text with neither blanks nor quotes at its ends -/
structure Bare (s : List Char) : Prop where
  head : ∃ c rest, s = c :: rest ∧ isEdge c = true
  last : ∃ front c, s = front ++ [c] ∧ isEdge c = true

/-- what may follow an expression: quotes, and after them the end or a further member of a union -/
inductive Tail : List Char → Prop
  | quotes {q : List Char} (hq : Quotes q) : Tail q
  | bar {q gap : List Char} (hq : Quotes q) (hgap : Blanks gap) (rest : List Char) :
    Tail (q ++ (gap ++ '|' :: rest))

theorem Quotes.nil : Quotes [] := List.forall_mem_nil _

theorem Quotes.append {s t : List Char} (hs : Quotes s) (ht : Quotes t) : Quotes (s ++ t) :=
  List.forall_mem_append.2 ⟨hs, ht⟩

theorem Tail.nil : Tail [] := .quotes .nil

/-- more quotes may come before what follows -/
theorem Tail.append {q w : List Char} (hq : Quotes q) (hw : Tail w) : Tail (q ++ w) := by
  cases hw with
  | quotes hw => exact .quotes (hq.append hw)
  | bar hw hgap rest =>
    rw [← List.append_assoc]
    exact .bar (hq.append hw) hgap rest

theorem isBlank_of_isQuote {c : Char} (h : isQuote c = true) : isBlank c = false := by
  simp only [isQuote, Bool.or_eq_true, beq_iff_eq] at h
  rcases h with rfl | rfl <;> decide

theorem Quotes.dropWhileEnd {q : List Char} (hq : Quotes q) : dropWhileEnd isBlank q = q := by
  rw [dropWhileEnd_eq_rdropWhile]
  refine List.rdropWhile_eq_self_iff.2 fun hne => ?_
  rw [isBlank_of_isQuote (hq _ (List.getLast_mem hne))]
  decide

/-- a character outside the class is kept, with all that comes before it -/
theorem dropWhileEnd_append_cons {p : Char → Bool} {c : Char} (hc : p c = false) (s rest : List Char) :
    dropWhileEnd p (s ++ c :: rest) = s ++ c :: dropWhileEnd p rest := by
  have hend : dropWhileEnd p (s ++ [c]) = s ++ [c] :=
    dropWhileEnd_append_self s (dropWhileEnd_singleton hc) (List.cons_ne_nil c [])
  have := dropWhileEnd_append hend rest
  rwa [List.append_assoc, List.append_assoc] at this

namespace Bare

variable {body marks q w : List Char}

theorem dropWhileEnd_append (hb : Bare body) {p : Char → Bool} (hp : ∀ c, isEdge c = true → p c = false)
    (front s : List Char) : dropWhileEnd p (front ++ (body ++ s)) = front ++ (body ++ dropWhileEnd p s) := by
  obtain ⟨start, c, rfl, hc⟩ := hb.last
  have := dropWhileEnd_append_cons (hp c hc) (front ++ start) s
  simpa using this

theorem not_blank {c : Char} (h : isEdge c = true) : isBlank c = false := by
  simp only [isEdge, Bool.and_eq_true, Bool.not_eq_true'] at h
  exact h.1

theorem not_quote {c : Char} (h : isEdge c = true) : isQuote c = false := by
  simp only [isEdge, Bool.and_eq_true, Bool.not_eq_true'] at h
  exact h.2

/-- only what is behind an expression is trimmed, if nothing but quotes stands in front of it -/
theorem trim_eq (hb : Bare body) (hm : Quotes marks) (s : List Char) :
    trim (marks ++ (body ++ s)) = marks ++ (body ++ dropWhileEnd isBlank s) := by
  obtain ⟨c, rest, hbody, hc⟩ := hb.head
  have hfront : (marks ++ (body ++ s)).dropWhile isBlank = marks ++ (body ++ s) := by
    cases marks with
    | nil =>
      rw [hbody, List.nil_append, List.cons_append, List.dropWhile_cons_of_neg (by simp [not_blank hc])]
    | cons m marks =>
      have hm' : isBlank m = false := isBlank_of_isQuote (hm m List.mem_cons_self)
      rw [List.cons_append, List.dropWhile_cons_of_neg (by simp [hm'])]
  rw [trim, trimWhile, hfront, hb.dropWhileEnd_append fun _ => not_blank]

theorem trim_self (hb : Bare body) : trim body = body := by
  simpa [dropWhileEnd] using hb.trim_eq .nil []

/-- the quotes in front are taken off, and behind an expression the blanks and then the quotes -/
theorem unwrap_eq (hb : Bare body) (hm : Quotes marks) (s : List Char) :
    unwrap (marks ++ (body ++ s)) = body ++ dropWhileEnd isQuote (dropWhileEnd isBlank s) := by
  obtain ⟨c, rest, hbody, hc⟩ := hb.head
  have hquotes : ∀ d ∈ (body ++ dropWhileEnd isBlank s).head?, isQuote d = false := by
    intro d hd
    rw [hbody, List.cons_append, List.head?_cons, Option.mem_some] at hd
    exact hd ▸ not_quote hc
  have hend := hb.dropWhileEnd_append (fun _ => not_quote) [] (dropWhileEnd isBlank s)
  rw [unwrap, hb.trim_eq hm, trimWhile, dropWhile_run hm hquotes]
  exact hend

/-- an expression in quotes is what stands between them -/
theorem unwrap_quotes (hb : Bare body) (hm : Quotes marks) (hq : Quotes q) : unwrap (marks ++ (body ++ q)) = body := by
  rw [hb.unwrap_eq hm, hq.dropWhileEnd, dropWhileEnd_eq_rdropWhile, List.rdropWhile_eq_nil_iff.2 hq, List.append_nil]

/-- before a further member of a union, quotes are kept -/
theorem unwrap_bar (hb : Bare body) (hm : Quotes marks) (q rest : List Char) :
    ∃ rest', unwrap (marks ++ (body ++ (q ++ '|' :: rest))) = body ++ (q ++ '|' :: rest') := by
  rw [hb.unwrap_eq hm, dropWhileEnd_append_cons (by decide), dropWhileEnd_append_cons (by decide)]
  exact ⟨_, rfl⟩

theorem unwrap_marks (hb : Bare body) (hm : Quotes marks) : unwrap (marks ++ body) = body := by
  have := hb.unwrap_quotes hm .nil
  rwa [List.append_nil] at this

theorem unwrap_self (hb : Bare body) : unwrap body = body := hb.unwrap_marks .nil

end Bare

/-! ## Steps -/

variable {s inner x : List Char}

/-- blanks and quotes at the ends do not matter -/
theorem reduce_congr {s t : List Char} (h : unwrap s = unwrap t) : reduce s = reduce t := by
  have hstep : step s = step t := by rw [step, step, h]
  rw [reduce, reduce, hstep]

theorem reduce_done {answer : Reduced} (h : step s = .done answer) : reduce s = answer := by
  rw [reduce]
  split
  · next a ha =>
    rw [h] at ha
    exact (Step.done.inj ha).symm
  · next ha =>
    rw [h] at ha
    cases ha

theorem reduce_into {isArray : Bool} (h : step s = .into inner isArray) :
    reduce s = ⟨(reduce inner).element, isArray || (reduce inner).isArray⟩ := by
  rw [reduce]
  split
  · next ha =>
    rw [h] at ha
    cases ha
  · next i a ha =>
    rw [h] at ha
    obtain ⟨rfl, rfl⟩ := Step.into.inj ha
    rfl

/-- an expression behind empty brackets is one of a list -/
theorem reduce_listOf (h : unwrap s = '[' :: ']' :: inner) : reduce s = ⟨(reduce inner).element, true⟩ := by
  have hstep : step s = .into inner true := by simp only [step, h]
  rw [reduce_into hstep, Bool.true_or]

/-- an expression that is no list is decided by its first member that is not `None` -/
theorem step_member (hx : unwrap s = x) (hlist : x.head? ≠ some '[') {m : List Char}
    (hm : firstMember? (split '|' x) = some m) : step s = if m ≠ x then .into m false else stepSingle x := by
  rw [step, hx]
  split
  · simp at hlist
  · rw [hm]

theorem reduce_member (hx : unwrap s = x) (hlist : x.head? ≠ some '[') {m : List Char}
    (hm : firstMember? (split '|' x) = some m) (hne : m ≠ x) : reduce s = reduce m := by
  have hstep := step_member hx hlist hm
  rw [if_pos hne] at hstep
  rw [reduce_into hstep, Bool.false_or]

/-- the bar between the members of a union -/
theorem separates_bar : Separates '|' := ⟨by decide, by decide, by decide⟩

/-- the comma between arguments -/
theorem separates_comma : Separates ',' := ⟨by decide, by decide, by decide⟩

/-- an expression without blanks, quotes and bars is looked at as a single one -/
theorem step_single (hx : Bare x) (hlist : x.head? ≠ some '[') (hclosed : Closed (isOther '|') x)
    (hnone : x ≠ noneName) : step x = stepSingle x := by
  have hm : firstMember? (split '|' x) = some x := by
    rw [split_closed hclosed, hx.trim_self, firstMember?_cons, if_neg hnone]
  rw [step_member hx.unwrap_self hlist hm, if_neg (by simp)]

theorem head?_nones (g : Gap × Gap) (gaps : List (Gap × Gap)) (s : List Char) :
    (nones '|' (g :: gaps) ++ s).head? = some 'N' := rfl

theorem closed_quotes {q : List Char} (hq : Quotes q) : Closed (isOther '|') q := by
  refine closed_of_forall fun c hc => ?_
  have h := hq c hc
  simp only [isQuote, Bool.or_eq_true, beq_iff_eq] at h
  rcases h with rfl | rfl <;> decide

/-- **What a union begins with.** Members that are `None` have no effect, and neither has what follows the first other
member. -/
theorem reduce_lead (gaps : List (Gap × Gap)) {marks body w : List Char} (hm : Quotes marks) (hb : Bare body)
    (hclosed : Closed (isOther '|') body) (hnone : body ≠ noneName)
    (hfirst : gaps = [] → marks = [] ∧ body.head? ≠ some '[') (hw : Tail w) :
    reduce (nones '|' gaps ++ (marks ++ (body ++ w))) = reduce body := by
  -- the union up to its first other member is an expression of its own
  have hwhole : Bare (nones '|' gaps ++ (marks ++ body)) := by
    obtain ⟨front, c, hlast, hc⟩ := hb.last
    refine ⟨?_, nones '|' gaps ++ (marks ++ front), c, by simp [hlast], hc⟩
    cases gaps with
    | nil =>
      obtain ⟨rfl, -⟩ := hfirst rfl
      exact hb.head
    | cons g gaps => exact ⟨'N', _, rfl, by decide⟩
  have hlist : ∀ rest, (nones '|' gaps ++ (marks ++ body) ++ rest).head? ≠ some '[' := by
    intro rest
    cases gaps with
    | nil =>
      obtain ⟨rfl, hhead⟩ := hfirst rfl
      obtain ⟨c, tail, rfl, -⟩ := hb.head
      exact hhead
    | cons g gaps =>
      rw [List.append_assoc, head?_nones]
      decide
  have hquoted : ∀ q, Quotes q → reduce (marks ++ (body ++ q)) = reduce body := by
    intro q hq
    exact reduce_congr ((hb.unwrap_quotes hm hq).trans hb.unwrap_self.symm)
  have hvisible : ∀ q, Quotes q → marks ++ (body ++ q) ≠ noneName := by
    intro q hq h
    have hname : unwrap noneName = noneName := by decide
    rw [← h, hb.unwrap_quotes hm hq] at hname
    exact hnone (hname.trans h)
  have hplain : ∀ q, Quotes q → Closed (isOther '|') (marks ++ (body ++ q)) :=
    fun q hq => (closed_quotes hm).append (hclosed.append (closed_quotes hq))
  cases hw with
  | quotes hq =>
    have hx : unwrap (nones '|' gaps ++ (marks ++ (body ++ w))) = nones '|' gaps ++ (marks ++ body) := by
      simpa using hwhole.unwrap_quotes .nil hq
    cases gaps with
    | nil =>
      obtain ⟨rfl, -⟩ := hfirst rfl
      exact reduce_congr (hx.trans hb.unwrap_self.symm)
    | cons g gaps =>
      have hpiece : Closed (isOther '|') (marks ++ body) := by simpa using hplain [] .nil
      have htrim : trim (marks ++ body) = marks ++ body := by
        simpa [dropWhileEnd] using hb.trim_eq hm []
      have hmember := firstMember_nones separates_bar (g :: gaps) blanks_nil hpiece
        (by simpa [htrim] using hvisible [] .nil) (Or.inl rfl)
      rw [htrim, List.append_nil, List.nil_append] at hmember
      have hne : marks ++ body ≠ nones '|' (g :: gaps) ++ (marks ++ body) := by
        intro h
        have hlength := congrArg List.length h
        simp only [nones, noneName, List.flatMap_cons, List.length_append, List.length_cons] at hlength
        omega
      rw [reduce_member hx (by simpa using hlist []) hmember hne]
      simpa using hquoted [] .nil
  | @bar q gap hq hgap rest =>
    have htrim : trim (marks ++ (body ++ (q ++ gap))) = marks ++ (body ++ q) := by
      rw [hb.trim_eq hm, dropWhileEnd_append_right q hgap, hq.dropWhileEnd]
    have hpiece : Closed (isOther '|') (marks ++ (body ++ (q ++ gap))) := by
      simpa using (hplain q hq).append (separates_bar.closed_blanks hgap)
    obtain ⟨rest', hx⟩ := hwhole.unwrap_bar .nil (q ++ gap) rest
    have hmember := firstMember_nones separates_bar gaps blanks_nil hpiece (by rw [htrim]; exact hvisible q hq)
      (Or.inr ⟨rest', rfl⟩)
    have htext : nones '|' gaps ++ (marks ++ (body ++ (q ++ gap)) ++ '|' :: rest')
        = nones '|' gaps ++ (marks ++ body) ++ (q ++ gap ++ '|' :: rest') := by simp
    rw [htrim, List.nil_append, htext] at hmember
    have hne : marks ++ (body ++ q) ≠ nones '|' gaps ++ (marks ++ body) ++ (q ++ gap ++ '|' :: rest') := by
      intro h
      have hlength := congrArg List.length h
      simp only [List.length_append, List.length_cons] at hlength
      omega
    have hunion : nones '|' gaps ++ (marks ++ (body ++ (q ++ (gap ++ '|' :: rest))))
        = [] ++ (nones '|' gaps ++ (marks ++ body) ++ (q ++ gap ++ '|' :: rest)) := by simp
    rw [hunion, reduce_member hx (hlist _) hmember hne, hquoted q hq]

/-! ## Heads and arguments -/

/-- what comes before the last point of a name, the point included -/
def Qualifies (q : List Char) : Prop := q = [] ∨ q.getLast? = some '.'

instance (q : List Char) : Decidable (Qualifies q) := inferInstanceAs (Decidable (_ ∨ _))

/-- the last segment of a name does not depend on the segments before it -/
theorem bareName_append {q : List Char} (hq : Qualifies q) (name : List Char) :
    bareName (q ++ name) = bareName name := by
  have hstop : q.reverse.takeWhile (· != '.') = [] := by
    rcases hq with rfl | hq
    · rfl
    · rw [← List.head?_reverse] at hq
      obtain ⟨rest, hrest⟩ := List.head?_eq_some_iff.1 hq
      rw [hrest]
      rfl
  have hrun : (q ++ name).reverse.takeWhile (· != '.') = name.reverse.takeWhile (· != '.') := by
    rw [List.reverse_append, List.takeWhile_append, hstop, List.append_nil]
    split
    · next hall => exact ((List.takeWhile_prefix _).eq_of_length hall).symm
    · rfl
  rw [bareName, bareName, cutLast, cutLast, hrun]

theorem bareName_eq_self {word : List Char} (h : '.' ∉ word) : bareName word = word := by
  have hall : ∀ c ∈ word.reverse, (c != '.') = true := by
    intro c hc
    rw [bne_iff_ne]
    rintro rfl
    exact h (List.mem_reverse.1 hc)
  rw [bareName, cutLast, List.takeWhile_eq_self_iff.2 hall, List.reverse_reverse]

/-- the module in front of a name does not change its last segment -/
theorem bareName_dropTyping (name : List Char) : bareName (dropTyping name) = bareName name := by
  rw [dropTyping]
  split
  · next h =>
    obtain ⟨rest, rfl⟩ := List.isPrefixOf_iff_prefix.1 h.1
    rw [List.drop_left, bareName_append (Or.inr (by decide))]
  · rfl

/-- a name with text in brackets after it -/
def applied (head args : List Char) : List Char := head ++ '[' :: (args ++ [']'])

theorem application?_applied {head : List Char} (hne : head ≠ []) (hnamed : ∀ c ∈ head, isNameChar c = true)
    (args : List Char) : application? (applied head args) = some (dropTyping head, args) := by
  have hstop : ∀ c ∈ ('[' :: (args ++ [']'])).head?, isNameChar c = false := by
    intro c hc
    rw [← Option.some.inj hc]
    decide +kernel
  rw [application?, applied, dropWhile_run hnamed hstop, takeWhile_run hnamed hstop]
  simp [hne]

theorem application?_eq_none {name : List Char} (h : '[' ∉ name) : application? name = none := by
  rw [application?]
  split
  · next rest hrest =>
    have hmem : '[' ∈ name.dropWhile isNameChar := by simp [hrest]
    exact absurd ((List.dropWhile_sublist _).subset hmem) h
  · rfl

/-- the first argument is what stands before the first comma, without blanks -/
theorem firstArgument_eq {left arg right rest : List Char} (hleft : Blanks left) (hright : Blanks right)
    (harg : Closed (isOther ',') arg) (hrest : rest = [] ∨ ∃ r, rest = ',' :: r) :
    firstArgument (left ++ (arg ++ (right ++ rest))) = trim arg := by
  have hclosed : Closed (isOther ',') (left ++ (arg ++ right)) :=
    (separates_comma.closed_blanks hleft).append (harg.append (separates_comma.closed_blanks hright))
  have htrim : trim (left ++ (arg ++ right)) = trim arg := by
    rw [trim_append_left hleft, trim_append_right arg hright]
  have htext : left ++ (arg ++ (right ++ rest)) = left ++ (arg ++ right) ++ rest := by simp
  rw [htext, firstArgument]
  rcases hrest with rfl | ⟨r, rfl⟩
  · rw [List.append_nil, split_closed hclosed, htrim]
    rfl
  · rw [split_closed_cons separates_comma.plain hclosed, htrim]
    rfl

end RouteDocs.Schema.TypeExpr
