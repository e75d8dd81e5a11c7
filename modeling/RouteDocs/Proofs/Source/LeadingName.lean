/-
What the text of an expression begins with.

Operators, calls and attributes come after their first operand, so their text begins with the text of that, unless it
needs parentheses. In the end this is a name, or else something that begins with a sign or a word of its own; and such a
text begins neither with the marker of class variables nor with the name of its module.

- `isClassVariable_iff`: what is looked for at the beginning of a text.
- `Expr.beginsOtherwise`: what an expression begins with that begins with none of its parts.
- `Expr.looksMarked_print`: a text begins with the marker just if the name at its front does.
-/
import RouteDocs.Proofs.Numeral.Characters
import RouteDocs.Proofs.Schema.Optionality
import RouteDocs.Source.Scan

namespace RouteDocs.Source

/-- The name that the text of an expression begins with at a place of a precedence, together with the attribute directly
after it; nothing if the text begins with parentheses or anything else. -/
def Expr.front (p : Precedence) : Expr → Option Expr
  | .name s => some (.name s)
  | .attribute (.name m) id => some (.attribute (.name m) id)
  | .attribute value _ => value.front .atom
  | .subscript value _ => value.front .atom
  | .call function _ _ => function.front .atom
  | .binary op left _ =>
    if p > op.spelling.2 then none else left.front (if op = .pow then op.spelling.2.next else op.spelling.2)
  | .bool op (first :: _) => if p > op.spelling.2 then none else first.front op.spelling.2.next
  | .compare left _ => if p > Precedence.compare then none else left.front Precedence.compare.next
  | .conditional _ yes _ => if p > Precedence.test then none else yes.front Precedence.test.next
  | .slice (some lower) _ _ => lower.front .test
  | _ => none

/-! ## Prefixes -/

/-- the text begins with the name of the marker, or with that of its module and the marker -/
def LooksMarked (s : List Char) : Prop := "ClassVar".toList <+: s ∨ "typing.ClassVar".toList <+: s

theorem isClassVariable_iff {s : String} : isClassVariable s = true ↔ LooksMarked s.toList := by
  rw [isClassVariable, Bool.or_eq_true, List.isPrefixOf_iff_prefix, List.isPrefixOf_iff_prefix, LooksMarked]

/-- a text that begins another one ends before a character of that, or the character is in it -/
theorem prefix_append_cons {w a rest : List Char} {c : Char} (h : w <+: a ++ c :: rest) :
    w <+: a ∨ a ++ [c] <+: w := by
  by_cases hlength : w.length ≤ a.length
  · exact Or.inl (List.prefix_of_prefix_length_le h (List.prefix_append _ _) hlength)
  · have hlonger : (a ++ [c]).length ≤ w.length := by
      rw [List.length_append, List.length_singleton]
      omega
    exact Or.inr (List.prefix_of_prefix_length_le ⟨rest, by simp⟩ h hlonger)

theorem prefix_append_cons_iff {w a rest : List Char} {c : Char} (hc : c ∉ w) : w <+: a ++ c :: rest ↔ w <+: a := by
  refine ⟨fun h => (prefix_append_cons h).resolve_right fun hin => ?_, fun h => h.trans (List.prefix_append _ _)⟩
  exact hc (hin.subset (by simp))

/-- what comes after a name, and can not be part of it -/
def delimiters : List Char := ['[', '(', ' ', ':']

theorem looksMarked_append {a tail : List Char} (h : ∀ c ∈ tail.head?, c ∈ delimiters) :
    LooksMarked (a ++ tail) ↔ LooksMarked a := by
  cases tail with
  | nil => rw [List.append_nil]
  | cons c rest =>
    have hnot : delimiters.all (fun d => decide (d ∉ "ClassVar".toList ∧
      d ∉ "typing.ClassVar".toList)) = true := by
      decide
    obtain ⟨hmarker, hqualified⟩ := of_decide_eq_true (List.all_eq_true.1 hnot c (h c rfl))
    rw [LooksMarked, LooksMarked, prefix_append_cons_iff hmarker, prefix_append_cons_iff hqualified]

/-- a point may also stand between the module and the marker -/
theorem looksMarked_point {a rest : List Char} :
    LooksMarked (a ++ '.' :: rest) ↔ LooksMarked a ∨ (a = "typing".toList ∧ "ClassVar".toList <+: rest) := by
  have hpoint : '.' ∉ "ClassVar".toList := by decide
  have hsplit : "typing.ClassVar".toList = "typing".toList ++ '.' :: "ClassVar".toList := by decide
  rw [LooksMarked, LooksMarked, prefix_append_cons_iff hpoint, or_assoc]
  refine or_congr_right ⟨fun h => ?_, ?_⟩
  · rcases prefix_append_cons h with h' | ⟨tail, htail⟩
    · exact Or.inl h'
    · -- there is one point in the name, so it is cut there
      rw [List.append_assoc, List.singleton_append] at htail
      have hcount := congrArg (List.count '.') htail
      have hone : "typing.ClassVar".toList.count '.' = 1 := by decide
      rw [List.count_append, List.count_cons_self, hone] at hcount
      have htailPoint : '.' ∉ tail := List.count_eq_zero.1 (by omega)
      have hcut : Text.cutLast '.' "typing.ClassVar".toList = (a, tail) :=
        htail ▸ (Text.CutsLast.inside htailPoint).cutLast_eq
      have hwhole : Text.cutLast '.' "typing.ClassVar".toList = ("typing".toList, "ClassVar".toList) := by decide
      obtain ⟨rfl, rfl⟩ := Prod.mk.inj (hcut.symm.trans hwhole)
      rw [hsplit, List.prefix_append_right_inj, List.cons_prefix_cons] at h
      exact Or.inr ⟨rfl, h.2⟩
  · rintro (h | ⟨rfl, h⟩)
    · exact h.trans (List.prefix_append _ _)
    · rw [hsplit, List.prefix_append_right_inj, List.cons_prefix_cons]
      exact ⟨rfl, h⟩

/-! ## Beginnings -/

/-- the text does not begin with the first letter of the marker or of its module -/
def BeginsOtherwise (s : List Char) : Prop := ∀ c ∈ s.head?, c ≠ 'C' ∧ c ≠ 't'

theorem BeginsOtherwise.not_looksMarked {s : List Char} (h : BeginsOtherwise s) : ¬ LooksMarked s := by
  rintro (⟨rest, rfl⟩ | ⟨rest, rfl⟩)
  · exact (h 'C' rfl).1 rfl
  · exact (h 't' rfl).2 rfl

theorem beginsOtherwise_cons {c : Char} (hc : c ≠ 'C' ∧ c ≠ 't') (s : List Char) : BeginsOtherwise (c :: s) := by
  rintro _ ⟨⟩
  exact hc

theorem BeginsOtherwise.append {s t : List Char} (hs : BeginsOtherwise s) (ht : BeginsOtherwise t) :
    BeginsOtherwise (s ++ t) := by
  cases s with
  | nil => exact ht
  | cons c s => exact beginsOtherwise_cons (hs c rfl) _

theorem BeginsOtherwise.parenthesize {s : List Char} (h : BeginsOtherwise s) (needed : Bool) :
    BeginsOtherwise (Printer.parenthesize needed s) := by
  cases needed with
  | false => exact h
  | true => exact beginsOtherwise_cons (by decide) _

theorem beginsOtherwise_parenthesized (s : List Char) : BeginsOtherwise (Printer.parenthesize true s) :=
  beginsOtherwise_cons (by decide) _

theorem beginsOtherwise_numeral {s : List Char} (h : ∀ c ∈ s, Numeral.isNumeralChar c = true) :
    BeginsOtherwise s := by
  intro c hc
  have hnumber := h c (List.mem_of_mem_head? hc)
  constructor <;> (rintro rfl; cases hnumber)

theorem beginsOtherwise_encode (s : List Char) : BeginsOtherwise (Text.Quoted.encode s) := by
  refine beginsOtherwise_cons ?_ _
  rcases Text.Quoted.isQuote_quoteFor s with h | h <;> rw [h] <;> decide

theorem beginsOtherwise_constant (c : Constant) : BeginsOtherwise (Printer.constant false c) := by
  have hinfinity : ∀ x ∈ Printer.infinity, Numeral.isNumeralChar x = true := List.all_eq_true.1 (by decide)
  cases c with
  | int n => exact beginsOtherwise_numeral fun x hx => Numeral.isNumeralChar_decimal hx
  | float x => exact beginsOtherwise_numeral (x.isNumeralChar_text (List.all_eq_true.1 (by decide)) hinfinity)
  | imaginary x =>
    have htext := x.isNumeralChar_text (List.forall_mem_nil _) hinfinity
    exact (beginsOtherwise_numeral htext).append (beginsOtherwise_cons (by decide) [])
  | str s marked =>
    cases marked with
    | false => exact beginsOtherwise_encode s
    | true => exact beginsOtherwise_cons (by decide) _
  | bytes bs => exact beginsOtherwise_cons (by decide) _
  | _ => exact beginsOtherwise_cons (by decide) _

/-- the text of the expression begins with something of its own, and not with a name or the text of a part -/
def Expr.startsItself : Expr → Bool
  | .name _ | .attribute _ _ | .subscript _ _ | .call _ _ _ | .binary _ _ _ | .bool _ (_ :: _) | .compare _ _
  | .conditional _ _ _ | .slice (some _) _ _ => false
  | _ => true

theorem Expr.beginsOtherwise {e : Expr} (h : e.startsItself = true) {p : Precedence} (hp : Precedence.test ≤ p) :
    BeginsOtherwise (e.print false p) := by
  have hyield : decide (p > Precedence.yield) = true := decide_eq_true (Nat.lt_of_lt_of_le (by decide) hp)
  have hnamed : decide (p > Precedence.named) = true := decide_eq_true (Nat.lt_of_lt_of_le (by decide) hp)
  have htuple : decide (p > Precedence.tuple) = true := decide_eq_true (Nat.lt_of_lt_of_le (by decide) hp)
  cases e with
  | constant c => exact beginsOtherwise_constant c
  | formatted parts =>
    rw [Expr.print, if_neg Bool.false_ne_true, Printer.formatString]
    split <;> exact beginsOtherwise_cons (by decide) _
  | field value conversion spec => rw [Expr.print.eq_def]; exact beginsOtherwise_cons (by decide) _
  | tuple items =>
    rw [Expr.print, htuple, Bool.or_true]
    exact beginsOtherwise_parenthesized _
  | list items => rw [Expr.print]; exact beginsOtherwise_cons (by decide) _
  | set items => rw [Expr.print]; exact beginsOtherwise_cons (by decide) _
  | dict entries => rw [Expr.print]; exact beginsOtherwise_cons (by decide) _
  | unary op operand =>
    rw [Expr.print]
    refine BeginsOtherwise.parenthesize ?_ _
    cases op <;> exact beginsOtherwise_cons (by decide) _
  | bool op operands =>
    cases operands with
    | cons first rest => cases h
    | nil =>
      have hnothing : BeginsOtherwise [] := fun c hc => absurd hc (Option.not_mem_none c)
      exact hnothing.parenthesize _
  | lambda params body =>
    rw [Expr.print]
    exact (beginsOtherwise_cons (by decide) _).parenthesize _
  | starred value => rw [Expr.print]; exact beginsOtherwise_cons (by decide) _
  | await value => rw [Expr.print]; exact (beginsOtherwise_cons (by decide) _).parenthesize _
  | yield value =>
    cases value with
    | none => rw [Expr.print, hyield]; exact beginsOtherwise_parenthesized _
    | some value => rw [Expr.print, hyield]; exact beginsOtherwise_parenthesized _
  | yieldFrom value => rw [Expr.print, hyield]; exact beginsOtherwise_parenthesized _
  | named target value => rw [Expr.print, hnamed]; exact beginsOtherwise_parenthesized _
  | slice lower upper step =>
    cases lower with
    | some lower => cases h
    | none =>
      have hlower : Expr.printOptional false none = [] := by rw [Expr.printOptional]
      rw [Expr.print.eq_def]
      dsimp only
      rw [hlower]
      exact beginsOtherwise_cons (by decide) _
  | comprehension kind item clauses =>
    rw [Expr.print]
    refine beginsOtherwise_cons ?_ _
    cases kind <;> decide
  | dictComprehension key value clauses => rw [Expr.print]; exact beginsOtherwise_cons (by decide) _
  | clause isAsync target source conditions =>
    rw [Expr.print]
    cases isAsync <;> exact beginsOtherwise_cons (by decide) _
  | _ => cases h

/-- a text that is not a name is not the module of the marker -/
theorem Expr.print_atom_ne {e : Expr} (h : ∀ s, e ≠ .name s) : e.print false .atom ≠ "typing".toList := by
  have hbegins {s : List Char} (hs : BeginsOtherwise s) : s ≠ "typing".toList := by
    rintro rfl
    exact (hs 't' rfl).2 rfl
  have hmem {s : List Char} {c : Char} (hc : c ∈ s) (hother : c ∉ "typing".toList) : s ≠ "typing".toList := by
    rintro rfl
    exact hother hc
  by_cases hstart : e.startsItself = true
  · exact hbegins (beginsOtherwise hstart (by decide))
  · cases e with
    | name s => exact absurd rfl (h s)
    | subscript value index =>
      obtain ⟨args, hprint⟩ := Expr.print_subscript false .atom value index
      rw [hprint]
      exact hmem (c := '[') (by simp) (by decide)
    | call function args keywords =>
      rw [Expr.print]
      exact hmem (c := '(') (by simp) (by decide)
    | binary op left right =>
      rw [Expr.print]
      cases op <;> exact hbegins (beginsOtherwise_parenthesized _)
    | bool op operands =>
      rw [Expr.print]
      cases op <;> exact hbegins (beginsOtherwise_parenthesized _)
    | compare left rest =>
      rw [Expr.print]
      exact hbegins (beginsOtherwise_parenthesized _)
    | conditional condition yes no =>
      rw [Expr.print]
      exact hbegins (beginsOtherwise_parenthesized _)
    | slice lower upper step =>
      rw [Expr.print.eq_def]
      exact hmem (c := ':') (by simp) (by decide)
    | «attribute» value id =>
      rw [Expr.print]
      exact hmem (c := '.') (by simp) (by decide)
    | _ => exact absurd rfl hstart

/-- the name, or the name with the attribute after it, begins with the marker -/
def Expr.looksMarked : Expr → Bool
  | .name n => isClassVariable n
  | .attribute (.name m) id => isClassVariable m || (m == "typing" && "ClassVar".toList.isPrefixOf id.toList)
  | _ => false

/-! ## Parts -/

theorem print_binary (op : BinaryOp) (left right : Expr) (p : Precedence) :
    ∃ tail, (∀ c ∈ tail.head?, c ∈ delimiters) ∧ (Expr.binary op left right).print false p
      = Printer.parenthesize (p > op.spelling.2)
        (left.print false (if op = .pow then op.spelling.2.next else op.spelling.2) ++ tail) := by
  refine ⟨op.spelling.1 ++ right.print false (if op = .pow then op.spelling.2 else op.spelling.2.next), ?_, ?_⟩
  · cases op <;> (rintro _ ⟨⟩; decide)
  · rw [Expr.print, ← List.append_assoc]

theorem print_bool (op : BoolOp) (operands : List Expr) (p : Precedence) :
    (Expr.bool op operands).print false p = Printer.parenthesize (p > op.spelling.2)
      (Printer.separated op.spelling.1 (Expr.printRising false op.spelling.2.next operands)) := by
  rw [Expr.print]

theorem looksMarked_separated (op : BoolOp) (first : List Char) (others : List (List Char)) :
    LooksMarked (Printer.separated op.spelling.1 (first :: others)) ↔ LooksMarked first := by
  cases others with
  | nil => rfl
  | cons second others =>
    rw [Printer.separated, List.append_assoc]
    · exact looksMarked_append (by cases op <;> (rintro _ ⟨⟩; decide))
    · exact nofun

theorem head_printComparisons (rest : List (CompareOp × Expr)) :
    ∀ c ∈ (Expr.printComparisons false rest).head?, c ∈ delimiters := by
  cases rest with
  | nil => rw [Expr.printComparisons]; exact nofun
  | cons entry rest =>
    obtain ⟨op, e⟩ := entry
    rw [Expr.printComparisons]
    cases op <;> (rintro _ ⟨⟩; decide)

theorem looksMarked_parenthesized (s : List Char) :
    LooksMarked (Printer.parenthesize true s) ↔ (none : Option Expr).any Expr.looksMarked = true :=
  iff_of_false (beginsOtherwise_parenthesized s).not_looksMarked (by simp)

/-- **What an annotation begins with.** The text of an expression begins with the marker just if the name that it
begins with does, or the attribute after that name if it is the module of the marker. -/
theorem Expr.looksMarked_print (p : Precedence) (hp : Precedence.test ≤ p) (e : Expr) :
    LooksMarked (e.print false p) ↔ (e.front p).any looksMarked = true := by
  -- along the recursion of `front`: after the first operand comes what can not be part of a name
  fun_induction Expr.front p e with
  | case1 p s =>
    rw [Expr.print_name, Option.any_some, looksMarked, isClassVariable_iff]
  | case2 p m id =>
    have hinteger : Printer.isInteger (.name m) = false := rfl
    rw [Expr.print_attribute false p hinteger, Expr.print_name, looksMarked_point, Option.any_some, looksMarked,
      Bool.or_eq_true, Bool.and_eq_true, beq_iff_eq, isClassVariable_iff, List.isPrefixOf_iff_prefix, String.toList_inj]
  | case3 p value id hvalue ih =>
    rw [Expr.print, List.append_assoc, ← ih (by decide)]
    cases hinteger : Printer.isInteger value with
    | true => exact looksMarked_append (by rintro _ ⟨⟩; decide)
    | false =>
      -- the value is no name, so its text is not the module of the marker
      exact looksMarked_point.trans (or_iff_left fun h => print_atom_ne hvalue h.1)
  | case4 p value index ih =>
    obtain ⟨args, hprint⟩ := Expr.print_subscript false p value index
    rw [hprint, ← ih (by decide)]
    exact looksMarked_append (by rintro _ ⟨⟩; decide)
  | case5 p function args keywords ih =>
    rw [Expr.print, List.append_assoc, ← ih (by decide)]
    exact looksMarked_append (by rintro _ ⟨⟩; decide)
  | case6 p op left right hparens =>
    obtain ⟨tail, -, hprint⟩ := print_binary op left right p
    rw [hprint, decide_eq_true hparens]
    exact looksMarked_parenthesized _
  | case7 p op left right hplain ih =>
    obtain ⟨tail, htail, hprint⟩ := print_binary op left right p
    rw [hprint, decide_eq_false hplain, ← ih (by cases op <;> decide)]
    exact looksMarked_append htail
  | case8 p op first rest hparens =>
    rw [print_bool, decide_eq_true hparens]
    exact looksMarked_parenthesized _
  | case9 p op first rest hplain ih =>
    rw [print_bool, decide_eq_false hplain, Expr.printRising, ← ih (by cases op <;> decide)]
    exact looksMarked_separated op _ _
  | case10 p left rest hparens =>
    rw [Expr.print, decide_eq_true hparens]
    exact looksMarked_parenthesized _
  | case11 p left rest hplain ih =>
    rw [Expr.print, decide_eq_false hplain, ← ih (by decide)]
    exact looksMarked_append (head_printComparisons rest)
  | case12 p condition yes no hparens =>
    rw [Expr.print, decide_eq_true hparens]
    exact looksMarked_parenthesized _
  | case13 p condition yes no hplain ih =>
    rw [Expr.print, decide_eq_false hplain, List.append_assoc, List.append_assoc, List.append_assoc, ← ih (by decide)]
    exact looksMarked_append (by rintro _ ⟨⟩; decide)
  | case14 p lower upper step ih =>
    have hlower : Expr.printOptional false (some lower) = lower.print false .test := by rw [Expr.printOptional]
    rw [Expr.print.eq_def]
    dsimp only
    rw [hlower, List.append_assoc, ← ih (by decide)]
    exact looksMarked_append (by rintro _ ⟨⟩; decide)
  -- what is left begins with nothing of its parts
  | case15 e p hname hmember hattribute hsubscript hcall hbinary hbool hcompare hconditional hslice =>
    have hstart : e.startsItself = true := by
      cases e with
      | name s => exact (hname s rfl).elim
      | «attribute» value id => exact (hattribute value id rfl).elim
      | subscript value index => exact (hsubscript value index rfl).elim
      | call function args keywords => exact (hcall function args keywords rfl).elim
      | binary op left right => exact (hbinary op left right rfl).elim
      | compare left rest => exact (hcompare left rest rfl).elim
      | conditional condition yes no => exact (hconditional condition yes no rfl).elim
      | bool op operands =>
        cases operands with
        | nil => rfl
        | cons first rest => exact (hbool op first rest rfl).elim
      | slice lower upper step =>
        cases lower with
        | none => rfl
        | some lower => exact (hslice lower upper step rfl).elim
      | _ => rfl
    exact iff_of_false (Expr.beginsOtherwise hstart hp).not_looksMarked (by simp)

end RouteDocs.Source
