/-
Texts with free blanks, and how they are cut.

A text can be laid out in two ways: as tokens with blanks before, between and after them (`Spaced`), or as a list with a
separator, where each token may have blanks around it (`Listed`). Cutting gives the tokens back, whatever the blanks
are.

- `trim_append_left`, `trim_append_right`: blanks at the ends do not matter.
- `trim_between`: what stands between two characters that are not blank does not change.
- `words_cons`: the words of a text are its first word and those of what comes after it.
- `Spaced.trim`, `Spaced.words_trim`, `Spaced.firstWord_trim`: the tokens of a spaced text, from the front.
- `Listed.tokens_trim`: the tokens of a list.
- `cutLast_eq_iff`: what a cut at the last separator gives.
- `isBlank_of_class`: a class of characters is checked against the blanks, which are few.
-/
import Mathlib.Data.List.DropRight
import RouteDocs.Text.Blank
import RouteDocs.Text.Word

namespace RouteDocs.Text

/-! ## Runs of a class -/

section Runs

variable {α : Type} {p : α → Bool}

/-- a run of a class ends where the class does -/
theorem takeWhile_run {run rest : List α} (hrun : ∀ c ∈ run, p c = true)
    (hrest : ∀ c ∈ rest.head?, p c = false) :
    (run ++ rest).takeWhile p = run := by
  rw [List.takeWhile_append_of_pos hrun]
  cases rest with
  | nil => simp
  | cons c rest => simp [hrest c rfl]

theorem dropWhile_run {run rest : List α} (hrun : ∀ c ∈ run, p c = true)
    (hrest : ∀ c ∈ rest.head?, p c = false) :
    (run ++ rest).dropWhile p = rest := by
  rw [List.dropWhile_append_of_pos hrun]
  cases rest with
  | nil => simp
  | cons c rest => simp [hrest c rfl]

/-- what is left behind a run begins with what ended it -/
theorem dropWhile_stop {s : List α} {c : α} (h : c ∈ (s.dropWhile p).head?) : p c = false := by
  have hstop := List.head?_dropWhile_not p s
  rw [Option.mem_def.1 h] at hstop
  simpa using hstop

theorem dropWhileEnd_eq_rdropWhile (p : α → Bool) (s : List α) : dropWhileEnd p s = s.rdropWhile p := rfl

theorem dropWhileEnd_append_right (s : List α) {right : List α} (h : ∀ c ∈ right, p c = true) :
    dropWhileEnd p (s ++ right) = dropWhileEnd p s := by
  rw [dropWhileEnd, List.reverse_append, List.dropWhile_append_of_pos (by simpa using h), dropWhileEnd]

/-- what ends outside a class is kept in front of a text -/
theorem dropWhileEnd_append {t : List α} (h : dropWhileEnd p t = t) (s : List α) :
    dropWhileEnd p (t ++ s) = t ++ dropWhileEnd p s := by
  rw [dropWhileEnd, List.reverse_append, List.dropWhile_append]
  split
  · next hempty =>
    have hs : dropWhileEnd p s = [] := by rw [dropWhileEnd, List.isEmpty_iff.1 hempty, List.reverse_nil]
    rw [hs, List.append_nil]
    exact h
  · rw [List.reverse_append, List.reverse_reverse, dropWhileEnd]

theorem dropWhileEnd_singleton {c : α} (h : p c = false) : dropWhileEnd p [c] = [c] := by
  rw [dropWhileEnd_eq_rdropWhile, List.rdropWhile_singleton, if_neg (Bool.eq_false_iff.1 h)]

/-- a text ends outside a class if its last part does -/
theorem dropWhileEnd_append_self (s : List α) {t : List α} (h : dropWhileEnd p t = t) (ht : t ≠ []) :
    dropWhileEnd p (s ++ t) = s ++ t := by
  rw [dropWhileEnd_eq_rdropWhile] at h ⊢
  refine List.rdropWhile_eq_self_iff.2 fun hne => ?_
  rw [List.getLast_append_of_ne_nil hne ht]
  exact List.rdropWhile_eq_self_iff.1 h ht

/-- what surrounds a text of another class is taken off -/
theorem trimWhile_surrounded {left s right : List α} (hleft : ∀ c ∈ left, p c = true)
    (hs : ∀ c ∈ s, p c = false)
    (hright : ∀ c ∈ right, p c = true) : trimWhile p (left ++ (s ++ right)) = s := by
  rw [trimWhile]
  cases s with
  | nil =>
    have hall : ∀ c ∈ left ++ ([] ++ right), p c = true := by simpa [or_imp, forall_and] using ⟨hleft, hright⟩
    rw [List.dropWhile_eq_nil_iff.2 hall]
    rfl
  | cons c s =>
    have hstop : ∀ x ∈ (c :: s ++ right).head?, p x = false := by
      rintro x ⟨⟩
      exact hs c List.mem_cons_self
    rw [dropWhile_run hleft hstop, dropWhileEnd_append_right _ hright, dropWhileEnd_eq_rdropWhile]
    refine List.rdropWhile_eq_self_iff.2 fun hne => ?_
    simp [hs _ (List.getLast_mem hne)]

/-- what is left of a trimmed text is outside the class at both ends -/
theorem trimWhile_ends (p : α → Bool) (s : List α) :
    (∀ c ∈ (trimWhile p s).head?, p c = false) ∧ ∀ c ∈ (trimWhile p s).getLast?, p c = false := by
  constructor
  · intro c hc
    rw [trimWhile, dropWhileEnd_eq_rdropWhile] at hc
    obtain ⟨rest, hrest⟩ := List.rdropWhile_prefix p (s.dropWhile p)
    refine dropWhile_stop (s := s) ?_
    rw [← hrest, List.head?_append, Option.mem_def.1 hc]
    rfl
  · intro c hc
    rw [trimWhile, dropWhileEnd, List.getLast?_reverse] at hc
    exact dropWhile_stop hc

/-- so it stays as it is when it is trimmed again -/
theorem trimWhile_trimWhile (p : α → Bool) (s : List α) : trimWhile p (trimWhile p s) = trimWhile p s := by
  obtain ⟨hfront, hend⟩ := trimWhile_ends p s
  rw [← List.head?_reverse] at hend
  generalize trimWhile p s = t at hfront hend
  have hkept (u : List α) (hu : ∀ c ∈ u.head?, p c = false) : u.dropWhile p = u :=
    dropWhile_run (List.forall_mem_nil _) hu
  rw [trimWhile, hkept t hfront, dropWhileEnd, hkept _ hend, List.reverse_reverse]

/-- trimming makes nothing up -/
theorem mem_of_mem_trimWhile {p : α → Bool} {s : List α} {c : α} (h : c ∈ trimWhile p s) : c ∈ s := by
  rw [trimWhile, dropWhileEnd_eq_rdropWhile] at h
  exact (List.dropWhile_sublist p).subset ((List.rdropWhile_prefix p (s.dropWhile p)).subset h)

end Runs

/-! ## Blanks -/

def Blanks (s : List Char) : Prop := ∀ c ∈ s, isBlank c = true

instance (s : List Char) : Decidable (Blanks s) := decidable_of_iff (s.all isBlank = true) List.all_eq_true

/-- a text that is not empty and has no blanks -/
structure Solid (s : List Char) : Prop where
  nonempty : s ≠ []
  unbroken : ∀ c ∈ s, isBlank c = false

instance (s : List Char) : Decidable (Solid s) :=
  decidable_of_iff (s ≠ [] ∧ s.all (!isBlank ·) = true)
    ⟨fun h => ⟨h.1, by simpa using h.2⟩, fun h => ⟨h.nonempty, by simpa using h.unbroken⟩⟩

/-- a text that is not empty and has no blanks at its ends -/
structure Token (s : List Char) : Prop where
  nonempty : s ≠ []
  trimmed : trim s = s

theorem trim_append_left {left : List Char} (h : Blanks left) (s : List Char) : trim (left ++ s) = trim s := by
  rw [trim, trimWhile, List.dropWhile_append_of_pos h, trim, trimWhile]

theorem trim_append_right (s : List Char) {right : List Char} (h : Blanks right) : trim (s ++ right) = trim s := by
  rw [trim, trimWhile, List.dropWhile_append, trim, trimWhile]
  split
  · next hempty =>
    rw [List.isEmpty_iff.1 hempty, List.dropWhile_eq_nil_iff.2 h]
  · rw [dropWhileEnd_append_right _ h]

/-- the end of a text may be trimmed first -/
@[simp] theorem trim_dropWhileEnd (s : List Char) : trim (dropWhileEnd isBlank s) = trim s := by
  have hblanks : Blanks (s.rtakeWhile isBlank) := fun c hc => List.mem_rtakeWhile_imp hc
  rw [dropWhileEnd_eq_rdropWhile]
  conv_rhs => rw [← List.rdropWhile_append_rtakeWhile (p := isBlank) (l := s), trim_append_right _ hblanks]

/-- so may its front -/
@[simp] theorem trim_dropWhile (s : List Char) : trim (s.dropWhile isBlank) = trim s := by
  have hblanks : Blanks (s.takeWhile isBlank) := fun c hc => List.mem_takeWhile_imp hc
  conv_rhs => rw [← List.takeWhile_append_dropWhile (p := isBlank) (l := s), trim_append_left hblanks]

@[simp] theorem trim_trim (s : List Char) : trim (trim s) = trim s :=
  (trim_dropWhileEnd _).trans (trim_dropWhile s)

theorem trim_blanks {s : List Char} (h : Blanks s) : trim s = [] := by
  have := trim_append_left h []
  rwa [List.append_nil] at this

theorem dropWhile_eq_self_of_trim {s : List Char} (h : trim s = s) : s.dropWhile isBlank = s := by
  have hsuffix := List.dropWhile_suffix isBlank (l := s)
  have hprefix : s <+: s.dropWhile isBlank := by
    have := List.rdropWhile_prefix isBlank (s.dropWhile isBlank)
    rwa [← dropWhileEnd_eq_rdropWhile, ← trimWhile, ← trim, h] at this
  exact hsuffix.eq_of_length_le hprefix.length_le

theorem dropWhileEnd_eq_self_of_trim {s : List Char} (h : trim s = s) : dropWhileEnd isBlank s = s := by
  rwa [trim, trimWhile, dropWhile_eq_self_of_trim h] at h

theorem trim_eq_self {s : List Char} (hfront : s.dropWhile isBlank = s) (hend : dropWhileEnd isBlank s = s) :
    trim s = s := by
  rw [trim, trimWhile, hfront, hend]

theorem trim_cons {c : Char} (hc : isBlank c = false) (s : List Char) :
    trim (c :: s) = c :: dropWhileEnd isBlank s := by
  rw [trim, trimWhile, List.dropWhile_cons_of_neg (by simp [hc])]
  exact dropWhileEnd_append (dropWhileEnd_singleton hc) s

/-- what stands between two characters that are not blank is kept -/
theorem trim_between {a b : Char} (ha : isBlank a = false) (hb : isBlank b = false) (s rest : List Char) :
    trim (a :: (s ++ b :: rest)) = a :: (s ++ trim (b :: rest)) := by
  have hend : dropWhileEnd isBlank (s ++ [b]) = s ++ [b] :=
    dropWhileEnd_append_self s (dropWhileEnd_singleton hb) (by simp)
  have hrest := dropWhileEnd_append hend rest
  rw [List.append_assoc, List.append_assoc, List.singleton_append, List.singleton_append] at hrest
  rw [trim_cons ha, trim_cons hb, hrest]

/-- a text that begins and ends with characters that are not blank -/
theorem trim_bracketed {a b : Char} (ha : isBlank a = false) (hb : isBlank b = false) (s : List Char) :
    trim (a :: (s ++ [b])) = a :: (s ++ [b]) := by
  rw [trim_between ha hb, trim_cons hb]
  rfl

theorem Solid.token {s : List Char} (h : Solid s) : Token s := by
  refine ⟨h.nonempty, trim_eq_self (List.dropWhile_eq_self_iff.2 fun hs => ?_)
    (List.rdropWhile_eq_self_iff.2 fun hs => ?_)⟩
  · simp [h.unbroken _ (List.getElem_mem hs)]
  · simp [h.unbroken _ (List.getLast_mem hs)]

/-- a token does not begin with a blank -/
theorem Token.dropWhile_append {t : List Char} (h : Token t) (s : List Char) :
    (t ++ s).dropWhile isBlank = t ++ s := by
  have hfront := dropWhile_eq_self_of_trim h.trimmed
  rw [List.dropWhile_append, hfront, if_neg (by simp [h.nonempty])]

/-- a word ends where a blank comes -/
theorem Solid.cut {w s : List Char} (h : Solid w) (hs : ∀ c ∈ s.head?, isBlank c = true) :
    (w ++ s).takeWhile (!isBlank ·) = w ∧ (w ++ s).dropWhile (!isBlank ·) = s := by
  have hword : ∀ c ∈ w, (!isBlank c) = true := fun c hc => by rw [h.unbroken c hc, Bool.not_false]
  have hstop : ∀ c ∈ s.head?, (!isBlank c) = false := fun c hc => by rw [hs c hc, Bool.not_true]
  exact ⟨takeWhile_run hword hstop, dropWhile_run hword hstop⟩

/-! ## Tokens with blanks between them -/

/-- a text of tokens, each with blanks before it, and blanks at the end -/
inductive Spaced : List (List Char) → List Char → Prop
  | nil {s : List Char} (blanks : Blanks s) : Spaced [] s
  | cons {gap t s : List Char} {ts : List (List Char)} (blanks : Blanks gap) (apart : gap ≠ []) (rest : Spaced ts s) :
    Spaced (t :: ts) (gap ++ (t ++ s))

theorem blanks_nil : Blanks [] := List.forall_mem_nil _

theorem blanks_space : Blanks [' '] := by decide

/-- one more token, with a single space before it -/
theorem Spaced.space {t s : List Char} {ts : List (List Char)} (h : Spaced ts s) :
    Spaced (t :: ts) ([' '] ++ (t ++ s)) := .cons blanks_space (by simp) h

/-- tokens can be spaced -/
theorem exists_spaced (ts : List (List Char)) : ∃ s, Spaced ts s := by
  induction ts with
  | nil => exact ⟨[], .nil blanks_nil⟩
  | cons t ts ih => exact Exists.elim ih fun s hs => ⟨_, hs.space⟩

namespace Spaced

variable {t s : List Char} {ts : List (List Char)}

/-- a spaced text does not go on with what stands before it -/
theorem starts (h : Spaced ts s) : ∀ c ∈ s.head?, isBlank c = true := by
  intro c hc
  cases h with
  | nil blanks => exact blanks c (List.mem_of_mem_head? hc)
  | @cons gap t s ts blanks apart rest =>
    rw [List.head?_append_of_ne_nil _ apart] at hc
    exact blanks c (List.mem_of_mem_head? hc)

theorem trimEnd (h : Spaced ts s) (hts : ∀ t ∈ ts, Token t) : Spaced ts (dropWhileEnd isBlank s) := by
  induction h with
  | nil blanks =>
    rw [dropWhileEnd_eq_rdropWhile, List.rdropWhile_eq_nil_iff.2 blanks]
    exact .nil fun c hc => by cases hc
  | @cons gap t s ts blanks apart rest ih =>
    obtain ⟨ht, hts⟩ := List.forall_mem_cons.1 hts
    have hend := dropWhileEnd_append_self gap (dropWhileEnd_eq_self_of_trim ht.trimmed) ht.nonempty
    rw [← List.append_assoc, dropWhileEnd_append hend, List.append_assoc]
    exact .cons blanks apart (ih hts)

/-- a trimmed spaced text begins with its first token -/
theorem trim (h : Spaced (t :: ts) s) (hts : ∀ u ∈ t :: ts, Token u) :
    ∃ rest, Text.trim s = t ++ rest ∧ Spaced ts rest := by
  cases h with
  | @cons gap _ s _ blanks apart rest =>
    obtain ⟨ht, hts⟩ := List.forall_mem_cons.1 hts
    refine ⟨dropWhileEnd isBlank s, ?_, rest.trimEnd hts⟩
    rw [trim_append_left blanks, Text.trim, trimWhile, ht.dropWhile_append,
      dropWhileEnd_append (dropWhileEnd_eq_self_of_trim ht.trimmed)]

theorem trim_singleton (h : Spaced [t] s) (ht : Text.trim t = t) : Text.trim s = t := by
  cases h with
  | cons blanks apart rest =>
    cases rest with
    | nil trailing => rw [trim_append_left blanks, trim_append_right t trailing, ht]

theorem trim_nil (h : Spaced [] s) : Text.trim s = [] := by
  cases h with
  | nil blanks => exact trim_blanks blanks

end Spaced

/-! ## Pieces and words -/

section Pieces

variable {p : Char → Bool}

theorem pieces_cons (p : Char → Bool) (c : Char) (s : List Char) :
    pieces p (c :: s) = pushPiece p c (pieces p s) := List.foldr_cons ..

theorem pieces_ne_nil (p : Char → Bool) (s : List Char) : pieces p s ≠ [] := by
  induction s with
  | nil => simp [pieces]
  | cons c s ih =>
    rw [pieces_cons]
    cases hs : pieces p s with
    | nil => exact absurd hs ih
    | cons piece others => rw [pushPiece]; split <;> simp

theorem pieces_separator {c : Char} (hc : p c = true) (s : List Char) : pieces p (c :: s) = [] :: pieces p s := by
  rw [pieces_cons]
  cases hs : pieces p s with
  | nil => exact absurd hs (pieces_ne_nil p s)
  | cons piece others => rw [pushPiece, if_pos hc]

/-- what has no separator goes into the first piece -/
theorem pieces_append {w : List Char} (hw : ∀ c ∈ w, p c = false) (s : List Char) :
    pieces p (w ++ s) = (pieces p s).modifyHead (w ++ ·) := by
  induction w with
  | nil =>
    rw [List.nil_append]
    cases pieces p s <;> rfl
  | cons c w ih =>
    obtain ⟨hc, hw⟩ := List.forall_mem_cons.1 hw
    rw [List.cons_append, pieces_cons, ih hw]
    cases hs : pieces p s with
    | nil => exact absurd hs (pieces_ne_nil p s)
    | cons piece others => simp [pushPiece, hc]

theorem pieces_single {w : List Char} (hw : ∀ c ∈ w, p c = false) : pieces p w = [w] := by
  have := pieces_append hw []
  rw [List.append_nil] at this
  rw [this]
  simp [pieces]

/-- behind a separator, what has none is the last piece -/
theorem pieces_separator_end {c : Char} (hc : p c = true) (s : List Char) {w : List Char}
    (hw : ∀ d ∈ w, p d = false) :
    ∃ first others, pieces p (s ++ c :: w) = first :: (others ++ [w]) := by
  induction s with
  | nil => exact ⟨[], [], by rw [List.nil_append, pieces_separator hc, pieces_single hw]; rfl⟩
  | cons d s ih =>
    obtain ⟨first, others, h⟩ := ih
    rw [List.cons_append, pieces_cons, h, pushPiece]
    split
    · exact ⟨[], first :: others, rfl⟩
    · exact ⟨d :: first, others, rfl⟩

/-- what has no separator goes into the last piece -/
theorem pieces_append_end (s : List Char) {w : List Char} (hw : ∀ c ∈ w, p c = false) :
    ∃ others last, pieces p s = others ++ [last] ∧ pieces p (s ++ w) = others ++ [last ++ w] := by
  induction s with
  | nil => exact ⟨[], [], rfl, pieces_single hw⟩
  | cons c s ih =>
    obtain ⟨others, last, hs, hsw⟩ := ih
    rw [List.cons_append]
    by_cases hc : p c = true
    · exact ⟨[] :: others, last, by rw [pieces_separator hc, hs]; rfl, by rw [pieces_separator hc, hsw]; rfl⟩
    · rw [pieces_cons, pieces_cons, hs, hsw]
      cases others with
      | nil => exact ⟨[], c :: last, by simp [pushPiece, hc], by simp [pushPiece, hc]⟩
      | cons first others => exact ⟨(c :: first) :: others, last, by simp [pushPiece, hc], by simp [pushPiece, hc]⟩

/-- trimming a text before it is cut changes its pieces at their ends only -/
theorem map_trim_pieces_trim (hp : ∀ c, isBlank c = true → p c = false) (s : List Char) :
    (pieces p (trim s)).map trim = (pieces p s).map trim := by
  -- blanks at the front go into the first piece, those at the end into the last one
  have hfront : (pieces p s).map trim = (pieces p (s.dropWhile isBlank)).map trim := by
    have hblanks : Blanks (s.takeWhile isBlank) := fun c hc => List.mem_takeWhile_imp hc
    conv_lhs => rw [← List.takeWhile_append_dropWhile (p := isBlank) (l := s),
      pieces_append fun c hc => hp c (hblanks c hc)]
    cases hs : pieces p (s.dropWhile isBlank) with
    | nil => rfl
    | cons piece others => simp [trim_append_left hblanks]
  rw [hfront, trim, trimWhile]
  generalize s.dropWhile isBlank = s
  have hblanks : Blanks (s.rtakeWhile isBlank) := fun c hc => List.mem_rtakeWhile_imp hc
  obtain ⟨others, last, hkept, hall⟩ := pieces_append_end (s.rdropWhile isBlank) fun c hc => hp c (hblanks c hc)
  rw [List.rdropWhile_append_rtakeWhile] at hall
  rw [dropWhileEnd_eq_rdropWhile, hkept, hall, List.map_append, List.map_append, List.map_singleton, List.map_singleton,
    trim_append_right last hblanks]

end Pieces

theorem words_append_left {gap : List Char} (h : Blanks gap) (s : List Char) : words (gap ++ s) = words s := by
  induction gap with
  | nil => rfl
  | cons c gap ih =>
    obtain ⟨hc, hgap⟩ := List.forall_mem_cons.1 h
    rw [List.cons_append, words, pieces_separator hc]
    exact ih hgap

theorem words_append {w s : List Char} (hw : Solid w) (hs : ∀ c ∈ s.head?, isBlank c = true) :
    words (w ++ s) = w :: words s := by
  have hne : (!w.isEmpty) = true := by simp [hw.nonempty]
  cases s with
  | nil =>
    rw [words, pieces_append hw.unbroken]
    simp [words, pieces, hne]
  | cons c s =>
    rw [words, pieces_append hw.unbroken, pieces_separator (hs c rfl), words, pieces_separator (hs c rfl)]
    simp [hne]

/-! ## The first word -/

theorem words_blanks {s : List Char} (h : Blanks s) : words s = [] := by
  have hwords := words_append_left h []
  rwa [List.append_nil] at hwords

theorem firstWord_blanks {s : List Char} (h : Blanks s) : firstWord s = ([], []) := by
  simp [firstWord, List.dropWhile_eq_nil_iff.2 h]

/-- a text with more than blanks is its first word and what comes after it, up to blanks -/
theorem exists_firstWord {s : List Char} (h : ¬ Blanks s) :
    ∃ gap after, Blanks gap ∧ Solid (firstWord s).1 ∧ (∀ c ∈ after.head?, isBlank c = true) ∧
      s = gap ++ ((firstWord s).1 ++ after) ∧ (firstWord s).2 = after.dropWhile isBlank := by
  refine ⟨s.takeWhile isBlank, (s.dropWhile isBlank).dropWhile (!isBlank ·), ?_, ⟨?_, ?_⟩, ?_, ?_, rfl⟩
  · intro c hc
    exact List.mem_takeWhile_imp hc
  · -- what is left after the blanks begins with a character that is none
    cases hs : s.dropWhile isBlank with
    | nil => exact absurd (List.dropWhile_eq_nil_iff.1 hs) h
    | cons c rest =>
      have hc := List.head?_dropWhile_not isBlank s
      simp only [hs, List.head?_cons] at hc
      simp [firstWord, hs, hc]
  · intro c hc
    simpa using List.mem_takeWhile_imp hc
  · intro c hc
    simpa using dropWhile_stop hc
  · simp [firstWord]

theorem firstWord_solid {s : List Char} (h : ¬ Blanks s) : Solid (firstWord s).1 := by
  obtain ⟨gap, after, -, hword, -⟩ := exists_firstWord h
  exact hword

/-- the words of a text are its first word and those of what comes after it -/
theorem words_cons {s : List Char} (h : ¬ Blanks s) : words s = (firstWord s).1 :: words (firstWord s).2 := by
  obtain ⟨gap, after, hgap, hword, hafter, hs, hrest⟩ := exists_firstWord h
  have hblanks : Blanks (after.takeWhile isBlank) := fun c hc => List.mem_takeWhile_imp hc
  calc words s = words (gap ++ ((firstWord s).1 ++ after)) := by rw [← hs]
    _ = (firstWord s).1 :: words after := by rw [words_append_left hgap, words_append hword hafter]
    _ = (firstWord s).1 :: words (after.takeWhile isBlank ++ after.dropWhile isBlank) := by
      rw [List.takeWhile_append_dropWhile]
    _ = (firstWord s).1 :: words (firstWord s).2 := by rw [words_append_left hblanks, hrest]

theorem words_eq_nil_iff {s : List Char} : words s = [] ↔ Blanks s := by
  constructor
  · intro h
    by_contra hs
    rw [words_cons hs] at h
    cases h
  · exact words_blanks

/-- what comes after the first word does not begin with a blank -/
theorem firstWord_rest {s : List Char} : Blanks (firstWord s).2 ↔ (firstWord s).2 = [] := by
  constructor
  · intro h
    have hdrop : (firstWord s).2.dropWhile isBlank = (firstWord s).2 := List.dropWhile_idempotent ..
    rw [← hdrop]
    exact List.dropWhile_eq_nil_iff.2 h
  · intro h
    rw [h]
    exact blanks_nil

/-- a trimmed text has nothing but blanks only if it is empty -/
theorem eq_nil_of_blanks {s : List Char} (htrim : trim s = s) (h : Blanks s) : s = [] := by
  rw [← htrim, trim_blanks h]

namespace Spaced

variable {t s : List Char} {ts : List (List Char)}

theorem words (h : Spaced ts s) (hts : ∀ t ∈ ts, Solid t) : words s = ts := by
  induction h with
  | nil blanks =>
    have := words_append_left blanks []
    rwa [List.append_nil] at this
  | @cons gap t s ts blanks apart rest ih =>
    obtain ⟨ht, hts⟩ := List.forall_mem_cons.1 hts
    rw [words_append_left blanks, words_append ht rest.starts, ih hts]

/-- **Words of a spaced text.** The words are the tokens, in order. -/
theorem words_trim (h : Spaced ts s) (hts : ∀ t ∈ ts, Solid t) : Text.words (Text.trim s) = ts := by
  cases ts with
  | nil => rw [h.trim_nil]; rfl
  | cons t ts =>
    obtain ⟨rest, hrest, hspaced⟩ := h.trim fun u hu => (hts u hu).token
    obtain ⟨ht, hts⟩ := List.forall_mem_cons.1 hts
    rw [hrest, words_append ht hspaced.starts, hspaced.words hts]

/-- the first word of a spaced text, and the text after it -/
theorem firstWord_trim (h : Spaced (t :: ts) s) (ht : Solid t) (hts : ∀ u ∈ ts, Token u) :
    ∃ rest, firstWord (Text.trim s) = (t, rest.dropWhile isBlank) ∧ Spaced ts rest := by
  obtain ⟨rest, hrest, hspaced⟩ := h.trim (List.forall_mem_cons.2 ⟨ht.token, hts⟩)
  refine ⟨rest, ?_, hspaced⟩
  obtain ⟨htake, hdrop⟩ := ht.cut hspaced.starts
  rw [firstWord, hrest, ht.token.dropWhile_append, htake, hdrop]

end Spaced

/-! ## Tokens with a separator between them -/

/-- a token with blanks around it -/
def Padded (t s : List Char) : Prop := ∃ left right, Blanks left ∧ Blanks right ∧ s = left ++ (t ++ right)

theorem Padded.trim {t s : List Char} (h : Padded t s) (ht : Text.trim t = t) : Text.trim s = t := by
  obtain ⟨left, right, hleft, hright, rfl⟩ := h
  rw [trim_append_left hleft, trim_append_right t hright, ht]

theorem Padded.not_mem {t s : List Char} (h : Padded t s) {sep : Char} (hsep : isBlank sep = false) (ht : sep ∉ t) :
    sep ∉ s := by
  obtain ⟨left, right, hleft, hright, rfl⟩ := h
  have hblank : ∀ {u}, Blanks u → sep ∉ u := fun hu hmem => by rw [hu sep hmem] at hsep; cases hsep
  simp [hblank hleft, hblank hright, ht]

/-- a text of tokens with a separator between them, each with blanks around it -/
inductive Listed (sep : Char) : List (List Char) → List Char → Prop
  | none {s : List Char} (blanks : Blanks s) : Listed sep [] s
  | last {t s : List Char} (padded : Padded t s) : Listed sep [t] s
  | more {t s rest : List Char} {ts : List (List Char)} (padded : Padded t s) (others : ts ≠ [])
    (listed : Listed sep ts rest) : Listed sep (t :: ts) (s ++ sep :: rest)

/-- tokens can be listed, with a blank in front of each -/
theorem exists_listed (sep : Char) (ts : List (List Char)) :
    ∃ s, (∀ c ∈ s.head?, isBlank c = true) ∧ Listed sep ts s := by
  have hpadded : ∀ t, Padded t ([' '] ++ (t ++ [])) := fun t => ⟨_, _, blanks_space, blanks_nil, rfl⟩
  induction ts with
  | nil => exact ⟨[], nofun, .none blanks_nil⟩
  | cons t ts ih =>
    obtain ⟨s, -, hs⟩ := ih
    cases ts with
    | nil => exact ⟨_, by rintro _ ⟨⟩; rfl, .last (hpadded t)⟩
    | cons u ts => exact ⟨_, by rintro _ ⟨⟩; rfl, .more (hpadded t) (by simp) hs⟩

/-- **Tokens of a list.** The pieces are the tokens, in order; a list of no tokens has an empty piece. -/
theorem Listed.tokens_trim {sep : Char} (hsep : isBlank sep = false) {ts : List (List Char)} {s : List Char}
    (h : Listed sep ts s) (htrim : ∀ t ∈ ts, trim t = t) (hts : ∀ t ∈ ts, sep ∉ t) :
    ((pieces (· == sep) (trim s)).map trim).filter (fun t => !t.isEmpty) = ts.filter fun t => !t.isEmpty := by
  have hblank : ∀ c, isBlank c = true → (c == sep) = false := by
    rintro c hc
    refine beq_eq_false_iff_ne.2 fun heq => ?_
    rw [heq, hsep] at hc
    cases hc
  have hplain : ∀ {u : List Char}, sep ∉ u → ∀ c ∈ u, (c == sep) = false :=
    fun hu c hc => beq_eq_false_iff_ne.2 fun heq => hu (heq ▸ hc)
  rw [map_trim_pieces_trim hblank]
  induction h with
  | none blanks =>
    rw [pieces_single fun c hc => hblank c (blanks c hc), List.map_singleton, trim_blanks blanks]
    rfl
  | @last t s padded =>
    have ht := List.mem_singleton_self t
    rw [pieces_single (hplain (padded.not_mem hsep (hts t ht))), List.map_singleton, padded.trim (htrim t ht)]
  | @more t s rest ts padded others listed ih =>
    obtain ⟨ht, htrim⟩ := List.forall_mem_cons.1 htrim
    obtain ⟨htsep, hts⟩ := List.forall_mem_cons.1 hts
    rw [pieces_append (hplain (padded.not_mem hsep htsep)), pieces_separator (by simp)]
    simp [padded.trim ht, List.filter_cons, ih htrim hts]

/-! ## Cuts at the last separator -/

/-- A text with its parts before and after the last separator. Nothing stands before a text that has none. -/
inductive CutsLast (sep : Char) : (text front tail : List Char) → Prop
  | whole {text : List Char} (h : sep ∉ text) : CutsLast sep text [] text
  | inside {front tail : List Char} (h : sep ∉ tail) : CutsLast sep (front ++ sep :: tail) front tail

theorem CutsLast.not_mem {sep : Char} {text front tail : List Char} (h : CutsLast sep text front tail) :
    sep ∉ tail := by
  cases h with
  | whole h => exact h
  | inside h => exact h

/-- every text can be cut -/
theorem exists_cutsLast (sep : Char) (text : List Char) : ∃ front tail, CutsLast sep text front tail := by
  induction text with
  | nil => exact ⟨[], [], .whole List.not_mem_nil⟩
  | cons c rest ih =>
    obtain ⟨front, tail, h⟩ := ih
    cases h with
    | inside h => exact ⟨c :: front, tail, List.cons_append ▸ .inside h⟩
    | whole h =>
      by_cases hc : c = sep
      · subst hc
        have hcut : CutsLast c ([] ++ c :: rest) [] rest := .inside h
        exact ⟨[], rest, hcut⟩
      · exact ⟨[], c :: rest, .whole (List.not_mem_cons_of_ne_of_not_mem (Ne.symm hc) h)⟩

theorem CutsLast.cutLast_eq {sep : Char} {text front tail : List Char} (h : CutsLast sep text front tail) :
    cutLast sep text = (front, tail) := by
  have hrun : ∀ c ∈ tail.reverse, (c != sep) = true := by
    intro c hc
    rw [bne_iff_ne]
    rintro rfl
    exact h.not_mem (List.mem_reverse.1 hc)
  cases h with
  | whole h => simp [cutLast, List.takeWhile_eq_self_iff.2 hrun]
  | inside h =>
    have htail : (tail.reverse ++ sep :: front.reverse).takeWhile (· != sep) = tail.reverse :=
      takeWhile_run hrun (by simp)
    have hlength : front.length + (tail.length + 1) - tail.length - 1 = front.length := by omega
    simp [cutLast, htail, hlength]

theorem cutLast_eq_iff {sep : Char} {text front tail : List Char} :
    cutLast sep text = (front, tail) ↔ CutsLast sep text front tail := by
  refine ⟨fun h => ?_, CutsLast.cutLast_eq⟩
  obtain ⟨front', tail', hcut⟩ := exists_cutsLast sep text
  obtain ⟨rfl, rfl⟩ := Prod.mk.inj (hcut.cutLast_eq.symm.trans h)
  exact hcut

theorem cutsLast_cutLast (sep : Char) (text : List Char) :
    CutsLast sep text (cutLast sep text).1 (cutLast sep text).2 := cutLast_eq_iff.1 rfl

/-! ## Classes without blanks -/

def blankCodes : List Nat :=
  [9, 10, 11, 12, 13, 28, 29, 30, 31, 32, 0x85, 0xA0, 0x1680, 0x2000, 0x2001, 0x2002, 0x2003, 0x2004, 0x2005, 0x2006,
    0x2007, 0x2008, 0x2009, 0x200A, 0x2028, 0x2029, 0x202F, 0x205F, 0x3000]

theorem mem_blankCodes {c : Char} (h : isBlank c = true) : c.toNat ∈ blankCodes := by
  simp only [isBlank, Bool.or_eq_true, Bool.and_eq_true, decide_eq_true_eq, beq_iff_eq] at h
  simp only [blankCodes, List.mem_cons, List.not_mem_nil]
  omega

/-- there are no blanks in a class if none of the few blanks is in it -/
theorem isBlank_of_class {p : Char → Bool} (hp : ∀ n ∈ blankCodes, p (Char.ofNat n) = false) {c : Char}
    (h : p c = true) : isBlank c = false := by
  refine Bool.eq_false_iff.2 fun hblank => ?_
  have hc := hp _ (mem_blankCodes hblank)
  rw [Char.ofNat_toNat, h] at hc
  cases hc

theorem isBlank_of_isWord {c : Char} (h : isWord c = true) : isBlank c = false :=
  isBlank_of_class (by decide +kernel) h

end RouteDocs.Text
