/-
Lines of a text under two rules: those that are read, and those that a source file is numbered by.

- `not_ends_of_mem_linesBy`: no line holds a character that ends a line.
- `take_lines_eq_iff`: the first lines under both rules are the same just if these hold nothing that ends a line under
  one rule only.
- `length_sourceLines_le`: every number of a line that a source file has is that of a line that is read.
-/
import RouteDocs.Text.Lines

namespace RouteDocs.Text

variable {ends : Char → Bool}

/-- does the character end a line, when besides line feed and carriage return those in `ends` do? -/
def endsLineBy (ends : Char → Bool) (c : Char) : Bool := c == '\n' || c == '\r' || ends c

/-- put a character in front of the first line -/
def consLine (c : Char) : List (List Char) → List (List Char)
  | [] => [[c]]
  | line :: others => (c :: line) :: others

theorem linesBy_cons_of_not_ends {c : Char} (h : endsLineBy ends c = false) (rest : List Char) :
    linesBy ends (c :: rest) = consLine c (linesBy ends rest) := by
  have hcr : c ≠ '\r' := by
    rintro rfl
    cases h
  rw [linesBy.eq_3 ends c rest fun _ hc _ => hcr hc, if_neg (by rw [← endsLineBy, h]; decide)]
  cases linesBy ends rest <;> rfl

/-- no line holds a character that ends a line -/
theorem not_ends_of_mem_linesBy {s line : List Char} (hline : line ∈ linesBy ends s) {c : Char} (hc : c ∈ line) :
    endsLineBy ends c = false := by
  fun_induction linesBy ends s generalizing line c with
  | case1 => cases hline
  | case2 rest ih =>
    rcases List.mem_cons.1 hline with rfl | hline
    · cases hc
    · exact ih hline hc
  | case3 d rest hd hends ih =>
    rcases List.mem_cons.1 hline with rfl | hline
    · cases hc
    · exact ih hline hc
  | case4 d rest hd hends hrest ih =>
    rw [List.mem_singleton.1 hline] at hc
    rw [List.mem_singleton.1 hc]
    exact Bool.eq_false_iff.2 hends
  | case5 d rest hd hends first others hrest ih =>
    rw [hrest] at ih
    rcases List.mem_cons.1 hline with rfl | hline
    · rcases List.mem_cons.1 hc with rfl | hc
      · exact Bool.eq_false_iff.2 hends
      · exact ih List.mem_cons_self hc
    · exact ih (List.mem_cons_of_mem _ hline) hc

theorem take_consLine (c : Char) (ls : List (List Char)) (n : Nat) :
    (consLine c ls).take (n + 1) = consLine c (ls.take (n + 1)) := by
  cases ls <;> simp [consLine]

/-- When a character stands in front of a text, its first lines are those of a source text if this holds of the rest.
The line that is asked for first is that of the character. -/
theorem take_linesBy_cons {c : Char} (hc : endsLineBy (fun _ => false) c = false) (rest : List Char)
    (source : List (List Char)) {n : Nat} (h : ∀ line ∈ (consLine c source).take n, ∀ d ∈ line, ends d = false)
    (hrest : ∀ n, (∀ line ∈ source.take n, ∀ d ∈ line, ends d = false) →
      (linesBy ends rest).take n = source.take n) :
    (linesBy ends (c :: rest)).take n = (consLine c source).take n := by
  cases n with
  | zero => rfl
  | succ n =>
    rw [take_consLine] at h
    have hfirst : ends c = false ∧ ∀ line ∈ source.take (n + 1), ∀ d ∈ line, ends d = false := by
      cases hsource : source.take (n + 1) with
      | nil => exact ⟨h [c] (by simp [hsource, consLine]) c (by simp), by simp⟩
      | cons line others =>
        simp only [hsource, consLine, List.forall_mem_cons] at h
        exact ⟨h.1.1, List.forall_mem_cons.2 ⟨h.1.2, h.2⟩⟩
    have hends : endsLineBy ends c = false := by
      rw [endsLineBy, Bool.or_false] at hc
      rw [endsLineBy, hc, hfirst.1, Bool.or_false]
    rw [linesBy_cons_of_not_ends hends, take_consLine, hrest _ hfirst.2, take_consLine]

/-- as many first lines of a source text as hold nothing in `ends` are lines under both rules -/
theorem take_linesBy_eq {s : List Char} {n : Nat}
    (h : ∀ line ∈ (sourceLines s).take n, ∀ c ∈ line, ends c = false) :
    (linesBy ends s).take n = (sourceLines s).take n := by
  unfold sourceLines at *
  fun_induction linesBy (fun _ => false) s generalizing n with
  | case1 => rfl
  | case2 rest ih =>
    cases n with
    | zero => rfl
    | succ n =>
      rw [List.take_succ_cons, linesBy.eq_2, List.take_succ_cons, ih fun line hline => h line (by simp [hline])]
  | case3 c rest hcr hends ih =>
    cases n with
    | zero => rfl
    | succ n =>
      have hnewline : (c == '\n' || c == '\r' || ends c) = true := by
        rw [Bool.or_false] at hends
        rw [hends, Bool.true_or]
      rw [List.take_succ_cons, linesBy.eq_3 ends c rest hcr, if_pos hnewline, List.take_succ_cons,
        ih fun line hline => h line (by simp [hline])]
  | case4 c rest hcr hends hrest ih =>
    rw [hrest] at ih
    exact take_linesBy_cons (Bool.eq_false_iff.2 hends) rest [] h fun n => ih
  | case5 c rest hcr hends first others hrest ih =>
    rw [hrest] at ih
    exact take_linesBy_cons (Bool.eq_false_iff.2 hends) rest (first :: others) h fun n => ih

/-- **Two counts of lines.** The first lines of a text are the first lines of a source file just if these hold nothing
that ends a line of a text. -/
theorem take_lines_eq_iff {s : List Char} {n : Nat} :
    (lines s).take n = (sourceLines s).take n ↔
      ∀ line ∈ (sourceLines s).take n, ∀ c ∈ line, endsTextLine c = false := by
  refine ⟨fun h line hline c hc => ?_, take_linesBy_eq⟩
  rw [← h] at hline
  have hends : endsLineBy endsTextLine c = false := not_ends_of_mem_linesBy (List.mem_of_mem_take hline) hc
  simp only [endsLineBy, Bool.or_eq_false_iff] at hends
  exact hends.2

/-! ## The number of lines -/

theorem linesBy_cons_of_ends {c : Char} (h : endsLineBy ends c = true) {rest : List Char}
    (hpair : ∀ r, c = '\r' → rest ≠ '\n' :: r) : linesBy ends (c :: rest) = [] :: linesBy ends rest := by
  rw [linesBy.eq_3 ends c rest fun r hc hr => hpair r hc hr, ← endsLineBy, if_pos h]

theorem length_consLine (c : Char) (ls : List (List Char)) : (consLine c ls).length = max 1 ls.length := by
  cases ls with
  | nil => rfl
  | cons line others =>
    simp only [consLine, List.length_cons]
    omega

/-- a character that ends no line under one rule does not change which of two rules finds more lines -/
theorem length_linesBy_cons_le {ends' : Char → Bool} {c : Char} (hc : endsLineBy ends c = false) {rest : List Char}
    (hrest : (linesBy ends rest).length ≤ (linesBy ends' rest).length) :
    (linesBy ends (c :: rest)).length ≤ (linesBy ends' (c :: rest)).length := by
  rw [linesBy_cons_of_not_ends hc, length_consLine]
  cases hends : endsLineBy ends' c with
  | false =>
    rw [linesBy_cons_of_not_ends hends, length_consLine]
    omega
  | true =>
    have hreturn : ∀ r, c = '\r' → rest ≠ '\n' :: r := by
      rintro r rfl
      cases hc
    rw [linesBy_cons_of_ends hends hreturn, List.length_cons]
    omega

/-- **More ends, more lines.** A rule that ends a line wherever another one does finds at least as many lines. -/
theorem length_linesBy_le {ends' : Char → Bool} (h : ∀ c, ends c = true → ends' c = true) (s : List Char) :
    (linesBy ends s).length ≤ (linesBy ends' s).length := by
  induction s using linesBy.induct ends with
  | case1 => exact Nat.zero_le _
  | case2 rest ih =>
    rw [linesBy.eq_2, linesBy.eq_2, List.length_cons, List.length_cons]
    exact Nat.succ_le_succ ih
  | case3 c rest hreturn hends ih =>
    have hends' : endsLineBy ends' c = true := by
      simp only [endsLineBy, Bool.or_eq_true] at hends ⊢
      rcases hends with hends | hends
      · exact Or.inl hends
      · exact Or.inr (h c hends)
    rw [linesBy_cons_of_ends hends hreturn, linesBy_cons_of_ends hends' hreturn, List.length_cons, List.length_cons]
    exact Nat.succ_le_succ ih
  | case4 c rest hreturn hends hrest ih => exact length_linesBy_cons_le (Bool.eq_false_iff.2 hends) ih
  | case5 c rest hreturn hends first others hrest ih => exact length_linesBy_cons_le (Bool.eq_false_iff.2 hends) ih

/-- a source file has no more lines than its text -/
theorem length_sourceLines_le (s : List Char) : (sourceLines s).length ≤ (lines s).length := by
  apply length_linesBy_le
  intro c hc
  cases hc

end RouteDocs.Text
