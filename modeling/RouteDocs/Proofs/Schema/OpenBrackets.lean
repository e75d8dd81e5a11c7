/-
Type expressions whose brackets need not match, because those in string literals count as well.

A text is cut at the separators at which as many brackets have been opened as closed. What follows a text is therefore
cut off from it exactly if the text opens as many brackets as it closes.

- `exists_cut`: a text is cut as it would be alone, and its last piece goes on with what follows.
- `unwrap_append_cons`: each end of an expression loses its blanks and quotes for itself.
- `reduce_of_member`: an expression comes down to what its first member comes down to that is not `None`.
-/
import RouteDocs.Proofs.Schema.Reduction

namespace RouteDocs.Schema.TypeExpr

open RouteDocs.Text

/-! ## Open brackets -/

/-- how many more brackets a text opens than it closes -/
def opened (s : List Char) : Int := s.count '[' - s.count ']'

@[simp] theorem opened_nil : opened [] = 0 := rfl

@[simp] theorem opened_append (s t : List Char) : opened (s ++ t) = opened s + opened t := by
  simp only [opened, List.count_append]
  omega

theorem opened_cons (c : Char) (s : List Char) : opened (c :: s) = opened [c] + opened s :=
  opened_append [c] s

theorem opened_of_plain {s : List Char} (h : ∀ c ∈ s, isPlain c = true) : opened s = 0 := by
  have hopen : '[' ∉ s := fun hmem => absurd (h _ hmem) (by decide)
  have hclose : ']' ∉ s := fun hmem => absurd (h _ hmem) (by decide)
  rw [opened, List.count_eq_zero_of_not_mem hopen, List.count_eq_zero_of_not_mem hclose]
  rfl

/-- a text whose brackets match closes what was open before it -/
theorem opened_of_closedFrom {p : Char → Bool} {d : Nat} {s : List Char} (h : closedFrom p d s = true) :
    opened s = -d := by
  induction s generalizing d with
  | nil =>
    obtain rfl : d = 0 := by simpa [closedFrom] using h
    rfl
  | cons c rest ih =>
    rw [closedFrom] at h
    rw [opened_cons]
    split at h
    · next hopen =>
      subst hopen
      have hone : opened ['['] = 1 := by decide
      rw [ih h, hone]
      omega
    · next hopen =>
      split at h
      · next hclose =>
        subst hclose
        have hone : opened [']'] = -1 := by decide
        simp only [Bool.and_eq_true, bne_iff_ne, ne_eq] at h
        rw [ih h.2, hone]
        omega
      · next hclose =>
        simp only [Bool.and_eq_true] at h
        have hplain : opened [c] = 0 := opened_of_plain fun x hx => by simp_all [isPlain]
        rw [ih h.2, hplain, Int.zero_add]

/-! ## Cutting -/

/-- a character is cut at, or it belongs to the piece that begins with it -/
theorem splitAt_cons (sep c : Char) (d : Int) :
    (opened [c] = 0 ∧ c = sep ∧ d = 0 ∧ ∀ t, splitAt sep d (c :: t) = [] :: splitAt sep 0 t) ∨
      ∀ t, splitAt sep d (c :: t) = cons c (splitAt sep (d + opened [c]) t) := by
  by_cases hopen : c = '['
  · subst hopen
    exact Or.inr fun t => by rw [splitAt, if_pos rfl]; rfl
  by_cases hclose : c = ']'
  · subst hclose
    exact Or.inr fun t => by rw [splitAt, if_neg hopen, if_pos rfl]; rfl
  have hplain : opened [c] = 0 := opened_of_plain fun x hx => by simp_all [isPlain]
  by_cases hsep : c = sep ∧ d = 0
  · obtain ⟨rfl, rfl⟩ := hsep
    exact Or.inl ⟨hplain, rfl, rfl, fun t => by rw [splitAt, if_neg hopen, if_neg hclose, if_pos ⟨rfl, rfl⟩]⟩
  · refine Or.inr fun t => ?_
    rw [splitAt, if_neg hopen, if_neg hclose, if_neg hsep, hplain, Int.add_zero]

theorem splitAt_ne_nil (sep : Char) (d : Int) (s : List Char) : splitAt sep d s ≠ [] := by
  cases s with
  | nil => exact List.cons_ne_nil _ _
  | cons c t =>
    rcases splitAt_cons sep c d with ⟨-, -, -, h⟩ | h
    · rw [h t]
      exact List.cons_ne_nil _ _
    · rw [h t]
      cases splitAt sep (d + opened [c]) t <;> exact List.cons_ne_nil _ _

/-- what is neither bracket nor separator belongs to the piece before or after it -/
theorem splitAt_plain {sep : Char} {s : List Char} (h : ∀ c ∈ s, isPlain c = true ∧ c ≠ sep) (d : Int)
    (w : List Char) : splitAt sep d (s ++ w) = s.foldr cons (splitAt sep d w) := by
  induction s with
  | nil => rfl
  | cons c rest ih =>
    obtain ⟨⟨hplain, hsep⟩, hrest⟩ := List.forall_mem_cons.1 h
    have hzero : opened [c] = 0 := opened_of_plain fun x hx => by rwa [List.mem_singleton.1 hx]
    rw [List.cons_append, List.foldr_cons]
    rcases splitAt_cons sep c d with ⟨-, heq, -, -⟩ | hcons
    · exact absurd heq hsep
    · rw [hcons, hzero, Int.add_zero, ih hrest]

/-- How a text is cut: the pieces up to the last separator, the piece behind it, and the depth at which that begins. -/
structure Cut (sep : Char) (d : Int) (s : List Char) (e : Int) (ps : List (List Char)) (l : List Char) : Prop where
  start : ps = [] ∧ e = d ∨ e = 0
  text : s = ps.flatMap (· ++ [sep]) ++ l
  depth : e + opened l = d + opened s
  whole : splitAt sep e l = [l]
  /-- the pieces of the text stay what they are, and the last one goes on with what follows -/
  goesOn : ∀ {w first others}, splitAt sep (d + opened s) w = first :: others →
    splitAt sep d (s ++ w) = ps ++ (l ++ first) :: others

namespace Cut

variable {sep c : Char} {d e : Int} {s l rest : List Char} {ps : List (List Char)}

theorem nil : Cut sep d [] d [] [] := by
  refine ⟨Or.inl ⟨rfl, rfl⟩, rfl, rfl, rfl, fun {w first others} h => ?_⟩
  rw [opened_nil, Int.add_zero] at h
  simpa using h

/-- in front of a separator there is an empty piece -/
theorem separator (hzero : opened [sep] = 0) (hcut : ∀ t, splitAt sep 0 (sep :: t) = [] :: splitAt sep 0 t)
    (h : Cut sep 0 rest e ps l) : Cut sep 0 (sep :: rest) e ([] :: ps) l := by
  have hopened : opened (sep :: rest) = opened rest := by rw [opened_cons, hzero, Int.zero_add]
  refine ⟨Or.inr (h.start.elim And.right id), ?_, ?_, h.whole, fun {w first others} hw => ?_⟩
  · rw [List.flatMap_cons, List.nil_append, List.append_assoc, ← h.text]
    rfl
  · rw [hopened]
    exact h.depth
  · rw [hopened] at hw
    rw [List.cons_append, hcut, h.goesOn hw, List.cons_append]

section Cons

variable (hcons : ∀ t, splitAt sep d (c :: t) = cons c (splitAt sep (d + opened [c]) t))
include hcons

/-- without a separator, the one piece begins further in front -/
theorem cons_whole (h : Cut sep (d + opened [c]) rest e [] l) : Cut sep d (c :: rest) d [] (c :: l) := by
  obtain rfl : rest = l := h.text
  have hdepth := h.depth
  obtain rfl : e = d + opened [c] := by omega
  refine ⟨Or.inl ⟨rfl, rfl⟩, rfl, rfl, ?_, fun {w first others} hw => ?_⟩
  · rw [hcons, h.whole]
    rfl
  · rw [opened_cons, ← Int.add_assoc] at hw
    rw [List.cons_append, hcons, h.goesOn hw]
    rfl

/-- else the first piece does -/
theorem cons_first {p : List Char} (h : Cut sep (d + opened [c]) rest e (p :: ps) l) :
    Cut sep d (c :: rest) e ((c :: p) :: ps) l := by
  refine ⟨Or.inr (h.start.resolve_left fun h => List.cons_ne_nil p ps h.1), ?_, ?_, h.whole,
    fun {w first others} hw => ?_⟩
  · rw [h.text]
    simp
  · rw [opened_cons, ← Int.add_assoc]
    exact h.depth
  · rw [opened_cons, ← Int.add_assoc] at hw
    rw [List.cons_append, hcons, h.goesOn hw]
    rfl

end Cons

theorem pieces (h : Cut sep d s e ps l) : splitAt sep d s = ps ++ [l] := by
  have hend : splitAt sep d (s ++ []) = ps ++ [l ++ []] := h.goesOn rfl
  simpa using hend

/-- from the outside, the last piece begins outside brackets too -/
theorem start_zero (h : Cut sep 0 s e ps l) : e = 0 := h.start.elim And.right id

/-- so it opens as many brackets as the whole text -/
theorem opened_last (h : Cut sep 0 s e ps l) : opened l = opened s := by
  have hdepth := h.depth
  rw [h.start_zero] at hdepth
  omega

theorem suffix (h : Cut sep d s e ps l) : l <:+ s := ⟨_, h.text.symm⟩

theorem split_eq (h : Cut sep 0 s e ps l) : split sep s = ps.map trim ++ [trim l] := by
  rw [split, h.pieces, List.map_append, List.map_singleton]

theorem split_append (h : Cut sep 0 s e ps l) {w first : List Char} {others : List (List Char)}
    (hw : splitAt sep (0 + opened s) w = first :: others) :
    split sep (s ++ w) = ps.map trim ++ trim (l ++ first) :: others.map trim := by
  rw [split, h.goesOn hw, List.map_append, List.map_cons]

end Cut

theorem exists_cut (sep : Char) (d : Int) (s : List Char) : ∃ e ps l, Cut sep d s e ps l := by
  induction s generalizing d with
  | nil => exact ⟨d, [], [], .nil⟩
  | cons c rest ih =>
    rcases splitAt_cons sep c d with ⟨hzero, rfl, rfl, hcut⟩ | hcons
    · obtain ⟨e, ps, l, h⟩ := ih 0
      exact ⟨e, [] :: ps, l, h.separator hzero hcut⟩
    · obtain ⟨e, ps, l, h⟩ := ih (d + opened [c])
      cases ps with
      | nil => exact ⟨d, [], c :: l, h.cons_whole hcons⟩
      | cons p ps => exact ⟨e, (c :: p) :: ps, l, h.cons_first hcons⟩

/-- a text that is one piece goes on with what follows -/
theorem splitAt_whole {sep : Char} {d : Int} {s w first : List Char} {others : List (List Char)}
    (h : splitAt sep d s = [s]) (hw : splitAt sep (d + opened s) w = first :: others) :
    splitAt sep d (s ++ w) = (s ++ first) :: others := by
  obtain ⟨e, ps, l, hcut⟩ := exists_cut sep d s
  have hpieces := hcut.pieces
  rw [h] at hpieces
  cases ps with
  | cons p ps => simp at hpieces
  | nil =>
    obtain rfl : s = l := by simpa using hpieces
    exact hcut.goesOn hw

/-! ## Ends of a text -/

/-- the end of a text ends as the text does -/
theorem last_of_suffix {p : Char → Bool} {l s : List Char} (hl : l <:+ s)
    (hs : ∃ front c, s = front ++ [c] ∧ p c = true) (hne : l ≠ []) :
    ∃ front c, l = front ++ [c] ∧ p c = true := by
  obtain ⟨front, c, rfl, hc⟩ := hs
  obtain ⟨before, htext⟩ := hl
  refine ⟨l.dropLast, l.getLast hne, (List.dropLast_append_getLast hne).symm, ?_⟩
  rw [← List.dropLast_append_getLast hne, ← List.append_assoc] at htext
  obtain ⟨-, hlast⟩ := List.append_inj' htext rfl
  rw [(List.cons.inj hlast).1]
  exact hc

theorem dropWhile_append_cons {p : Char → Bool} {c : Char} (hc : p c = false) (s rest : List Char) :
    (s ++ c :: rest).dropWhile p = s.dropWhile p ++ c :: rest := by
  rw [List.dropWhile_append]
  split
  · next hempty =>
    rw [List.isEmpty_iff.1 hempty, List.dropWhile_cons_of_neg (by simp [hc])]
    rfl
  · rfl

/-- a character that is not blank is not trimmed -/
theorem mem_trim {c : Char} {s : List Char} (hc : isBlank c = false) (h : c ∈ s) : c ∈ trim s := by
  obtain ⟨front, rest, rfl⟩ := List.append_of_mem h
  rw [trim, trimWhile, dropWhile_append_cons hc, dropWhileEnd_append_cons hc]
  simp

theorem opened_trim (s : List Char) : opened (trim s) = opened s := by
  have hblanks (t : List Char) (ht : Blanks t) : opened t = 0 :=
    opened_of_plain fun c hc => isPlain_of_isBlank (ht c hc)
  have hfront : opened (s.dropWhile isBlank) = opened s := by
    conv_rhs => rw [← List.takeWhile_append_dropWhile (p := isBlank) (l := s), opened_append]
    rw [hblanks _ fun c hc => List.mem_takeWhile_imp hc, Int.zero_add]
  have hend (t : List Char) : opened (dropWhileEnd isBlank t) = opened t := by
    rw [dropWhileEnd_eq_rdropWhile]
    conv_rhs => rw [← List.rdropWhile_append_rtakeWhile (p := isBlank) (l := t), opened_append]
    rw [hblanks _ fun c hc => List.mem_rtakeWhile_imp hc, Int.add_zero]
  rw [trim, trimWhile, hend, hfront]

/-- the blanks and then the quotes in front of a text are taken off -/
def cutFront (s : List Char) : List Char := (s.dropWhile isBlank).dropWhile isQuote

/-- both ends of an expression are cut for themselves, on both sides of a character that may stand at its end -/
theorem unwrap_append_cons {c : Char} (hc : isEdge c = true) (front rest : List Char) :
    unwrap (front ++ c :: rest) = cutFront front ++ c :: dropWhileEnd isQuote (dropWhileEnd isBlank rest) := by
  rw [unwrap, trim, trimWhile, trimWhile, dropWhile_append_cons (Bare.not_blank hc),
    dropWhileEnd_append_cons (Bare.not_blank hc), dropWhile_append_cons (Bare.not_quote hc),
    dropWhileEnd_append_cons (Bare.not_quote hc), cutFront]

/-- an expression loses the quotes behind it -/
theorem unwrap_append_quotes {c : Char} (hc : isEdge c = true) (front : List Char) {q : List Char} (hq : Quotes q) :
    unwrap (front ++ c :: q) = unwrap (front ++ [c]) := by
  rw [unwrap_append_cons hc, unwrap_append_cons hc, hq.dropWhileEnd, dropWhileEnd_eq_rdropWhile,
    List.rdropWhile_eq_nil_iff.2 hq]
  rfl

/-- and those in front of it -/
theorem unwrap_quotes_append {marks : List Char} (hm : Quotes marks) {c : Char} (hc : isEdge c = true)
    (rest : List Char) : unwrap (marks ++ c :: rest) = unwrap (c :: rest) := by
  have hblank : marks.dropWhile isBlank = marks := by
    cases marks with
    | nil => rfl
    | cons m marks => exact List.dropWhile_cons_of_neg (by simp [isBlank_of_isQuote (hm m List.mem_cons_self)])
  have hcut : cutFront marks = [] := by
    rw [cutFront, hblank]
    exact List.dropWhile_eq_nil_iff.2 hm
  have := unwrap_append_cons hc [] rest
  rw [unwrap_append_cons hc, hcut]
  exact this.symm

theorem unwrap_quotes_eq_nil {marks : List Char} (hm : Quotes marks) : unwrap marks = [] := by
  have htrim : ∀ c ∈ trim marks, isQuote c = true := fun c hc => hm c ((trimWhile_sublist _ _).subset hc)
  rw [unwrap, trimWhile, List.dropWhile_eq_nil_iff.2 htrim]
  rfl

@[simp] theorem unwrap_trim (s : List Char) : unwrap (trim s) = unwrap s := by rw [unwrap, unwrap, trim_trim]

theorem reduce_trim (s : List Char) : reduce (trim s) = reduce s := reduce_congr (unwrap_trim s)

/-! ## Members -/

def HasMember (s : List Char) : Prop := ∃ m ∈ split '|' s, m ≠ noneName

theorem HasMember.exists_first {s : List Char} (h : HasMember s) : ∃ m, firstMember? (split '|' s) = some m := by
  obtain ⟨m, hm, hne⟩ := h
  exact Option.isSome_iff_exists.1 (List.find?_isSome.2 ⟨m, hm, bne_iff_ne.2 hne⟩)

theorem firstMember?_append (ms ns : List (List Char)) :
    firstMember? (ms ++ ns) = (firstMember? ms).or (firstMember? ns) := List.find?_append

theorem firstMember?_eq_none {ms : List (List Char)} : firstMember? ms = none ↔ ∀ m ∈ ms, m = noneName := by
  simp [firstMember?]

theorem firstMember?_visible {m : List Char} (h : m ≠ noneName) (ms : List (List Char)) :
    firstMember? (m :: ms) = some m := by
  rw [firstMember?_cons, if_neg h]

/-- an expression comes down to what its first member does that is not `None` -/
theorem reduce_of_member {s x m : List Char} (hs : unwrap s = x) (hx : Bare x) (hlist : x.head? ≠ some '[')
    (hm : firstMember? (split '|' x) = some m) : reduce s = reduce m := by
  by_cases hne : m = x
  · subst hne
    exact reduce_congr (hs.trans hx.unwrap_self.symm)
  · exact reduce_member hs hlist hm hne

/-- a text that some character keeps from being `None` -/
theorem trim_ne_none {c : Char} {s : List Char} (hc : isBlank c = false) (hmem : c ∈ s) (hnone : c ∉ noneName) :
    trim s ≠ noneName := by
  intro h
  exact hnone (h ▸ mem_trim hc hmem)

theorem not_mem_noneName {c : Char} (hc : isQuote c = true) : c ∉ noneName := by
  intro hnone
  have hall : noneName.any isQuote = false := by decide
  exact List.any_eq_false.1 hall c hnone hc

theorem trim_ne_none_of_quote {c : Char} {s : List Char} (hc : isQuote c = true) (hmem : c ∈ s) :
    trim s ≠ noneName :=
  trim_ne_none (isBlank_of_isQuote hc) hmem (not_mem_noneName hc)

/-- a member that is not `None` does not become `None` by what follows it: quotes, and then a blank or a bar -/
theorem trim_append_ne_none {l q w : List Char} (hl : trim l ≠ noneName) (hq : Quotes q)
    (hw : w = [' '] ∨ '|' ∈ w) : trim (l ++ (q ++ w)) ≠ noneName := by
  rcases hw with rfl | hbar
  · rw [← List.append_assoc, trim_append_right _ blanks_space]
    cases q with
    | nil => rwa [List.append_nil]
    | cons c q => exact trim_ne_none_of_quote (hq c List.mem_cons_self) (by simp)
  · exact trim_ne_none (c := '|') (by decide) (by simp [hbar]) (by decide)

theorem quotes_plain {q : List Char} (hq : Quotes q) : ∀ c ∈ q, isPlain c = true ∧ c ≠ '|' := by
  intro c hc
  have h := hq c hc
  simp only [isQuote, Bool.or_eq_true, beq_iff_eq] at h
  rcases h with rfl | rfl <;> decide

/-- what comes before the first bar is a member, and some character of it keeps it from being `None` -/
theorem hasMember_of_first {s : List Char} (hs : ∀ a ∈ s, isPlain a = true ∧ a ≠ '|') {c : Char}
    (hbar : c ≠ '|')
    (hblank : isBlank c = false) (hnone : c ∉ noneName) (t : List Char) : HasMember (s ++ c :: t) := by
  rcases splitAt_cons '|' c 0 with ⟨-, heq, -⟩ | hcons
  · exact absurd heq hbar
  · obtain ⟨p, ps, hpieces⟩ := List.exists_cons_of_ne_nil (splitAt_ne_nil '|' (0 + opened [c]) t)
    have hsplit : splitAt '|' 0 (s ++ c :: t) = (s ++ c :: p) :: ps := by
      rw [splitAt_plain hs, hcons, hpieces, cons, foldr_cons]
    exact ⟨trim (s ++ c :: p), by rw [split, hsplit]; simp, trim_ne_none hblank (by simp) hnone⟩

theorem HasMember.quotes_append {w : List Char} (h : HasMember w) {marks : List Char} (hm : Quotes marks) :
    HasMember (marks ++ w) := by
  cases marks with
  | nil => exact h
  | cons c marks =>
    have hc := hm c List.mem_cons_self
    have hbar := (quotes_plain hm c List.mem_cons_self).2
    exact hasMember_of_first (s := []) (List.forall_mem_nil _) hbar (isBlank_of_isQuote hc) (not_mem_noneName hc) _

/-- a bar behind an expression is cut at where no brackets are open, and nowhere else -/
theorem splitAt_bar {q : List Char} (hq : Quotes q) (d : Int) (w : List Char) :
    splitAt '|' d (q ++ ' ' :: '|' :: w)
      = if d = 0 then (q ++ [' ']) :: splitAt '|' 0 w else (q ++ [' ', '|']).foldr cons (splitAt '|' d w) := by
  have hblank : splitAt '|' d (' ' :: '|' :: w) = cons ' ' (splitAt '|' d ('|' :: w)) := by simp [splitAt]
  rw [splitAt_plain (quotes_plain hq), hblank]
  split
  · next hzero =>
    subst hzero
    have hbar : splitAt '|' 0 ('|' :: w) = [] :: splitAt '|' 0 w := by simp [splitAt]
    rw [hbar, cons, foldr_cons]
  · next hopened =>
    have hbar : splitAt '|' d ('|' :: w) = cons '|' (splitAt '|' d w) := by simp [splitAt, hopened]
    rw [hbar, List.foldr_append]
    rfl

/-- the members of an expression stay members when a bar and a further one follow it; only the last one goes on with
what follows -/
theorem split_append_bar (s : List Char) {q : List Char} (hq : Quotes q) (w : List Char) :
    ∃ ms m m' others, split '|' s = ms ++ [m] ∧ split '|' (s ++ (q ++ ' ' :: '|' :: w)) = ms ++ m' :: others ∧
      (m ≠ noneName → m' ≠ noneName) ∧ (opened s = 0 → others = split '|' w) := by
  obtain ⟨e, ps, l, hcut⟩ := exists_cut '|' 0 s
  have hbar := splitAt_bar hq (0 + opened s) w
  by_cases hzero : opened s = 0
  · rw [if_pos (by simp [hzero])] at hbar
    exact ⟨ps.map trim, trim l, trim (l ++ (q ++ [' '])), split '|' w, hcut.split_eq, hcut.split_append hbar,
      fun hl => trim_append_ne_none hl hq (Or.inl rfl), fun _ => rfl⟩
  · obtain ⟨p, others, hpieces⟩ := List.exists_cons_of_ne_nil (splitAt_ne_nil '|' (0 + opened s) w)
    rw [if_neg (by simp [hzero]), hpieces, foldr_cons, List.append_assoc] at hbar
    exact ⟨ps.map trim, trim l, trim (l ++ (q ++ ([' ', '|'] ++ p))), others.map trim, hcut.split_eq,
      hcut.split_append hbar, fun hl => trim_append_ne_none hl hq (Or.inr (by simp)), fun h => absurd h hzero⟩

theorem HasMember.append_bar {s q : List Char} (h : HasMember s) (hq : Quotes q) (w : List Char) :
    HasMember (s ++ (q ++ ' ' :: '|' :: w)) := by
  obtain ⟨ms, m, m', others, hs, hsplit, hvisible, -⟩ := split_append_bar s hq w
  obtain ⟨k, hk, hne⟩ := h
  rw [HasMember, hsplit]
  rw [hs] at hk
  rcases List.mem_append.1 hk with hk | hk
  · exact ⟨k, by simp [hk], hne⟩
  · obtain rfl := List.mem_singleton.1 hk
    exact ⟨m', by simp, hvisible hne⟩

theorem first_append_bar {s q : List Char} (h : (split '|' s).head? ≠ some noneName) (hq : Quotes q) (w : List Char) :
    (split '|' (s ++ (q ++ ' ' :: '|' :: w))).head? ≠ some noneName := by
  obtain ⟨ms, m, m', others, hs, hsplit, hvisible, -⟩ := split_append_bar s hq w
  rw [hsplit]
  rw [hs] at h
  cases ms with
  | nil => simpa using hvisible (by simpa using h)
  | cons k ms => simpa using h

/-- behind a text whose brackets match, a further member stands for itself -/
theorem HasMember.prepend_bar {w : List Char} (h : HasMember w) {s q : List Char} (hs : opened s = 0) (hq : Quotes q) :
    HasMember (s ++ (q ++ ' ' :: '|' :: ' ' :: w)) := by
  obtain ⟨ms, m, m', others, -, hsplit, -, hothers⟩ := split_append_bar s hq (' ' :: w)
  obtain ⟨p, ps, hpieces⟩ := List.exists_cons_of_ne_nil (splitAt_ne_nil '|' 0 w)
  have hblank : split '|' (' ' :: w) = split '|' w := by
    have hcons : splitAt '|' 0 (' ' :: w) = cons ' ' (splitAt '|' 0 w) := by simp [splitAt]
    have htrim : trim (' ' :: p) = trim p := trim_append_left blanks_space p
    rw [split, split, hcons, hpieces, cons, List.map_cons, List.map_cons, htrim]
  obtain ⟨k, hk, hne⟩ := h
  refine ⟨k, ?_, hne⟩
  rw [hsplit, hothers hs, hblank]
  simp [hk]

end RouteDocs.Schema.TypeExpr
