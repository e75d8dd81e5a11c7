/-
Line numbers of tokens: the lexer counts the line ends that it passes, and its count does not run ahead of the text.

- `leaves_scanNumber`, `scanString_eq`: a number or a string is taken from the front of a text.
- `Advances`: a text with the number of its first line, and one that the lexer comes to from it; there is a lemma for
  each kind of step, and `place_le_of_lexWith` for the tokens of a run.
- `length_sourceLines`: a source file has as many lines as line ends, once every line is ended.
- `place_le_of_tokens`: no token has a number beyond the line after the last one.
-/
import RouteDocs.Proofs.Text.Blank
import RouteDocs.Proofs.Text.Lines
import RouteDocs.Source.Lexer

namespace RouteDocs.Source

open Text

/-! ## What readers of characters leave -/

/-- what a reader of characters leaves, if it reads anything, is the end of a text -/
def Leaves (r : Option (List Char × List Char)) (s : List Char) : Prop :=
  ∀ read rest, r = some (read, rest) → rest <:+ s

variable {r : Option (List Char × List Char)} {s t rest : List Char}

theorem leaves_none (s : List Char) : Leaves none s := nofun

theorem leaves_some (h : rest <:+ s) (raw : List Char) : Leaves (some (raw, rest)) s := by
  rintro _ _ ⟨⟩
  exact h

theorem Leaves.mono (h : Leaves r t) (hsuffix : t <:+ s) : Leaves r s :=
  fun read rest hr => (h read rest hr).trans hsuffix

theorem Leaves.map (h : Leaves r s) (f : List Char → List Char) : Leaves (r.map fun x => (f x.1, x.2)) s := by
  intro read rest hread
  obtain ⟨⟨raw, after⟩, hraw, hx⟩ := Option.map_eq_some_iff.1 hread
  cases hx
  exact h raw after hraw

theorem Leaves.bind (h : Leaves r s) {f : List Char × List Char → Option (List Char × List Char)}
    (hf : ∀ raw rest, rest <:+ s → Leaves (f (raw, rest)) s) : Leaves (r >>= f) s := by
  intro read rest hread
  obtain ⟨⟨raw, after⟩, hraw, hnext⟩ := Option.bind_eq_some_iff.1 hread
  exact hf raw after (h raw after hraw) read rest hnext

theorem leaves_endNumber (h : rest <:+ s) (raw : List Char) : Leaves (endNumber (raw, rest)) s := by
  unfold endNumber
  split
  · exact leaves_some h raw
  · exact leaves_none s

theorem leaves_digitRun (p : Char → Bool) (s : List Char) : Leaves (digitRun p s) s := by
  fun_induction digitRun p s with
  | case1 => exact leaves_some (List.suffix_refl _) []
  | case2 => exact leaves_none _
  | case3 c rest hc ih => exact (ih.map ('_' :: ·)).mono (List.suffix_cons '_' (c :: rest))
  | case4 => exact leaves_none _
  | case5 c rest hunderscore hlast hc ih => exact (ih.map (c :: ·)).mono (List.suffix_cons c rest)
  | case6 c rest => exact leaves_some (List.suffix_refl _) []

theorem leaves_scanImaginary (read : List Char) (h : t <:+ s) : Leaves (scanImaginary read t) s := by
  unfold scanImaginary
  split
  · next c rest =>
    split
    · exact leaves_endNumber ((List.suffix_cons c rest).trans h) _
    · exact leaves_endNumber h _
  · exact leaves_some h read

theorem leaves_scanBased (p : Char → Bool) (mark : List Char) (h : t <:+ s) : Leaves (scanBased p mark t) s := by
  refine ((leaves_digitRun p t).mono h).bind fun digits rest hrest => ?_
  dsimp only
  split
  · exact leaves_none s
  · split
    · exact leaves_none s
    · exact leaves_endNumber hrest _

theorem leaves_scanExponent (read : List Char) (h : t <:+ s) : Leaves (scanExponent read t) s := by
  unfold scanExponent
  split
  · next e rest =>
    have hrest : rest <:+ s := (List.suffix_cons e rest).trans h
    split
    · split
      · next sign c after =>
        split
        · split
          · refine ((leaves_digitRun Char.isDigit _).mono ((List.drop_suffix 1 _).trans hrest)).bind ?_
            exact fun digits rest hrest => leaves_scanImaginary _ hrest
          · exact leaves_none s
        · split
          · refine ((leaves_digitRun Char.isDigit _).mono hrest).bind ?_
            exact fun digits rest hrest => leaves_scanImaginary _ hrest
          · exact leaves_endNumber h read
      · split
        · exact leaves_scanImaginary _ List.nil_suffix
        · split
          · exact leaves_none s
          · exact leaves_endNumber h read
      · exact leaves_endNumber h read
    · exact leaves_scanImaginary read h
  · exact leaves_some h read

theorem leaves_scanFraction (read : List Char) (h : t <:+ s) : Leaves (scanFraction read t) s := by
  unfold scanFraction
  split
  · refine ((leaves_digitRun Char.isDigit t).mono h).bind ?_
    exact fun digits rest hrest => leaves_scanExponent _ hrest
  · exact leaves_scanExponent read h

theorem leaves_scanDecimal (s : List Char) : Leaves (scanDecimal s) s := by
  refine (leaves_digitRun Char.isDigit s).bind fun digits rest hrest => ?_
  dsimp only
  split
  · next after => exact leaves_scanFraction _ ((List.suffix_cons '.' after).trans hrest)
  · next c after _ =>
    split
    · exact leaves_none s
    · exact leaves_scanExponent digits hrest
  · split
    · exact leaves_none s
    · exact leaves_some hrest digits

theorem leaves_scanNumber (s : List Char) : Leaves (scanNumber s) s := by
  unfold scanNumber
  split
  · next rest => exact leaves_scanFraction _ (List.suffix_cons '.' rest)
  · next m rest =>
    have hrest : rest <:+ '0' :: m :: rest := List.suffix_append ['0', m] rest
    split
    · exact leaves_scanBased isHexDigit _ hrest
    · split
      · exact leaves_scanBased isOctalDigit _ hrest
      · split
        · exact leaves_scanBased isBinaryDigit _ hrest
        · exact leaves_scanDecimal _
  · exact leaves_scanDecimal s

/-! ## Strings -/

/-- a reader of characters takes what stands before a fence, and the fence -/
def TakesTo (fence : List Char) (r : Option (List Char × List Char)) (s : List Char) : Prop :=
  ∀ body rest, r = some (body, rest) → s = body ++ fence ++ rest

theorem takesTo_none (fence s : List Char) : TakesTo fence none s := nofun

theorem takesTo_fence (fence rest : List Char) : TakesTo fence (some ([], rest)) (fence ++ rest) := by
  rintro _ _ ⟨⟩
  rfl

theorem TakesTo.prepend {fence : List Char} (h : TakesTo fence r s) (front : List Char) :
    TakesTo fence (r.map fun x => (front ++ x.1, x.2)) (front ++ s) := by
  intro body rest hread
  obtain ⟨⟨inside, after⟩, hinside, hx⟩ := Option.map_eq_some_iff.1 hread
  cases hx
  rw [h inside after hinside]
  simp only [List.append_assoc]

theorem takesTo_scanShort (quote : Char) (s : List Char) : TakesTo [quote] (scanShort quote s) s := by
  fun_induction scanShort quote s with
  | case1 => exact takesTo_none _ _
  | case2 => exact takesTo_none _ _
  | case3 c rest ih => exact ih.prepend ['\\', c]
  | case4 c rest hlast hbackslash hquote =>
    rw [eq_of_beq hquote]
    exact takesTo_fence [quote] rest
  | case5 => exact takesTo_none _ _
  | case6 c rest hlast hbackslash hquote hend ih => exact ih.prepend [c]

theorem takesTo_scanLong (quote : Char) (s : List Char) : TakesTo [quote, quote, quote] (scanLong quote s) s := by
  fun_induction scanLong quote s with
  | case1 => exact takesTo_none _ _
  | case2 => exact takesTo_none _ _
  | case3 c rest ih => exact ih.prepend ['\\', c]
  | case4 c rest hlast hbackslash hfence =>
    obtain ⟨after, hafter⟩ := List.isPrefixOf_iff_prefix.1 hfence
    cases hafter
    exact takesTo_fence [quote, quote, quote] after
  | case5 c rest hlast hbackslash hfence ih => exact ih.prepend [c]

/-- the body of a string stands between two equal fences of quotes -/
theorem scanString_eq {body : List Char} (h : scanString s = some (body, rest)) :
    ∃ fence, s = fence ++ (body ++ fence ++ rest) := by
  unfold scanString at h
  split at h
  · next quote after =>
    split at h
    · next hfence =>
      obtain ⟨inside, rfl⟩ := List.isPrefixOf_iff_prefix.1 hfence
      have hinside : inside = body ++ [quote, quote, quote] ++ rest := takesTo_scanLong quote inside body rest h
      exact ⟨[quote, quote, quote], by rw [← hinside]; rfl⟩
    · have hafter : after = body ++ [quote] ++ rest := takesTo_scanShort quote after body rest h
      exact ⟨[quote], by rw [← hafter]; rfl⟩
  · cases h

/-! ## Line numbers beside a text -/

theorem lineEnds_le (h : rest <:+ s) : lineEnds rest ≤ lineEnds s := h.sublist.count_le '\n'

/-- From a text with the number of its first line the lexer comes to the end of the text, with a number that has not
grown by more than the line ends before it. -/
structure Advances (line : Nat) (s : List Char) (line' : Nat) (rest : List Char) : Prop where
  suffix : rest <:+ s
  line_le : line' + lineEnds rest ≤ line + lineEnds s

namespace Advances

variable {line line' line'' : Nat}

theorem trans (h : Advances line s line' t) (h' : Advances line' t line'' rest) : Advances line s line'' rest :=
  ⟨h'.suffix.trans h.suffix, h'.line_le.trans h.line_le⟩

/-- what is passed over without a change of the number -/
theorem skip (h : rest <:+ s) : Advances line s line rest := ⟨h, Nat.add_le_add_left (lineEnds_le h) line⟩

/-- the end of a line is passed, and what may stand before it -/
theorem lineEnd (h : '\n' :: rest <:+ s) : Advances line s (line + 1) rest := by
  refine ⟨(List.suffix_cons '\n' rest).trans h, ?_⟩
  have hends := lineEnds_le h
  simp only [lineEnds, List.count_cons_self] at hends ⊢
  omega

end Advances

theorem measure_advances {depth depth' : Depth} {kept joined joined' : Nat} (line : Nat)
    (h : measure depth kept joined s = some (depth', joined', rest)) :
    Advances (line + joined) s (line + joined') rest := by
  fun_induction measure depth kept joined s with
  | case1 depth kept joined s ih => exact (Advances.skip (List.suffix_cons ' ' s)).trans (ih h)
  | case2 depth kept joined s ih => exact (Advances.skip (List.suffix_cons '\t' s)).trans (ih h)
  | case3 depth kept joined s ih => exact (Advances.skip (List.suffix_cons '\x0c' s)).trans (ih h)
  | case4 depth kept joined c s ih => exact (Advances.lineEnd (List.suffix_cons '\\' ('\n' :: c :: s))).trans (ih h)
  | case5 => cases h
  | case6 depth kept joined s =>
    cases h
    exact Advances.skip (List.suffix_refl _)

/-! ## Texts whose lines are ended -/

/-- every line of the text is ended -/
def Ended (s : List Char) : Prop := ∀ c ∈ s.getLast?, c = '\n'

theorem Ended.suffix (h : Ended s) (hrest : rest <:+ s) : Ended rest := by
  obtain ⟨before, rfl⟩ := hrest
  intro c hc
  apply h
  rw [List.getLast?_append, Option.mem_def.1 hc]
  rfl

theorem ended_endLine (s : List Char) : Ended (endLine s) := by
  unfold Ended endLine
  split
  · simp
  · next h =>
    intro c hc
    rw [Option.mem_def.1 hc] at h
    simpa using h

theorem Ended.mem (h : Ended s) (hs : s ≠ []) : '\n' ∈ s := by
  rw [← h _ (List.getLast?_eq_some_getLast hs)]
  exact List.getLast_mem hs

/-- from the end of its first line on, something is left of a text -/
theorem Ended.exists_lineEnd (h : Ended s) (hs : s ≠ []) : ∃ rest, s.dropWhile (· != '\n') = '\n' :: rest := by
  have hmem := h.mem hs
  cases hdrop : s.dropWhile (· != '\n') with
  | nil => simpa using List.dropWhile_eq_nil_iff.1 hdrop _ hmem
  | cons c rest =>
    have hhead : c ∈ (s.dropWhile (· != '\n')).head? := by
      rw [hdrop]
      exact Option.mem_some_self c
    have hc : c = '\n' := by simpa using dropWhile_stop hhead
    exact ⟨rest, by rw [hc]⟩

theorem lineEnds_endLine_newline (s : List Char) :
    lineEnds (endLine ('\n' :: s)) = lineEnds (endLine s) + 1 := by
  cases s with
  | nil => rfl
  | cons c s =>
    simp only [endLine, List.getLast?_cons_cons]
    split <;> simp [lineEnds]

theorem lineEnds_endLine_cons {c : Char} (hc : c ≠ '\n') (s : List Char) :
    lineEnds (endLine (c :: s)) = max 1 (lineEnds (endLine s)) := by
  cases s with
  | nil => simp [endLine, lineEnds, hc]
  | cons d s =>
    have hcons : endLine (c :: d :: s) = c :: endLine (d :: s) := by
      simp only [endLine, List.getLast?_cons_cons]
      split <;> rfl
    have hne : endLine (d :: s) ≠ [] := by
      unfold endLine
      split <;> simp
    have hpos : 0 < lineEnds (endLine (d :: s)) := List.count_pos_iff.2 ((ended_endLine _).mem hne)
    rw [hcons, lineEnds, List.count_cons_of_ne hc, ← lineEnds]
    omega

/-- **The number of lines.** A source file has as many lines as line ends, when these are unified and its last line is
ended too. -/
theorem length_sourceLines (s : List Char) : (sourceLines s).length = lineEnds (endLine (unifyNewlines s)) := by
  unfold sourceLines
  fun_induction unifyNewlines s with
  | case1 => rfl
  | case2 rest ih => rw [linesBy.eq_2, lineEnds_endLine_newline, List.length_cons, ih]
  | case3 rest hpair ih =>
    rw [linesBy_cons_of_ends rfl fun r _ => hpair r, lineEnds_endLine_newline, List.length_cons, ih]
  | case4 c rest hpair hreturn ih =>
    by_cases hc : c = '\n'
    · subst hc
      rw [linesBy_cons_of_ends rfl hpair, lineEnds_endLine_newline, List.length_cons, ih]
    · have hends : endsLineBy (fun _ => false) c = false := by
        simpa [endsLineBy, hc] using hreturn
      rw [linesBy_cons_of_not_ends hends, lineEnds_endLine_cons hc, length_consLine, ih]

/-! ## Steps -/

variable {st st' : LexState} {tokens : List Lexeme} {lexField : List Char → Option (List Lexeme)}

theorem stepStart_advances (hs : Ended s) (h : stepStart st s = .next tokens st' rest) :
    Advances st.line s st'.line rest := by
  unfold stepStart at h
  split at h
  · cases h
  · next depth joined after hmeasure =>
    have hblanks : Advances st.line s (st.line + joined) after := measure_advances st.line hmeasure
    dsimp only at h
    split at h
    · split at h <;> cases h
    · next c more =>
      split at h
      · -- a line without tokens: what is left of it is passed over, its end included
        obtain ⟨below, hbelow⟩ := (hs.suffix hblanks.suffix).exists_lineEnd (List.cons_ne_nil c more)
        have hline : '\n' :: below <:+ c :: more := hbelow ▸ List.dropWhile_suffix (· != '\n')
        rw [hbelow] at h
        cases h
        exact hblanks.trans (.lineEnd hline)
      · split at h
        · split at h
          · cases h
          · cases h
            exact hblanks
        · cases h
          exact hblanks

theorem stepText_advances {marks : List Char} (h : stepText lexField st marks s = .next tokens st' rest) :
    Advances st.line s st'.line rest := by
  unfold stepText at h
  split at h
  · cases h
  · next body after hstring =>
    obtain ⟨fence, rfl⟩ := scanString_eq hstring
    have hbody : Advances st.line (fence ++ (body ++ fence ++ after)) (st.line + lineEnds body) after := by
      refine ⟨(List.suffix_append (body ++ fence) after).trans (List.suffix_append fence _), ?_⟩
      simp only [lineEnds, List.count_append]
      omega
    dsimp only at h
    split at h
    · split at h
      · cases h
        exact hbody
      · cases h
    · cases h
      exact hbody

theorem stringStart?_suffix {marks : List Char} (h : stringStart? s = some (marks, rest)) : rest <:+ s := by
  unfold stringStart? at h
  dsimp only at h
  split at h
  · cases h
    exact List.dropWhile_suffix Char.isAlpha
  · cases h

theorem stepToken_advances {c : Char} (h : stepToken lexField st c s = .next tokens st' rest) :
    Advances st.line (c :: s) st'.line rest := by
  unfold stepToken at h
  dsimp only at h
  split at h
  · next marks after hstart => exact (Advances.skip (stringStart?_suffix hstart)).trans (stepText_advances h)
  · split at h
    · split at h
      · cases h
        exact .skip (List.dropWhile_suffix extendsName)
      · cases h
    · split at h
      · split at h
        · next raw after hnumber =>
          cases h
          exact .skip (leaves_scanNumber _ raw rest hnumber)
        · cases h
      · split at h
        · cases h
        · next op after hop =>
          split at h
          · cases h
          · cases h
            obtain ⟨o, -, ho⟩ := Option.map_eq_some_iff.1 hop
            cases ho
            exact .skip (List.drop_suffix _ _)

theorem stepInside_advances (h : stepInside lexField st s = .next tokens st' rest) :
    Advances st.line s st'.line rest := by
  have hgap : s.dropWhile isGap <:+ s := List.dropWhile_suffix isGap
  unfold stepInside at h
  split at h
  · cases h
  · next c after hdrop =>
    rw [hdrop] at hgap
    split at h
    · -- a comment, up to the end of its line
      cases h
      exact .skip ((List.dropWhile_suffix _).trans hgap)
    · split at h
      · next hc =>
        cases h
        rw [eq_of_beq hc] at hgap
        exact .lineEnd hgap
      · split at h
        · -- a backslash, which has to stand before a line end
          split at h
          · next d more =>
            cases h
            exact .lineEnd ((List.suffix_cons c ('\n' :: d :: more)).trans hgap)
          · cases h
        · exact (Advances.skip hgap).trans (stepToken_advances h)

/-! ## Runs -/

/-- No token of a run has a number beyond the line after those that are left. The invariant is that the lines that are
left are ended: a comment behind which no line ended would count one too many. -/
theorem place_le_of_lexWith {fuel : Nat} {ts : List (Token Nat)} (hs : Ended s) (h : lexWith fuel st s = some ts) :
    ∀ t ∈ ts, t.place ≤ st.line + lineEnds s := by
  induction fuel generalizing st s ts with
  | zero => cases h
  | succ fuel ih =>
    rw [lexWith] at h
    dsimp only at h
    generalize hstep : (if st.atStart = true then stepStart st s else stepInside _ st s) = step at h
    cases step with
    | failed => cases h
    | finished last =>
      cases h
      intro t ht
      obtain ⟨l, -, rfl⟩ := List.mem_map.1 ht
      exact Nat.le_add_right _ _
    | next tokens st' rest =>
      have hadvances : Advances st.line s st'.line rest := by
        split at hstep
        · exact stepStart_advances hs hstep
        · exact stepInside_advances hstep
      obtain ⟨later, hlater, hts⟩ := Option.bind_eq_some_iff.1 h
      cases hts
      have hline := hadvances.line_le
      intro t ht
      rcases List.mem_append.1 ht with ht | ht
      · obtain ⟨l, -, rfl⟩ := List.mem_map.1 ht
        dsimp only
        split <;> omega
      · exact (ih (hs.suffix hadvances.suffix) hlater t ht).trans hline

/-- **Tokens stand in the text.** No token has a number beyond the line after the last one. -/
theorem place_le_of_tokens {text : List Char} {ts : List (Token Nat)} (h : tokens? text = some ts) :
    ∀ t ∈ ts, t.place ≤ (sourceLines text).length + 1 := by
  intro t ht
  have hplace : t.place ≤ 1 + lineEnds (endLine (unifyNewlines text)) :=
    place_le_of_lexWith (ended_endLine _) h t ht
  rw [length_sourceLines]
  omega

end RouteDocs.Source
