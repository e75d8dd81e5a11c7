/-
The tokens of texts that are written on lines: what the lexer makes of one token, and of one token after another.

- `Lexes`: a part of a text, the tokens that come of it, and the state before and after it. Lines are not counted.
- `Lexes.trans`: parts follow each other; the steps that are left are enough, since every token takes characters.
- `Lexes.token`, `lexes_lineStart`, ...: one lemma for each kind of step that generated text needs.
- `tokens?_of_lexes`: from a whole text to its tokens.
-/
import Mathlib.Data.List.TakeWhile
import RouteDocs.Proofs.Text.Quoted
import RouteDocs.Source.Lexer

namespace RouteDocs.Source

open Text

/-! ## Parts of a text -/

/-- how many steps the rest of a text may take at most -/
def stepBound (atStart : Bool) (s : List Char) : Nat := 2 * s.length + if atStart then 1 else 0

theorem stepBound_start (s : List Char) : stepBound true s = 2 * s.length + 1 := rfl

theorem stepBound_inside (s : List Char) : stepBound false s = 2 * s.length := rfl

/-- Steps over a part of a text outside of blocks. They lead from a state at the beginning of a line or inside a line,
with some brackets open, to another such state, and give some tokens. -/
def Lexes (start : Bool) (open_ : List String) (s : List Char) (lexemes : List Lexeme) (start' : Bool)
    (open' : List String) (rest : List Char) : Prop :=
  ∀ line, ∃ n line', n + stepBound start' rest ≤ stepBound start s ∧ ∀ fuel, ∃ ts : List (Token Nat),
    ts.map Token.lexeme = lexemes ∧ lexWith (fuel + n) ⟨line, start, [.zero], open_⟩ s
      = (lexWith fuel ⟨line', start', [.zero], open'⟩ rest).map (ts ++ ·)

variable {start₁ start₂ start₃ : Bool} {open₁ open₂ open₃ : List String} {s₁ s₂ s₃ : List Char}
  {lexemes lexemes' : List Lexeme}

theorem Lexes.trans (h : Lexes start₁ open₁ s₁ lexemes start₂ open₂ s₂)
    (h' : Lexes start₂ open₂ s₂ lexemes' start₃ open₃ s₃) :
    Lexes start₁ open₁ s₁ (lexemes ++ lexemes') start₃ open₃ s₃ := by
  intro line
  obtain ⟨n, line', hn, hsteps⟩ := h line
  obtain ⟨n', line'', hn', hsteps'⟩ := h' line'
  refine ⟨n' + n, line'', by omega, fun fuel => ?_⟩
  obtain ⟨ts', hts', hlex'⟩ := hsteps' fuel
  obtain ⟨ts, hts, hlex⟩ := hsteps (fuel + n')
  refine ⟨ts ++ ts', by rw [List.map_append, hts, hts'], ?_⟩
  rw [← Nat.add_assoc, hlex, hlex', Option.map_map]
  simp [Function.comp_def]

theorem Lexes.refl (start : Bool) (open_ : List String) (s : List Char) : Lexes start open_ s [] start open_ s :=
  fun line => ⟨0, line, by omega, fun fuel => ⟨[], rfl, by simp⟩⟩

/-- one step at the beginning of a line -/
theorem lexes_start (hstep : ∀ line, ∃ line', stepStart ⟨line, true, [.zero], open₁⟩ s₁
      = .next lexemes ⟨line', start₂, [.zero], open₂⟩ s₂)
    (hbound : stepBound start₂ s₂ < stepBound true s₁) :
    Lexes true open₁ s₁ lexemes start₂ open₂ s₂ := by
  intro line
  obtain ⟨line', hnext⟩ := hstep line
  refine ⟨1, line', by omega, fun fuel => ⟨lexemes.map (⟨·, line'⟩), by simp [Function.comp_def], ?_⟩⟩
  rw [lexWith]
  simp only [if_true, hnext]
  cases lexWith fuel ⟨line', start₂, [.zero], open₂⟩ s₂ <;> rfl

/-- one step inside a line; the expressions of formatted strings play no part -/
theorem lexes_inside
    (hstep : ∀ line, ∃ line', ∀ lexField, stepInside lexField ⟨line, false, [.zero], open₁⟩ s₁
      = .next lexemes ⟨line', start₂, [.zero], open₂⟩ s₂)
    (hbound : stepBound start₂ s₂ < stepBound false s₁) :
    Lexes false open₁ s₁ lexemes start₂ open₂ s₂ := by
  intro line
  obtain ⟨line', hnext⟩ := hstep line
  refine ⟨1, line', by omega, fun fuel => ⟨lexemes.map (⟨·, line⟩), by simp [Function.comp_def], ?_⟩⟩
  rw [lexWith]
  simp only [Bool.false_eq_true, if_false, hnext]
  cases lexWith fuel ⟨line', start₂, [.zero], open₂⟩ s₂ <;> rfl

/-! ## Lines -/

variable {c : Char} {s rest : List Char} {open_ : List String}

/-- characters at which no token begins but the end of a line: blanks, line ends, comments and joined lines -/
def isMargin (c : Char) : Bool := isGap c || c == '\\' || c == '#' || c == '\n'

theorem measure_solid (hc : isMargin c = false) (depth : Depth) (kept joined : Nat) (s : List Char) :
    measure depth kept joined (c :: s) = some (if kept = 0 then depth else ⟨kept, kept⟩, joined, c :: s) := by
  simp only [isMargin, isGap, Bool.or_eq_false_iff, beq_eq_false_iff_ne] at hc
  obtain ⟨⟨⟨⟨⟨hblank, htab⟩, hfeed⟩, hbackslash⟩, -⟩, -⟩ := hc
  rw [measure]
  all_goals simp_all

/-- a line that is not further in begins -/
theorem lexes_lineStart (hc : isMargin c = false) (open_ : List String) (s : List Char) :
    Lexes true open_ (c :: s) [] false open_ (c :: s) := by
  refine lexes_start (fun line => ⟨line, ?_⟩) (by rw [stepBound_start, stepBound_inside]; omega)
  have hfront : (c == '#' || c == '\n') = false := by
    simp only [isMargin, Bool.or_eq_false_iff] at hc ⊢
    exact ⟨hc.1.2, hc.2⟩
  rw [stepStart, measure_solid hc]
  simp only [hfront, Bool.false_eq_true, if_false, if_true, Nat.add_zero]
  cases open_ with
  | nil => rfl
  | cons o rest => rfl

/-- inside brackets a line may be further in -/
theorem lexes_innerLine (hc : isMargin c = false) (o : String) (open_ : List String) (s : List Char) :
    Lexes true (o :: open_) (' ' :: ' ' :: ' ' :: ' ' :: c :: s) [] false (o :: open_) (c :: s) := by
  have hbound : stepBound false (c :: s) < stepBound true (' ' :: ' ' :: ' ' :: ' ' :: c :: s) := by
    simp only [stepBound_start, stepBound_inside, List.length_cons]
    omega
  refine lexes_start (fun line => ⟨line, ?_⟩) hbound
  have hfront : (c == '#' || c == '\n') = false := by
    simp only [isMargin, Bool.or_eq_false_iff] at hc ⊢
    exact ⟨hc.1.2, hc.2⟩
  rw [stepStart, measure, measure, measure, measure, measure_solid hc]
  simp only [hfront, Bool.false_eq_true, if_false]
  rfl

/-- an empty line leaves no token -/
theorem lexes_emptyLine (open_ : List String) (s : List Char) : Lexes true open_ ('\n' :: s) [] true open_ s :=
  lexes_start (fun line => ⟨line + 0 + 1, rfl⟩) (by rw [stepBound_start, stepBound_start, List.length_cons]; omega)

/-- the end of a line is a token, unless a bracket is open -/
theorem lexes_lineEnd (open_ : List String) (s : List Char) :
    Lexes false open_ ('\n' :: s) (if open_.isEmpty then [.newline] else []) true open_ s :=
  lexes_inside (fun line => ⟨line + 1, fun _ => rfl⟩)
    (by rw [stepBound_start, stepBound_inside, List.length_cons]; omega)

/-! ## Tokens -/

/-- before a token there may be a gap -/
def Gap (gap : List Char) : Prop := ∀ c ∈ gap, isGap c = true

theorem gap_nil : Gap [] := nofun

theorem gap_blank : Gap [' '] := by
  intro c hc
  rw [List.mem_singleton.1 hc]
  rfl

theorem stepInside_token {gap : List Char} (hgap : Gap gap) (hc : isMargin c = false)
    (lexField : List Char → Option (List Lexeme)) (st : LexState) (s : List Char) :
    stepInside lexField st (gap ++ c :: s) = stepToken lexField st c s := by
  simp only [isMargin, Bool.or_eq_false_iff] at hc
  obtain ⟨⟨⟨hblank, hbackslash⟩, hcomment⟩, hline⟩ := hc
  have hdrop : (gap ++ c :: s).dropWhile isGap = c :: s := by
    rw [List.dropWhile_append_of_pos hgap, List.dropWhile_cons_of_neg (by simp [hblank])]
  rw [stepInside, hdrop]
  simp only [hcomment, hline, hbackslash, Bool.false_eq_true, if_false]

/-- one token, with a gap before it -/
theorem lexes_token {gap : List Char} {lexeme : Lexeme} (hgap : Gap gap) (hc : isMargin c = false)
    (hstep : ∀ line, ∃ line', ∀ lexField, stepToken lexField ⟨line, false, [.zero], open₁⟩ c s
      = .next [lexeme] ⟨line', false, [.zero], open₂⟩ rest)
    (hlength : rest.length ≤ s.length) : Lexes false open₁ (gap ++ c :: s) [lexeme] false open₂ rest := by
  have hbound : stepBound false rest < stepBound false (gap ++ c :: s) := by
    rw [stepBound_inside, stepBound_inside, List.length_append, List.length_cons]
    omega
  refine lexes_inside (fun line => ?_) hbound
  obtain ⟨line', hnext⟩ := hstep line
  exact ⟨line', fun lexField => by rw [stepInside_token hgap hc, hnext]⟩

/-- a string without letters before it -/
theorem lexes_text {gap body : List Char} {quote : Char} (hgap : Gap gap) (hquote : Quoted.IsQuote quote)
    (hscan : scanString (quote :: s) = some (body, rest)) (hlength : rest.length ≤ s.length) (open_ : List String) :
    Lexes false open_ (gap ++ quote :: s) [.text [] body] false open_ rest := by
  have hc : isMargin quote = false := by rcases hquote with rfl | rfl <;> rfl
  have hstart : stringStart? (quote :: s) = some ([], quote :: s) := by rcases hquote with rfl | rfl <;> rfl
  refine lexes_token hgap hc (fun line => ⟨line + lineEnds body, fun lexField => ?_⟩) hlength
  rw [stepToken, hstart]
  simp only [stepText, hscan]
  rfl

/-- characters up to three quotes -/
theorem scanLong_plain {q : Char} {run : List Char} (hq : q ≠ '\\')
    (h : run.all (fun c => c != '\\' && c != q) = true)
    (more : List Char) : scanLong q (run ++ q :: q :: q :: more) = some (run, more) := by
  induction run with
  | nil =>
    rw [List.nil_append, scanLong]
    · simp [List.isPrefixOf]
    · simp
    · simp [hq]
  | cons c run ih =>
    rw [List.all_cons, Bool.and_eq_true, Bool.and_eq_true, bne_iff_ne, bne_iff_ne] at h
    obtain ⟨⟨hbackslash, hquote⟩, hrun⟩ := h
    rw [List.cons_append, scanLong]
    · simp [List.isPrefixOf, Ne.symm hquote, ih hrun]
    · simp [hbackslash]
    · simp [hbackslash]

/-- a literal without quotes and backslashes, between three quotes -/
theorem lexes_longText {run : List Char} (h : run.all (fun c => c != '\\' && c != '"') = true) (open_ : List String)
    (rest : List Char) :
    Lexes false open_ ('"' :: '"' :: '"' :: (run ++ '"' :: '"' :: '"' :: rest)) [.text [] run] false open_ rest := by
  have hscan : scanString ('"' :: '"' :: '"' :: (run ++ '"' :: '"' :: '"' :: rest)) = some (run, rest) :=
    scanLong_plain (by decide) h rest
  exact lexes_text gap_nil (Or.inr rfl) hscan (by simp; omega) open_

/-- the literal of a text, if no further quote follows it -/
theorem lexes_literal {gap : List Char} (hgap : Gap gap) (s : List Char)
    (hrest : rest.head? ≠ some (Quoted.quoteFor s))
    (open_ : List String) :
    Lexes false open_ (gap ++ (Quoted.encode s ++ rest)) [.text [] (Quoted.body s)] false open_ rest := by
  have hscan := Quoted.scanString_encode s hrest
  rw [Quoted.encode_append] at hscan ⊢
  exact lexes_text hgap (Quoted.isQuote_quoteFor s) hscan (by simp; omega) open_

theorem lexes_equals {gap : List Char} (hgap : Gap gap) (open_ : List String) (s : List Char) :
    Lexes false open_ (gap ++ '=' :: ' ' :: s) [.op "="] false open_ (' ' :: s) :=
  lexes_token hgap rfl (fun line => ⟨line, fun _ => rfl⟩) (Nat.le_refl _)

theorem lexes_colon {gap : List Char} (hgap : Gap gap) (open_ : List String) (s : List Char) :
    Lexes false open_ (gap ++ ':' :: ' ' :: s) [.op ":"] false open_ (' ' :: s) :=
  lexes_token hgap rfl (fun line => ⟨line, fun _ => rfl⟩) (Nat.le_refl _)

theorem lexes_comma {gap : List Char} (hgap : Gap gap) (open_ : List String) (s : List Char) :
    Lexes false open_ (gap ++ ',' :: s) [.op ","] false open_ s :=
  lexes_token hgap rfl (fun line => ⟨line, fun _ => rfl⟩) (Nat.le_refl _)

theorem lexes_openBrace {gap : List Char} (hgap : Gap gap) (s : List Char) :
    Lexes false [] (gap ++ '\x7b' :: s) [.op "\x7b"] false ["\x7b"] s :=
  lexes_token hgap rfl (fun line => ⟨line, fun _ => rfl⟩) (Nat.le_refl _)

theorem lexes_closeBrace {gap : List Char} (hgap : Gap gap) (s : List Char) :
    Lexes false ["\x7b"] (gap ++ '\x7d' :: s) [.op "\x7d"] false [] s :=
  lexes_token hgap rfl (fun line => ⟨line, fun _ => rfl⟩) (Nat.le_refl _)

/-- is the text a name, and no letters of it mark a string? -/
def isNameToken : List Char → Bool
  | [] => false
  | c :: rest => !isMargin c && startsName c && (c :: rest).all extendsName && isIdentifier (c :: rest)
    && !stringMarks.contains (((c :: rest).takeWhile Char.isAlpha).map Char.toLower)

theorem takeWhile_stop {p : Char → Bool} {d : Char} (hd : p d = false) (w s : List Char) :
    (w ++ d :: s).takeWhile p = w.takeWhile p := by
  induction w with
  | nil => simp [hd]
  | cons c w ih => rw [List.cons_append, List.takeWhile_cons, List.takeWhile_cons, ih]

theorem lexes_name {gap w : List Char} {d : Char} (hgap : Gap gap) (hw : isNameToken w = true)
    (hd : extendsName d = false) (open_ : List String) (s : List Char) :
    Lexes false open_ (gap ++ (w ++ d :: s)) [.name (String.ofList w)] false open_ (d :: s) := by
  cases w with
  | nil => cases hw
  | cons c w =>
    simp only [isNameToken, Bool.and_eq_true, Bool.not_eq_true'] at hw
    obtain ⟨⟨⟨⟨hstart, hfirst⟩, hall⟩, hidentifier⟩, hmarks⟩ := hw
    have halpha : d.isAlpha = false := by
      simp only [extendsName, Char.isAlphanum, Bool.or_eq_false_iff] at hd
      exact hd.1.1.1
    have hnone : stringStart? (c :: (w ++ d :: s)) = none := by
      rw [stringStart?, ← List.cons_append, takeWhile_stop halpha, hmarks]
      rfl
    have hname : (c :: (w ++ d :: s)).takeWhile extendsName = c :: w := by
      rw [← List.cons_append, takeWhile_stop hd]
      exact List.takeWhile_eq_self_iff.2 (List.all_eq_true.1 hall)
    have hrest : (c :: (w ++ d :: s)).dropWhile extendsName = d :: s := by
      rw [← List.cons_append, List.dropWhile_append_of_pos (List.all_eq_true.1 hall),
        List.dropWhile_cons_of_neg (by simp [hd])]
    rw [List.cons_append]
    refine lexes_token hgap hstart (fun line => ⟨line, fun lexField => ?_⟩) (by simp)
    rw [stepToken, hnone]
    simp only [hfirst, hname, hrest, hidentifier, if_true]

/-- a line that begins with a name -/
theorem lexes_nameLine {w : List Char} {d : Char} (hw : isNameToken w = true) (hd : extendsName d = false)
    (open_ : List String) (s : List Char) :
    Lexes true open_ (w ++ d :: s) [.name (String.ofList w)] false open_ (d :: s) := by
  have hname := lexes_name gap_nil hw hd open_ s
  cases w with
  | nil => cases hw
  | cons c w =>
    simp only [isNameToken, Bool.and_eq_true, Bool.not_eq_true'] at hw
    exact (lexes_lineStart hw.1.1.1.1 open_ _).trans hname

/-! ## Whole texts -/

theorem unifyNewlines_eq_self (h : '\r' ∉ s) : unifyNewlines s = s := by
  induction s with
  | nil => rfl
  | cons c s ih =>
    obtain ⟨hc, hs⟩ := not_or.1 (fun hmem => h (List.mem_cons.2 hmem))
    rw [unifyNewlines, ih hs]
    · exact fun rest hreturn _ => hc hreturn.symm
    · exact fun hreturn => hc hreturn.symm

theorem endLine_eq_self (h : s.getLast? = some '\n') : endLine s = s := by
  rw [endLine, h]
  rfl

/-- **The tokens of a text**, from those of its parts. -/
theorem tokens?_of_lexes (hreturn : '\r' ∉ s) (hend : s.getLast? = some '\n')
    (h : Lexes true [] s lexemes true [] []) : ∃ ts, tokens? s = some ts ∧ ts.map Token.lexeme = lexemes := by
  obtain ⟨n, line, hn, hsteps⟩ := h 1
  have hfuel : 2 * s.length + 2 = (2 * s.length + 1 - n) + 1 + n := by
    simp only [stepBound, if_true, List.length_nil] at hn
    omega
  obtain ⟨ts, hts, hlex⟩ := hsteps (2 * s.length + 1 - n + 1)
  refine ⟨ts, ?_, hts⟩
  rw [tokens?, unifyNewlines_eq_self hreturn, endLine_eq_self hend, hfuel, LexState.start, hlex]
  exact congrArg some (List.append_nil ts)

end RouteDocs.Source
