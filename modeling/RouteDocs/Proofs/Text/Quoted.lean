/-
Quoted literals are read back as what they quote.

- `hex?_hexDigits`: hexadecimal digits are read as the number that they stand for.
- `encodeChar_shape`: what a character looks like in a literal; no line end and no bare quote comes of it.
- `scanString_encode`, `unescape_body`: the body of a literal ends at its quote, and its escapes give the text.
-/
import RouteDocs.Source.Lexer

namespace RouteDocs

open Text Source

/-! ## Hexadecimal digits -/

namespace Text

theorem hexValue?_hexDigit (n : Nat) : hexValue? (hexDigit n) = some (n % 16) := by
  have hall : ∀ d, d < 16 → hexValue? (Nat.digitChar d) = some d := by decide
  exact hall (n % 16) (Nat.mod_lt n (by omega))

/-- hexadecimal digits have a glyph, and none of them is a quote or a backslash -/
theorem hexDigit_plain (n : Nat) : isPrintable (hexDigit n) = true ∧ hexDigit n ≠ '\\' ∧ hexDigit n ≠ '\'' ∧
    hexDigit n ≠ '"' := by
  have hall : ∀ d, d < 16 → isPrintable (Nat.digitChar d) = true ∧ Nat.digitChar d ≠ '\\' ∧
    Nat.digitChar d ≠ '\'' ∧
      Nat.digitChar d ≠ '"' := by decide
  exact hall (n % 16) (Nat.mod_lt n (by omega))

theorem mem_hexDigits {width n : Nat} {c : Char} (h : c ∈ hexDigits width n) : ∃ m, c = hexDigit m := by
  induction width generalizing n with
  | zero => cases h
  | succ width ih =>
    rcases List.mem_append.1 h with h | h
    · exact ih h
    · exact ⟨n, List.mem_singleton.1 h⟩

end Text

namespace Source.Literal

/-- digits are read from the front, so further digits may follow -/
theorem hex?_hexDigits_add (width more value n : Nat) (rest : List Char) :
    hex? (width + more) value (hexDigits width n ++ rest)
      = hex? more (Nat.pow 16 width * value + n % Nat.pow 16 width) rest := by
  induction width generalizing more n rest with
  | zero => simp [hexDigits, Nat.mod_one]
  | succ width ih =>
    rw [hexDigits, List.append_assoc, List.singleton_append, Nat.add_right_comm, Nat.add_assoc, ih, hex?,
      hexValue?_hexDigit]
    have hpow : Nat.pow 16 (width + 1) = 16 * Nat.pow 16 width := Nat.mul_comm _ _
    have hvalue : 16 * (Nat.pow 16 width * value + n / 16 % Nat.pow 16 width) + n % 16
        = Nat.pow 16 (width + 1) * value + n % Nat.pow 16 (width + 1) := by
      rw [hpow, Nat.mod_mul, Nat.mul_add, ← Nat.mul_assoc]
      omega
    exact congrArg (fun v => hex? more v rest) hvalue

/-- **Hexadecimal digits are read as the number that they stand for.** -/
theorem hex?_hexDigits {width n : Nat} (h : n < Nat.pow 16 width) (rest : List Char) :
    hex? width 0 (hexDigits width n ++ rest) = some (n, rest) := by
  have hread := hex?_hexDigits_add width 0 0 n rest
  rw [Nat.add_zero, Nat.mul_zero, Nat.zero_add, Nat.mod_eq_of_lt h, hex?] at hread
  exact hread

theorem codePoint?_toNat (c : Char) : codePoint? c.toNat = some c := by
  have hvalid : c.toNat.isValidChar := c.valid
  rw [codePoint?, dif_pos hvalid]
  rfl

end Source.Literal

/-! ## Characters in a literal -/

namespace Text.Quoted

variable {q c : Char} {s rest : List Char}

def IsQuote (q : Char) : Prop := q = '\'' ∨ q = '"'

theorem isQuote_quoteFor (s : List Char) : IsQuote (quoteFor s) := by
  unfold quoteFor
  split
  · exact Or.inr rfl
  · exact Or.inl rfl

/-- the marks of escapes that give the number of a character, with their numbers of digits -/
def marks : List (Char × Nat) := [('x', 2), ('u', 4), ('U', 8)]

/-- what a character looks like in a literal: it stands for itself, or there is a letter for it, or its number is
given -/
inductive Shape (q c : Char) : Prop
  | plain (encoded : encodeChar q c = [c]) (notBackslash : c ≠ '\\') (notQuote : c ≠ q)
    (printable : isPrintable c = true)
  | letter (d : Char) (encoded : encodeChar q c = ['\\', d]) (printable : isPrintable d = true)
    (means : Literal.simpleEscape? d = some c)
  | code (mark : Char) (width : Nat) (encoded : encodeChar q c = '\\' :: mark :: hexDigits width c.toNat)
    (known : (mark, width) ∈ marks) (fits : c.toNat < Nat.pow 16 width)

theorem isPrintable_quote (h : IsQuote q) : isPrintable q = true := by
  rcases h with rfl | rfl <;> decide

theorem encodeChar_shape (h : IsQuote q) (c : Char) : Shape q c := by
  by_cases hself : c = '\\' ∨ c = q
  · have hencoded : encodeChar q c = ['\\', c] := by simp [encodeChar, hself]
    rcases hself with rfl | rfl
    · exact .letter _ hencoded (by decide) (by decide)
    · exact .letter _ hencoded (isPrintable_quote h) (by rcases h with rfl | rfl <;> decide)
  · obtain ⟨hbackslash, hquote⟩ := not_or.1 hself
    have hself' : (c == '\\' || c == q) = false := by simp [hbackslash, hquote]
    by_cases hline : c = '\n'
    · exact .letter 'n' (by rw [encodeChar, hself']; simp [hline, named]) (by decide) (by rw [hline]; decide)
    by_cases hreturn : c = '\r'
    · exact .letter 'r' (by rw [encodeChar, hself']; simp [hreturn, named]) (by decide) (by rw [hreturn]; decide)
    by_cases htab : c = '\t'
    · exact .letter 't' (by rw [encodeChar, hself']; simp [htab, named]) (by decide) (by rw [htab]; decide)
    have hnamed : named c = none := by simp [named, hline, hreturn, htab]
    by_cases hprintable : isPrintable c = true
    · exact .plain (by simp [encodeChar, hself', hnamed, hprintable]) hbackslash hquote hprintable
    by_cases hbyte : c.toNat < 0x100
    · exact .code 'x' 2 (by simp [encodeChar, hself', hnamed, hprintable, hbyte]) (by decide) hbyte
    by_cases hshort : c.toNat < 0x10000
    · exact .code 'u' 4 (by simp [encodeChar, hself', hnamed, hprintable, hbyte, hshort]) (by decide) hshort
    have hcode : c.toNat < 0xD800 ∨ 0xDFFF < c.toNat ∧ c.toNat < 0x110000 := c.valid
    have hlong : c.toNat < 0x100000000 := by omega
    exact .code 'U' 8 (by simp [encodeChar, hself', hnamed, hprintable, hbyte, hshort]) (by decide) hlong

theorem isPrintable_mark {mark : Char} {width : Nat} (h : (mark, width) ∈ marks) : isPrintable mark = true := by
  have hall : ∀ m ∈ marks, isPrintable m.1 = true := by decide
  exact hall _ h

/-- everything in a literal has a glyph -/
theorem isPrintable_encodeChar (h : IsQuote q) {x : Char} (hx : x ∈ encodeChar q c) : isPrintable x = true := by
  cases encodeChar_shape h c with
  | plain encoded notBackslash notQuote printable =>
    rw [encoded, List.mem_singleton] at hx
    rwa [hx]
  | letter d encoded printable means =>
    rw [encoded, List.mem_cons, List.mem_singleton] at hx
    rcases hx with rfl | rfl
    · decide
    · exact printable
  | code mark width encoded known fits =>
    rw [encoded, List.mem_cons, List.mem_cons] at hx
    rcases hx with rfl | rfl | hx
    · decide
    · exact isPrintable_mark known
    · obtain ⟨n, rfl⟩ := mem_hexDigits hx
      exact (hexDigit_plain n).1

theorem isPrintable_encode {x : Char} (hx : x ∈ encode s) : isPrintable x = true := by
  have hquote := isQuote_quoteFor s
  simp only [encode, List.cons_append, List.mem_cons, List.mem_append, List.mem_flatMap, List.not_mem_nil,
    or_false] at hx
  rcases hx with rfl | ⟨c, -, hx⟩ | rfl
  · exact isPrintable_quote hquote
  · exact isPrintable_encodeChar hquote hx
  · exact isPrintable_quote hquote

/-! ## The end of a literal -/

/-- characters that end nothing are taken into the body -/
theorem scanShort_plain {run : List Char} (h : ∀ x ∈ run, x ≠ '\\' ∧ x ≠ q ∧ x ≠ '\n')
    (more : List Char) :
    scanShort q (run ++ more) = (scanShort q more).map fun r => (run ++ r.1, r.2) := by
  induction run with
  | nil => simp
  | cons x run ih =>
    obtain ⟨⟨hbackslash, hquote, hline⟩, hrun⟩ := List.forall_mem_cons.1 h
    rw [List.cons_append, scanShort]
    · simp [hquote, hline, ih hrun, Function.comp_def]
    · simp [hbackslash]
    · simp [hbackslash]

theorem not_line_of_printable {x : Char} (h : isPrintable x = true) : x ≠ '\n' := by
  rintro rfl
  exact absurd h (by decide)

theorem scanShort_encodeChar (h : IsQuote q) (c : Char) (more : List Char) :
    scanShort q (encodeChar q c ++ more) = (scanShort q more).map fun r => (encodeChar q c ++ r.1, r.2) := by
  cases encodeChar_shape h c with
  | plain encoded notBackslash notQuote printable =>
    rw [encoded]
    refine scanShort_plain (fun x hx => ?_) more
    rw [List.mem_singleton.1 hx]
    exact ⟨notBackslash, notQuote, not_line_of_printable printable⟩
  | letter d encoded printable means =>
    rw [encoded, List.cons_append, List.cons_append, List.nil_append, scanShort]
    simp
  | code mark width encoded known fits =>
    have hdigits (x : Char) (hx : x ∈ hexDigits width c.toNat) : x ≠ '\\' ∧ x ≠ q ∧ x ≠ '\n' := by
      obtain ⟨n, rfl⟩ := mem_hexDigits hx
      obtain ⟨hprintable, hbackslash, hsingle, hdouble⟩ := hexDigit_plain n
      refine ⟨hbackslash, ?_, not_line_of_printable hprintable⟩
      rcases h with rfl | rfl
      · exact hsingle
      · exact hdouble
    rw [encoded, List.cons_append, List.cons_append, scanShort, scanShort_plain hdigits]
    simp [Function.comp_def]

def body (s : List Char) : List Char := s.flatMap (encodeChar (quoteFor s))

theorem encode_append (s rest : List Char) : encode s ++ rest = quoteFor s :: (body s ++ quoteFor s :: rest) := by
  simp [encode, body]

theorem scanShort_encoded (h : IsQuote q) (s rest : List Char) :
    scanShort q (s.flatMap (encodeChar q) ++ q :: rest) = some (s.flatMap (encodeChar q), rest) := by
  induction s with
  | nil =>
    rw [List.flatMap_nil, List.nil_append, scanShort]
    · simp
    · rcases h with rfl | rfl <;> simp
    · rcases h with rfl | rfl <;> simp
  | cons c s ih =>
    rw [List.flatMap_cons, List.append_assoc, scanShort_encodeChar h, ih]
    rfl

/-- no character looks like the quote at first -/
theorem encodeChar_head (h : IsQuote q) (c : Char) : ∃ d ds, encodeChar q c = d :: ds ∧ d ≠ q := by
  have hbackslash : '\\' ≠ q := by rcases h with rfl | rfl <;> decide
  cases encodeChar_shape h c with
  | plain encoded notBackslash notQuote printable => exact ⟨c, [], encoded, notQuote⟩
  | letter d encoded printable means => exact ⟨_, _, encoded, hbackslash⟩
  | code mark width encoded known fits => exact ⟨_, _, encoded, hbackslash⟩

/-- **The body of a literal ends at its quote**, if no further quote follows that. -/
theorem scanString_encode (s : List Char) (hrest : rest.head? ≠ some (quoteFor s)) :
    scanString (encode s ++ rest) = some (body s, rest) := by
  have hquote := isQuote_quoteFor s
  have hshort : [quoteFor s, quoteFor s].isPrefixOf (body s ++ quoteFor s :: rest) = false := by
    rw [body]
    generalize quoteFor s = q at *
    cases s with
    | nil =>
      cases rest with
      | nil => simp [List.isPrefixOf]
      | cons d rest =>
        have hd : q ≠ d := fun heq => hrest (congrArg some heq.symm)
        simp [List.isPrefixOf, hd]
    | cons c s =>
      obtain ⟨d, ds, hencoded, hd⟩ := encodeChar_head hquote c
      simp [List.isPrefixOf, hencoded, Ne.symm hd]
  rw [encode_append, scanString, hshort]
  exact scanShort_encoded hquote s rest

/-! ## The value of a literal -/

theorem unescapeWith_encodeChar (h : IsQuote q) (c : Char) (fuel : Nat) (more : List Char) :
    Literal.unescapeWith (fuel + 1) (encodeChar q c ++ more) = (Literal.unescapeWith fuel more).map (c :: ·) := by
  cases encodeChar_shape h c with
  | plain encoded notBackslash notQuote printable =>
    rw [encoded, List.singleton_append, Literal.unescapeWith]
    simp [notBackslash]
  | letter d encoded printable means =>
    rw [encoded, List.cons_append, List.cons_append, List.nil_append, Literal.unescapeWith, means]
  | code mark width encoded known fits =>
    rw [encoded, List.cons_append, List.cons_append, Literal.unescapeWith]
    have hread := Literal.hex?_hexDigits fits more
    simp only [marks, List.mem_cons, Prod.mk.injEq, List.not_mem_nil, or_false] at known
    have hmap (o : Option (List Char)) : (o.bind fun s => some (c :: s)) = o.map (c :: ·) := by cases o <;> rfl
    rcases known with ⟨rfl, rfl⟩ | ⟨rfl, rfl⟩ | ⟨rfl, rfl⟩
    · simp [Literal.simpleEscape?, hread, Literal.codePoint?_toNat, hmap]
    · simp [Literal.simpleEscape?, hread, Literal.codePoint?_toNat, hmap]
    · simp [Literal.simpleEscape?, hread, Literal.codePoint?_toNat, hmap]

/-- **The escapes in a literal give the text that it quotes.** -/
theorem unescape_body (s : List Char) : Literal.unescape (body s) = some s := by
  have h := isQuote_quoteFor s
  generalize hq : quoteFor s = q at h
  have hfuel : ∀ (s : List Char) (fuel : Nat), (s.flatMap (encodeChar q)).length ≤ fuel →
      Literal.unescapeWith fuel (s.flatMap (encodeChar q)) = some s := by
    intro s
    induction s with
    | nil => intro fuel _; cases fuel <;> rfl
    | cons c s ih =>
      intro fuel hfuel
      rw [List.flatMap_cons, List.length_append] at hfuel
      have hsome : 0 < (encodeChar q c).length := by
        cases encodeChar_shape h c <;> simp [*]
      obtain ⟨fuel, rfl⟩ : ∃ f, fuel = f + 1 := ⟨fuel - 1, by omega⟩
      rw [List.flatMap_cons, unescapeWith_encodeChar h, ih fuel (by omega)]
      rfl
  rw [body, hq]
  exact hfuel s _ (Nat.le_refl _)

end Text.Quoted

end RouteDocs
