/-
A tree is read back from its text, in every layout.

- `Json.isPlain`: the trees for which this holds: numbers are whole, and no object has two members of one name.
- `escape_cases`: what a character looks like in a string.
- `readChars_escaped`, `readNumber_decimalInt`: strings and numbers.
- `readsBack`: values, items and members, by induction on the fuel.
- `parse?_print`: a whole text.
-/
import Mathlib.Data.List.TakeDrop
import RouteDocs.Json.Printer
import RouteDocs.Json.Reader
import RouteDocs.Proofs.Numeral.Integer
import RouteDocs.Proofs.Text.Quoted

namespace RouteDocs.Json

open Text

/-! ## Strings -/

theorem unit?_hexDigits {n : Nat} (h : n < 0x10000) (rest : List Char) :
    unit? (hexDigits 4 n ++ rest) = some (n, rest) := by
  have hdigits : hexDigits 4 n = [hexDigit (n / 16 / 16 / 16), hexDigit (n / 16 / 16), hexDigit (n / 16), hexDigit n] :=
    rfl
  have hvalue : 4096 * (n / 16 / 16 / 16 % 16) + 256 * (n / 16 / 16 % 16) + 16 * (n / 16 % 16) + n % 16 = n := by omega
  simp only [hdigits, List.cons_append, List.nil_append, unit?, hexValue?_hexDigit]
  exact congrArg (fun v => some (v, rest)) hvalue

/-- the number of a character that is not beyond the first plane is one unit -/
theorem escapedChar?_unit {c : Char} (h : c.toNat < 0x10000) (rest : List Char) :
    escapedChar? (hexDigits 4 c.toNat ++ rest) = some (c, rest) := by
  have hvalid : c.toNat < 0xD800 ∨ 0xDFFF < c.toNat ∧ c.toNat < 0x110000 := c.valid
  have hunit : c.toNat < 0xD800 ∨ 0xE000 ≤ c.toNat := by omega
  rw [escapedChar?, unit?_hexDigits h]
  simp [hunit]

/-- two units that belong together -/
theorem escapedChar?_pair {n m : Nat} (hn : 0xD800 ≤ n) (hn' : n < 0xDC00) (hm : 0xDC00 ≤ m) (hm' : m < 0xE000)
    (rest : List Char) : escapedChar? (hexDigits 4 n ++ (escapeUnit m ++ rest))
      = some (Char.ofNat (0x10000 + 0x400 * (n - 0xD800) + (m - 0xDC00)), rest) := by
  have hfirst : ¬ (n < 0xD800 ∨ 0xE000 ≤ n) := by omega
  have hsecond : 0xDC00 ≤ m ∧ m < 0xE000 := ⟨hm, hm'⟩
  rw [escapedChar?, unit?_hexDigits (by omega)]
  simp only [Option.bind_eq_bind, Option.bind_some, if_neg hfirst, if_pos hn', escapeUnit, List.cons_append]
  rw [unit?_hexDigits (by omega)]
  simp only [Option.bind_some, if_pos hsecond]

/-- the number of a character beyond the first plane, from its two units -/
theorem ofNat_units {c : Char} (h : ¬ c.toNat < 0x10000) :
    Char.ofNat (0x10000 + 0x400 * (0xD800 + (c.toNat - 0x10000) / 0x400 - 0xD800)
      + (0xDC00 + (c.toNat - 0x10000) % 0x400 - 0xDC00)) = c := by
  have hnumber : 0x10000 + 0x400 * (0xD800 + (c.toNat - 0x10000) / 0x400 - 0xD800)
      + (0xDC00 + (c.toNat - 0x10000) % 0x400 - 0xDC00) = c.toNat := by omega
  rw [hnumber, Char.ofNat_toNat]

/-- what a character looks like in a string: a letter after a backslash, or itself, or its units -/
inductive Escape (c : Char) : Prop
  | letter (d : Char) (encoded : escapeChar c = ['\\', d]) (notUnit : d ≠ 'u') (means : simpleEscape? d = some c)
  | plain (encoded : escapeChar c = [c]) (notQuote : c ≠ '"') (notBackslash : c ≠ '\\')
    (notControl : ¬ c.toNat < 32)
  | units (code : List Char) (encoded : escapeChar c = '\\' :: 'u' :: code)
    (means : ∀ rest, escapedChar? (code ++ rest) = some (c, rest))

theorem escape_of_units {c : Char} (hunits : escapeChar c = if c.toNat < 0x10000 then escapeUnit c.toNat
      else escapeUnit (0xD800 + (c.toNat - 0x10000) / 0x400) ++ escapeUnit (0xDC00 + (c.toNat - 0x10000) % 0x400)) :
    Escape c := by
  by_cases hunit : c.toNat < 0x10000
  · rw [if_pos hunit] at hunits
    exact .units (hexDigits 4 c.toNat) hunits (escapedChar?_unit hunit)
  · have hvalid : c.toNat < 0xD800 ∨ 0xDFFF < c.toNat ∧ c.toNat < 0x110000 := c.valid
    rw [if_neg hunit] at hunits
    refine .units (hexDigits 4 (0xD800 + (c.toNat - 0x10000) / 0x400)
      ++ escapeUnit (0xDC00 + (c.toNat - 0x10000) % 0x400)) hunits fun rest => ?_
    rw [List.append_assoc, escapedChar?_pair (by omega) (by omega) (by omega) (by omega), ofNat_units hunit]

theorem escape_cases (c : Char) : Escape c := by
  by_cases hquote : c = '"'
  · exact .letter '"' (by rw [hquote]; rfl) (by decide) (by rw [hquote]; rfl)
  by_cases hbackslash : c = '\\'
  · exact .letter '\\' (by rw [hbackslash]; rfl) (by decide) (by rw [hbackslash]; rfl)
  by_cases hline : c = '\n'
  · exact .letter 'n' (by rw [hline]; rfl) (by decide) (by rw [hline]; rfl)
  by_cases hreturn : c = '\r'
  · exact .letter 'r' (by rw [hreturn]; rfl) (by decide) (by rw [hreturn]; rfl)
  by_cases htab : c = '\t'
  · exact .letter 't' (by rw [htab]; rfl) (by decide) (by rw [htab]; rfl)
  by_cases hfeed : c = '\x0c'
  · exact .letter 'f' (by rw [hfeed]; rfl) (by decide) (by rw [hfeed]; rfl)
  by_cases hback : c = '\x08'
  · exact .letter 'b' (by rw [hback]; rfl) (by decide) (by rw [hback]; rfl)
  by_cases hascii : 32 ≤ c.toNat ∧ c.toNat < 127
  · exact .plain (by simp [escapeChar, *]) hquote hbackslash (by omega)
  · exact escape_of_units (by simp [escapeChar, *])

/-- a character of a string is read from its escape -/
theorem readChars_escapeChar (c : Char) (fuel : Nat) (more : List Char) :
    readChars (fuel + 1) (escapeChar c ++ more) = (readChars fuel more).map fun r => (c :: r.1, r.2) := by
  cases escape_cases c with
  | letter d encoded notUnit means =>
    rw [encoded, List.cons_append, List.cons_append, List.nil_append, readChars]
    · rw [means]
      cases readChars fuel more <;> rfl
    · simpa using notUnit
  | plain encoded notQuote notBackslash notControl =>
    rw [encoded, List.cons_append, List.nil_append, readChars]
    · simp only [notControl, notBackslash, decide_false, Bool.false_or, beq_iff_eq, if_false]
      cases readChars fuel more <;> rfl
    · simpa using notQuote
    · simp [notBackslash]
    · simp [notBackslash]
  | units code encoded means =>
    rw [encoded, List.cons_append, List.cons_append, readChars, means]
    simp only [Option.bind_eq_bind, Option.bind_some]
    cases readChars fuel more <;> rfl

theorem escapeChar_ne_nil (c : Char) : escapeChar c ≠ [] := by
  cases escape_cases c with
  | letter d encoded notUnit means => rw [encoded]; exact nofun
  | plain encoded notQuote notBackslash notControl => rw [encoded]; exact nofun
  | units code encoded means => rw [encoded]; exact nofun

/-- **The characters of a string are read up to its closing quote.** -/
theorem readChars_escaped (s : List Char) {fuel : Nat} (h : (s.flatMap escapeChar).length < fuel) (rest : List Char) :
    readChars fuel (s.flatMap escapeChar ++ '"' :: rest) = some (s, rest) := by
  induction s generalizing fuel with
  | nil =>
    obtain ⟨fuel, rfl⟩ : ∃ f, fuel = f + 1 := ⟨fuel - 1, by simp at h; omega⟩
    rfl
  | cons c s ih =>
    have hsome : 0 < (escapeChar c).length := List.length_pos_iff.2 (escapeChar_ne_nil c)
    rw [List.flatMap_cons, List.length_append] at h
    obtain ⟨fuel, rfl⟩ : ∃ f, fuel = f + 1 := ⟨fuel - 1, by omega⟩
    rw [List.flatMap_cons, List.append_assoc, readChars_escapeChar, ih (by omega)]
    rfl

theorem readString_escaped (s : String) (rest : List Char) :
    readString (s.toList.flatMap escapeChar ++ '"' :: rest) = some (s, rest) := by
  have hlength : (s.toList.flatMap escapeChar ++ '"' :: rest).length + 1
      = (s.toList.flatMap escapeChar).length + rest.length + 2 := by rw [List.length_append, List.length_cons]; omega
  rw [readString, readChars_escaped s.toList (by omega)]
  exact congrArg (fun t => some (t, rest)) String.ofList_toList

/-! ## Numbers -/

/-- what follows a whole number does not go on with it -/
def EndsNumber (rest : List Char) : Prop :=
  ∀ c ∈ rest.head?, c.isDigit = false ∧ c ≠ '.' ∧ c ≠ 'e' ∧ c ≠ 'E'

theorem spanDigits_append {ds rest : List Char} (hds : ∀ c ∈ ds, c.isDigit = true) (hrest : EndsNumber rest) :
    spanDigits (ds ++ rest) = (ds, rest) := by
  have hend (c : Char) (hc : c ∈ rest.head?) : c.isDigit = false := (hrest c hc).1
  rw [spanDigits, List.span_eq_takeWhile_dropWhile, takeWhile_run hds hend, dropWhile_run hds hend]

theorem digitsValue_decimal (n : Nat) : digitsValue (Numeral.decimal n) = n := by
  rw [digitsValue, Numeral.ofDigits, List.foldl_map]
  have hvalue := Nat.ofDigitChars_ten_toDigits (n := n)
  rwa [Nat.ofDigitChars_eq_foldl] at hvalue

theorem readFraction_none {rest : List Char} (h : EndsNumber rest) : readFraction rest = ([], rest) := by
  cases rest with
  | nil => rfl
  | cons c rest =>
    obtain ⟨-, hpoint, -, -⟩ := h c rfl
    rw [readFraction]
    simp [hpoint]

theorem readExponent_none {rest : List Char} (h : EndsNumber rest) : readExponent rest = (none, rest) := by
  cases rest with
  | nil => rfl
  | cons c rest =>
    obtain ⟨-, -, hsmall, hcapital⟩ := h c rfl
    simp [readExponent, hsmall, hcapital]

/-- digits that nothing goes on with are a whole number -/
theorem readUnsigned_digits {ds rest : List Char} (negative : Bool) (hne : ds ≠ [])
    (hds : ∀ c ∈ ds, c.isDigit = true)
    (hrest : EndsNumber rest) :
    readUnsigned negative (ds ++ rest)
      = some (.int (if negative then -(digitsValue ds : Int) else digitsValue ds), rest) := by
  simp [readUnsigned, spanDigits_append hds hrest, hne, readFraction_none hrest, readExponent_none hrest]

theorem decimal_ne_nil (n : Nat) : Numeral.decimal n ≠ [] := Nat.toDigits_ne_nil

theorem isDigit_of_mem_decimal {n : Nat} {c : Char} (h : c ∈ Numeral.decimal n) : c.isDigit = true :=
  Nat.isDigit_of_mem_toDigits (by omega) (Nat.le_refl _) h

theorem readUnsigned_decimal (negative : Bool) (n : Nat) {rest : List Char} (hrest : EndsNumber rest) :
    readUnsigned negative (Numeral.decimal n ++ rest) = some (.int (if negative then -(n : Int) else n), rest) := by
  rw [readUnsigned_digits negative (decimal_ne_nil n) (fun c => isDigit_of_mem_decimal) hrest, digitsValue_decimal]

/-- a whole number begins with a digit or a minus -/
theorem decimalInt_head (n : Int) : ∃ c ds, Numeral.decimalInt n = c :: ds ∧ (c = '-' ∨ c.isDigit = true) := by
  cases n with
  | ofNat n =>
    obtain ⟨c, ds, hdigits⟩ := List.exists_cons_of_ne_nil (decimal_ne_nil n)
    have hmem : c ∈ Numeral.decimal n := by
      rw [hdigits]
      exact List.mem_cons_self
    exact ⟨c, ds, hdigits, Or.inr (isDigit_of_mem_decimal hmem)⟩
  | negSucc n => exact ⟨'-', _, rfl, Or.inl rfl⟩

/-- **The digits of a whole number are read as the number.** -/
theorem readNumber_decimalInt (n : Int) {rest : List Char} (hrest : EndsNumber rest) :
    readNumber (Numeral.decimalInt n ++ rest) = some (.int n, rest) := by
  obtain ⟨c, ds, hdigits, hc⟩ := decimalInt_head n
  cases n with
  | ofNat n =>
    have hminus : c ≠ '-' := by
      rintro rfl
      have hmem : '-' ∈ Numeral.decimal n := by
        rw [show Numeral.decimal n = '-' :: ds from hdigits]
        exact List.mem_cons_self
      exact absurd (isDigit_of_mem_decimal hmem) (by decide)
    rw [hdigits, List.cons_append, readNumber]
    · rw [← List.cons_append, ← hdigits]
      exact readUnsigned_decimal false n hrest
    · simpa using hminus
  | negSucc n => exact readUnsigned_decimal true (n + 1) hrest

/-! ## Trees -/

mutual

/-- is every number in the tree whole, and has no object two members of one name? -/
def isPlain : Json → Bool
  | .real _ => false
  | .arr items => arePlain items
  | .obj members => decide (members.map Prod.fst).Nodup && areMembersPlain members
  | _ => true

def arePlain : List Json → Bool
  | [] => true
  | v :: rest => v.isPlain && arePlain rest

def areMembersPlain : List (String × Json) → Bool
  | [] => true
  | (_, v) :: rest => v.isPlain && areMembersPlain rest

end

variable (layout : Layout)

theorem skipGap_newline (depth : Nat) (s : List Char) : skipGap (layout.newline depth ++ s) = skipGap s := by
  cases layout with
  | indented =>
    have hgap : ∀ c ∈ '\n' :: List.replicate (4 * depth) ' ', isGap c = true := by
      intro c hc
      rcases List.mem_cons.1 hc with rfl | hc
      · decide
      · rw [List.eq_of_mem_replicate hc]
        decide
    exact List.dropWhile_append_of_pos hgap
  | compact => rfl

/-- the text of a value begins with a character that ends no gap, no list and no object -/
def Begins (s : List Char) : Prop := ∃ c t, s = c :: t ∧ isGap c = false ∧ c ≠ ']' ∧ c ≠ '\x7d'

theorem begins_print {v : Json} (h : v.isPlain = true) (depth : Nat) : Begins (print layout depth v) := by
  cases v with
  | null => exact ⟨_, _, rfl, by decide⟩
  | bool b => cases b <;> exact ⟨_, _, rfl, by decide⟩
  | int n =>
    obtain ⟨c, ds, hdigits, hc⟩ := decimalInt_head n
    refine ⟨c, ds, hdigits, ?_⟩
    rcases hc with rfl | hc
    · decide
    · have hne {d : Char} (hd : d.isDigit = false) : c ≠ d := by
        rintro rfl
        rw [hd] at hc
        cases hc
      have hgap : isGap c = false := by
        simp [isGap, hne (d := ' ') (by decide), hne (d := '\n') (by decide), hne (d := '\r') (by decide),
          hne (d := '\t') (by decide)]
      exact ⟨hgap, hne (by decide), hne (by decide)⟩
  | real x => cases h
  | str s => exact ⟨_, _, rfl, by decide⟩
  | arr items => cases items <;> exact ⟨_, _, rfl, by decide⟩
  | obj members => rcases members with _ | ⟨⟨k, v⟩, rest⟩ <;> exact ⟨_, _, rfl, by decide⟩

theorem Begins.skipGap {s : List Char} (h : Begins s) (rest : List Char) : skipGap (s ++ rest) = s ++ rest := by
  obtain ⟨c, t, rfl, hgap, -⟩ := h
  rw [List.cons_append, Json.skipGap, List.dropWhile_cons_of_neg (by simp [hgap])]

theorem Begins.not_closed {s rest more : List Char} (h : Begins s) {c : Char} (hc : c = ']' ∨ c = '\x7d') :
    s ++ rest ≠ c :: more := by
  obtain ⟨d, t, rfl, -, hlist, hobject⟩ := h
  intro heq
  obtain rfl := (List.cons.inj heq).1
  exact hc.elim hlist hobject

theorem Begins.length_pos {s : List Char} (h : Begins s) : 0 < s.length := by
  obtain ⟨c, t, rfl, -⟩ := h
  exact Nat.succ_pos _

/-- what comes after an item or a member ends a number -/
theorem endsNumber_tail {depth : Nat} {c : Char} (hc : c = ',' ∨ c = ']' ∨ c = '\x7d') (rest : List Char) :
    EndsNumber (layout.newline depth ++ c :: rest) := by
  cases layout with
  | indented =>
    intro d hd
    obtain rfl : '\n' = d := Option.some.inj hd
    decide
  | compact =>
    intro d hd
    obtain rfl : c = d := Option.some.inj hd
    rcases hc with rfl | rfl | rfl <;> decide

theorem endsNumber_comma (rest : List Char) : EndsNumber (',' :: rest) :=
  show EndsNumber (Layout.newline .compact 0 ++ ',' :: rest) from endsNumber_tail _ (Or.inl rfl) rest

theorem readValue_number {c : Char} (hc : c = '-' ∨ c.isDigit = true) (fuel : Nat) (s : List Char) :
    readValue (fuel + 1) (c :: s) = readNumber (c :: s) := by
  have hne {d : Char} (hd : d ≠ '-') (hd' : d.isDigit = false) : c ≠ d := by
    rintro rfl
    rcases hc with h | h
    · exact hd h
    · rw [hd'] at h
      cases h
  rw [readValue]
  all_goals
    intro rest h
    exact hne (by decide) (by decide) (List.cons.inj h).1

variable {fuel : Nat} {rest : List Char}

theorem setMember_new {name : String} {done : List (String × Json)} (v : Json) (h : name ∉ done.map Prod.fst) :
    setMember name v done = done ++ [(name, v)] := by
  induction done with
  | nil => rfl
  | cons m done ih =>
    rw [List.map_cons, List.mem_cons, not_or] at h
    rw [setMember, if_neg (Ne.symm h.1), ih h.2, List.cons_append]

/-- between the name and the value of a member stands a colon, and perhaps a blank -/
theorem skipGap_colon (s : List Char) :
    ∃ t, skipGap (layout.colon ++ s) = ':' :: t ∧ skipGap t = skipGap s := by
  cases layout with
  | indented => exact ⟨' ' :: s, rfl, rfl⟩
  | compact => exact ⟨s, rfl, rfl⟩

theorem printString_append (s : String) (rest : List Char) :
    printString s ++ rest = '"' :: (s.toList.flatMap escapeChar ++ '"' :: rest) := by
  simp only [printString, List.cons_append, List.append_assoc, List.nil_append]

theorem readValue_str (s : String) : readValue (fuel + 1) (printString s ++ rest) = some (.str s, rest) := by
  rw [printString_append, readValue, readString_escaped]
  rfl

/-- so much fuel is enough for every text that is not longer -/
structure ReadsBack (fuel : Nat) : Prop where
  value : ∀ (v : Json) (depth : Nat) (rest : List Char), v.isPlain = true → EndsNumber rest →
    (print layout depth v).length ≤ fuel → readValue fuel (print layout depth v ++ rest) = some (v, rest)
  items : ∀ (v : Json) (more : List Json) (depth outer : Nat) (rest : List Char), v.isPlain = true →
    arePlain more = true → (print layout depth v).length + (printItems layout depth more).length < fuel →
    readItems fuel (print layout depth v ++ (printItems layout depth more ++ (layout.newline outer ++ ']' :: rest)))
      = some (v :: more, rest)
  members : ∀ (k : String) (v : Json) (more done : List (String × Json)) (depth outer : Nat) (rest : List Char),
    v.isPlain = true → areMembersPlain more = true → ((done ++ (k, v) :: more).map Prod.fst).Nodup →
    (printString k).length + (print layout depth v).length + (printMembers layout depth more).length < fuel →
    readMembers fuel (printString k ++ (layout.colon ++ (print layout depth v ++
      (printMembers layout depth more ++ (layout.newline outer ++ '\x7d' :: rest))))) done
      = some (done ++ (k, v) :: more, rest)

variable {layout}

theorem readValue_step {fuel : Nat} (ih : ReadsBack layout fuel) (v : Json) (depth : Nat) (rest : List Char)
    (h : v.isPlain = true) (hrest : EndsNumber rest) (hfuel : (print layout depth v).length ≤ fuel + 1) :
    readValue (fuel + 1) (print layout depth v ++ rest) = some (v, rest) := by
  match v with
  | .null => rfl
  | .bool true => rfl
  | .bool false => rfl
  | .int n =>
    obtain ⟨c, ds, hdigits, hc⟩ := decimalInt_head n
    rw [print, hdigits, List.cons_append, readValue_number hc, ← List.cons_append, ← hdigits]
    exact readNumber_decimalInt n hrest
  | .str s => exact readValue_str s
  | .arr [] => rfl
  | .arr (v :: more) =>
    rw [isPlain, arePlain, Bool.and_eq_true] at h
    have hbegins := begins_print layout h.1 (depth + 1)
    have hitems := ih.items v more (depth + 1) depth rest h.1 h.2 (by simp [print] at hfuel; omega)
    simp only [print, List.cons_append, List.append_assoc, List.nil_append]
    rw [readValue, skipGap_newline, hbegins.skipGap]
    split
    · next hclosed => exact absurd hclosed (hbegins.not_closed (Or.inl rfl))
    · rw [hitems]
      rfl
  | .obj [] => rfl
  | .obj ((k, v) :: more) =>
    rw [isPlain, areMembersPlain, Bool.and_eq_true, Bool.and_eq_true, decide_eq_true_eq] at h
    have hmembers := ih.members k v more [] (depth + 1) depth rest h.2.1 h.2.2 h.1
      (by simp [print, printString] at hfuel ⊢; omega)
    have hquote (s : List Char) : skipGap (printString k ++ s) = printString k ++ s := rfl
    simp only [print, List.cons_append, List.append_assoc, List.nil_append]
    rw [readValue, skipGap_newline, hquote]
    split
    · next hclosed => cases hclosed
    · rw [hmembers]
      rfl

theorem readItems_step {fuel : Nat} (ih : ReadsBack layout fuel) (v : Json) (more : List Json) (depth outer : Nat)
    (rest : List Char) (h : v.isPlain = true) (hmore : arePlain more = true)
    (hfuel : (print layout depth v).length + (printItems layout depth more).length < fuel + 1) :
    readItems (fuel + 1)
      (print layout depth v ++ (printItems layout depth more ++ (layout.newline outer ++ ']' :: rest)))
      = some (v :: more, rest) := by
  cases more with
  | nil =>
    rw [printItems, List.nil_append, readItems,
      ih.value v depth _ h (endsNumber_tail layout (by simp) rest) (by omega)]
    simp only [Option.bind_eq_bind, Option.bind_some, skipGap_newline]
    rfl
  | cons w more =>
    rw [arePlain, Bool.and_eq_true] at hmore
    have hpos := (begins_print layout h depth).length_pos
    have hrest := ih.items w more depth outer rest hmore.1 hmore.2 (by simp [printItems] at hfuel; omega)
    have hcomma (s : List Char) : skipGap (',' :: s) = ',' :: s := rfl
    simp only [printItems, List.cons_append, List.append_assoc]
    rw [readItems, ih.value v depth _ h (endsNumber_comma _) (by omega)]
    simp only [Option.bind_eq_bind, Option.bind_some, hcomma, skipGap_newline,
      (begins_print layout hmore.1 depth).skipGap, hrest]
    rfl

theorem readMembers_step {fuel : Nat} (ih : ReadsBack layout fuel) (k : String) (v : Json)
    (more done : List (String × Json)) (depth outer : Nat) (rest : List Char) (h : v.isPlain = true)
    (hmore : areMembersPlain more = true) (hdistinct : ((done ++ (k, v) :: more).map Prod.fst).Nodup)
    (hfuel : (printString k).length + (print layout depth v).length + (printMembers layout depth more).length
      < fuel + 1) :
    readMembers (fuel + 1) (printString k ++ (layout.colon ++ (print layout depth v ++
      (printMembers layout depth more ++ (layout.newline outer ++ '\x7d' :: rest))))) done
      = some (done ++ (k, v) :: more, rest) := by
  have hnew : k ∉ done.map Prod.fst := by
    rw [List.map_append, List.map_cons] at hdistinct
    exact fun hk => (List.nodup_append.1 hdistinct).2.2 k hk k List.mem_cons_self rfl
  have hdone : done ++ (k, v) :: more = (done ++ [(k, v)]) ++ more := by rw [List.append_assoc, List.singleton_append]
  obtain ⟨t, hcolon, ht⟩ := skipGap_colon layout (print layout depth v ++
    (printMembers layout depth more ++ (layout.newline outer ++ '\x7d' :: rest)))
  have hstring : 0 < (printString k).length := Nat.succ_pos _
  rw [printString_append, readMembers, readString_escaped]
  simp only [Option.bind_eq_bind, Option.bind_some, hcolon, ht, (begins_print layout h depth).skipGap]
  cases more with
  | nil =>
    rw [printMembers, List.nil_append, ih.value v depth _ h (endsNumber_tail layout (by simp) rest) (by omega)]
    simp only [Option.bind_some, setMember_new v hnew, skipGap_newline]
    rfl
  | cons m more =>
    obtain ⟨l, w⟩ := m
    rw [areMembersPlain, Bool.and_eq_true] at hmore
    rw [hdone] at hdistinct
    have hrest := ih.members l w more (done ++ [(k, v)]) depth outer rest hmore.1 hmore.2 hdistinct
      (by simp [printMembers] at hfuel; omega)
    have hcomma (s : List Char) : skipGap (',' :: s) = ',' :: s := rfl
    have hquote (s : List Char) : skipGap (printString l ++ s) = printString l ++ s := rfl
    simp only [printMembers, List.cons_append, List.append_assoc]
    rw [ih.value v depth _ h (endsNumber_comma _) (by omega)]
    simp only [Option.bind_some, setMember_new v hnew, hcomma, skipGap_newline, hquote]
    rw [hdone]
    exact hrest

theorem readsBack (layout : Layout) (fuel : Nat) : ReadsBack layout fuel := by
  induction fuel with
  | zero =>
    refine ⟨fun v depth rest h _ hfuel => ?_, fun v more depth outer rest _ _ hfuel => ?_,
      fun k v more done depth outer rest _ _ _ hfuel => ?_⟩
    · exact absurd (begins_print layout h depth).length_pos (by omega)
    · exact absurd hfuel (Nat.not_lt_zero _)
    · exact absurd hfuel (Nat.not_lt_zero _)
  | succ fuel ih => exact ⟨readValue_step ih, readItems_step ih, readMembers_step ih⟩

/-- **A tree is read back from its text.** -/
theorem parse?_print {v : Json} (h : v.isPlain = true) (layout : Layout) :
    parse? (String.ofList (v.print layout 0)) = some v := by
  have hbegins := begins_print layout h 0
  have hgap : skipGap (v.print layout 0) = v.print layout 0 := by
    have hskip := hbegins.skipGap []
    rwa [List.append_nil] at hskip
  have hread := (readsBack layout ((v.print layout 0).length + 1)).value v 0 [] h nofun (by omega)
  rw [List.append_nil] at hread
  rw [parse?, String.toList_ofList, hgap, hread]
  rfl

end RouteDocs.Json
