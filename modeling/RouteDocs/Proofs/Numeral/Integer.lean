/-
How whole numbers are spelled, and that a spelling is read as the number it stands for.

- `integer?_of_spells`: every spelling of a number is read as this number.
- `spells_decimalInt`: the decimal digits of a number are a spelling of it, unless there are too many of them.
-/
import RouteDocs.Numeral.Integer
import RouteDocs.Proofs.Text.Blank

namespace RouteDocs.Numeral

open Text

/-! ## Spellings -/

/-- digits with their values; a single underscore may stand between two of them -/
inductive Digits : List Char → List Nat → Prop
  | single {c : Char} {d : Nat} (digit : digitValue? c = some d) : Digits [c] [d]
  | next {c : Char} {d : Nat} {s : List Char} {ds : List Nat} (digit : digitValue? c = some d) (rest : Digits s ds) :
    Digits (c :: s) (d :: ds)
  | underscore {c : Char} {d : Nat} {s : List Char} {ds : List Nat} (digit : digitValue? c = some d)
    (rest : Digits s ds) : Digits (c :: '_' :: s) (d :: ds)

/-- the ways to write a whole number: digits, not too many, and a sign that may be left out if it is a plus -/
inductive Spells : List Char → Int → Prop
  | plain {s : List Char} {ds : List Nat} (digits : Digits s ds) (short : ds.length ≤ maxDigits) :
    Spells s (ofDigits ds)
  | plus {s : List Char} {ds : List Nat} (digits : Digits s ds) (short : ds.length ≤ maxDigits) :
    Spells ('+' :: s) (ofDigits ds)
  | minus {s : List Char} {ds : List Nat} (digits : Digits s ds) (short : ds.length ≤ maxDigits) :
    Spells ('-' :: s) (-(ofDigits ds : Int))

/-! ## Characters of a numeral -/

theorem isBlank_of_digit {c : Char} {d : Nat} (h : digitValue? c = some d) : isBlank c = false :=
  isBlank_of_class (p := fun c => (digitValue? c).isSome) (by decide +kernel) (by simp [h])

variable {s : List Char} {ds : List Nat}

/-- digits begin with a digit, whatever marks may stand elsewhere -/
theorem Digits.head (h : Digits s ds) : ∃ c rest d, s = c :: rest ∧ digitValue? c = some d := by
  cases h with
  | single digit => exact ⟨_, _, _, rfl, digit⟩
  | next digit rest => exact ⟨_, _, _, rfl, digit⟩
  | underscore digit rest => exact ⟨_, _, _, rfl, digit⟩

theorem Digits.solid (h : Digits s ds) : Solid s := by
  induction h with
  | single digit =>
    exact ⟨by simp, fun c hc => List.mem_singleton.1 hc ▸ isBlank_of_digit digit⟩
  | next digit rest ih =>
    exact ⟨by simp, List.forall_mem_cons.2 ⟨isBlank_of_digit digit, ih.unbroken⟩⟩
  | underscore digit rest ih =>
    exact ⟨by simp, List.forall_mem_cons.2 ⟨isBlank_of_digit digit,
      List.forall_mem_cons.2 ⟨by decide, ih.unbroken⟩⟩⟩

theorem Spells.solid {n : Int} (h : Spells s n) : Solid s := by
  cases h with
  | plain digits short => exact digits.solid
  | plus digits short => exact ⟨by simp, List.forall_mem_cons.2 ⟨by decide, digits.solid.unbroken⟩⟩
  | minus digits short => exact ⟨by simp, List.forall_mem_cons.2 ⟨by decide, digits.solid.unbroken⟩⟩

/-! ## Reading -/

theorem Digits.digitValues? (h : Digits s ds) : digitValues? s = some ds := by
  induction h with
  | single digit => rw [Numeral.digitValues?, digit, Option.map_some]
  | next digit rest ih =>
    obtain ⟨e, rest', d', rfl, hd'⟩ := rest.head
    -- an underscore is no digit, so none is skipped
    have hmark : e ≠ '_' := by
      rintro rfl
      cases hd'
    rw [Numeral.digitValues?.eq_4 _ _ _ (by simp [hmark]), digit, ih]
    rfl
  | underscore digit rest ih =>
    obtain ⟨e, rest', d', rfl, hd'⟩ := rest.head
    rw [Numeral.digitValues?, digit, ih]
    rfl

theorem Digits.natural? (h : Digits s ds) (short : ds.length ≤ maxDigits) : natural? s = some (ofDigits ds) := by
  rw [Numeral.natural?, h.digitValues?]
  exact if_pos short

/-- **Spellings are read back.** A number is read from each of its spellings. -/
theorem integer?_of_spells {n : Int} (h : Spells s n) : integer? s = some n := by
  cases h with
  | plain digits short =>
    obtain ⟨c, rest, d, rfl, hd⟩ := digits.head
    -- a sign is no digit
    have hsign : c ≠ '-' ∧ c ≠ '+' := by
      constructor <;> (rintro rfl; cases hd)
    rw [integer?, digits.natural? short]
    · rfl
    · simp [hsign.1]
    · simp [hsign.2]
  | plus digits short => rw [integer?, digits.natural? short]; rfl
  | minus digits short => rw [integer?, digits.natural? short]; rfl

/-! ## Decimal digits -/

theorem digitValue?_of_isDigit {c : Char} (h : c.isDigit = true) : digitValue? c = some (c.toNat - '0'.toNat) := by
  have hrange : 48 ≤ c.toNat ∧ c.toNat ≤ 57 := Char.isDigit_iff_toNat.1 h
  rw [digitValue?, if_pos (by omega), if_pos hrange]
  rfl

theorem digits_of_isDigit (hne : s ≠ []) (h : ∀ c ∈ s, c.isDigit = true) :
    Digits s (s.map fun c => c.toNat - '0'.toNat) := by
  induction s with
  | nil => exact absurd rfl hne
  | cons c s ih =>
    obtain ⟨hc, hs⟩ := List.forall_mem_cons.1 h
    cases s with
    | nil => exact .single (digitValue?_of_isDigit hc)
    | cons d s => exact .next (digitValue?_of_isDigit hc) (ih (by simp) hs)

theorem digits_decimal (n : Nat) :
    ∃ ds, Digits (decimal n) ds ∧ ds.length = (decimal n).length ∧ ofDigits ds = n := by
  refine ⟨_, digits_of_isDigit Nat.toDigits_ne_nil fun c hc => Nat.isDigit_of_mem_toDigits (by omega) le_rfl hc,
    List.length_map _, ?_⟩
  rw [ofDigits, List.foldl_map, ← Nat.ofDigitChars_eq_foldl]
  exact Nat.ofDigitChars_ten_toDigits

/-- has a number no more digits than a numeral may have? -/
def Short (n : Int) : Prop := (decimal n.natAbs).length ≤ maxDigits

instance (n : Int) : Decidable (Short n) := inferInstanceAs (Decidable (_ ≤ _))

/-- **Every number has a spelling**, unless it has too many digits. -/
theorem spells_decimalInt (n : Int) (h : Short n) : Spells (decimalInt n) n := by
  obtain ⟨ds, hds, hlength, hvalue⟩ := digits_decimal n.natAbs
  rw [Short, ← hlength] at h
  cases n with
  | ofNat n =>
    have hspells := Spells.plain hds h
    rwa [hvalue] at hspells
  | negSucc n =>
    have hspells := Spells.minus hds h
    rwa [hvalue] at hspells

end RouteDocs.Numeral
