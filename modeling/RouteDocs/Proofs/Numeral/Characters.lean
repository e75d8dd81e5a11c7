/-
The characters that the text of a number is made of: digits, signs, a point, and the mark of an exponent.
-/
import RouteDocs.Numeral.Binary64

namespace RouteDocs.Numeral

/-- a character that occurs in the text of a number -/
def isNumeralChar (c : Char) : Bool := c.isDigit || c == '-' || c == '+' || c == '.' || c == 'e'

theorem isNumeralChar_of_isDigit {c : Char} (h : c.isDigit = true) : isNumeralChar c = true := by
  simp [isNumeralChar, h]

theorem isNumeralChar_decimal {n : Nat} {c : Char} (hc : c ∈ decimal n) : isNumeralChar c = true :=
  isNumeralChar_of_isDigit (Nat.isDigit_of_mem_toDigits (by omega) (Nat.le_refl _) hc)

namespace Binary64

theorem isNumeralChar_shortest {m : Nat} {e : Int} : ∀ c ∈ (shortest m e).1, isNumeralChar c = true := by
  intro c hc
  rw [shortest] at hc
  dsimp only at hc
  generalize hfound : List.findSome? _ (List.range 17) = found at hc
  cases found with
  | none => exact isNumeralChar_decimal hc
  | some r =>
    obtain ⟨k, -, hgrid⟩ := List.exists_of_findSome?_eq_some hfound
    obtain ⟨n, -, rfl⟩ := Option.map_eq_some_iff.1 hgrid
    -- what is left of the digits of `n` when the zeros at the end are dropped
    have hsub := (List.dropWhile_sublist (l := (decimal n).reverse) (· == '0')).reverse
    rw [List.reverse_reverse] at hsub
    exact isNumeralChar_decimal (hsub.subset hc)

theorem isNumeralChar_exponentText {e : Int} : ∀ c ∈ exponentText e, isNumeralChar c = true := by
  intro c hc
  rw [exponentText] at hc
  rcases List.mem_cons.1 hc with rfl | hc
  · split <;> rfl
  · split at hc
    · rcases List.mem_cons.1 hc with rfl | hc
      · rfl
      · exact isNumeralChar_decimal hc
    · exact isNumeralChar_decimal hc

theorem isNumeralChar_digitsText {digits tail : List Char} {point : Int}
    (hdigits : ∀ c ∈ digits, isNumeralChar c = true) (htail : ∀ c ∈ tail, isNumeralChar c = true) :
    ∀ c ∈ digitsText digits point tail, isNumeralChar c = true := by
  have hzeros (n : Nat) : ∀ c ∈ List.replicate n '0', isNumeralChar c = true := fun c hc => by
    rw [(List.mem_replicate.1 hc).2]
    rfl
  have htake (n : Nat) : ∀ c ∈ digits.take n, isNumeralChar c = true :=
    fun c hc => hdigits c (List.mem_of_mem_take hc)
  have hdrop (n : Nat) : ∀ c ∈ digits.drop n, isNumeralChar c = true :=
    fun c hc => hdigits c (List.mem_of_mem_drop hc)
  have hpoint : isNumeralChar '.' = true := rfl
  have hzero : isNumeralChar '0' = true := rfl
  have hmark : isNumeralChar 'e' = true := rfl
  rw [digitsText]
  dsimp only
  split
  · split
    · simp only [List.cons_append, List.forall_mem_cons, List.forall_mem_append]
      exact ⟨hzero, hpoint, hzeros _, hdigits⟩
    · split
      · simp only [List.forall_mem_append]
        exact ⟨⟨hdigits, hzeros _⟩, htail⟩
      · simp only [List.forall_mem_append, List.forall_mem_cons]
        exact ⟨htake _, hpoint, hdrop _⟩
  · simp only [List.forall_mem_append, List.forall_mem_cons]
    refine ⟨⟨htake _, ?_⟩, hmark, isNumeralChar_exponentText⟩
    split
    · exact List.forall_mem_nil _
    · exact List.forall_mem_cons.2 ⟨hpoint, hdrop _⟩

/-- the text of a number has characters of numerals only, if what is put in for infinite and whole ones has -/
theorem isNumeralChar_text {tail infinity : List Char} (htail : ∀ c ∈ tail, isNumeralChar c = true)
    (hinfinity : ∀ c ∈ infinity, isNumeralChar c = true) (x : Binary64) :
    ∀ c ∈ x.text tail infinity, isNumeralChar c = true := by
  have hsign (negative : Bool) : ∀ c ∈ (if negative then ['-'] else []), isNumeralChar c = true := by
    cases negative <;> simp [isNumeralChar]
  rw [text.eq_def]
  dsimp only
  split
  · exact List.forall_mem_append.2 ⟨hsign _, hinfinity⟩
  · exact List.forall_mem_append.2 ⟨hsign _, List.forall_mem_cons.2 ⟨rfl, htail⟩⟩
  · exact List.forall_mem_append.2 ⟨hsign _, isNumeralChar_digitsText isNumeralChar_shortest htail⟩

end Binary64

end RouteDocs.Numeral
