/-
Upper-casing loses no character, and makes no blanks and no brackets of anything else.

- `eq_of_mem_capital`: a blank or a bracket is in the capital form of itself only.
- `upper_eq_nil_iff`, `isBlank_of_mem_upper`, `head?_upper`, `getLast?_upper`: the same for texts.
-/
import RouteDocs.Proofs.Text.Blank
import RouteDocs.Text.Upper

namespace RouteDocs.Text

/-- the code points of the blanks and of the two square brackets -/
def caselessCodes : List Nat := 0x5B :: 0x5D :: blankCodes

/-- how the capital form of a character is found -/
inductive Capital (c : Char) : List Char → Prop
  | ascii (small : c.toNat < 128) : Capital c [c.toUpper]
  | wide {codes : List Nat} (entry : (c.toNat, codes) ∈ wideCapitals) : Capital c (codes.map Char.ofNat)
  | run {r : CaseRun} (entry : r ∈ caseRuns) (covers : r.covers c.toNat = true) :
    Capital c [Char.ofNat (c.toNat + r.offset).toNat]
  | same : Capital c [c]

theorem capital_capital (c : Char) : Capital c (capital c) := by
  simp only [capital]
  split
  · next small => exact .ascii small
  · split
    · next codes found =>
      obtain ⟨before, after, hentries, -⟩ := List.lookup_eq_some_iff.1 found
      exact .wide (hentries ▸ List.mem_append_right _ List.mem_cons_self)
    · split
      · next r found =>
        have hcovers := List.find?_some (p := fun r : CaseRun => r.covers c.toNat) found
        exact .run (List.mem_of_find?_eq_some found) hcovers
      · exact .same

theorem capital_ne_nil (c : Char) : capital c ≠ [] := by
  have hwide : ∀ e ∈ wideCapitals, e.2 ≠ [] := by decide +kernel
  have h := capital_capital c
  generalize capital c = form at h
  cases h with
  | wide entry => simpa using hwide _ entry
  | _ => simp

/-- the code point of a character that is made from a number is the number, or zero -/
theorem toNat_ofNat (n : Nat) : (Char.ofNat n).toNat = n ∨ (Char.ofNat n).toNat = 0 := by
  by_cases h : n.isValidChar
  · have hvalid : Char.ofNat n = Char.ofNatAux n h := dif_pos h
    exact Or.inl (congrArg Char.toNat hvalid)
  · right
    rw [Char.ofNat, dif_neg h]
    rfl

/-- whatever has a blank or a bracket in its capital form is one itself -/
theorem mem_caselessCodes_of_capital {c x : Char} (hx : x ∈ capital c) (hcode : x.toNat ∈ caselessCodes) :
    c.toNat ∈ caselessCodes := by
  have hascii : ∀ n < 128, (Char.ofNat n).toUpper.toNat ∈ caselessCodes → n ∈ caselessCodes := by decide +kernel
  have hwide : ∀ e ∈ wideCapitals, ∀ n ∈ e.2, (Char.ofNat n).toNat ∉ caselessCodes := by decide +kernel
  have hruns : ∀ r ∈ caseRuns, ∀ n ∈ caselessCodes,
    ¬ ((r.first : Int) + r.offset ≤ n ∧ (n : Int) ≤ r.last + r.offset) := by
    decide +kernel
  have hzero : 0 ∉ caselessCodes := by decide
  have h := capital_capital c
  generalize capital c = form at h hx
  cases h with
  | ascii small =>
    obtain rfl := List.mem_singleton.1 hx
    refine hascii c.toNat small ?_
    rwa [Char.ofNat_toNat]
  | wide entry =>
    obtain ⟨n, hn, rfl⟩ := List.mem_map.1 hx
    exact absurd hcode (hwide _ entry n hn)
  | @run r entry covers =>
    obtain rfl := List.mem_singleton.1 hx
    rcases toNat_ofNat (c.toNat + r.offset).toNat with hcopy | hnull
    · rw [hcopy] at hcode
      have hmiss := hruns r entry _ hcode
      have hnonzero : (c.toNat + r.offset).toNat ≠ 0 := fun hnull => hzero (hnull ▸ hcode)
      simp only [CaseRun.covers, Bool.and_eq_true, decide_eq_true_eq] at covers
      omega
    · rw [hnull] at hcode
      exact absurd hcode hzero
  | same =>
    obtain rfl := List.mem_singleton.1 hx
    exact hcode

/-- a blank or a bracket stands for itself -/
theorem capital_caseless {c : Char} (h : c.toNat ∈ caselessCodes) : capital c = [c] := by
  have hall : ∀ n ∈ caselessCodes, capital (Char.ofNat n) = [Char.ofNat n] := by decide +kernel
  have hc := hall _ h
  rwa [Char.ofNat_toNat] at hc

/-- **No new blanks or brackets.** A blank or a bracket is in the capital form of itself only. -/
theorem eq_of_mem_capital {c x : Char} (hx : x ∈ capital c) (hcode : x.toNat ∈ caselessCodes) : x = c := by
  rw [capital_caseless (mem_caselessCodes_of_capital hx hcode)] at hx
  exact List.mem_singleton.1 hx

/-! ## Texts -/

theorem upper_cons (c : Char) (s : List Char) : upper (c :: s) = capital c ++ upper s := List.flatMap_cons ..

theorem upper_append (s t : List Char) : upper (s ++ t) = upper s ++ upper t := List.flatMap_append ..

theorem upper_eq_nil_iff {s : List Char} : upper s = [] ↔ s = [] := by
  cases s with
  | nil => simp [upper]
  | cons c s => simp [upper_cons, capital_ne_nil]

theorem isBlank_of_mem_upper {s : List Char} (h : ∀ c ∈ s, isBlank c = false) :
    ∀ c ∈ upper s, isBlank c = false := by
  intro x hx
  by_contra hblank
  have hcode : x.toNat ∈ caselessCodes :=
    List.mem_cons_of_mem _ (List.mem_cons_of_mem _ (mem_blankCodes (by simpa using hblank)))
  obtain ⟨c, hc, hxc⟩ := List.mem_flatMap.1 hx
  obtain rfl := eq_of_mem_capital hxc hcode
  exact hblank (h x hc)

/-- the capital form begins with a caseless character only if the text does -/
theorem head?_upper {s : List Char} {x : Char} (hx : (upper s).head? = some x) (hcode : x.toNat ∈ caselessCodes) :
    s.head? = some x := by
  cases s with
  | nil => cases hx
  | cons c s =>
    rw [upper_cons, List.head?_append_of_ne_nil _ (capital_ne_nil c)] at hx
    rw [eq_of_mem_capital (List.mem_of_mem_head? hx) hcode]
    rfl

/-- and it ends with one only if the text does -/
theorem getLast?_upper {s : List Char} {x : Char} (hx : (upper s).getLast? = some x)
    (hcode : x.toNat ∈ caselessCodes) : s.getLast? = some x := by
  rcases List.eq_nil_or_concat' s with rfl | ⟨s, c, rfl⟩
  · cases hx
  · have hlast : upper [c] = capital c := by simp [upper]
    rw [upper_append, hlast, List.getLast?_append_of_ne_nil _ (capital_ne_nil c)] at hx
    rw [eq_of_mem_capital (List.mem_of_getLast? hx) hcode, List.getLast?_concat]

end RouteDocs.Text
