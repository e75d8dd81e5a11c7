import RouteDocs.Text.Blank
import RouteDocs.Text.Digit
import RouteDocs.Text.Normal.Composition
import RouteDocs.Text.Normal.Decomposition
import RouteDocs.Text.Normal.Order

/-!
The normal form of a text in which variants of characters count as the plain ones: characters are taken apart, marks are
put in order, and what is left is put together as far as it goes (NFKC).

Main definition: `normalize`.
-/

namespace RouteDocs.Text

namespace Normal

def places (table : String) : List (List Char) := pieces (fun c => c == ';' || c == '\n') table.toList

def ofHex (digits : List Char) : Nat := digits.foldl (fun n c => 16 * n + (hexValue? c).getD 0) 0

/-! ## Korean syllables -/

def syllableBase : Nat := 0xAC00

/-- the first of the letters that syllables begin with, and how many there are -/
def leading : Nat × Nat := (0x1100, 19)

/-- the first vowel, and how many there are -/
def vowels : Nat × Nat := (0x1161, 21)

/-- the place before the first of the letters that syllables end with, and how many there are, with that place -/
def trailing : Nat × Nat := (0x11A7, 28)

def syllableParts? (code : Nat) : Option (List Nat) :=
  if syllableBase ≤ code ∧ code < syllableBase + leading.2 * vowels.2 * trailing.2 then
    let n := code - syllableBase
    let first := leading.1 + n / (vowels.2 * trailing.2)
    let vowel := vowels.1 + n / trailing.2 % vowels.2
    let last := n % trailing.2
    some (if last = 0 then [first, vowel] else [first, vowel, trailing.1 + last])
  else none

/-- the syllable of two letters, or of a syllable without a last letter and one -/
def syllable? (a b : Nat) : Option Nat :=
  if leading.1 ≤ a ∧ a < leading.1 + leading.2 ∧ vowels.1 ≤ b ∧ b < vowels.1 + vowels.2 then
    some (syllableBase + ((a - leading.1) * vowels.2 + (b - vowels.1)) * trailing.2)
  else if trailing.1 < b ∧ b < trailing.1 + trailing.2 then
    match syllableParts? a with
    | some [_, _] => some (a + (b - trailing.1))
    | _ => none
  else none

/-! ## Taking apart -/

/-- a range of characters and the parts of the first one -/
def readParts (place : List Char) : Nat × Nat × List Nat :=
  match pieces (· == ' ') place with
  | [] => (0, 0, [])
  | range :: parts =>
    let ends := (pieces (· == '-') range).map ofHex
    (ends.headD 0, ends.getLastD 0, parts.map ofHex)

/-- ranges of characters, and the parts of the first one of each -/
def partsTable : List (Nat × Nat × List Nat) := (places decompositions).map readParts

/-- the parts of a character, none of which has parts -/
def parts (code : Nat) : List Nat :=
  match syllableParts? code with
  | some letters => letters
  | none =>
    match partsTable.find? fun (first, last, _) => first ≤ code && code ≤ last with
    | some (first, last, ps) => if first = last then ps else ps.map (· + (code - first))
    | none => [code]

def decompose (s : List Char) : List Char :=
  s.flatMap fun c => if c.toNat < 128 then [c] else (parts c.toNat).map Char.ofNat

/-! ## Putting together -/

def pairsTable : List (List Nat) := (places compositions).map fun place => (pieces (· == ' ') place).map ofHex

def together? (a b : Char) : Option Char :=
  let code? := match syllable? a.toNat b.toNat with
    | some code => some code
    | none => pairsTable.findSome? fun
      | [x, y, code] => if x = a.toNat ∧ y = b.toNat then some code else none
      | _ => none
  code?.map Char.ofNat

/-- A character together with the marks after it that it combines with, and the rest of the text. A mark of the class
`blocked` or a lower one stands behind another mark that keeps it from the character. -/
def absorb (base : Char) (blocked : Nat) : List Char → Char × List Char
  | [] => (base, [])
  | m :: rest =>
    let k := markClass m
    if blocked ≠ 0 ∧ k = 0 then (base, m :: rest)
    else
      let keep (blocked : Nat) : Char × List Char :=
        let r := absorb base blocked rest
        (r.1, m :: r.2)
      if blocked ≠ 0 ∧ k ≤ blocked then keep blocked
      else match together? base m with
        | some c => absorb c blocked rest
        | none => if k = 0 then (base, m :: rest) else keep k

theorem length_absorb_le (base : Char) (blocked : Nat) (s : List Char) :
    (absorb base blocked s).2.length ≤ s.length := by
  induction s generalizing base blocked with
  | nil => simp [absorb]
  | cons m rest ih =>
    simp only [absorb]
    split
    · simp
    · split
      · simpa using ih base blocked
      · split
        · exact Nat.le_succ_of_le (ih _ _)
        · split
          · simp
          · simpa using ih base (markClass m)

def compose : List Char → List Char
  | [] => []
  | c :: rest =>
    let r := absorb c 0 rest
    r.1 :: compose r.2
termination_by s => s.length
decreasing_by exact Nat.lt_succ_of_le (length_absorb_le _ _ _)

end Normal

/-- the normal form of a text -/
def normalize (s : String) : String :=
  if s.toList.all (·.toNat < 128) then s
  else String.ofList (Normal.compose (Normal.order (Normal.decompose s.toList)))

end RouteDocs.Text
