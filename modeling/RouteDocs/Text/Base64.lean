import RouteDocs.Text.Digit

/-!
Bytes written in base 64: four letters stand for three bytes, and equals signs fill up the last four. Other characters
between the letters are passed over.

Main definition: `Base64.decode?`.
-/

namespace RouteDocs.Text.Base64

def letterValue? (c : Char) : Option Nat :=
  if 'A' ≤ c ∧ c ≤ 'Z' then some (c.toNat - 65)
  else if 'a' ≤ c ∧ c ≤ 'z' then some (c.toNat - 71)
  else if c.isDigit then some (c.toNat + 4)
  else if c == '+' then some 62
  else if c == '/' then some 63
  else none

/-- where a reader of letters stands -/
structure Place where
  /-- how many letters of the current four have been read -/
  count : Nat
  /-- the bits of them that are in no byte yet -/
  left : Nat
  /-- how many equals signs have been read after the last letter -/
  signs : Nat

/-- the place after a further letter, and the byte that it completes -/
def Place.next (p : Place) (v : Nat) : Place × List UInt8 :=
  match p.count with
  | 0 => (⟨1, v, 0⟩, [])
  | 1 => (⟨2, v % 16, 0⟩, [(p.left * 4 + v / 16).toUInt8])
  | 2 => (⟨3, v % 4, 0⟩, [(p.left * 16 + v / 4).toUInt8])
  | _ => (⟨0, 0, 0⟩, [(p.left * 64 + v).toUInt8])

/-- the bytes of letters from a place on; what comes after filled up letters does not count -/
def decodeFrom (p : Place) : List Char → Option (List UInt8)
  | [] => if p.count = 0 then some [] else none
  | c :: rest =>
    if c == '=' then
      if p.count < 2 then decodeFrom p rest
      else if p.count + p.signs + 1 ≥ 4 then some []
      else decodeFrom { p with signs := p.signs + 1 } rest
    else match letterValue? c with
      | none => decodeFrom p rest
      | some v =>
        let (p, bytes) := p.next v
        (decodeFrom p rest).map (bytes ++ ·)

/-- the bytes that a text stands for; only ASCII characters may stand in it -/
def decode? (s : List Char) : Option (List UInt8) := if s.all (·.toNat < 128) then decodeFrom ⟨0, 0, 0⟩ s else none

end RouteDocs.Text.Base64
