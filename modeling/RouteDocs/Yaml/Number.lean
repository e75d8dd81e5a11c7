import RouteDocs.Numeral.Binary64
import RouteDocs.Text.Lower
import RouteDocs.Yaml.Tag

/-!
The numbers that scalars stand for. Underscores say nothing, one sign may come first, and parts between colons are
places in base sixty. Of a number that is not whole only this is asked: is it zero?

Main definitions: `Number.integer`, `Number.isZero`.
-/

namespace RouteDocs.Yaml.Number

open Numeral

/-- a number, or the fault that there is none -/
def orBad {α : Type} : Option α → Except Fault α
  | some a => .ok a
  | none => .error .badScalar

/-- is there a minus in front, and what comes after the sign and has no underscores? -/
def splitSign (s : List Char) : Except Fault (Bool × List Char) :=
  match s.filter (· != '_') with
  | [] => .error .emptyNumber
  | '-' :: rest => .ok (true, rest)
  | '+' :: rest => .ok (false, rest)
  | s => .ok (false, s)

/-! ## Whole numbers -/

def sexagesimal (places : List Int) : Int := places.foldl (fun n d => 60 * n + d) 0

/-- the whole number after the first sign; a zero in front is a mark of base eight -/
def magnitude : List Char → Except Fault Int
  | [] => .error .emptyNumber
  | ['0'] => .ok 0
  | '0' :: 'b' :: digits => orBad (integerIn? 2 digits)
  | '0' :: 'x' :: digits => orBad (integerIn? 16 digits)
  | '0' :: digits => orBad (integerIn? 8 ('0' :: digits))
  | s => orBad (((s.splitOn ':').mapM (integerIn? 10)).map sexagesimal)

/-- the whole number that a text stands for -/
def integer (s : List Char) : Except Fault Int := do
  let (negative, s) ← splitSign s
  let n ← magnitude s
  return if negative then -n else n

/-! ## Numbers that are not whole -/

/-- is a text a number, with a point or without, and with an exponent or without? -/
def isNumeral (s : List Char) : Bool :=
  let isMark (c : Char) : Bool := c == 'e' || c == 'E'
  let significand := s.takeWhile (!isMark ·)
  let exponent := (s.dropWhile (!isMark ·)).drop 1
  significand.any Char.isDigit && (significand.filter (· != '.')).all Char.isDigit && significand.count '.' ≤ 1
    && (s.all (!isMark ·) || areDigits 10 (dropSign exponent))

/-- the number of a place, in units of the least positive number; an infinite one, and what is no number, has none -/
def place? (s : List Char) : Option (Option Int) :=
  let s := (Text.trimWhile Text.isSpace s).map plainDigit
  let unsigned := dropSign s
  if ["inf".toList, "infinity".toList, "nan".toList].contains unsigned then some none
  else if isNumeral unsigned then
    some ((Binary64.ofText unsigned).units?.map fun n => if s.head? == some '-' then -n else n)
  else none

/-- the weight of a place in base sixty, rounded -/
def weight (place : Nat) : Int := ((Binary64.ofQuotient false (Nat.pow 60 place) 1).whole?).getD 0

def round? (n : Int) : Option Int := (Binary64.ofUnits n).units?

/-- the sum of places, the lowest first, added to the places below them; each product and each sum is rounded -/
def sumFrom : (place : Nat) → (below : Int) → List (Option Int) → Option Int
  | _, below, [] => some below
  | place, below, d :: more => do sumFrom (place + 1) (← round? (below + (← round? ((← d) * weight place)))) more

/-- how many places have a weight that is finite -/
def maxPlaces : Nat := 174

/-- is the number that a text stands for zero? -/
def isZero (s : List Char) : Except Fault Bool := do
  let (_, s) ← splitSign (Text.lower s)
  if s = ".inf".toList ∨ s = ".nan".toList then return false
  let places ← orBad ((s.splitOn ':').mapM place?)
  if places.length > maxPlaces then throw .tooManyParts
  return sumFrom 0 0 places.reverse == some 0

end RouteDocs.Yaml.Number
