import RouteDocs.Numeral.Integer

/-!
Floating-point numbers with 53 significant bits, in exact arithmetic: reading a decimal numeral rounds to the nearest
such number (a tie goes to the even one), and writing takes the fewest digits that read back.
-/

namespace RouteDocs.Numeral

/-- a floating-point number; a finite one is `mantissa * 2 ^ exponent`, with `mantissa < 2 ^ 53` -/
inductive Binary64 where
  | finite (negative : Bool) (mantissa : Nat) (exponent : Int)
  | infinite (negative : Bool)
deriving DecidableEq, Inhabited

namespace Binary64

/-- the least exponent: numbers near zero have fewer bits -/
def minExponent : Int := -1074

def maxExponent : Int := 971

/-- `n * 2 ^ e` as a quotient of two naturals -/
def scaled (n : Nat) (e : Int) : Nat × Nat :=
  if e ≥ 0 then (n * Nat.pow 2 e.toNat, 1) else (n, Nat.pow 2 (-e).toNat)

/-- a quotient to the nearest natural; a half goes to the even neighbour -/
def roundQuotient (num den : Nat) : Nat :=
  let q := num / den
  let twice := 2 * (num % den)
  if twice < den then q
  else if twice > den then q + 1
  else q + q % 2

def ofQuotient (negative : Bool) (num den : Nat) : Binary64 :=
  if num = 0 then finite negative 0 minExponent
  else
    let at? (e : Int) : Nat := if e ≥ 0 then num / (den * Nat.pow 2 e.toNat) else num * Nat.pow 2 (-e).toNat / den
    let guess : Int := (num.log2 : Int) - (den.log2 : Int) - 53
    -- the guess is at most one too low or one too high
    let e := if at? guess ≥ Nat.pow 2 53 then guess + 1 else if at? guess < Nat.pow 2 52 then guess - 1 else guess
    let e := max e minExponent
    let m :=
      if e ≥ 0 then roundQuotient num (den * Nat.pow 2 e.toNat) else roundQuotient (num * Nat.pow 2 (-e).toNat) den
    let (m, e) := if m = Nat.pow 2 53 then (Nat.pow 2 52, e + 1) else (m, e)
    if e > maxExponent then infinite negative else finite negative m e

/-- the number nearest to `n * 10 ^ e` -/
def ofDecimal (negative : Bool) (n : Nat) (e : Int) : Binary64 :=
  let magnitude : Int := (decimal n).length + e
  if n = 0 then finite negative 0 minExponent
  else if magnitude > 310 then infinite negative
  else if magnitude < -330 then finite negative 0 minExponent
  else if e ≥ 0 then ofQuotient negative (n * Nat.pow 10 e.toNat) 1
  else ofQuotient negative n (Nat.pow 10 (-e).toNat)

/-- the number nearest to an unsigned decimal numeral, which may have a fraction and an exponent -/
def ofText (s : List Char) : Binary64 :=
  let isExponentMark (c : Char) : Bool := c == 'e' || c == 'E'
  let significand := s.takeWhile (!isExponentMark ·)
  let whole := significand.takeWhile (· != '.')
  let fraction := (significand.dropWhile (· != '.')).drop 1
  let exponent : Int := match (s.dropWhile (!isExponentMark ·)).drop 1 with
    | '-' :: digits => -(inBase 10 digits : Int)
    | '+' :: digits => inBase 10 digits
    | digits => inBase 10 digits
  ofDecimal false (inBase 10 (whole ++ fraction)) (exponent - fraction.length)

/-- is the number whole, and which one is it? -/
def whole? : Binary64 → Option Int
  | finite negative m e =>
    let (num, den) := scaled m e
    if num % den = 0 then some (if negative then -((num / den : Nat) : Int) else (num / den : Nat)) else none
  | infinite _ => none

/-- a finite number in units of the least positive one -/
def units? : Binary64 → Option Int
  | finite negative m e =>
    let n := m * Nat.pow 2 (e - minExponent).toNat
    some (if negative then -(n : Int) else n)
  | infinite _ => none

/-- the number nearest to a number of units -/
def ofUnits (n : Int) : Binary64 := ofQuotient (n < 0) n.natAbs (Nat.pow 2 (-minExponent).toNat)

/-! ## Shortest digits -/

/-- how many digits stand before the decimal point of `num / den`, which is not zero; negative if zeros follow it -/
def pointOf (num den : Nat) : Int :=
  if num ≥ den then ((decimal (num / den)).length : Int)
  else
    -- `den / num` has this many digits, so the first digit of the quotient is at this place or the one before
    let k := (decimal (den / num)).length
    if num * Nat.pow 10 k ≥ 10 * den then 2 - (k : Int) else 1 - (k : Int)

/-- of the two neighbours of `num / den` among the naturals, the nearest that lies between the bounds; the bounds
belong to the interval when `closed` -/
def hit (num den : Nat) (low high : Nat × Nat) (closed : Bool) : Option Nat :=
  let within (n : Nat) : Bool :=
    let l := compare (low.1) (n * low.2)
    let h := compare (n * high.2) (high.1)
    if closed then l != .gt && h != .gt else l == .lt && h == .lt
  let q := num / den
  match within q, within (q + 1) with
  | true, true => some (roundQuotient num den)
  | true, false => some q
  | false, true => some (q + 1)
  | false, false => none

def shiftTen (x : Nat × Nat) (e : Int) : Nat × Nat :=
  if e ≥ 0 then (x.1 * Nat.pow 10 e.toNat, x.2) else (x.1, x.2 * Nat.pow 10 (-e).toNat)

/-- the fewest digits `d` and the place `p` of the point such that `0.d * 10 ^ p` reads back as the number, the nearest
such digits to it; for a finite number other than zero -/
def shortest (m : Nat) (e : Int) : List Char × Int :=
  let value := scaled m e
  let high := scaled (2 * m + 1) (e - 1)
  let low := if m = Nat.pow 2 52 ∧ e > minExponent then scaled (4 * m - 1) (e - 2) else scaled (2 * m - 1) (e - 1)
  let point := pointOf value.1 value.2
  let atGrid (digits : Nat) : Option (List Char × Int) :=
    let shift : Int := digits - point
    let v := shiftTen value shift
    (hit v.1 v.2 (shiftTen low shift) (shiftTen high shift) (m % 2 = 0)).map fun n =>
      let text := decimal n
      -- the upper neighbour may have one digit more
      ((text.reverse.dropWhile (· == '0')).reverse, point + text.length - digits)
  ((List.range 17).findSome? fun k => atGrid (k + 1)).getD (decimal m, (decimal m).length)

/-- the exponent of scientific notation: a sign and at least two digits -/
def exponentText (e : Int) : List Char :=
  let digits := decimal e.natAbs
  (if e < 0 then '-' else '+') :: (if digits.length < 2 then '0' :: digits else digits)

/-- positional notation from 0.0001 up to sixteen digits before the point, and scientific notation beyond; `tail` goes
after a whole number in positional notation -/
def digitsText (digits : List Char) (point : Int) (tail : List Char) : List Char :=
  let count : Int := digits.length
  if -4 < point ∧ point ≤ 16 then
    if point ≤ 0 then '0' :: '.' :: List.replicate (-point).toNat '0' ++ digits
    else if count ≤ point then digits ++ List.replicate (point - count).toNat '0' ++ tail
    else digits.take point.toNat ++ '.' :: digits.drop point.toNat
  else
    let fraction := digits.drop 1
    digits.take 1 ++ (if fraction.isEmpty then [] else '.' :: fraction) ++ 'e' :: exponentText (point - 1)

/-- a number in the fewest digits; `tail` goes after a whole one, `infinity` is the text of an infinite one -/
def text (tail infinity : List Char) (x : Binary64) : List Char :=
  let sign (negative : Bool) : List Char := if negative then ['-'] else []
  match x with
  | infinite negative => sign negative ++ infinity
  | finite negative 0 _ => sign negative ++ '0' :: tail
  | finite negative m e => sign negative ++ (let (digits, point) := shortest m e; digitsText digits point tail)

end Binary64

end RouteDocs.Numeral
