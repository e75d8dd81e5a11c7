import RouteDocs.Text.Blank
import RouteDocs.Text.Digit

/-!
Whole numbers as they are written: an optional sign and decimal digits of any script, with single underscores
between digits. Numerals are kept short enough to be converted quickly.
-/

namespace RouteDocs.Numeral

/-- the most digits that a numeral may have, leading zeros included -/
def maxDigits : Nat := 4300

/-- the values of digits that may have single underscores between them; `none` if anything else occurs -/
def digitValues? : List Char → Option (List Nat)
  | [] => none
  | [c] => (Text.digitValue? c).map ([·])
  | c :: '_' :: d :: rest => do return (← Text.digitValue? c) :: (← digitValues? (d :: rest))
  | c :: d :: rest => do return (← Text.digitValue? c) :: (← digitValues? (d :: rest))

def ofDigits (digits : List Nat) : Nat := digits.foldl (fun n d => 10 * n + d) 0

/-- the number that digits of a base stand for -/
def inBase (base : Nat) (digits : List Char) : Nat :=
  digits.foldl (fun n c => base * n + (Text.hexValue? c).getD 0) 0

def natural? (s : List Char) : Option Nat := do
  let digits ← digitValues? s
  if digits.length ≤ maxDigits then some (ofDigits digits) else none

def integer? : List Char → Option Int
  | '-' :: rest => (natural? rest).map fun n => -(n : Int)
  | '+' :: rest => (natural? rest).map Int.ofNat
  | s => (natural? s).map Int.ofNat

/-- a character with a decimal digit of any script as the ASCII one -/
def plainDigit (c : Char) : Char := ((Text.digitValue? c).map fun d => Nat.digitChar d).getD c

/-- a number without the mark of its base, if it has one -/
def dropMark (base : Nat) : List Char → List Char
  | '0' :: m :: rest =>
    let letter := m.toLower
    if (base == 16 && letter == 'x') || (base == 8 && letter == 'o') || (base == 2 && letter == 'b') then rest
    else '0' :: m :: rest
  | s => s

/-- is the list not empty, and is every character a digit of the base? -/
def areDigits (base : Nat) (s : List Char) : Bool :=
  !s.isEmpty && s.all fun c => (Text.hexValue? c).any (· < base)

/-- Read a whole number in a base: it may have spaces around it, a sign, and the mark of the base. Only numbers in base
ten have a greatest length. -/
def integerIn? (base : Nat) (s : List Char) : Option Int :=
  let s := (Text.trimWhile Text.isSpace s).map plainDigit
  let digits := dropMark base (match s with
    | '+' :: rest | '-' :: rest => rest
    | s => s)
  if areDigits base digits && (base != 10 || digits.length ≤ maxDigits) then
    let n := inBase base digits
    some (if s.head? == some '-' then -(n : Int) else n)
  else none

/-- the decimal digits of a number, without leading zeros -/
def decimal (n : Nat) : List Char := Nat.toDigits 10 n

/-- a whole number in decimal digits, a minus before a negative one -/
def decimalInt : Int → List Char
  | .ofNat n => decimal n
  | .negSucc n => '-' :: decimal (n + 1)

end RouteDocs.Numeral
