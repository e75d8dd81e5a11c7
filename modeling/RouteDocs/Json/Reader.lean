import RouteDocs.Json.Basic

/-!
Reading a tree from text. Each reader takes what it needs from the front of the text and returns the rest; a whole
text must hold one value, and blanks only around it.
-/

namespace RouteDocs.Json

def isGap (c : Char) : Bool := c == ' ' || c == '\n' || c == '\r' || c == '\t'

/-- the number that four hexadecimal digits at the front stand for -/
def unit? : List Char → Option (Nat × List Char)
  | a :: b :: c :: d :: rest => do
    let n := 4096 * (← Text.hexValue? a) + 256 * (← Text.hexValue? b) + 16 * (← Text.hexValue? c)
      + (← Text.hexValue? d)
    return (n, rest)
  | _ => none

def simpleEscape? (c : Char) : Option Char :=
  if c == '"' || c == '\\' || c == '/' then some c
  else if c == 'n' then some '\n'
  else if c == 'r' then some '\r'
  else if c == 't' then some '\t'
  else if c == 'f' then some '\x0c'
  else if c == 'b' then some '\x08'
  else none

/-- one UTF-16 unit at the front, or two that belong together, as a character -/
def escapedChar? (s : List Char) : Option (Char × List Char) := do
  let (n, rest) ← unit? s
  if n < 0xD800 ∨ 0xE000 ≤ n then some (Char.ofNat n, rest)
  else if n < 0xDC00 then
    match rest with
    | '\\' :: 'u' :: low =>
      let (m, rest) ← unit? low
      if 0xDC00 ≤ m ∧ m < 0xE000 then some (Char.ofNat (0x10000 + 0x400 * (n - 0xD800) + (m - 0xDC00)), rest)
      else none
    | _ => none
  else none

/-- the characters of a string up to its closing quote -/
def readChars : (fuel : Nat) → List Char → Option (List Char × List Char)
  | 0, _ => none
  | _ + 1, [] => none
  | _ + 1, '"' :: rest => some ([], rest)
  | fuel + 1, '\\' :: 'u' :: rest => do
    let (c, rest) ← escapedChar? rest
    let (cs, rest) ← readChars fuel rest
    return (c :: cs, rest)
  | fuel + 1, '\\' :: e :: rest => do
    let c ← simpleEscape? e
    let (cs, rest) ← readChars fuel rest
    return (c :: cs, rest)
  | fuel + 1, c :: rest => do
    if c.toNat < 32 || c == '\\' then none
    let (cs, rest) ← readChars fuel rest
    return (c :: cs, rest)

/-- a string whose opening quote has been read -/
def readString (s : List Char) : Option (String × List Char) :=
  (readChars (s.length + 1) s).map fun (cs, rest) => (String.ofList cs, rest)

def digitsValue (ds : List Char) : Nat := Numeral.ofDigits (ds.map fun c => c.toNat - 48)

/-- the longest run of ASCII digits at the front -/
def spanDigits (s : List Char) : List Char × List Char := s.span Char.isDigit

/-- the digits of a fraction, if there is one -/
def readFraction : List Char → List Char × List Char
  | '.' :: rest =>
    let (digits, after) := spanDigits rest
    if digits.isEmpty then ([], '.' :: rest) else (digits, after)
  | s => ([], s)

/-- the sign of an exponent: is it a minus? -/
def readSign : List Char → Bool × List Char
  | '-' :: rest => (true, rest)
  | '+' :: rest => (false, rest)
  | s => (false, s)

def readExponent : List Char → Option Int × List Char
  | e :: rest =>
    if e == 'e' || e == 'E' then
      let (minus, digits) := readSign rest
      let (digits, after) := spanDigits digits
      if digits.isEmpty then (none, e :: rest)
      else (some (if minus then -(digitsValue digits : Int) else digitsValue digits), after)
    else (none, e :: rest)
  | [] => (none, [])

/-- the number that starts with digits; the sign has been read -/
def readUnsigned (negative : Bool) (s : List Char) : Option (Json × List Char) :=
  let (digits, s) := spanDigits s
  if digits.isEmpty then none
  else
    let (fraction, s) := readFraction s
    let (exponent, s) := readExponent s
    if fraction.isEmpty && exponent.isNone then
      let n := digitsValue digits
      some (.int (if negative then -(n : Int) else n), s)
    else
      let e : Int := exponent.getD 0 - fraction.length
      some (.real (Numeral.Binary64.ofDecimal negative (digitsValue (digits ++ fraction)) e), s)

/-- a number: a whole one, unless it has a fraction or an exponent -/
def readNumber : List Char → Option (Json × List Char)
  | '-' :: rest => readUnsigned true rest
  | s => readUnsigned false s

/-- give a member its value, in its old place if the object has one of that name -/
def setMember (name : String) (v : Json) : List (String × Json) → List (String × Json)
  | [] => [(name, v)]
  | m :: rest => if m.1 = name then (name, v) :: rest else m :: setMember name v rest

def skipGap (s : List Char) : List Char := s.dropWhile isGap

mutual

def readValue : (fuel : Nat) → List Char → Option (Json × List Char)
  | 0, _ => none
  | fuel + 1, s =>
    match s with
    | 'n' :: 'u' :: 'l' :: 'l' :: rest => some (.null, rest)
    | 't' :: 'r' :: 'u' :: 'e' :: rest => some (.bool true, rest)
    | 'f' :: 'a' :: 'l' :: 's' :: 'e' :: rest => some (.bool false, rest)
    | '"' :: rest => (readString rest).map fun (t, rest) => (.str t, rest)
    | '[' :: rest =>
      match skipGap rest with
      | ']' :: rest => some (.arr [], rest)
      | rest => (readItems fuel rest).map fun (items, rest) => (.arr items, rest)
    | '\x7b' :: rest =>
      match skipGap rest with
      | '\x7d' :: rest => some (.obj [], rest)
      | rest => (readMembers fuel rest []).map fun (members, rest) => (.obj members, rest)
    | _ => readNumber s

/-- the items of a list up to its end; there is one at least -/
def readItems : (fuel : Nat) → List Char → Option (List Json × List Char)
  | 0, _ => none
  | fuel + 1, s => do
    let (v, rest) ← readValue fuel s
    match skipGap rest with
    | ']' :: rest => return ([v], rest)
    | ',' :: rest =>
      let (items, rest) ← readItems fuel (skipGap rest)
      return (v :: items, rest)
    | _ => none

/-- the members of an object up to its end, after those in `done`; there is one at least -/
def readMembers :
    (fuel : Nat) → List Char → (done : List (String × Json)) → Option (List (String × Json) × List Char)
  | 0, _, _ => none
  | fuel + 1, s, done =>
    match s with
    | '"' :: rest => do
      let (name, rest) ← readString rest
      match skipGap rest with
      | ':' :: rest =>
        let (v, rest) ← readValue fuel (skipGap rest)
        let done := setMember name v done
        match skipGap rest with
        | '\x7d' :: rest => return (done, rest)
        | ',' :: rest => readMembers fuel (skipGap rest) done
        | _ => none
      | _ => none
    | _ => none

end

def parse? (text : String) : Option Json := do
  let s := skipGap text.toList
  let (v, rest) ← readValue (s.length + 1) s
  if (skipGap rest).isEmpty then some v else none

end RouteDocs.Json
