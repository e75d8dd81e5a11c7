import RouteDocs.Numeral.Integer
import RouteDocs.Yaml.Cursor

/-!
Tags: what kind of value a scalar or a collection is. A plain scalar without a tag has the kind whose form its text has.

Main definitions: `Tag.ofName`, `Tag.ofPlain`.
-/

namespace RouteDocs.Yaml

/-- the kind of a node -/
inductive Tag where
  | null
  | bool
  | int
  | float
  | timestamp
  /-- a key whose value is merged into the mapping -/
  | merge
  /-- a key for the value of a mapping -/
  | value
  | str
  /-- bytes -/
  | binary
  | seq
  | map
  /-- keys without values -/
  | set
  /-- a sequence of mappings with one entry each -/
  | pairs
  | other (name : String)
deriving DecidableEq

/-! ## Forms of plain scalars -/

def nullWords : List String := ["~", "null", "Null", "NULL", ""]

def yesWords : List String := ["yes", "Yes", "YES", "true", "True", "TRUE", "on", "On", "ON"]

def noWords : List String := ["no", "No", "NO", "false", "False", "FALSE", "off", "Off", "OFF"]

/-- a text without a sign at its front -/
def dropSign : List Char → List Char
  | '+' :: rest => rest
  | '-' :: rest => rest
  | s => s

/-- nothing but digits that satisfy `p` and underscores, one of them at least -/
def isRun (p : Char → Bool) (s : List Char) : Bool := !s.isEmpty && s.all fun c => p c || c == '_'

/-- digits and underscores that begin with a digit -/
def isDigitRun (s : List Char) : Bool := s.head?.any Char.isDigit && isRun Char.isDigit s

/-- digits and underscores that begin with a digit other than zero -/
def isPositiveRun (s : List Char) : Bool := s.head? != some '0' && isDigitRun s

/-- a number of minutes or seconds: one digit, or two of which the first is less than six -/
def isSixtieth : List Char → Bool
  | [a] => a.isDigit
  | [a, b] => '0' ≤ a && a ≤ '5' && b.isDigit
  | _ => false

/-- is a text a whole number, in base two, eight, ten, sixteen or sixty? -/
def isInt (s : List Char) : Bool :=
  match dropSign s with
  | ['0'] => true
  | '0' :: 'b' :: digits => isRun (fun c => c == '0' || c == '1') digits
  | '0' :: 'x' :: digits => isRun (fun c => (Text.hexValue? c).isSome) digits
  | '0' :: digits => isRun (fun c => '0' ≤ c && c ≤ '7') digits
  | s => match s.splitOn ':' with
    | first :: more => isPositiveRun first && more.all isSixtieth
    | [] => false

/-- is a text empty, or an exponent with a sign? -/
def isExponent : List Char → Bool
  | [] => true
  | e :: sign :: digits =>
    (e == 'e' || e == 'E') && (sign == '+' || sign == '-') && !digits.isEmpty && digits.all Char.isDigit
  | _ => false

/-- is a text a run of digits and underscores that may be empty, and then an exponent, if anything? -/
def isFraction (s : List Char) : Bool := isExponent (s.dropWhile fun c => c.isDigit || c == '_')

/-- is a text a number in base sixty with a fraction? -/
def isSexagesimalFloat (whole fraction : List Char) : Bool :=
  match whole.splitOn ':' with
  | first :: second :: more =>
    isDigitRun first && (second :: more).all isSixtieth && fraction.all fun c => c.isDigit || c == '_'
  | _ => false

/-- is a text a number with a decimal point? -/
def isFloat (s : List Char) : Bool :=
  let unsigned := dropSign s
  let whole := unsigned.takeWhile (· != '.')
  match unsigned.dropWhile (· != '.') with
  | [] => false
  | _ :: fraction =>
    if whole.isEmpty then
      fraction ∈ ["inf".toList, "Inf".toList, "INF".toList]
        || (unsigned == s && (fraction ∈ ["nan".toList, "NaN".toList, "NAN".toList]
          || (fraction.head?.any Char.isDigit && isFraction fraction)))
    else (isDigitRun whole && isFraction fraction) || isSexagesimalFloat whole fraction

/-! ## Dates -/

/-- a date, or a date with a time -/
structure Timestamp where
  year : Nat
  month : Nat
  day : Nat
  /-- the hour, the minute and the second, and how many minutes the zone is off -/
  time : Option (Nat × Nat × Nat × Nat)
deriving DecidableEq

/-- between `least` and `most` digits at the front, as many as there are -/
def digits? (least most : Nat) (s : List Char) : Option (Nat × List Char) :=
  let run := (s.take most).takeWhile Char.isDigit
  if run.length < least then none else some (Numeral.inBase 10 run, s.drop run.length)

def after? (c : Char) : List Char → Option (List Char)
  | [] => none
  | d :: rest => if c == d then some rest else none

/-- how many minutes a zone is off, or nothing if no zone is given -/
def zone? (s : List Char) : Option Nat :=
  match s.dropWhile isGap with
  | [] => if s.isEmpty then some 0 else none
  | ['Z'] => some 0
  | sign :: rest => do
    if sign != '+' && sign != '-' then none
    let (hours, rest) ← digits? 1 2 rest
    if rest.isEmpty then return 60 * hours
    let (minutes, rest) ← digits? 2 2 (← after? ':' rest)
    if rest.isEmpty then return 60 * hours + minutes else none

/-- a time: hours, minutes and seconds, which may have a fraction, and a zone -/
def time? (s : List Char) : Option (Nat × Nat × Nat × Nat) := do
  let (hour, rest) ← digits? 1 2 s
  let (minute, rest) ← digits? 2 2 (← after? ':' rest)
  let (second, rest) ← digits? 2 2 (← after? ':' rest)
  let rest := match rest with
    | '.' :: fraction => fraction.dropWhile Char.isDigit
    | s => s
  return (hour, minute, second, ← zone? rest)

/-- a date, with a time or without -/
def timestamp? (s : List Char) : Option Timestamp := do
  let (year, rest) ← digits? 4 4 s
  let (month, rest) ← digits? 1 2 (← after? '-' rest)
  let (day, rest) ← digits? 1 2 (← after? '-' rest)
  match rest with
  | [] => return ⟨year, month, day, none⟩
  | c :: rest =>
    if c == 'T' || c == 't' then return ⟨year, month, day, some (← time? rest)⟩
    else if isGap c then return ⟨year, month, day, some (← time? (rest.dropWhile isGap))⟩
    else none

/-- is a text a date, written in full, or a date with a time? -/
def isTimestamp (s : List Char) : Bool :=
  match timestamp? s with
  | none => false
  | some t => t.time.isSome || s.length = 10

def daysIn (year month : Nat) : Nat :=
  if month = 2 then if year % 4 = 0 ∧ (year % 100 ≠ 0 ∨ year % 400 = 0) then 29 else 28
  else if month ∈ [4, 6, 9, 11] then 30
  else 31

/-- is there such a date, and such a time? -/
def Timestamp.isValid (t : Timestamp) : Bool :=
  1 ≤ t.year && 1 ≤ t.month && t.month ≤ 12 && 1 ≤ t.day && t.day ≤ daysIn t.year t.month
    && t.time.all fun (hour, minute, second, off) => hour < 24 && minute < 60 && second < 60 && off < 24 * 60

namespace Tag

/-- what the names of the common tags begin with -/
def common : String := "tag:yaml.org,2002:"

def ofName (name : String) : Tag :=
  let tags : List (String × Tag) := [("null", null), ("bool", bool), ("int", int), ("float", float),
    ("timestamp", timestamp), ("merge", merge), ("value", value), ("str", str), ("binary", binary), ("seq", seq),
    ("map", map), ("set", set), ("pairs", pairs), ("omap", pairs)]
  match tags.find? fun t => common ++ t.1 == name with
  | some t => t.2
  | none => other name

/-- a text without the line end at its end, if it has one and more than that -/
def dropLineEnd (s : List Char) : List Char :=
  match s.getLast? with
  | some '\n' => if s.length = 1 then s else s.dropLast
  | _ => s

/-- the tag of a plain scalar; a line end at the end of the text does not count -/
def ofPlain (text : String) : Tag :=
  let s := dropLineEnd text.toList
  let word := String.ofList s
  if word ∈ nullWords then null
  else if word ∈ yesWords ∨ word ∈ noWords then bool
  else if word = "<<" then merge
  else if word = "=" then value
  else if word ∈ ["!", "&", "*"] then other (common ++ "yaml")
  else if isInt s then int
  else if isFloat s then float
  else if isTimestamp s then timestamp
  else str

end Tag

end RouteDocs.Yaml
