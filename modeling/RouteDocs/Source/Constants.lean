import RouteDocs.OrderedMap
import RouteDocs.Source.Scan

/-!
Modules that hold nothing but constants, and the values that their names have when such a module has been carried out.
A name may stand for a text or for a mapping between texts.

Main definition: `constants?`.
-/

namespace RouteDocs.Source

inductive Value where
  | text (s : String)
  /-- the entries of a mapping, in their order -/
  | mapping (entries : OrderedMap String String)
deriving DecidableEq

def Expr.text? : Expr → Option String
  | .constant (.str s _) => some (String.ofList s)
  | _ => none

/-- the entry of a mapping between texts, as its key and its value -/
def textPair? : Option Expr × Expr → Option (String × String)
  | (some key, value) => do return (← key.text?, ← value.text?)
  | (none, _) => none

/-- the value of an expression: of several entries with one key the last counts, in the place of the first -/
def Expr.value? : Expr → Option Value
  | .dict entries => (entries.mapM textPair?).map fun es => .mapping (.ofList es)
  | e => e.text?.map .text

def bind? (value : Value) (names : OrderedMap String Value) : Expr → Option (OrderedMap String Value)
  | .name s => some (names.insert s value)
  | _ => none

variable {π : Type}

/-- carry out a statement: an assignment of a constant, or a constant by itself, which has no effect -/
def carryOut? (names : OrderedMap String Value) : Stmt π → Option (OrderedMap String Value)
  | .expression (.constant _) => some names
  | .assigned targets value => do targets.foldlM (bind? (← value.value?)) names
  | _ => none

/-- the names of a module and their values; nothing if the text is malformed or holds other statements -/
def constants? (text : List Char) : Option (OrderedMap String Value) :=
  match parse text with
  | .error _ => none
  | .ok parsed => parsed.body.foldlM carryOut? ∅

end RouteDocs.Source
