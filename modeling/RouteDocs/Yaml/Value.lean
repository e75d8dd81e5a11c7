/-!
The values of YAML texts. Of a date and of a number that is not whole no more is kept than is asked of a value here:
whether it is empty. Nor is it asked what deeper collections hold.
-/

namespace RouteDocs.Yaml

inductive Value where
  | null
  | bool (b : Bool)
  | int (n : Int)
  /-- a number that is not whole -/
  | real (isZero : Bool)
  | date
  | str (s : String)
  | bytes (b : List UInt8)
  | list (items : List Value)
  | map (entries : List (Value × Value))
  /-- keys without values -/
  | set (keys : List Value)
  /-- a collection, whatever it holds -/
  | collection
deriving Inhabited

namespace Value

/-- is the value one that says nothing: zero, no, null or without content? -/
def isEmpty : Value → Bool
  | null => true
  | bool b => !b
  | int n => n == 0
  | real isZero => isZero
  | str s => s.isEmpty
  | bytes b => b.isEmpty
  | list items => items.isEmpty
  | map entries => entries.isEmpty
  | set keys => keys.isEmpty
  | date | collection => false

/-- are two keys the same text, or the same bytes? Other keys are kept apart. -/
def sameKey : Value → Value → Bool
  | str s, str t => s == t
  | bytes a, bytes b => a == b
  | _, _ => false

def insert (k v : Value) : List (Value × Value) → List (Value × Value)
  | [] => [(k, v)]
  | (l, w) :: rest => if sameKey l k then (l, v) :: rest else (l, w) :: insert k v rest

/-- entries of which the last one with a key counts -/
def ofEntries (entries : List (Value × Value)) : List (Value × Value) :=
  entries.foldl (fun done e => insert e.1 e.2 done) []

end Value

end RouteDocs.Yaml
