import RouteDocs.Numeral.Binary64

/-!
Trees of objects, lists and scalars. The members of an object stand in a definite order.

Main definitions: `Json`, `Json.isEmpty`, `Json.dropEmpty`.
-/

namespace RouteDocs

/-- a tree of objects, lists and scalars -/
inductive Json where
  | null
  | bool (b : Bool)
  | int (n : Int)
  | real (x : Numeral.Binary64)
  | str (s : String)
  | arr (items : List Json)
  | obj (members : List (String × Json))
deriving Inhabited

namespace Json

mutual

/-- are two trees the same, the order of members included? -/
def decEq : (a b : Json) → Decidable (a = b)
  | .null, .null => isTrue rfl
  | .bool a, .bool b => decidable_of_iff (a = b) (by simp)
  | .int a, .int b => decidable_of_iff (a = b) (by simp)
  | .real a, .real b => decidable_of_iff (a = b) (by simp)
  | .str a, .str b => decidable_of_iff (a = b) (by simp)
  | .arr a, .arr b => @decidable_of_iff _ (a = b) (by simp) (decEqItems a b)
  | .obj a, .obj b => @decidable_of_iff _ (a = b) (by simp) (decEqMembers a b)
  | .null, .bool _ | .null, .int _ | .null, .real _ | .null, .str _ | .null, .arr _ | .null, .obj _
  | .bool _, .null | .bool _, .int _ | .bool _, .real _ | .bool _, .str _ | .bool _, .arr _ | .bool _, .obj _
  | .int _, .null | .int _, .bool _ | .int _, .real _ | .int _, .str _ | .int _, .arr _ | .int _, .obj _
  | .real _, .null | .real _, .bool _ | .real _, .int _ | .real _, .str _ | .real _, .arr _ | .real _, .obj _
  | .str _, .null | .str _, .bool _ | .str _, .int _ | .str _, .real _ | .str _, .arr _ | .str _, .obj _
  | .arr _, .null | .arr _, .bool _ | .arr _, .int _ | .arr _, .real _ | .arr _, .str _ | .arr _, .obj _
  | .obj _, .null | .obj _, .bool _ | .obj _, .int _ | .obj _, .real _ | .obj _, .str _ | .obj _, .arr _ =>
    isFalse (by simp)

def decEqItems : (a b : List Json) → Decidable (a = b)
  | [], [] => isTrue rfl
  | a :: as, b :: bs =>
    match decEq a b with
    | isTrue h => @decidable_of_iff _ (as = bs) (by simp [h]) (decEqItems as bs)
    | isFalse h => isFalse (by simp [h])
  | [], _ :: _ | _ :: _, [] => isFalse (by simp)

def decEqMembers : (a b : List (String × Json)) → Decidable (a = b)
  | [], [] => isTrue rfl
  | (k, a) :: as, (l, b) :: bs =>
    if hk : k = l then
      match decEq a b with
      | isTrue h => @decidable_of_iff _ (as = bs) (by simp [hk, h]) (decEqMembers as bs)
      | isFalse h => isFalse (by simp [h])
    else isFalse (by simp [hk])
  | [], _ :: _ | _ :: _, [] => isFalse (by simp)

end

instance : DecidableEq Json := decEq

/-- an absent or empty value: null, the empty text, the empty list, the empty object -/
def isEmpty : Json → Bool
  | .null => true
  | .str s => s.isEmpty
  | .arr [] => true
  | .obj [] => true
  | _ => false

mutual

/-- drop every object member that is empty, from the inside out; items of lists stay -/
def dropEmpty : Json → Json
  | .arr items => .arr (dropEmptyItems items)
  | .obj members => .obj (dropEmptyMembers members)
  | v => v

def dropEmptyItems : List Json → List Json
  | [] => []
  | v :: rest => dropEmpty v :: dropEmptyItems rest

/-- `dropEmpty` on every member, less those that are empty then -/
def dropEmptyMembers : List (String × Json) → List (String × Json)
  | [] => []
  | (k, v) :: rest =>
    let v := dropEmpty v
    if v.isEmpty then dropEmptyMembers rest else (k, v) :: dropEmptyMembers rest

end

/-- the value of the first member of a name -/
def member? (members : List (String × Json)) (name : String) : Option Json :=
  members.lookup name

end Json

end RouteDocs
