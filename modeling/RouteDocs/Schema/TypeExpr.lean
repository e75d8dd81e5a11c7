import RouteDocs.Text.Blank
import RouteDocs.Text.Word

/-!
Type expressions, as they stand in annotations: a name, or wrappers, unions and containers around one.

`reduce` finds the element name of an expression and tells whether a list of elements is meant. Wrappers that do not
change the element are looked through, a union counts as its first member that is not `None`, and an array container
counts as its first argument. Each step goes on with a strictly shorter text, so every text has an answer, however
malformed it is.
-/

namespace RouteDocs.Schema

namespace TypeExpr

open RouteDocs.Text

/-- what an expression comes down to -/
structure Reduced where
  element : List Char
  isArray : Bool
deriving DecidableEq

/-! ## Splitting outside brackets -/

def cons (c : Char) : List (List Char) → List (List Char)
  | [] => [[c]]
  | piece :: others => (c :: piece) :: others

/-- the pieces between the separators that stand outside brackets, given how many brackets are open -/
def splitAt (separator : Char) : (depth : Int) → List Char → List (List Char)
  | _, [] => [[]]
  | depth, c :: rest =>
    if c = '[' then cons c (splitAt separator (depth + 1) rest)
    else if c = ']' then cons c (splitAt separator (depth - 1) rest)
    else if c = separator ∧ depth = 0 then [] :: splitAt separator depth rest
    else cons c (splitAt separator depth rest)

/-- the trimmed pieces between the separators outside brackets -/
def split (separator : Char) (s : List Char) : List (List Char) := (splitAt separator 0 s).map trim

theorem sublist_of_mem_splitAt {separator : Char} {depth : Int} {s piece : List Char}
    (h : piece ∈ splitAt separator depth s) : piece.Sublist s := by
  induction s generalizing depth piece with
  | nil => simp_all [splitAt]
  | cons c rest ih =>
    have consCase : ∀ d, piece ∈ cons c (splitAt separator d rest) → piece.Sublist (c :: rest) := by
      intro d hp
      cases hs : splitAt separator d rest with
      | nil => simp [hs, cons] at hp; simp [hp]
      | cons p ps =>
        rw [hs, cons, List.mem_cons] at hp
        rcases hp with rfl | hp
        · have hm : p ∈ splitAt separator d rest := by simp [hs]
          exact (ih hm).cons_cons c
        · have hm : piece ∈ splitAt separator d rest := by simp [hs, hp]
          exact (ih hm).cons c
    rw [splitAt] at h
    split at h
    · exact consCase _ h
    · split at h
      · exact consCase _ h
      · split at h
        · rcases List.mem_cons.1 h with rfl | h
          · simp
          · exact (ih h).cons c
        · exact consCase _ h

theorem dropWhileEnd_sublist {α : Type} (p : α → Bool) (s : List α) : (dropWhileEnd p s).Sublist s := by
  simpa [dropWhileEnd] using (List.dropWhile_sublist p (l := s.reverse)).reverse

theorem trimWhile_sublist {α : Type} (p : α → Bool) (s : List α) : (trimWhile p s).Sublist s :=
  (dropWhileEnd_sublist p _).trans (List.dropWhile_sublist p)

theorem sublist_of_mem_split {separator : Char} {s piece : List Char} (h : piece ∈ split separator s) :
    piece.Sublist s := by
  obtain ⟨p, hp, rfl⟩ := List.mem_map.1 h
  exact (trimWhile_sublist _ p).trans (sublist_of_mem_splitAt hp)

/-! ## Heads and arguments -/

/-- what the name before the brackets of an expression means -/
inductive Head where
  /-- a wrapper that leaves its first argument as it is -/
  | transparent
  | union
  | array
  | mapping
  | literal
  | other
deriving DecidableEq

/-- the containers whose elements are listed -/
def arrayNames : List String :=
  ["list", "List", "Sequence", "Iterable", "set", "Set", "frozenset", "FrozenSet", "tuple", "Tuple"]

/-- the containers that map keys to values -/
def mappingNames : List String := ["dict", "Dict", "Mapping", "MutableMapping"]

def Head.ofName (name : List Char) : Head :=
  let name := String.ofList name
  if name = "Optional" ∨ name = "Annotated" then .transparent
  else if name = "Union" then .union
  else if name ∈ arrayNames then .array
  else if name ∈ mappingNames then .mapping
  else if name = "Literal" then .literal
  else .other

/-- the segment of a dotted name after its last point -/
def bareName (name : List Char) : List Char := (cutLast '.' name).2

def isNameChar (c : Char) : Bool := isWord c || c == '.'

/-- the module whose name may stand before a wrapper without any meaning of its own -/
def typingPrefix : List Char := "typing.".toList

def dropTyping (name : List Char) : List Char :=
  if typingPrefix.isPrefixOf name ∧ typingPrefix.length < name.length then name.drop typingPrefix.length else name

/-- the name and the text between the brackets of `name[…]` -/
def application? (s : List Char) : Option (List Char × List Char) :=
  match s.dropWhile isNameChar with
  | '[' :: rest =>
    if s.takeWhile isNameChar ≠ [] ∧ rest.getLast? = some ']' then
      some (dropTyping (s.takeWhile isNameChar), rest.dropLast)
    else none
  | _ => none

theorem length_of_application {s name args : List Char} (h : application? s = some (name, args)) :
    args.length < s.length := by
  unfold application? at h
  split at h
  · next rest hr =>
    split at h
    · have hs : rest.length < s.length := by
        have := (List.dropWhile_sublist isNameChar (l := s)).length_le
        rw [hr, List.length_cons] at this
        omega
      simp only [Option.some.injEq, Prod.mk.injEq] at h
      rw [← h.2, List.length_dropLast]
      omega
    · simp at h
  · simp at h

/-! ## Reduction -/

/-- the text of the missing type -/
def noneName : List Char := "None".toList

/-- the outcome for an array whose elements have no type of their own -/
def bareArray : Reduced := ⟨"object".toList, true⟩

def mapping : Reduced := ⟨"dict".toList, false⟩

def isQuote (c : Char) : Bool := c == '\'' || c == '"'

/-- an expression without the blanks and then the quotes around it -/
def unwrap (s : List Char) : List Char := trimWhile isQuote (trim s)

theorem unwrap_sublist (s : List Char) : (unwrap s).Sublist s :=
  (trimWhile_sublist _ _).trans (trimWhile_sublist _ _)

theorem length_lt_of_mem_split {separator : Char} {s piece : List Char} (h : piece ∈ split separator s)
    (hne : piece ≠ s) : piece.length < s.length :=
  Nat.lt_of_le_of_ne (sublist_of_mem_split h).length_le fun hl => hne ((sublist_of_mem_split h).eq_of_length hl)

/-- the first member of a union that is not `None` -/
def firstMember? (members : List (List Char)) : Option (List Char) := members.find? (· != noneName)

theorem mem_of_firstMember {members : List (List Char)} {m : List Char} (h : firstMember? members = some m) :
    m ∈ members := List.mem_of_find?_eq_some h

def firstArgument (args : List Char) : List Char := ((split ',' args).head?).getD []

theorem length_firstArgument_le (args : List Char) : (firstArgument args).length ≤ args.length := by
  unfold firstArgument
  cases h : (split ',' args).head? with
  | none => simp
  | some p => simpa using (sublist_of_mem_split (List.mem_of_mem_head? h)).length_le

/-- one step of a reduction: the answer, or the shorter expression that decides it and whether a list of it is meant -/
inductive Step where
  | done (answer : Reduced)
  | into (inner : List Char) (isArray : Bool)
deriving DecidableEq

def stepName (x : List Char) : Step :=
  match Head.ofName (bareName x) with
  | .array => .done bareArray
  | .mapping => .done mapping
  | _ => .done ⟨x, false⟩

def stepApplication (name args : List Char) : Step :=
  match Head.ofName (bareName name) with
  | .transparent => .into (firstArgument args) false
  | .union =>
    match firstMember? (split ',' args) with
    | some m => .into m false
    | none => .done ⟨noneName, false⟩
  | .array => .into (firstArgument args) true
  | .mapping => .done mapping
  | .literal => .done ⟨"str".toList, false⟩
  | .other => .done ⟨name, false⟩

/-- the step for an expression that is no union -/
def stepSingle (x : List Char) : Step :=
  match application? x with
  | some (name, args) => stepApplication name args
  | none => stepName x

def step (s : List Char) : Step :=
  match unwrap s with
  | '[' :: ']' :: rest => .into rest true
  | x =>
    match firstMember? (split '|' x) with
    | some m => if m ≠ x then .into m false else stepSingle x
    | none => stepSingle x

theorem length_of_stepApplication {name args inner : List Char} {isArray : Bool}
    (h : stepApplication name args = .into inner isArray) : inner.length ≤ args.length := by
  unfold stepApplication at h
  split at h
  · simp only [Step.into.injEq] at h
    exact h.1 ▸ length_firstArgument_le args
  · split at h
    · next m hm =>
      simp only [Step.into.injEq] at h
      exact h.1 ▸ (sublist_of_mem_split (mem_of_firstMember hm)).length_le
    · simp at h
  · simp only [Step.into.injEq] at h
    exact h.1 ▸ length_firstArgument_le args
  all_goals simp at h

theorem length_of_stepSingle {x inner : List Char} {isArray : Bool} (h : stepSingle x = .into inner isArray) :
    inner.length < x.length := by
  unfold stepSingle at h
  split at h
  · next ha => exact Nat.lt_of_le_of_lt (length_of_stepApplication h) (length_of_application ha)
  · unfold stepName at h
    split at h <;> simp at h

/-- every step goes on with a strictly shorter expression -/
theorem length_of_step {s inner : List Char} {isArray : Bool} (h : step s = .into inner isArray) :
    inner.length < s.length := by
  have hs := (unwrap_sublist s).length_le
  unfold step at h
  split at h
  · next rest hx =>
    simp only [Step.into.injEq] at h
    rw [hx, List.length_cons, List.length_cons, h.1] at hs
    omega
  · split at h
    · next m hm =>
      split at h
      · next hne =>
        simp only [Step.into.injEq] at h
        exact Nat.lt_of_lt_of_le (h.1 ▸ length_lt_of_mem_split (mem_of_firstMember hm) hne) hs
      · exact Nat.lt_of_lt_of_le (length_of_stepSingle h) hs
    · exact Nat.lt_of_lt_of_le (length_of_stepSingle h) hs

/-- the element name of an expression, and whether a list of such elements is meant -/
def reduce (s : List Char) : Reduced :=
  match _h : step s with
  | .done answer => answer
  | .into inner isArray =>
    let r := reduce inner
    ⟨r.element, isArray || r.isArray⟩
termination_by s.length
decreasing_by exact length_of_step _h

end TypeExpr

/-- a type expression come down to its element -/
structure ElementType where
  name : String
  isArray : Bool
deriving DecidableEq

def elementType (expr : String) : ElementType :=
  let r := TypeExpr.reduce expr.toList
  ⟨String.ofList r.element, r.isArray⟩

end RouteDocs.Schema
