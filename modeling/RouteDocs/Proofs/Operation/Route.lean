/-
The route of an operation is that of the last route line of its block.

- `path_of_read`: the path of an operation that has been read is the one of the last route line.
-/
import RouteDocs.Proofs.Operation.Directives

namespace RouteDocs

open Schema

def Directive.route? : Directive → Option String
  | .router path _ => some path
  | _ => none

/-- what a comment line says of the route: nothing, or a path, or that it is a route line without a path -/
def routeLine? (raw : String) : Option (Option String) :=
  match Directive.ofLine raw with
  | some (.ok directive) => directive.route?.map some
  | some (.error e) => if e.kind = .router then some none else none
  | none => none

def lastRoute? (lines : List String) : Option String := (lines.filterMap routeLine?).getLast?.join

theorem lastRoute?_concat (lines : List String) (raw : String) :
    lastRoute? (lines ++ [raw]) = (routeLine? raw).getD (lastRoute? lines) := by
  rw [lastRoute?, List.filterMap_append, List.filterMap_cons, List.filterMap_nil]
  cases routeLine? raw with
  | none => rw [List.append_nil]; rfl
  | some route => rw [List.getLast?_concat]; rfl

theorem Operation.path_note (o : Operation) (directive : Directive) :
    (o.note directive).path = directive.route?.getD o.path := by
  cases directive <;> rfl

theorem Operation.path_respondPrimitive (o : Operation) (code : Int) (isArray : Bool) (name : String) :
    (o.respondPrimitive code isArray name).path = o.path := by
  cases isArray <;> rfl

theorem Operation.path_settle (o : Operation) (code : Int) (isArray : Bool) (ref package : String)
    (answer : Except ResolveError (List Model)) : (o.settle code isArray ref package answer).1.path = o.path := by
  cases answer with
  | error e => rfl
  | ok ms =>
    cases ms with
    | nil => rfl
    | cons m ms => cases isArray <;> rfl

variable {τ : Type} [TypeLookup τ]

/-- lines that do not fail leave the path of the last route line -/
theorem Draft.Reads.path {package raw : String} {d after : Draft τ} {e : Option CommentError} {seen : List String}
    (h : d.Reads package raw after e) (he : e = none) (hd : d.operation.path = (lastRoute? seen).getD "") :
    after.operation.path = (lastRoute? (seen ++ [raw])).getD "" := by
  rw [lastRoute?_concat]
  cases h with
  | prose line => rw [routeLine?, line]; exact hd
  | malformed line => cases he
  | @directive directive after e line applies =>
    rw [routeLine?, line]
    cases applies with
    | plain hplain log =>
      dsimp only
      rw [Operation.path_note, hd]
      cases directive.route? <;> rfl
    | primitive hprim log => exact (Operation.path_respondPrimitive _ _ _ _).trans hd
    | asked hnone log => exact (Operation.path_settle _ _ _ _ _ _).trans hd

/-- the path of an operation is that of the last route line of its block -/
theorem path_of_read {comments : List String} {r : Resolver τ} {package : String} {o : Operation}
    (h : (readComment comments r package).answer = .ok o) : lastRoute? comments = some o.path := by
  obtain ⟨d, hlines, rfl, -, hpath⟩ := readComment_ok h
  have hend := Draft.applyLines_induction
    (P := fun lines (d : Draft τ) => d.operation.path = (lastRoute? lines).getD "")
    (fun _ _ _ _ hd hline => hline.path rfl hd) (show Operation.blank.path = (lastRoute? []).getD "" from rfl) hlines
  rw [List.nil_append] at hend
  cases hroute : lastRoute? comments with
  | none => rw [hroute] at hend; rw [hend] at hpath; cases hpath
  | some path => rw [hroute] at hend; rw [hend]; rfl

end RouteDocs
