/-
The type of an operation and the elements of its array.

A response line that names a type gives it to the operation, and a line that names an array gives the elements too.
No line takes elements back. So they are those of the last line that names an array, whatever comes after it, and they
do not fit the type of the operation just when a single object comes after it.

- `Draft.applyLines_facts`: lines that are read to their end add the facts of their directives.
- `operation_of_read`: an operation that has been read is that of the facts of its block.
- `responseType_of_read`: its type and its elements, and when they fit together.
-/
import RouteDocs.Proofs.Operation.Block

namespace RouteDocs

open Schema

/-! ## Blocks as facts -/

/-- the directives that lines hold; prose and lines that can not be read hold none -/
def directivesOf (lines : List String) : List Directive :=
  lines.filterMap fun raw => (Directive.ofLine raw).bind Except.toOption

variable {τ : Type} [TypeLookup τ]

/-- a directive that does not fail can be answered for -/
theorem Directive.answerable_of_applies {package : String} {d after : Draft τ} {directive : Directive}
    {e : Option CommentError} (h : d.Applies package directive after e) (he : e = none) :
    directive.Answerable package d.resolver := by
  cases h with
  | plain untyped log =>
    cases directive with
    | successType code isArray ref => cases untyped
    | _ => trivial
  | primitive named log => exact Or.inl ⟨_, named⟩
  | @asked code isArray ref composite log =>
    cases answered : (d.resolver.resolve ref package).answer with
    | error error => rw [answered] at he; cases he
    | ok ms => exact Or.inr ⟨ms, answered⟩

/-- **Lines that are read to their end.** All their directives could be answered for, and each has added its fact. -/
theorem Draft.applyLines_facts {package : String} {lines : List String} {d after : Draft τ}
    (h : d.applyLines package lines = (after, none)) :
    Directive.AllAnswerable package d.resolver (directivesOf lines) ∧
      after.operation = (Directive.facts package d.resolver (directivesOf lines)).foldl Operation.add d.operation := by
  induction lines generalizing d with
  | nil =>
    rw [applyLines] at h
    obtain ⟨rfl, -⟩ := Prod.mk.inj h
    exact ⟨trivial, rfl⟩
  | cons raw rest ih =>
    rw [applyLines] at h
    split at h
    · next middle hline =>
      obtain ⟨hrest, hoperation⟩ := ih h
      rw [applyLine] at hline
      split at hline
      · next prose =>
        obtain ⟨rfl, -⟩ := Prod.mk.inj hline
        have hsame : directivesOf (raw :: rest) = directivesOf rest := by simp [directivesOf, prose]
        rw [hsame]
        exact ⟨hrest, hoperation⟩
      · next e malformed => cases hline
      · next directive read =>
        have hsplit : directivesOf (raw :: rest) = directive :: directivesOf rest := by
          simp [directivesOf, read, Except.toOption]
        have hanswerable := Directive.answerable_of_applies
          (hline ▸ applies_apply package (String.ofList (stripMarker raw.toList)) d directive) rfl
        obtain ⟨fact, log, hfact, happly⟩ :=
          d.apply_answerable package (String.ofList (stripMarker raw.toList)) hanswerable
        obtain ⟨rfl, -⟩ := Prod.mk.inj (happly.symm.trans hline)
        rw [hsplit, Directive.facts, hfact]
        exact ⟨⟨hanswerable, hrest⟩, hoperation⟩
    · cases h

/-- **Operations are their facts.** An operation that has been read is the one that the facts of its block describe. -/
theorem operation_of_read {comments : List String} {r : Resolver τ} {package : String} {o : Operation}
    (h : (readComment comments r package).answer = .ok o) :
    Directive.AllAnswerable package r (directivesOf comments) ∧
      o = .ofFacts (Directive.facts package r (directivesOf comments)) := by
  obtain ⟨d, hlines, rfl, -, -⟩ := readComment_ok h
  obtain ⟨hanswerable, hoperation⟩ := Draft.applyLines_facts hlines
  exact ⟨hanswerable, hoperation.trans (Operation.ofFacts_eq_foldl _).symm⟩

/-! ## Bodies -/

/-- what a response line says of the body: an object of a type, or an array of it -/
structure Body where
  isArray : Bool
  type : BodyType

def BodyType.items : BodyType → Items
  | primitive name => ⟨none, some name⟩
  | model root _ => ⟨some root.id, none⟩

def Fact.body? : Fact → Option Body
  | body _ isArray type => some ⟨isArray, type⟩
  | _ => none

/-- the bodies that the lines of a block name, in order, each with its type as the shared resolver answers for it when
the line is reached -/
def bodiesOf (package : String) (r : Resolver τ) (lines : List String) : List Body :=
  (Directive.facts package r (directivesOf lines)).filterMap Fact.body?

/-- type and elements of an operation are both what the last body says -/
def Operation.FitsLast (o : Operation) (bodies : List Body) : Prop :=
  match bodies.getLast? with
  | none => o.type = "" ∧ o.items = none
  | some ⟨true, type⟩ => o.type = "array" ∧ o.items = some type.items
  | some ⟨false, type⟩ => o.type = type.name ∧ o.items = none

/-- every line that names a type has its body, in its place -/
theorem map_isArray_facts {package : String} {r : Resolver τ} {ds : List Directive}
    (h : Directive.AllAnswerable package r ds) :
    ((Directive.facts package r ds).filterMap Fact.body?).map Body.isArray
      = (ds.filterMap Directive.typed?).map Prod.fst := by
  induction ds generalizing r with
  | nil => rfl
  | cons d ds ih =>
    obtain ⟨hd, hds⟩ := h
    rw [Directive.facts, List.filterMap_append, List.map_append, ih hds, List.filterMap_cons]
    cases d with
    | successType code isArray ref =>
      obtain ⟨type, htype⟩ : ∃ type, r.bodyType? ref package = some type := by
        cases hp : r.primitiveName? ref with
        | some name => exact ⟨_, Resolver.bodyType?_primitive hp package⟩
        | none =>
          obtain ⟨name, named⟩ | ⟨ms, answered⟩ := hd
          · rw [hp] at named
            cases named
          · obtain ⟨m, ms, rfl⟩ := List.exists_cons_of_ne_nil (Resolver.resolve_ne_nil hp answered)
            exact ⟨_, Resolver.bodyType?_model hp answered⟩
      rw [Directive.fact?, htype]
      rfl
    | _ => rfl

/-- the type of an operation is that of the last body -/
theorem Operation.type_ofFacts (facts : List Fact) : (ofFacts facts).type =
    (((facts.filterMap Fact.body?).getLast?).map fun b => if b.isArray then "array" else b.type.name).getD "" := by
  have htype : Fact.type? = fun f => f.body?.map fun b => if b.isArray then "array" else b.type.name := by
    funext f
    cases f <;> rfl
  change (lastOf Fact.type? facts).getD "" = _
  rw [lastOf, htype, ← List.getLast?_map, List.map_filterMap]

/-- the elements are those of the last body that is an array -/
theorem Operation.items_ofFacts (facts : List Fact) : (ofFacts facts).items =
    ((facts.filterMap Fact.body?).filter Body.isArray).getLast?.map fun b => b.type.items := by
  have hitems : Fact.items? = fun f => (f.body?.filter Body.isArray).map fun b => b.type.items := by
    funext f
    cases f with
    | body code isArray type => cases isArray <;> cases type <;> rfl
    | _ => rfl
  change lastOf Fact.items? facts = _
  rw [lastOf, hitems, ← List.getLast?_map, ← List.filterMap_eq_filter, List.map_filterMap, List.filterMap_filterMap]
  congr 2
  funext f
  cases f.body? with
  | none => rfl
  | some b => cases b.isArray <;> simp [Option.filter, Option.guard]

/-- the last body that is an array comes last of all unless an object comes after it -/
theorem getLast?_filter_isArray {bodies : List Body} {type : BodyType} (h : bodies.getLast? = some ⟨true, type⟩) :
    (bodies.filter Body.isArray).getLast? = some ⟨true, type⟩ := by
  obtain ⟨earlier, rfl⟩ := List.getLast?_eq_some_iff.1 h
  rw [List.filter_append]
  exact List.getLast?_concat

/-- **Response types.** The type of an operation that has been read is that of the last body which its block names, and
its elements are those of the last body that is an array. So both are what the last body says, unless that is an object
and an earlier one is an array. -/
theorem responseType_of_read {comments : List String} {r : Resolver τ} {package : String} {o : Operation}
    (h : (readComment comments r package).answer = .ok o) :
    (bodiesOf package r comments).map Body.isArray
        = ((directivesOf comments).filterMap Directive.typed?).map Prod.fst ∧
      o.type = ((bodiesOf package r comments).getLast?.map
        fun b => if b.isArray then "array" else b.type.name).getD "" ∧
      o.items = ((bodiesOf package r comments).filter Body.isArray).getLast?.map (fun b => b.type.items) ∧
      (o.FitsLast (bodiesOf package r comments) ↔ ∀ b, (bodiesOf package r comments).getLast? = some b →
        b.isArray = false → ∀ earlier ∈ bodiesOf package r comments, earlier.isArray = false) := by
  obtain ⟨hanswerable, rfl⟩ := operation_of_read h
  have htype := Operation.type_ofFacts (Directive.facts package r (directivesOf comments))
  have hitems := Operation.items_ofFacts (Directive.facts package r (directivesOf comments))
  refine ⟨map_isArray_facts hanswerable, htype, hitems, ?_⟩
  change _ = ((bodiesOf package r comments).getLast?.map _).getD _ at htype
  change _ = ((bodiesOf package r comments).filter _).getLast?.map _ at hitems
  generalize bodiesOf package r comments = bodies at htype hitems
  rw [Operation.FitsLast, htype, hitems]
  cases hlast : bodies.getLast? with
  | none =>
    obtain rfl := List.getLast?_eq_none_iff.1 hlast
    simp
  | some b =>
    obtain ⟨isArray, type⟩ := b
    cases isArray with
    | true => simp [getLast?_filter_isArray hlast]
    | false => simp

/-- the last body is an array just if the last line that names a type names an array -/
theorem isArray_getLast? {comments : List String} {r : Resolver τ} {package : String} {o : Operation}
    (h : (readComment comments r package).answer = .ok o) :
    (bodiesOf package r comments).getLast?.map Body.isArray
      = (((directivesOf comments).filterMap Directive.typed?).map Prod.fst).getLast? := by
  rw [← map_isArray_facts (operation_of_read h).1, List.getLast?_map]
  rfl

/-- the lines of a block that names an object and then an array -/
def listingLines : List String :=
  ["# @Success 200 \x7bobject\x7d str", "# @Success 201 \x7barray\x7d Pet", "# @router /pets"]

def listingOperation : Operation where
  type := "array"
  items := some ⟨some "Pet", none⟩
  responses := [⟨200, "", none⟩, ⟨201, "", some "Pet"⟩]
  path := "/pets"
  models := zooModels

/-- The array comes last, and type and elements are what it says. -/
theorem responseType_of_read_listing :
    (readComment listingLines (Resolver.new zooClasses ∅) "zoo").answer = .ok listingOperation ∧
      listingOperation.FitsLast (bodiesOf "zoo" (Resolver.new zooClasses ∅) listingLines) := by
  have h : (readComment listingLines (Resolver.new zooClasses ∅) "zoo").answer = .ok listingOperation := by
    decide +kernel
  refine ⟨h, (responseType_of_read h).2.2.2.2 fun b hb hobject => ?_⟩
  have hlast := isArray_getLast? h
  have harray : (((directivesOf listingLines).filterMap Directive.typed?).map Prod.fst).getLast? = some true := by
    decide +kernel
  rw [hb, harray, Option.map_some, hobject] at hlast
  cases hlast

/-- the lines of a block that names an array and then an object -/
def countLines : List String :=
  ["# @Success 200 \x7barray\x7d int", "# @Success 201 \x7bobject\x7d str", "# @router /count"]

/-- the operation of the block: a text with elements -/
def countOperation : Operation where
  type := "str"
  items := some ⟨none, some "int"⟩
  responses := [⟨200, "", none⟩, ⟨201, "", none⟩]
  path := "/count"

/-- **Elements that stay.** The last body is an object, and the operation still has the elements of an array. -/
theorem elements_left_over :
    (readComment countLines (Resolver.new zooClasses ∅) "zoo").answer = .ok countOperation ∧
      ¬ countOperation.FitsLast (bodiesOf "zoo" (Resolver.new zooClasses ∅) countLines) := by
  have h : (readComment countLines (Resolver.new zooClasses ∅) "zoo").answer = .ok countOperation := by
    decide +kernel
  refine ⟨h, ?_⟩
  have hlast := isArray_getLast? h
  have hobject : (((directivesOf countLines).filterMap Directive.typed?).map Prod.fst).getLast? = some false := by
    decide +kernel
  obtain ⟨⟨isArray, type⟩, hb, rfl⟩ := Option.map_eq_some_iff.1 (hlast.trans hobject)
  rw [Operation.FitsLast, hb]
  rintro ⟨-, hitems⟩
  cases hitems

end RouteDocs
