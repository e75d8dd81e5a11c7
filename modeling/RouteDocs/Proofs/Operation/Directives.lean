/-
What directives do to an operation in the making.

Only the directive that names the type of a response asks the resolver. Every other one changes the operation in a way
that depends on nothing else (`Operation.note`), and never fails.

- `Draft.applies_apply`: applying a directive comes to one of the cases of `Draft.Applies`.
- `Draft.reads_applyLine`: so does reading a line, in `Draft.Reads`.
- `readsBlock_readComment`: so does reading a comment block, in `ReadsBlock`.
-/
import RouteDocs.Operation.Comment

namespace RouteDocs

open Schema

def Operation.accept (o : Operation) (types : List String) : Operation :=
  { o with consumes := o.consumes ++ types, produces := o.produces ++ types }

/-- an operation after a directive that names no type -/
def Operation.note (o : Operation) : Directive → Operation
  | .router path method => { o with path, method }
  | .title text => { o with nickname := text }
  | .description text => { o with summary := text }
  | .param name paramType dataType required description =>
    { o with parameters := o.parameters ++ [⟨name, paramType, dataType, dataType, required, description⟩] }
  | .failure code message | .successMessage code message => o.respond ⟨code, message, none⟩
  | .accept tokens => o.accept (tokens.filterMap (List.lookup · contentTypes))
  | .successType _ _ _ => o

/-- an operation with a response of a primitive type, or of an array of it -/
def Operation.respondPrimitive (o : Operation) (code : Int) (isArray : Bool) (name : String) : Operation :=
  (o.answerPrimitive isArray name).respond ⟨code, "", none⟩

/-- an operation with a response of a model, or of an array of it; the models that it reaches come along -/
def Operation.respondModel (o : Operation) (code : Int) (isArray : Bool) (m : Model) (ms : List Model) : Operation :=
  ({ o with models := addModels o.models (m :: ms) }.answerModel isArray m.id).respond ⟨code, "", some m.id⟩

/-- an operation after the resolver has answered for the type of a response, and why that ends the block, if it does -/
def Operation.settle (o : Operation) (code : Int) (isArray : Bool) (ref package : String) :
    Except ResolveError (List Model) → Operation × Option CommentError
  | .error e => (o, some (.resolve e))
  | .ok [] => (o, some (.resolve (.unresolved ref package)))
  | .ok (m :: ms) => (o.respondModel code isArray m ms, none)

/-- the type that a directive names for a response, and whether it is that of an array -/
def Directive.typed? : Directive → Option (Bool × String)
  | .successType _ isArray ref => some (isArray, ref)
  | _ => none

variable {τ : Type} [TypeLookup τ]

namespace Draft

omit [TypeLookup τ] in
theorem foldl_acceptToken (line : String) (tokens : List String) (d : Draft τ) :
    ∃ log, tokens.foldl (acceptToken line) d
      = ⟨d.operation.accept (tokens.filterMap (List.lookup · contentTypes)), d.resolver, log⟩ := by
  induction tokens generalizing d with
  | nil => exact ⟨d.log, by simp [Operation.accept]⟩
  | cons token rest ih =>
    rw [List.foldl_cons, List.filterMap_cons, acceptToken]
    cases contentTypes.lookup token with
    | none => exact ih _
    | some t =>
      obtain ⟨log, hlog⟩ := ih (d.edit (·.accept [t]))
      refine ⟨log, hlog.trans ?_⟩
      simp [edit, Operation.accept, List.append_assoc]

/-- what a directive, seen from a module, does to a draft -/
inductive Applies (package : String) (d : Draft τ) : Directive → Draft τ → Option CommentError → Prop
  | plain {directive : Directive} (h : directive.typed? = none) (log : List Event) :
    Applies package d directive ⟨d.operation.note directive, d.resolver, log⟩ none
  | primitive {code : Int} {isArray : Bool} {ref name : String} (h : d.resolver.primitiveName? ref = some name)
    (log : List Event) :
    Applies package d (.successType code isArray ref)
      ⟨d.operation.respondPrimitive code isArray name, d.resolver, log⟩ none
  | asked {code : Int} {isArray : Bool} {ref : String} (h : d.resolver.primitiveName? ref = none) (log : List Event) :
    Applies package d (.successType code isArray ref)
      ⟨(d.operation.settle code isArray ref package (d.resolver.resolve ref package).answer).1,
        (d.resolver.resolve ref package).resolver, log⟩
      (d.operation.settle code isArray ref package (d.resolver.resolve ref package).answer).2

theorem applies_apply (package line : String) (d : Draft τ) (directive : Directive) :
    d.Applies package directive (d.apply package line directive).1 (d.apply package line directive).2 := by
  cases directive with
  | successType code isArray ref =>
    rw [apply]
    cases h : d.resolver.primitiveName? ref with
    | some name => exact .primitive h _
    | none =>
      have happlies := @Applies.asked τ _ package d code isArray ref h
      dsimp only
      cases answer : (d.resolver.resolve ref package).answer with
      | error e => rw [answer] at happlies; exact happlies _
      | ok models =>
        rw [answer] at happlies
        cases models with
        | nil => exact happlies _
        | cons m ms => exact happlies _
  | accept tokens =>
    obtain ⟨log, hlog⟩ := foldl_acceptToken line tokens d
    rw [apply, hlog]
    exact .plain rfl log
  | router path method => exact .plain rfl _
  | title text => exact .plain rfl _
  | description text => exact .plain rfl _
  | param name paramType dataType required description => exact .plain rfl _
  | failure code message => exact .plain rfl _
  | successMessage code message => exact .plain rfl _

/-- what a comment line, seen from a module, does to a draft -/
inductive Reads (package : String) (d : Draft τ) (raw : String) : Draft τ → Option CommentError → Prop
  | prose (line : Directive.ofLine raw = none) : Reads package d raw d none
  | malformed {e : DirectiveError} (line : Directive.ofLine raw = some (.error e)) :
    Reads package d raw d (some (.directive e))
  | directive {directive : Directive} {after : Draft τ} {e : Option CommentError}
    (line : Directive.ofLine raw = some (.ok directive)) (applies : d.Applies package directive after e) :
    Reads package d raw after e

theorem reads_applyLine (package : String) (d : Draft τ) (raw : String) :
    d.Reads package raw (d.applyLine package raw).1 (d.applyLine package raw).2 := by
  unfold applyLine
  split
  · next line => exact .prose line
  · next e line => exact .malformed line
  · next directive line => exact .directive line (applies_apply package _ d directive)

/-- what holds of a draft and the lines read before, if every line keeps it, holds after lines that do not fail -/
theorem applyLines_induction {package : String} {P : List String → Draft τ → Prop}
    (step : ∀ seen d raw after, P seen d → d.Reads package raw after none → P (seen ++ [raw]) after)
    {seen lines : List String} {d after : Draft τ} (h : P seen d)
    (hread : d.applyLines package lines = (after, none)) : P (seen ++ lines) after := by
  induction lines generalizing seen d with
  | nil =>
    rw [applyLines] at hread
    obtain ⟨rfl, -⟩ := Prod.mk.inj hread
    rwa [List.append_nil]
  | cons raw rest ih =>
    have hline := reads_applyLine package d raw
    rw [applyLines] at hread
    split at hread
    · next d' happly =>
      rw [happly] at hline
      have := ih (step seen d raw d' h hline) hread
      rwa [List.append_assoc] at this
    · cases hread

/-- what every line keeps holds after lines, whether they fail or not, and a failure is that of one of the lines -/
theorem applyLines_keeps (package : String) (lines : List String) {P : Draft τ → Prop}
    (step : ∀ d raw after e, raw ∈ lines → P d → d.Reads package raw after e → P after) {d : Draft τ}
    (h : P d) :
    P (d.applyLines package lines).1 ∧ ∀ err ∈ (d.applyLines package lines).2,
      ∃ d' raw after, raw ∈ lines ∧ P d' ∧ d'.Reads package raw after (some err) := by
  induction lines generalizing d with
  | nil => exact ⟨h, fun err he => (by cases he)⟩
  | cons raw rest ih =>
    have hline := reads_applyLine package d raw
    have hfirst := step d raw _ _ List.mem_cons_self h hline
    rw [applyLines]
    generalize d.applyLine package raw = outcome at hline hfirst
    obtain ⟨after, e⟩ := outcome
    cases e with
    | none =>
      have hrest : ∀ d raw after e, raw ∈ rest → P d → d.Reads package raw after e → P after :=
        fun d raw after e hraw => step d raw after e (List.mem_cons_of_mem _ hraw)
      obtain ⟨hend, hfault⟩ := ih hrest hfirst
      refine ⟨hend, fun err he => ?_⟩
      obtain ⟨d', raw', after', hraw', hfailed⟩ := hfault err he
      exact ⟨d', raw', after', List.mem_cons_of_mem _ hraw', hfailed⟩
    | some e =>
      refine ⟨hfirst, fun err he => ?_⟩
      obtain rfl : e = err := Option.some.inj he
      exact ⟨d, raw, after, List.mem_cons_self, h, hline⟩

/-- a line that fails does not say that there is nothing to document -/
theorem Reads.documented {package raw : String} {d after : Draft τ} {err : CommentError}
    (h : d.Reads package raw after (some err)) : err.isUndocumented = false := by
  generalize he : some err = e at h
  cases h with
  | prose line => cases he
  | malformed line => cases he; rfl
  | directive line applies =>
    cases applies with
    | plain hd log => cases he
    | primitive hp log => cases he
    | asked hp log =>
      rw [Operation.settle.eq_def] at he
      split at he <;> cases he <;> rfl

/-- what every call of a resolver keeps holds after a line, whether it fails or not -/
theorem Reads.resolver {Q : Resolver τ → Prop} (call : ∀ r ref package, Q r → Q (r.resolve ref package).resolver)
    {package raw : String} {d after : Draft τ} {e : Option CommentError} (h : d.Reads package raw after e)
    (hd : Q d.resolver) : Q after.resolver := by
  cases h with
  | prose line => exact hd
  | malformed line => exact hd
  | directive line applies =>
    cases applies with
    | plain hplain log => exact hd
    | primitive hp log => exact hd
    | asked hp log => exact call _ _ _ hd

end Draft

/-! ## Blocks -/

/-- what reading a comment block comes to -/
inductive ReadsBlock (package : String) (r : Resolver τ) : List String → Reading τ → Prop
  | empty : ReadsBlock package r [] ⟨.error .empty, r, []⟩
  | stopped {lines : List String} {d : Draft τ} {e : CommentError}
    (applied : Draft.applyLines package ⟨.blank, r, []⟩ lines = (d, some e)) :
    ReadsBlock package r lines ⟨.error e, d.resolver, d.log⟩
  | routeless {lines : List String} {d : Draft τ}
    (applied : Draft.applyLines package ⟨.blank, r, []⟩ lines = (d, none))
    (noPath : d.operation.path.isEmpty = true) : ReadsBlock package r lines ⟨.error .noRoute, d.resolver, d.log⟩
  | read {lines : List String} {d : Draft τ} (applied : Draft.applyLines package ⟨.blank, r, []⟩ lines = (d, none))
    (path : d.operation.path.isEmpty = false) : ReadsBlock package r lines ⟨.ok d.operation, d.resolver, d.log⟩

/-- **Cases of a block.** A block is empty, stops at a line that fails, has no route, or documents an operation. -/
theorem readsBlock_readComment (comments : List String) (r : Resolver τ) (package : String) :
    ReadsBlock package r comments (readComment comments r package) := by
  unfold readComment
  split
  · next hempty =>
    obtain rfl := List.isEmpty_iff.1 hempty
    exact .empty
  · split
    · next d e applied => exact .stopped applied
    · next d applied =>
      split
      · next noPath => exact .routeless applied noPath
      · next path => exact .read applied (Bool.eq_false_iff.2 path)

/-- what every call of a resolver keeps holds after a comment block has been read, whatever it comes to -/
theorem readComment_resolver {Q : Resolver τ → Prop}
    (call : ∀ r ref package, Q r → Q (r.resolve ref package).resolver)
    (comments : List String) (r : Resolver τ) (package : String) (h : Q r) :
    Q (readComment comments r package).resolver := by
  have hlines := (Draft.applyLines_keeps package comments (P := fun d : Draft τ => Q d.resolver)
    (fun _ _ _ _ _ hd hline => hline.resolver call hd) (d := ⟨.blank, r, []⟩) h).1
  have hblock := readsBlock_readComment comments r package
  generalize readComment comments r package = reading at hblock
  cases hblock with
  | empty => exact h
  | stopped applied => rw [applied] at hlines; exact hlines
  | routeless applied noPath => rw [applied] at hlines; exact hlines
  | read applied path => rw [applied] at hlines; exact hlines

/-- a block that documents an operation has been read to its end -/
theorem readComment_ok {comments : List String} {r : Resolver τ} {package : String} {o : Operation}
    (h : (readComment comments r package).answer = .ok o) :
    ∃ d, Draft.applyLines package ⟨.blank, r, []⟩ comments = (d, none) ∧ d.operation = o ∧
      (readComment comments r package).resolver = d.resolver ∧ o.path.isEmpty = false := by
  have hblock := readsBlock_readComment comments r package
  generalize readComment comments r package = reading at hblock h
  cases hblock with
  | empty => cases h
  | stopped applied => cases h
  | routeless applied noPath => cases h
  | @read lines d applied path =>
    obtain rfl := Except.ok.inj h
    exact ⟨d, applied, rfl, rfl, path⟩

end RouteDocs
