/-
When a comment block fails, and with what.

A block is read line by line, and the first line with an error decides, whatever comes after it. The errors of a line
are listed in `LineError`: the faults of its own text, and the failure of the resolver to answer for the type that it
names. The resolver is the one that the lines before have left. A block without such a line fails only if it is empty
or has no route line.

- `lineError_iff`: a line fails just with its error.
- `Draft.applyLines_error_iff`: lines fail just with the error of the first line that has one.
- `Draft.path_applyLines_iff`: lines that do not fail leave a path just if there is a route line.
- `readComment_answer`: the answer of every block.
-/
import RouteDocs.Proofs.Operation.Method
import RouteDocs.Proofs.Operation.Supported
import RouteDocs.Proofs.Schema.Session

namespace RouteDocs

open Text Schema

/-! ## Errors of a line -/

variable {τ : Type} [TypeLookup τ]

/-- why a comment line can not be read, seen from a module, with the resolver as it is when the line is reached -/
inductive LineError (package : String) (r : Resolver τ) (raw : String) : CommentError → Prop
  | faulty {kind : DirectiveKind} {rest : List Char} {fault : DirectiveFault}
    (line : Directive.dispatch (stripMarker raw.toList) = some (kind, rest))
    (fails : Directive.Faulty kind rest fault) :
    LineError package r raw (.directive ⟨kind, String.ofList (stripMarker raw.toList), fault⟩)
  | unanswered {rest : List Char} {ref : String} {e : ResolveError}
    (line : Directive.dispatch (stripMarker raw.toList) = some (.success, rest)) (named : Directive.NamesType rest ref)
    (composite : r.primitiveName? ref = none) (fails : (r.resolve ref package).answer = .error e) :
    LineError package r raw (.resolve e)

/-- the resolver after a line: it has been asked for the type that the line names, if there is one -/
def Schema.Resolver.afterLine (package : String) (r : Resolver τ) (raw : String) : Resolver τ :=
  match Directive.ofLine raw with
  | some (.ok directive) => directive.after package r
  | _ => r

/-- **Errors of a line.** A line fails just with its error. -/
theorem lineError_iff {package raw : String} {d : Draft τ} {e : CommentError} :
    (d.applyLine package raw).2 = some e ↔ LineError package d.resolver raw e := by
  constructor
  · intro h
    have hread := d.reads_applyLine package raw
    generalize d.applyLine package raw = outcome at h hread
    obtain ⟨after, failure⟩ := outcome
    subst h
    generalize hfailure : some e = failure at hread
    cases hread with
    | prose line => cases hfailure
    | malformed line =>
      cases hfailure
      obtain ⟨kind, rest, fault, hline, hfaulty, rfl⟩ := Directive.ofLine_error_iff.1 line
      exact .faulty hline hfaulty
    | directive line applies =>
      cases applies with
      | plain untyped log => cases hfailure
      | primitive named log => cases hfailure
      | @asked code isArray ref composite log =>
        obtain ⟨rest, hline, hnames⟩ := Directive.ofLine_typed_iff.1 ⟨code, isArray, line⟩
        cases hanswer : (d.resolver.resolve ref package).answer with
        | error err =>
          rw [hanswer] at hfailure
          cases hfailure
          exact .unanswered hline hnames composite hanswer
        | ok models =>
          -- an answer has a first model
          obtain ⟨m, ms, rfl⟩ := List.exists_cons_of_ne_nil (Resolver.resolve_ne_nil composite hanswer)
          rw [hanswer] at hfailure
          cases hfailure
  · intro h
    cases h with
    | faulty line fails =>
      have hread := Directive.ofLine_error_iff.2 ⟨_, _, _, line, fails, rfl⟩
      rw [Draft.applyLine, hread]
    | unanswered line named composite fails =>
      obtain ⟨code, isArray, hread⟩ := Directive.ofLine_typed_iff.2 ⟨_, line, named⟩
      rw [Draft.applyLine, hread]
      simp only [Draft.apply, composite, fails]

/-- a line that does not fail leaves the resolver that has been asked -/
theorem Draft.resolver_applyLine {package raw : String} {d after : Draft τ}
    (h : d.applyLine package raw = (after, none)) : after.resolver = d.resolver.afterLine package raw := by
  have hread := d.reads_applyLine package raw
  rw [h] at hread
  dsimp only at hread
  rw [Resolver.afterLine]
  cases hread with
  | prose line => rw [line]
  | @directive directive _ _ line applies =>
    rw [line]
    generalize hfailure : (none : Option CommentError) = failure at applies
    cases applies with
    | plain untyped log =>
      cases directive with
      | successType code isArray ref => cases untyped
      | _ => rfl
    | @primitive code isArray ref name named log =>
      have hsome : (d.resolver.primitiveName? ref).isSome = true := Option.isSome_iff_exists.2 ⟨name, named⟩
      simp only [Directive.after, Resolver.resolve_primitive hsome]
    | asked composite log => rfl

/-! ## Errors of lines -/

def Schema.Resolver.afterLines (package : String) (r : Resolver τ) (lines : List String) : Resolver τ :=
  lines.foldl (Resolver.afterLine package) r

def Unfailing (package : String) (r : Resolver τ) (lines : List String) : Prop :=
  ∀ seen raw rest, lines = seen ++ raw :: rest → ∀ e, ¬ LineError package (r.afterLines package seen) raw e

/-- the first line with an error has this one -/
def FirstError (package : String) (r : Resolver τ) (lines : List String) (e : CommentError) : Prop :=
  ∃ seen raw rest, lines = seen ++ raw :: rest ∧ Unfailing package r seen ∧
    LineError package (r.afterLines package seen) raw e

variable {package : String} {r : Resolver τ}

theorem Schema.Resolver.afterLines_cons (raw : String) (lines : List String) :
    r.afterLines package (raw :: lines) = (r.afterLine package raw).afterLines package lines := List.foldl_cons ..

theorem unfailing_nil : Unfailing package r [] := by
  intro seen raw rest h
  cases seen <;> cases h

theorem unfailing_cons {raw : String} {lines : List String} :
    Unfailing package r (raw :: lines) ↔
      (∀ e, ¬ LineError package r raw e) ∧ Unfailing package (r.afterLine package raw) lines := by
  constructor
  · intro h
    refine ⟨h [] raw lines rfl, fun seen raw' rest hlines => ?_⟩
    rw [← Resolver.afterLines_cons]
    exact h (raw :: seen) raw' rest (by rw [hlines, List.cons_append])
  · rintro ⟨hfirst, hrest⟩ seen raw' rest hlines
    cases seen with
    | nil =>
      obtain ⟨rfl, rfl⟩ := List.cons.inj hlines
      exact hfirst
    | cons raw seen =>
      obtain ⟨rfl, rfl⟩ := List.cons.inj hlines
      rw [Resolver.afterLines_cons]
      exact hrest seen raw' rest rfl

theorem firstError_cons {raw : String} {lines : List String} {e : CommentError} :
    FirstError package r (raw :: lines) e ↔ LineError package r raw e ∨
      (∀ err, ¬ LineError package r raw err) ∧ FirstError package (r.afterLine package raw) lines e := by
  constructor
  · rintro ⟨seen, raw', rest, hlines, hseen, herror⟩
    cases seen with
    | nil =>
      obtain ⟨rfl, rfl⟩ := List.cons.inj hlines
      exact Or.inl herror
    | cons raw seen =>
      obtain ⟨rfl, rfl⟩ := List.cons.inj hlines
      obtain ⟨hfirst, hseen⟩ := unfailing_cons.1 hseen
      rw [Resolver.afterLines_cons] at herror
      exact Or.inr ⟨hfirst, seen, raw', rest, rfl, hseen, herror⟩
  · rintro (herror | ⟨hfirst, seen, raw', rest, rfl, hseen, herror⟩)
    · exact ⟨[], raw, lines, rfl, unfailing_nil, herror⟩
    · rw [← Resolver.afterLines_cons] at herror
      exact ⟨raw :: seen, raw', rest, rfl, unfailing_cons.2 ⟨hfirst, hseen⟩, herror⟩

/-- no line has an error just if there is no first one -/
theorem unfailing_iff {lines : List String} : Unfailing package r lines ↔ ∀ e, ¬ FirstError package r lines e := by
  induction lines generalizing r with
  | nil =>
    refine iff_of_true unfailing_nil ?_
    rintro e ⟨seen, raw, rest, hlines, -⟩
    cases seen <;> cases hlines
  | cons raw rest ih =>
    rw [unfailing_cons, ih]
    constructor
    · rintro ⟨hfirst, hrest⟩ e he
      rcases firstError_cons.1 he with herror | ⟨-, herror⟩
      · exact hfirst e herror
      · exact hrest e herror
    · intro h
      have hfirst : ∀ e, ¬ LineError package r raw e := fun e he => h e (firstError_cons.2 (Or.inl he))
      exact ⟨hfirst, fun e he => h e (firstError_cons.2 (Or.inr ⟨hfirst, he⟩))⟩

/-- **First errors.** Lines fail just with the error of the first line that has one. -/
theorem Draft.applyLines_error_iff {lines : List String} {d : Draft τ} {e : CommentError} :
    (d.applyLines package lines).2 = some e ↔ FirstError package d.resolver lines e := by
  induction lines generalizing d with
  | nil =>
    constructor
    · intro h
      cases h
    · intro h
      exact absurd h (unfailing_iff.1 unfailing_nil e)
  | cons raw rest ih =>
    rw [applyLines, firstError_cons]
    have herror : ∀ err, (d.applyLine package raw).2 = some err ↔ LineError package d.resolver raw err :=
      fun err => lineError_iff
    cases hline : d.applyLine package raw with
    | mk after failure =>
      rw [hline] at herror
      cases failure with
      | none =>
        have hnone : ∀ err, ¬ LineError package d.resolver raw err := by
          intro err h
          have hsome := (herror err).2 h
          cases hsome
        rw [← d.resolver_applyLine hline]
        constructor
        · intro h
          exact Or.inr ⟨hnone, ih.1 h⟩
        · rintro (h | ⟨-, h⟩)
          · exact absurd h (hnone e)
          · exact ih.2 h
      | some err =>
        have hfails := (herror err).1 rfl
        constructor
        · intro h
          obtain rfl : err = e := Option.some.inj h
          exact Or.inl hfails
        · rintro (h | ⟨hnone, -⟩)
          · exact (herror e).2 h
          · exact absurd hfails (hnone err)

/-- lines are read to their end just if none has an error -/
theorem Draft.applyLines_none_iff {lines : List String} {d : Draft τ} :
    (d.applyLines package lines).2 = none ↔ Unfailing package d.resolver lines := by
  rw [unfailing_iff, Option.eq_none_iff_forall_ne_some]
  exact forall_congr' fun e => not_congr applyLines_error_iff

/-! ## Blocks -/

def IsRouteLine (raw : String) : Prop := ∃ rest, Directive.dispatch (stripMarker raw.toList) = some (.router, rest)

/-- **Paths.** Lines that are read to their end leave a path just if there is a route line among them. -/
theorem Draft.path_applyLines_iff {lines : List String} {d : Draft τ}
    (h : Draft.applyLines package ⟨.blank, r, []⟩ lines = (d, none)) :
    d.operation.path ≠ "" ↔ ∃ raw ∈ lines, IsRouteLine raw := by
  have hroute := Draft.route_applyLines h
  cases hlast : (lines.filterMap routeText?).getLast? with
  | none =>
    have hnone := List.filterMap_eq_nil_iff.1 (List.getLast?_eq_none_iff.1 hlast)
    rw [hlast] at hroute
    obtain ⟨hpath, -⟩ := Prod.mk.inj hroute
    refine iff_of_false (fun hne => hne hpath) ?_
    rintro ⟨raw, hraw, rest, hline⟩
    have hsome := hnone raw hraw
    rw [routeText?_eq_some_iff.2 hline] at hsome
    cases hsome
  | some rest =>
    obtain ⟨raw, hraw, htext⟩ := List.mem_filterMap.1 (List.mem_of_getLast? hlast)
    have hblanks := (route_of_readable (Draft.readable_of_applyLines h raw hraw) htext).1
    rw [hlast] at hroute
    obtain ⟨hpath, -⟩ := Prod.mk.inj hroute
    refine iff_of_true ?_ ⟨raw, hraw, rest, routeText?_eq_some_iff.1 htext⟩
    rw [hpath]
    simpa [routeOf] using (firstWord_solid hblanks).nonempty

/-- why a block fails: it is empty, or a line has an error, or there is no route line -/
inductive BlockError (package : String) (r : Resolver τ) (comments : List String) : CommentError → Prop
  | empty (nothing : comments = []) : BlockError package r comments .empty
  | line {e : CommentError} (first : FirstError package r comments e) : BlockError package r comments e
  | noRoute (something : comments ≠ []) (unfailing : Unfailing package r comments)
    (routeless : ¬ ∃ raw ∈ comments, IsRouteLine raw) : BlockError package r comments .noRoute

theorem firstError_ne_nil {lines : List String} {e : CommentError} (h : FirstError package r lines e) :
    lines ≠ [] := by
  rintro rfl
  exact unfailing_iff.1 unfailing_nil e h

/-- a block that is not empty fails where its lines do, or else where they leave no path -/
theorem answer_of_applyLines {comments : List String} (something : comments ≠ []) {d : Draft τ}
    {failure : Option CommentError} (h : Draft.applyLines package ⟨.blank, r, []⟩ comments = (d, failure)) :
    (readComment comments r package).answer =
      failure.elim (if d.operation.path.isEmpty then .error .noRoute else .ok d.operation) .error := by
  rw [readComment, if_neg (by simpa using something), h]
  cases failure <;> rfl

/-- lines without an error are read to their end -/
theorem Unfailing.applyLines {lines : List String} (h : Unfailing package r lines) :
    ∃ d, Draft.applyLines package ⟨.blank, r, []⟩ lines = (d, none) :=
  ⟨_, Prod.ext rfl (Draft.applyLines_none_iff.2 h)⟩

theorem FirstError.applyLines {lines : List String} {e : CommentError} (h : FirstError package r lines e) :
    ∃ d, Draft.applyLines package ⟨.blank, r, []⟩ lines = (d, some e) :=
  ⟨_, Prod.ext rfl (Draft.applyLines_error_iff.2 h)⟩

/-- a reason to fail makes a block fail -/
theorem BlockError.answer {comments : List String} {e : CommentError} (h : BlockError package r comments e) :
    (readComment comments r package).answer = .error e := by
  cases h with
  | empty nothing =>
    subst nothing
    rfl
  | line first =>
    obtain ⟨d, hfailed⟩ := first.applyLines
    rw [answer_of_applyLines (firstError_ne_nil first) hfailed]
    rfl
  | noRoute something unfailing routeless =>
    obtain ⟨d, hread⟩ := unfailing.applyLines
    have hpath : d.operation.path = "" := by
      by_contra hne
      exact routeless ((Draft.path_applyLines_iff hread).1 hne)
    rw [answer_of_applyLines something hread]
    simp [hpath]

/-- without one it documents an operation, with a path -/
theorem answer_of_no_blockError {comments : List String} (h : ∀ e, ¬ BlockError package r comments e) :
    ∃ o, (readComment comments r package).answer = .ok o ∧ o.path ≠ "" := by
  have something : comments ≠ [] := fun nothing => h .empty (.empty nothing)
  have unfailing : Unfailing package r comments := unfailing_iff.2 fun e first => h e (.line first)
  obtain ⟨d, hread⟩ := unfailing.applyLines
  have hpath : d.operation.path ≠ "" := by
    refine (Draft.path_applyLines_iff hread).2 ?_
    by_contra routeless
    exact h .noRoute (.noRoute something unfailing routeless)
  refine ⟨d.operation, ?_, hpath⟩
  rw [answer_of_applyLines something hread]
  simp [hpath]

/-- **Failures of a block.** A block fails just for one of its reasons to fail. -/
theorem readComment_error_iff {comments : List String} {e : CommentError} :
    (readComment comments r package).answer = .error e ↔ BlockError package r comments e := by
  constructor
  · intro h
    by_contra hnot
    have hno : ∀ err, ¬ BlockError package r comments err := by
      intro err herr
      have hsame := Except.error.inj (herr.answer.symm.trans h)
      exact hnot (hsame ▸ herr)
    obtain ⟨o, hok, -⟩ := answer_of_no_blockError hno
    rw [h] at hok
    cases hok
  · exact BlockError.answer

/-! ## Sessions -/

theorem sound_afterLine {raw : String} (h : r.cache.Sound) : (r.afterLine package raw).cache.Sound := by
  rw [Resolver.afterLine]
  split
  · next directive line =>
    cases directive with
    | successType code isArray ref =>
      have hready : r.Ready r.aliases r.cache := ⟨rfl, h, .refl _⟩
      exact (hready.resolve ref package).sound
    | _ => exact h
  · exact h

theorem sound_afterLines {lines : List String} (h : r.cache.Sound) : (r.afterLines package lines).cache.Sound := by
  induction lines generalizing r with
  | nil => exact h
  | cons raw rest ih =>
    rw [Resolver.afterLines_cons]
    exact ih (sound_afterLine h)

/-- **Answers of a block.** Whatever a resolver has been asked before, and whatever its table is by now: reading a block
fails if the block is empty, else with the error of the first line that has one, else if there is no route line, and
otherwise gives an operation with a path. The resolver itself fails for missing classes and collisions only, and where a
first model is taken there is one; and so there is a first word, and one behind it, where these are taken. -/
theorem readComment_answer (start table : SymbolTable) (aliases : Aliases) (requests : List Request) (package : String)
    (comments : List String) :
    let r := ((Resolver.new start aliases).session requests).2.withTable table
    (∀ e, (readComment comments r package).answer = .error e ↔
        comments = [] ∧ e = .empty ∨ FirstError package r comments e ∨
          comments ≠ [] ∧ Unfailing package r comments ∧ (¬ ∃ raw ∈ comments, IsRouteLine raw) ∧
            e = .noRoute) ∧
      (comments ≠ [] → Unfailing package r comments → (∃ raw ∈ comments, IsRouteLine raw) →
        ∃ o, (readComment comments r package).answer = .ok o ∧ o.path ≠ "") ∧
      (∀ e, FirstError package r comments (.resolve e) → e.OfClasses) ∧
      (∀ seen ref, (r.afterLines package seen).primitiveName? ref = none →
        ((r.afterLines package seen).resolve ref package).answer ≠ .ok []) ∧
      ∀ raw ∈ comments, ∀ kind rest, Directive.dispatch (stripMarker raw.toList) = some (kind, rest) →
        rest ≠ [] → (∃ word others, words rest = word :: others) ∧
          ((firstWord rest).2 ≠ [] → ∃ word others, words (firstWord rest).2 = word :: others) := by
  intro r
  have hsound : r.cache.Sound := ((Resolver.settled_new start aliases).session requests).sound
  refine ⟨fun e => ?_, fun something unfailing routed => ?_, fun e first => ?_,
    fun seen ref composite hnil => ?_, ?_⟩
  · rw [readComment_error_iff]
    constructor
    · intro h
      cases h with
      | empty nothing => exact Or.inl ⟨nothing, rfl⟩
      | line first => exact Or.inr (Or.inl first)
      | noRoute something unfailing routeless => exact Or.inr (Or.inr ⟨something, unfailing, routeless, rfl⟩)
    · rintro (⟨nothing, rfl⟩ | first | ⟨something, unfailing, routeless, rfl⟩)
      · exact .empty nothing
      · exact .line first
      · exact .noRoute something unfailing routeless
  · refine answer_of_no_blockError fun e h => ?_
    cases h with
    | empty nothing => exact something nothing
    | line first => exact unfailing_iff.1 unfailing e first
    | noRoute _ _ routeless => exact routeless routed
  · obtain ⟨seen, raw, rest, -, -, herror⟩ := first
    cases herror with
    | unanswered line named composite fails => exact Resolver.error_of_resolve (sound_afterLines hsound) fails
  · exact Resolver.resolve_ne_nil composite hnil rfl
  · intro raw hraw kind rest hline hne
    have hrest : ¬ Blanks rest := fun hblanks => hne (eq_nil_of_blanks (Directive.trim_of_dispatch hline) hblanks)
    refine ⟨⟨_, _, words_cons hrest⟩, fun hmore => ⟨_, _,
      words_cons fun hblanks => hmore (firstWord_rest.1 hblanks)⟩⟩

/-- The second line decides, although the line after it can not be read either. -/
example : (readComment ["# @Success 200 ok", "# @Failure abc broken", "# @router"] noClasses "").answer
    = .error (.directive ⟨.failure, "@Failure abc broken", .nonIntegerCode "abc"⟩) := by decide +kernel

end RouteDocs
