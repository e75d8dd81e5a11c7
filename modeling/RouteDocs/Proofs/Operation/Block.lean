/-
Comment blocks: an operation holds exactly what the lines of its block say.

Each directive comes to a fact about the operation, with the type of a response as the shared resolver answers for it
when the line is reached. An operation is known by its facts alone (`Operation.ofFacts`): the last route, title and
description count, the last response of a type gives its type, and everything else is collected in order.

- `Operation.ofFacts_concat`: one more fact adds to an operation what `Operation.add` says.
- `Draft.apply_answerable`: a directive whose type can be answered for adds its fact, and never fails.
- `Draft.applyLines_of_written`: so do the lines that directives are written on, whatever prose is between them.
- `readComment_of_written`: a block is read as the operation of its facts.
-/
import RouteDocs.Proofs.Operation.Clause
import RouteDocs.Proofs.Operation.Route
import RouteDocs.Proofs.Schema.Resolution

namespace RouteDocs

open Schema Text

/-! ## Facts -/

inductive BodyType where
  | primitive (name : String)
  /-- a model, and the models that it reaches -/
  | model (root : Model) (others : List Model)

def BodyType.name : BodyType → String
  | primitive name => name
  | model root _ => root.id

/-- what a directive says of an operation -/
inductive Fact where
  | route (path method : String)
  | title (text : String)
  | description (text : String)
  | parameter (p : Parameter)
  | message (code : Int) (text : String)
  /-- a response with a body -/
  | body (code : Int) (isArray : Bool) (type : BodyType)
  | content (types : List String)

namespace Fact

/-- the route that a fact gives, a path and a method -/
def route? : Fact → Option (String × String)
  | route path method => some (path, method)
  | _ => none

def title? : Fact → Option String
  | title text => some text
  | _ => none

def description? : Fact → Option String
  | description text => some text
  | _ => none

def parameter? : Fact → Option Parameter
  | parameter p => some p
  | _ => none

/-- the type that a fact gives to the operation -/
def type? : Fact → Option String
  | body _ isArray type => some (if isArray then "array" else type.name)
  | _ => none

/-- the elements that a fact gives to an operation that answers with an array -/
def items? : Fact → Option Items
  | body _ true (.primitive name) => some ⟨none, some name⟩
  | body _ true (.model root _) => some ⟨some root.id, none⟩
  | _ => none

def response? : Fact → Option Response
  | message code text => some ⟨code, text, none⟩
  | body code _ (.primitive _) => some ⟨code, "", none⟩
  | body code _ (.model root _) => some ⟨code, "", some root.id⟩
  | _ => none

def contents : Fact → List String
  | content types => types
  | _ => []

def models : Fact → List Model
  | body _ _ (.model root others) => root :: others
  | _ => []

end Fact

/-- the last thing of a sort that facts give -/
def lastOf {α : Type} (get : Fact → Option α) (facts : List Fact) : Option α := (facts.filterMap get).getLast?

def Operation.ofFacts (facts : List Fact) : Operation where
  method := ((lastOf Fact.route? facts).map Prod.snd).getD "GET"
  path := ((lastOf Fact.route? facts).map Prod.fst).getD ""
  nickname := (lastOf Fact.title? facts).getD ""
  summary := (lastOf Fact.description? facts).getD ""
  type := (lastOf Fact.type? facts).getD ""
  items := lastOf Fact.items? facts
  parameters := facts.filterMap Fact.parameter?
  responses := facts.filterMap Fact.response?
  consumes := facts.flatMap Fact.contents
  produces := facts.flatMap Fact.contents
  models := addModels [] (facts.flatMap Fact.models)

def Operation.add (o : Operation) : Fact → Operation
  | .route path method => { o with path, method }
  | .title text => { o with nickname := text }
  | .description text => { o with summary := text }
  | .parameter p => { o with parameters := o.parameters ++ [p] }
  | .message code text => o.respond ⟨code, text, none⟩
  | .body code isArray (.primitive name) => o.respondPrimitive code isArray name
  | .body code isArray (.model root others) => o.respondModel code isArray root others
  | .content types => o.accept types

theorem lastOf_concat {α : Type} (get : Fact → Option α) (facts : List Fact) (fact : Fact) :
    lastOf get (facts ++ [fact]) = (get fact).or (lastOf get facts) := by
  rw [lastOf, lastOf, List.filterMap_append, List.filterMap_cons, List.filterMap_nil]
  cases get fact with
  | none => rw [List.append_nil, Option.none_or]
  | some a => rw [List.getLast?_concat, Option.some_or]

theorem addModels_append (known ms ns : List Model) :
    addModels known (ms ++ ns) = addModels (addModels known ms) ns := List.foldl_append

/-- **One more fact.** The closed form and the step agree: a later route, title, description or type takes the place of
an earlier one, and all else goes to the end. -/
theorem Operation.ofFacts_concat (facts : List Fact) (fact : Fact) :
    ofFacts (facts ++ [fact]) = (ofFacts facts).add fact := by
  simp only [ofFacts, lastOf_concat, List.filterMap_append, List.flatMap_append, List.flatMap_singleton,
    addModels_append]
  cases fact with
  | body code isArray type =>
    cases type <;> cases isArray <;>
      simp [add, respondPrimitive, respondModel, answerPrimitive, answerModel, respond, Fact.route?, Fact.title?,
        Fact.description?, Fact.parameter?, Fact.type?, Fact.items?, Fact.response?, Fact.contents, Fact.models,
        BodyType.name, addModels]
  | _ =>
    simp [add, respond, accept, Fact.route?, Fact.title?, Fact.description?, Fact.parameter?, Fact.type?, Fact.items?,
      Fact.response?, Fact.contents, Fact.models, addModels]

theorem Operation.ofFacts_eq_foldl (facts : List Fact) : ofFacts facts = facts.foldl add .blank := by
  induction facts using List.reverseRecOn with
  | nil => rfl
  | append_singleton facts fact ih => rw [ofFacts_concat, ih, List.foldl_append]; rfl

/-! ## Directives and the shared resolver -/

variable {τ : Type} [TypeLookup τ]

/-- the type that a reference, seen from a module, names for a resolver -/
def Schema.Resolver.bodyType? (r : Resolver τ) (ref package : String) : Option BodyType :=
  match r.primitiveName? ref with
  | some name => some (.primitive name)
  | none =>
    match (r.resolve ref package).answer with
    | .ok (m :: ms) => some (.model m ms)
    | _ => none

theorem Schema.Resolver.bodyType?_primitive {r : Resolver τ} {ref name : String} (h : r.primitiveName? ref = some name)
    (package : String) : r.bodyType? ref package = some (.primitive name) := by
  simp only [bodyType?, h]

theorem Schema.Resolver.bodyType?_model {r : Resolver τ} {ref package : String} (h : r.primitiveName? ref = none)
    {m : Model} {ms : List Model} (hok : (r.resolve ref package).answer = .ok (m :: ms)) :
    r.bodyType? ref package = some (.model m ms) := by
  simp only [bodyType?, h, hok]

namespace Directive

/-- a directive names no type, or a primitive one, or one that the resolver resolves -/
def Answerable (package : String) (r : Resolver τ) : Directive → Prop
  | .successType _ _ ref =>
    (∃ name, r.primitiveName? ref = some name) ∨ ∃ ms, (r.resolve ref package).answer = .ok ms
  | _ => True

/-- what a directive says, with the type that it names as a resolver answers for it -/
def fact? (package : String) (r : Resolver τ) : Directive → Option Fact
  | .router path method => some (.route path method)
  | .title text => some (.title text)
  | .description text => some (.description text)
  | .param name paramType dataType required text =>
    some (.parameter ⟨name, paramType, dataType, dataType, required, text⟩)
  | .failure code message | .successMessage code message => some (.message code message)
  | .successType code isArray ref => (r.bodyType? ref package).map (.body code isArray)
  | .accept tokens => some (.content (tokens.filterMap (List.lookup · contentTypes)))

/-- a resolver once a directive has been read -/
def after (package : String) (r : Resolver τ) : Directive → Resolver τ
  | .successType _ _ ref => (r.resolve ref package).resolver
  | _ => r

/-- each directive can be answered for when it is reached -/
def AllAnswerable (package : String) : Resolver τ → List Directive → Prop
  | _, [] => True
  | r, d :: ds => d.Answerable package r ∧ AllAnswerable package (d.after package r) ds

def facts (package : String) : Resolver τ → List Directive → List Fact
  | _, [] => []
  | r, d :: ds => (d.fact? package r).toList ++ facts package (d.after package r) ds

def afterAll (package : String) (r : Resolver τ) (ds : List Directive) : Resolver τ := ds.foldl (after package) r

end Directive

/-- **Directives that can be answered for.** Such a directive adds its fact to an operation, and does not fail. -/
theorem Draft.apply_answerable (package line : String) (d : Draft τ) {directive : Directive}
    (h : directive.Answerable package d.resolver) :
    ∃ fact log, directive.fact? package d.resolver = some fact ∧
      d.apply package line directive = (⟨d.operation.add fact, directive.after package d.resolver, log⟩, none) := by
  have happlies := applies_apply package line d directive
  generalize d.apply package line directive = outcome at happlies
  obtain ⟨after, e⟩ := outcome
  cases happlies with
  | plain untyped log =>
    cases directive with
    | successType code isArray ref => cases untyped
    | _ => exact ⟨_, log, rfl, rfl⟩
  | @primitive code isArray ref name named log =>
    have hresolver : (d.resolver.resolve ref package).resolver = d.resolver := by
      rw [Resolver.resolve_primitive (by simp [named])]
    refine ⟨.body code isArray (.primitive name), log, ?_, ?_⟩
    · rw [Directive.fact?, Resolver.bodyType?_primitive named, Option.map_some]
    · rw [Directive.after, hresolver]
      rfl
  | @asked code isArray ref composite log =>
    rcases h with ⟨name, named⟩ | ⟨ms, answered⟩
    · rw [composite] at named
      cases named
    · obtain ⟨m, ms, rfl⟩ := List.exists_cons_of_ne_nil (Resolver.resolve_ne_nil composite answered)
      refine ⟨.body code isArray (.model m ms), log, ?_, ?_⟩
      · rw [Directive.fact?, Resolver.bodyType?_model composite answered, Option.map_some]
      · rw [answered]
        rfl

/-! ## Lines -/

/-- the comment lines that clauses are written on, with any prose between them -/
inductive Written : List Clause → List String → Prop
  | nil : Written [] []
  | prose {raw : String} {clauses : List Clause} {lines : List String} (line : Prose raw)
    (rest : Written clauses lines) : Written clauses (raw :: lines)
  | clause {c : Clause} {raw : String} {clauses : List Clause} {lines : List String} (line : c.Renders raw)
    (rest : Written clauses lines) : Written (c :: clauses) (raw :: lines)

/-- **Lines that can be answered for.** They add the facts of their clauses, in order. -/
theorem Draft.applyLines_of_written {package : String} {clauses : List Clause} {lines : List String}
    (h : Written clauses lines) (wellFormed : ∀ c ∈ clauses, c.WellFormed) (d : Draft τ)
    (answerable : Directive.AllAnswerable package d.resolver (clauses.map Clause.meaning)) :
    ∃ log, d.applyLines package lines =
      (⟨(Directive.facts package d.resolver (clauses.map Clause.meaning)).foldl Operation.add d.operation,
        Directive.afterAll package d.resolver (clauses.map Clause.meaning), log⟩, none) := by
  induction h generalizing d with
  | nil => exact ⟨d.log, rfl⟩
  | @prose raw clauses lines line rest ih =>
    have hline : d.applyLine package raw = (d, none) := by rw [applyLine, ofLine_of_prose line]
    obtain ⟨log, hlog⟩ := ih wellFormed d answerable
    refine ⟨log, ?_⟩
    rw [applyLines, hline]
    exact hlog
  | @clause c raw clauses lines line rest ih =>
    obtain ⟨hc, hclauses⟩ := List.forall_mem_cons.1 wellFormed
    obtain ⟨hanswer, hrest⟩ := answerable
    obtain ⟨fact, log, hfact, happly⟩ := d.apply_answerable package (String.ofList (stripMarker raw.toList)) hanswer
    have hline : d.applyLine package raw =
        (⟨d.operation.add fact, c.meaning.after package d.resolver, log⟩, none) := by
      rw [applyLine, Clause.ofLine_of_renders hc line]
      exact happly
    obtain ⟨log, hlog⟩ := ih hclauses ⟨d.operation.add fact, c.meaning.after package d.resolver, log⟩ hrest
    refine ⟨log, ?_⟩
    rw [applyLines, hline]
    dsimp only
    rw [hlog, List.map_cons, Directive.facts, hfact]
    rfl

/-! ## Blocks -/

/-- the path and the method that a directive gives -/
def Directive.routing? : Directive → Option (String × String)
  | .router path method => some (path, method)
  | _ => none

/-- the routes among the facts are those of the route lines -/
theorem routing_facts (package : String) (r : Resolver τ) (ds : List Directive) :
    (Directive.facts package r ds).filterMap Fact.route? = ds.filterMap Directive.routing? := by
  induction ds generalizing r with
  | nil => rfl
  | cons d ds ih =>
    rw [Directive.facts, List.filterMap_append, ih, List.filterMap_cons]
    cases d with
    | successType code isArray ref =>
      rw [Directive.fact?]
      cases r.bodyType? ref package <;> rfl
    | _ => rfl

/-- the path is that of the last route line -/
theorem path_facts (package : String) (r : Resolver τ) (ds : List Directive) :
    (Operation.ofFacts (Directive.facts package r ds)).path = ((ds.filterMap Directive.route?).getLast?).getD "" := by
  have hroute : Directive.route? = fun d => d.routing?.map Prod.fst := by
    funext d
    cases d <;> rfl
  change ((lastOf Fact.route? _).map Prod.fst).getD "" = _
  rw [lastOf, routing_facts, hroute, ← List.getLast?_map, List.map_filterMap]

/-- route lines give routes, which are not empty, and no other lines do -/
theorem Clause.route?_meaning {c : Clause} (h : c.WellFormed) :
    c.meaning.route? = none ∧ c.kind ≠ .router ∨
      ∃ path, c.meaning.route? = some path ∧ c.kind = .router ∧ path ≠ "" := by
  cases c with
  | router path method => exact Or.inr ⟨path, rfl, rfl, by simpa using h.1.nonempty⟩
  | successMessage code literal others => cases others <;> exact Or.inl ⟨rfl, nofun⟩
  | _ => exact Or.inl ⟨rfl, nofun⟩

/-- there is a path if and only if there is a route line -/
theorem path_facts_isEmpty (package : String) (r : Resolver τ) {clauses : List Clause}
    (wellFormed : ∀ c ∈ clauses, c.WellFormed) :
    (Operation.ofFacts (Directive.facts package r (clauses.map Clause.meaning))).path.isEmpty = true ↔
      ∀ c ∈ clauses, c.kind ≠ .router := by
  rw [path_facts, List.filterMap_map, String.isEmpty_iff]
  cases hlast : (clauses.filterMap (Directive.route? ∘ Clause.meaning)).getLast? with
  | none =>
    have hnone := List.filterMap_eq_nil_iff.1 (List.getLast?_eq_none_iff.1 hlast)
    refine iff_of_true rfl fun c hc => ?_
    rcases Clause.route?_meaning (wellFormed c hc) with ⟨-, hkind⟩ | ⟨path, hpath, -, -⟩
    · exact hkind
    · rw [Function.comp_apply.symm.trans (hnone c hc)] at hpath
      cases hpath
  | some path =>
    obtain ⟨c, hc, hroute⟩ := List.mem_filterMap.1 (List.mem_of_getLast? hlast)
    rcases Clause.route?_meaning (wellFormed c hc) with ⟨hnone, -⟩ | ⟨path', hpath, hkind, hne⟩
    · rw [Function.comp_apply, hnone] at hroute
      cases hroute
    · obtain rfl : path' = path := Option.some.inj (hpath.symm.trans hroute)
      exact iff_of_false hne fun h => h c hc hkind

/-- **Blocks are read as they are meant.** Whatever clauses a block is written from, and however they are laid out: if
the shared resolver answers for each type when its line is reached, the block documents the operation of its facts,
provided that there is a route. -/
theorem readComment_of_written {clauses : List Clause} {lines : List String} (h : Written clauses lines)
    (wellFormed : ∀ c ∈ clauses, c.WellFormed) (r : Resolver τ) (package : String)
    (answerable : Directive.AllAnswerable package r (clauses.map Clause.meaning)) :
    (readComment lines r package).resolver = Directive.afterAll package r (clauses.map Clause.meaning) ∧
      (readComment lines r package).answer =
        if lines = [] then .error .empty
        else if ∀ c ∈ clauses, c.kind ≠ .router then .error .noRoute
        else .ok (.ofFacts (Directive.facts package r (clauses.map Clause.meaning))) := by
  by_cases hempty : lines = []
  · subst hempty
    cases h
    exact ⟨rfl, rfl⟩
  · obtain ⟨log, hlines⟩ := Draft.applyLines_of_written h wellFormed ⟨.blank, r, []⟩ answerable
    rw [← Operation.ofFacts_eq_foldl] at hlines
    rw [readComment, if_neg (by simpa using hempty), hlines, if_neg hempty]
    refine ⟨rfl, ?_⟩
    simp only [path_facts_isEmpty package r wellFormed]

def zooClasses : SymbolTable := ⟨[
  ⟨"Pet", "zoo", [], [⟨"name", "str", true⟩, ⟨"keeper", "Keeper", false⟩]⟩,
  ⟨"Keeper", "zoo", [], [⟨"name", "str", true⟩]⟩]⟩

def zooModels : List Model := [
  ⟨"Pet", ["name"], .ofList [("name", .primitive ⟨"string", none⟩), ("keeper", .model "Keeper")]⟩,
  ⟨"Keeper", ["name"], .ofList [("name", .primitive ⟨"string", none⟩)]⟩]

/-- what a block says: responses of each sort, and a content type that has no meaning -/
def zooClauses : List Clause := [
  .title "getPet",
  .param "id" "path" "list[int]" "TRUE" "pet id, as on its cage",
  .successType 201 true "Pet",
  .successMessage (-1) "code" ["Try", "again"],
  .failure 404 "",
  .accept ["json", "", "yaml", "plain"],
  .router "/pets/\x7bid\x7d" (some "post")]

/-- the block, with odd blanks, markers and digits -/
def zooLines : List String := [
  "## @Title\tgetPet  ",
  "Finds a pet. @Title is no directive here.",
  "  // @Param  id path\tlist[int]  TRUE \"pet id, as on its cage\"",
  "#@Success +2_01 \x7barray\x7d Pet",
  "#/# @Success -01 code  Try\u00a0again",
  "@Failure \u0664\u0660\u0664",
  "# @Accept json ,, yaml,plain",
  "# @router /pets/\x7bid\x7d [post]]"]

theorem written_zoo : Written zooClauses zooLines := by
  have hnone := blanks_nil
  have hone := blanks_space
  have htwo : Blanks [' ', ' '] := by decide
  have htab : Blanks ['\t'] := by decide
  have hwide : Blanks ['\u00a0'] := by decide
  have title : (Clause.title "getPet").Renders "## @Title\tgetPet  " :=
    ⟨['\t'] ++ ("getPet".toList ++ [' ', ' ']), ⟨[], ['#', '#'], [' '], by decide, by simp, by decide, by decide⟩,
      Spaced.cons htab (by simp) (.nil htwo)⟩
  have prose : Prose "Finds a pet. @Title is no directive here." := by
    intro kind
    cases kind <;> decide +kernel
  have param : (Clause.param "id" "path" "list[int]" "TRUE" "pet id, as on its cage").Renders
      "  // @Param  id path\tlist[int]  TRUE \"pet id, as on its cage\"" :=
    ⟨[' ', ' '] ++ ("id".toList ++ ([' '] ++ ("path".toList ++ (['\t'] ++ ("list[int]".toList ++ ([' ', ' '] ++
        ("TRUE".toList ++ ([' '] ++ ("\"pet id, as on its cage\"".toList ++ []))))))))),
      ⟨[' ', ' '], ['/', '/'], [' '], by decide, by simp, by decide, by decide⟩,
      .cons htwo (by simp) (.space (.cons htab (by simp) (.cons htwo (by simp) (.space (.nil hnone)))))⟩
  have successType : (Clause.successType 201 true "Pet").Renders "#@Success +2_01 \x7barray\x7d Pet" :=
    ⟨[' '] ++ ("+2_01".toList ++ ([' '] ++ (Directive.arrayMarker ++ ([' '] ++ ("Pet".toList ++ []))))),
      ⟨[], ['#'], [], by decide, by simp, by decide, by decide⟩, _,
      .plus (.underscore (d := 2) rfl (.next (d := 0) rfl (.single (d := 1) rfl))) (by decide),
      .space (.space (.space (.nil hnone)))⟩
  have successMessage : (Clause.successMessage (-1) "code" ["Try", "again"]).Renders
      "#/# @Success -01 code  Try\u00a0again" :=
    ⟨[' '] ++ ("-01".toList ++ ([' '] ++ ("code".toList ++ ([' ', ' '] ++ ("Try".toList ++ (['\u00a0'] ++
        ("again".toList ++ []))))))),
      ⟨[], ['#', '/', '#'], [' '], by decide, by simp, by decide, by decide⟩, _,
      .minus (.next (d := 0) rfl (.single (d := 1) rfl)) (by decide),
      .space (.space (.cons htwo (by simp) (.cons hwide (by simp) (.nil hnone))))⟩
  have failure : (Clause.failure 404 "").Renders "@Failure \u0664\u0660\u0664" :=
    ⟨[' '] ++ ("\u0664\u0660\u0664".toList ++ []), ⟨[], [], [], by decide, by simp, by decide, by decide⟩, _,
      .plain (.next (d := 4) rfl (.next (d := 0) rfl (.single (d := 4) rfl))) (by decide), .space (.nil hnone)⟩
  have accept : (Clause.accept ["json", "", "yaml", "plain"]).Renders "# @Accept json ,, yaml,plain" :=
    ⟨([' '] ++ ("json".toList ++ [' '])) ++ ',' :: (([] ++ ("".toList ++ [])) ++ ',' ::
        (([' '] ++ ("yaml".toList ++ [])) ++ ',' :: ([] ++ ("plain".toList ++ [])))),
      ⟨[], ['#'], [' '], by decide, by simp, by decide, by decide⟩, (by rintro _ ⟨⟩; rfl),
      .more ⟨_, _, hone, hone, rfl⟩ (by simp) (.more ⟨_, _, hnone, hnone, rfl⟩ (by simp)
        (.more ⟨_, _, hone, hnone, rfl⟩ (by simp) (.last ⟨_, _, hnone, hnone, rfl⟩)))⟩
  have router : (Clause.router "/pets/\x7bid\x7d" (some "post")).Renders "# @router /pets/\x7bid\x7d [post]]" :=
    ⟨[' '] ++ ("/pets/\x7bid\x7d".toList ++ ([' '] ++ ((['['] ++ ("post".toList ++ [']', ']'])) ++ []))),
      ⟨[], ['#'], [' '], by decide, by simp, by decide, by decide⟩, _, _, by simp [Directive.isBracket],
      .space (.space (.nil hnone))⟩
  exact .clause title (.prose prose (.clause param (.clause successType (.clause successMessage (.clause failure
    (.clause accept (.clause router .nil)))))))

/-- The block comes to one operation, whatever its lines look like. -/
theorem readComment_of_written_zoo :
    Written zooClauses zooLines ∧ (∀ c ∈ zooClauses, c.WellFormed) ∧
      Directive.AllAnswerable "zoo" (Resolver.new zooClasses ∅) (zooClauses.map Clause.meaning) ∧
      (readComment zooLines (Resolver.new zooClasses ∅) "zoo").answer = .ok {
        method := "POST"
        path := "/pets/\x7bid\x7d"
        nickname := "getPet"
        type := "array"
        items := some ⟨some "Pet", none⟩
        parameters := [⟨"id", "path", "list[int]", "list[int]", true, "pet id, as on its cage"⟩]
        responses := [⟨201, "", some "Pet"⟩, ⟨-1, "Try again", none⟩, ⟨404, "", none⟩]
        consumes := ["application/json", "text/plain"]
        produces := ["application/json", "text/plain"]
        models := zooModels } := by
  have hclauses : ∀ c ∈ zooClauses, c.WellFormed := by decide +kernel
  have hanswers : Directive.AllAnswerable "zoo" (Resolver.new zooClasses ∅) (zooClauses.map Clause.meaning) :=
    ⟨trivial, trivial, Or.inr ⟨zooModels, by decide +kernel⟩, trivial, trivial, trivial, trivial, trivial⟩
  refine ⟨written_zoo, hclauses, hanswers, ?_⟩
  rw [(readComment_of_written written_zoo hclauses (Resolver.new zooClasses ∅) "zoo" hanswers).2]
  decide +kernel

end RouteDocs
