/-
Lines of a comment block that may change places.

The directives of a block form six series: routes, titles, descriptions, parameters, content types and responses, of
success as of failure. A directive changes only the part of the operation that belongs to its series, and of all the
directives only responses ask the shared resolver. Whether a line can be read depends on its text alone. So what a block
comes to depends on the lines of each series only, not on how they are interleaved or what prose is between them.

- `lineKind?_eq`: a line is taken for the directive whose token is its first word.
- `Directive.filter_facts`: the facts of a series are those of the directives of the series.
- `Operation.ofFacts_congr`: an operation depends on the facts of each series only.
- `readComment_ok_iff`: the blocks that document an operation, by their directives.
- `readComment_rearranged`: a block may be rearranged, as long as the lines of each series keep their order.
-/
import RouteDocs.Proofs.Operation.Failure

namespace RouteDocs

open Text Schema

/-! ## Series -/

/-- the parts of an operation that directives fill -/
inductive Series where
  | routes
  | titles
  | descriptions
  | parameters
  | contentTypes
  | responses
deriving DecidableEq

/-- the series of a kind of directives; both kinds of responses are in one -/
def DirectiveKind.series : DirectiveKind → Series
  | router => .routes
  | title => .titles
  | description => .descriptions
  | param => .parameters
  | accept => .contentTypes
  | success | failure => .responses

/-- the kind of directive whose token is the first word of a line, after the comment marker -/
def lineKind? (raw : String) : Option DirectiveKind :=
  (words (stripMarker raw.toList)).head?.bind DirectiveKind.ofToken?

/-- the series that a line belongs to; prose belongs to none -/
def lineSeries? (raw : String) : Option Series := (lineKind? raw).map DirectiveKind.series

/-- the lines of a block that belong to a series -/
def linesOf (s : Series) (lines : List String) : List String := lines.filter (lineSeries? · = some s)

/-- two blocks have the same lines of each series, in the same order; the series may be interleaved in any way, with any
prose between them -/
def SameSeries (a b : List String) : Prop := ∀ s, linesOf s a = linesOf s b

theorem SameSeries.symm {a b : List String} (h : SameSeries a b) : SameSeries b a := fun s => (h s).symm

/-- **First words.** A line is taken for a directive just if its first word is the token. -/
theorem lineKind?_eq (raw : String) : (Directive.dispatch (stripMarker raw.toList)).map Prod.fst = lineKind? raw := by
  have htrim : trim (stripMarker raw.toList) = stripMarker raw.toList := trim_trim _
  rw [lineKind?, Directive.dispatch, Option.map_map]
  generalize stripMarker raw.toList = line at htrim
  by_cases hblanks : Blanks line
  · obtain rfl := eq_nil_of_blanks htrim hblanks
    rfl
  · have hfirst : (firstWord line).1 = line.takeWhile (!isBlank ·) := by
      rw [firstWord, dropWhile_eq_self_of_trim htrim]
    rw [words_cons hblanks, hfirst, List.head?_cons, Option.bind_some]
    exact Option.map_id'

namespace Directive

def series (d : Directive) : Series := d.kind.series

/-- a line without the token of a directive is prose -/
theorem ofLine_eq_none_iff {raw : String} : ofLine raw = none ↔ lineKind? raw = none := by
  rw [← lineKind?_eq, ofLine, Option.map_eq_none_iff, Option.map_eq_none_iff]

/-- a directive belongs to the series of its line -/
theorem lineSeries?_of_ofLine {raw : String} {d : Directive} (h : ofLine raw = some (.ok d)) :
    lineSeries? raw = some d.series := by
  obtain ⟨kind, rest, hline, hread⟩ := ofLine_ok_iff.1 h
  rw [lineSeries?, ← lineKind?_eq, hline, series, kind_of_parse hread]
  rfl

end Directive

/-- the directives of a series stand on the lines of the series -/
theorem filter_directivesOf (s : Series) (lines : List String) :
    (directivesOf lines).filter (·.series = s) = directivesOf (linesOf s lines) := by
  rw [directivesOf, directivesOf, linesOf, List.filter_filterMap, List.filterMap_filter]
  refine List.filterMap_congr fun raw _ => ?_
  rcases hline : Directive.ofLine raw with _ | e | d
  · simp
  · simp [Except.toOption]
  · have hseries := Directive.lineSeries?_of_ofLine hline
    by_cases hs : d.series = s <;> simp [Except.toOption, hseries, hs, Option.filter]

theorem SameSeries.directives {a b : List String} (h : SameSeries a b) (s : Series) :
    (directivesOf a).filter (·.series = s) = (directivesOf b).filter (·.series = s) := by
  rw [filter_directivesOf, filter_directivesOf, h s]

/-- each line is prose, or its text can be read -/
def ReadableLines (lines : List String) : Prop := ∀ raw ∈ lines, ∀ e, Directive.ofLine raw ≠ some (.error e)

/-- lines that can not be read belong to a series, so prose has no part in whether a block can be read -/
theorem SameSeries.readable {a b : List String} (h : SameSeries a b) (ha : ReadableLines a) : ReadableLines b := by
  intro raw hraw e he
  cases hseries : lineSeries? raw with
  | none =>
    have hprose := Directive.ofLine_eq_none_iff.2 (Option.map_eq_none_iff.1 hseries)
    rw [hprose] at he
    cases he
  | some s =>
    have hmem : raw ∈ linesOf s b := List.mem_filter.2 ⟨hraw, by simp [hseries]⟩
    rw [← h s] at hmem
    exact ha raw (List.mem_of_mem_filter hmem) e he

/-! ## Facts of a series -/

def Fact.series : Fact → Series
  | route _ _ => .routes
  | title _ => .titles
  | description _ => .descriptions
  | parameter _ => .parameters
  | content _ => .contentTypes
  | message _ _ | body _ _ _ => .responses

variable {τ : Type} [TypeLookup τ] {package : String} {r : Resolver τ}

namespace Directive

theorem series_of_fact? {d : Directive} {fact : Fact} (h : d.fact? package r = some fact) : fact.series = d.series := by
  cases d with
  | successType code isArray ref =>
    obtain ⟨type, -, rfl⟩ := Option.map_eq_some_iff.1 h
    rfl
  | _ => obtain rfl := Option.some.inj h; rfl

/-- directives that are no responses leave the resolver alone -/
theorem frame {d : Directive} (h : d.series ≠ .responses) :
    d.after package r = r ∧ d.Answerable package r ∧
    ∀ r' : Resolver τ, d.fact? package r = d.fact? package r' := by
  cases d with
  | successType code isArray ref => exact absurd rfl h
  | _ => exact ⟨rfl, trivial, fun _ => rfl⟩

/-- what directives say that are no responses does not depend on the resolver -/
theorem facts_frame {ds : List Directive} (h : ∀ d ∈ ds, d.series ≠ .responses) (r r' : Resolver τ) :
    facts package r ds = facts package r' ds := by
  induction ds generalizing r r' with
  | nil => rfl
  | cons d ds ih =>
    obtain ⟨hd, hds⟩ := List.forall_mem_cons.1 h
    rw [facts, facts, (frame hd).2.2 r', ih hds]

/-- **Facts of a series.** They are those of the directives of the series, whatever is read between these. -/
theorem filter_facts (s : Series) (r : Resolver τ) (ds : List Directive) :
    (facts package r ds).filter (·.series = s) = facts package r (ds.filter (·.series = s)) := by
  induction ds generalizing r with
  | nil => rfl
  | cons d ds ih =>
    have hfact : ∀ fact ∈ (d.fact? package r).toList, fact.series = d.series :=
      fun fact hfact => series_of_fact? (Option.mem_toList.1 hfact)
    rw [facts, List.filter_append, ih]
    by_cases hd : d.series = s
    · rw [List.filter_eq_self.2 fun fact h => by simp [hfact fact h, hd], List.filter_cons_of_pos (by simp [hd]),
        facts]
    · rw [List.filter_eq_nil_iff.2 fun fact h => by simp [hfact fact h, hd], List.filter_cons_of_neg (by simp [hd]),
        List.nil_append]
      by_cases hs : s = .responses
      · rw [(frame (hs ▸ hd)).1]
      · refine facts_frame (fun e he => ?_) _ _
        obtain ⟨-, hes⟩ := List.mem_filter.1 he
        rw [of_decide_eq_true hes]
        exact hs

/-- the resolver is asked for the responses only -/
theorem allAnswerable_filter {ds : List Directive} :
    AllAnswerable package r (ds.filter (·.series = .responses)) ↔ AllAnswerable package r ds := by
  induction ds generalizing r with
  | nil => rfl
  | cons d ds ih =>
    by_cases hd : d.series = .responses
    · rw [List.filter_cons_of_pos (by simp [hd]), AllAnswerable, AllAnswerable, ih]
    · obtain ⟨hafter, hanswerable, -⟩ : d.after package r = r ∧ d.Answerable package r ∧ _ := frame hd
      rw [List.filter_cons_of_neg (by simp [hd]), AllAnswerable, hafter, ih, and_iff_right hanswerable]

theorem afterAll_filter (ds : List Directive) :
    afterAll package r (ds.filter (·.series = .responses)) = afterAll package r ds := by
  induction ds generalizing r with
  | nil => rfl
  | cons d ds ih =>
    by_cases hd : d.series = .responses
    · rw [List.filter_cons_of_pos (by simp [hd])]
      exact ih
    · have hafter : d.after package r = r := (frame hd).1
      rw [List.filter_cons_of_neg (by simp [hd]), ih, afterAll, afterAll, List.foldl_cons, hafter]

end Directive

/-! ## Operations -/

/-- a fact gives nothing that belongs to another series -/
structure Fact.Confined (f : Fact) : Prop where
  route : f.series ≠ .routes → f.route? = none
  title : f.series ≠ .titles → f.title? = none
  description : f.series ≠ .descriptions → f.description? = none
  parameter : f.series ≠ .parameters → f.parameter? = none
  contents : f.series ≠ .contentTypes → f.contents = []
  type : f.series ≠ .responses → f.type? = none
  items : f.series ≠ .responses → f.items? = none
  response : f.series ≠ .responses → f.response? = none
  models : f.series ≠ .responses → f.models = []

theorem Fact.confined (f : Fact) : f.Confined := by
  cases f <;> constructor <;>
    simp [series, route?, title?, description?, parameter?, Fact.contents, type?, items?, response?, Fact.models]

/-- what only the facts of a series give, all facts give together -/
theorem flatMap_filter_series {α : Type} {get : Fact → List α} {s : Series}
    (h : ∀ f, f.series ≠ s → get f = [])
    (facts : List Fact) : (facts.filter (·.series = s)).flatMap get = facts.flatMap get := by
  induction facts with
  | nil => rfl
  | cons f rest ih =>
    by_cases hf : f.series = s
    · rw [List.filter_cons_of_pos (by simp [hf]), List.flatMap_cons, List.flatMap_cons, ih]
    · rw [List.filter_cons_of_neg (by simp [hf]), List.flatMap_cons, h f hf, ih, List.nil_append]

/-- **Operations by series.** An operation depends on the facts of each series only. -/
theorem Operation.ofFacts_congr {facts facts' : List Fact}
    (h : ∀ s, facts.filter (·.series = s) = facts'.filter (·.series = s)) : ofFacts facts = ofFacts facts' := by
  have hlists {α : Type} {get : Fact → List α} (s : Series) (hget : ∀ f, f.series ≠ s → get f = []) :
      facts.flatMap get = facts'.flatMap get := by
    rw [← flatMap_filter_series hget, h s, flatMap_filter_series hget]
  have hitems {α : Type} {get : Fact → Option α} (s : Series) (hget : ∀ f, f.series ≠ s → get f = none) :
      facts.filterMap get = facts'.filterMap get := by
    rw [List.filterMap_eq_flatMap_toList, List.filterMap_eq_flatMap_toList]
    exact hlists s fun f hf => by rw [hget f hf, Option.toList_none]
  have hroute := hitems .routes fun f => f.confined.route
  have htitle := hitems .titles fun f => f.confined.title
  have hdescription := hitems .descriptions fun f => f.confined.description
  have hparameter := hitems .parameters fun f => f.confined.parameter
  have hcontents := hlists .contentTypes fun f => f.confined.contents
  have htype := hitems .responses fun f => f.confined.type
  have helements := hitems .responses fun f => f.confined.items
  have hresponse := hitems .responses fun f => f.confined.response
  have hmodels := hlists .responses fun f => f.confined.models
  simp only [ofFacts, lastOf, hroute, htitle, hdescription, hparameter, htype, helements, hresponse, hcontents, hmodels]

/-! ## Blocks -/

/-- **Lines by their directives.** Lines are read to their end just if each can be read and all their directives can be
answered for. -/
theorem Draft.applyLines_of_readable {lines : List String} (hread : ReadableLines lines) (d : Draft τ)
    (h : Directive.AllAnswerable package d.resolver (directivesOf lines)) :
    ∃ log, d.applyLines package lines =
      (⟨(Directive.facts package d.resolver (directivesOf lines)).foldl Operation.add d.operation,
        Directive.afterAll package d.resolver (directivesOf lines), log⟩, none) := by
  induction lines generalizing d with
  | nil => exact ⟨d.log, rfl⟩
  | cons raw rest ih =>
    obtain ⟨hraw, hrest⟩ := List.forall_mem_cons.1 hread
    rw [applyLines, applyLine]
    rcases hline : Directive.ofLine raw with _ | e | directive
    · have hsame : directivesOf (raw :: rest) = directivesOf rest := by simp [directivesOf, hline]
      rw [hsame] at h ⊢
      exact ih hrest d h
    · exact absurd hline (hraw e)
    · have hsplit : directivesOf (raw :: rest) = directive :: directivesOf rest := by
        simp [directivesOf, hline, Except.toOption]
      rw [hsplit] at h ⊢
      obtain ⟨fact, log, hfact, happly⟩ := d.apply_answerable package (String.ofList (stripMarker raw.toList)) h.1
      obtain ⟨log, hlog⟩ := ih hrest ⟨d.operation.add fact, directive.after package d.resolver, log⟩ h.2
      refine ⟨log, ?_⟩
      dsimp only
      rw [happly]
      dsimp only
      rw [hlog, Directive.facts, hfact]
      rfl

/-- **Blocks by their directives.** A block documents an operation just if each line can be read, all directives can
be answered for, and there is a path; it is the operation of the facts, and the resolver is left as after the
directives. -/
theorem readComment_ok_iff {lines : List String} {o : Operation} {r' : Resolver τ} :
    (readComment lines r package).answer = .ok o ∧ (readComment lines r package).resolver = r' ↔
      ReadableLines lines ∧ Directive.AllAnswerable package r (directivesOf lines) ∧
        o = .ofFacts (Directive.facts package r (directivesOf lines)) ∧ o.path ≠ "" ∧
        r' = Directive.afterAll package r (directivesOf lines) := by
  constructor
  · rintro ⟨h, rfl⟩
    obtain ⟨d, hlines, rfl, hresolver, hpath⟩ := readComment_ok h
    have hread : ReadableLines lines := Draft.readable_of_applyLines hlines
    obtain ⟨hanswerable, hoperation⟩ := operation_of_read h
    obtain ⟨log, happlied⟩ := Draft.applyLines_of_readable hread ⟨.blank, r, []⟩ hanswerable
    obtain ⟨rfl, -⟩ := Prod.mk.inj (hlines.symm.trans happlied)
    exact ⟨hread, hanswerable, hoperation, by simpa using hpath, hresolver⟩
  · rintro ⟨hread, hanswerable, rfl, hpath, rfl⟩
    have something : lines ≠ [] := by
      rintro rfl
      exact hpath rfl
    obtain ⟨log, happlied⟩ := Draft.applyLines_of_readable hread ⟨.blank, r, []⟩ hanswerable
    rw [← Operation.ofFacts_eq_foldl] at happlied
    rw [readComment, if_neg (by simpa using something), happlied]
    exact ⟨if_neg (by simpa using hpath), rfl⟩

/-- what the directives of a block come to depends on the lines of each series only -/
theorem SameSeries.facts {a b : List String} (h : SameSeries a b) :
    (Directive.AllAnswerable package r (directivesOf a) ↔ Directive.AllAnswerable package r (directivesOf b)) ∧
      Operation.ofFacts (Directive.facts package r (directivesOf a))
        = .ofFacts (Directive.facts package r (directivesOf b)) ∧
      Directive.afterAll package r (directivesOf a) = Directive.afterAll package r (directivesOf b) := by
  refine ⟨?_, Operation.ofFacts_congr fun s => ?_, ?_⟩
  · rw [← Directive.allAnswerable_filter, h.directives, Directive.allAnswerable_filter]
  · rw [Directive.filter_facts, h.directives, Directive.filter_facts]
  · rw [← Directive.afterAll_filter, h.directives, Directive.afterAll_filter]

/-- **Directives of different series commute.** A block may be rearranged in any way that keeps the order of the lines
of each series, and prose may be moved, put in and left out: for every resolver and every module, it documents an
operation just if it did before, the operation is the same, and the resolver is left with the same cache. -/
theorem readComment_rearranged {a b : List String} (h : SameSeries a b) (r : Resolver τ) (package : String) :
    ((∃ o, (readComment a r package).answer = .ok o) ↔ ∃ o, (readComment b r package).answer = .ok o) ∧
      ∀ o, (readComment a r package).answer = .ok o →
        (readComment b r package).answer = .ok o ∧
          (readComment a r package).resolver = (readComment b r package).resolver := by
  have hsame {a b : List String} (h : SameSeries a b) {o : Operation} (ho : (readComment a r package).answer = .ok o) :
      (readComment b r package).answer = .ok o ∧
        (readComment b r package).resolver = (readComment a r package).resolver := by
    obtain ⟨hread, hanswered, hoperation, hpath, hresolver⟩ := readComment_ok_iff.1 ⟨ho, rfl⟩
    obtain ⟨hanswerable, hfacts, hafter⟩ : (Directive.AllAnswerable package r (directivesOf a) ↔ _) ∧ _ :=
      h.facts
    exact readComment_ok_iff.2
      ⟨h.readable hread, hanswerable.1 hanswered, hoperation.trans hfacts, hpath, hresolver.trans hafter⟩
  refine ⟨⟨fun ⟨o, ho⟩ => ⟨o, (hsame h ho).1⟩, fun ⟨o, ho⟩ => ⟨o, (hsame h.symm ho).1⟩⟩,
    fun o ho => ?_⟩
  obtain ⟨hanswer, hresolver⟩ := hsame h ho
  exact ⟨hanswer, hresolver.symm⟩

/-- the lines of a block with the series interleaved in another way, and with other prose -/
def shuffledZooLines : List String := [
  "# @router /pets/\x7bid\x7d [post]]",
  "#@Success +2_01 \x7barray\x7d Pet",
  "# @Accept json ,, yaml,plain",
  "",
  "#/# @Success -01 code  Try\u00a0again",
  "## @Title\tgetPet  ",
  "# @Success! is no token",
  "@Failure \u0664\u0660\u0664",
  "  // @Param  id path\tlist[int]  TRUE \"pet id, as on its cage\""]

def zooOperation : Operation where
  method := "POST"
  path := "/pets/\x7bid\x7d"
  nickname := "getPet"
  type := "array"
  items := some ⟨some "Pet", none⟩
  parameters := [⟨"id", "path", "list[int]", "list[int]", true, "pet id, as on its cage"⟩]
  responses := [⟨201, "", some "Pet"⟩, ⟨-1, "Try again", none⟩, ⟨404, "", none⟩]
  consumes := ["application/json", "text/plain"]
  produces := ["application/json", "text/plain"]
  models := zooModels

/-- The route comes first, the title after two responses, and the responses keep their order. -/
theorem readComment_rearranged_zoo :
    SameSeries zooLines shuffledZooLines ∧
      (readComment zooLines (Resolver.new zooClasses ∅) "zoo").answer = .ok zooOperation ∧
      (readComment shuffledZooLines (Resolver.new zooClasses ∅) "zoo").answer = .ok zooOperation ∧
      (readComment zooLines (Resolver.new zooClasses ∅) "zoo").resolver
        = (readComment shuffledZooLines (Resolver.new zooClasses ∅) "zoo").resolver := by
  have hseries : SameSeries zooLines shuffledZooLines := by
    intro s
    cases s <;> decide +kernel
  have hread : (readComment zooLines (Resolver.new zooClasses ∅) "zoo").answer = .ok zooOperation := by decide +kernel
  exact ⟨hseries, hread, (readComment_rearranged hseries _ _).2 _ hread⟩

end RouteDocs
