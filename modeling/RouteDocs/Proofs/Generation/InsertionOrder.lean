/-
The order in which definitions are added to a table has no effect on what is generated.

- `Generator.generate_withTable`: a pass over a table that answers every reference alike makes the same documents.
- `lookup_insertionOrder`: what a look-up answers, and that all answers, and all that is made of them, are the same for
  tables of the same classes in any two orders.
-/
import RouteDocs.Proofs.Generation.Pass
import RouteDocs.Proofs.Schema.AlikeTables
import RouteDocs.Proofs.Schema.Lookup

namespace RouteDocs

open Schema

variable {other : SymbolTable}

/-! ## Blocks -/

namespace Draft

def withTable (d : Draft SymbolTable) (table : SymbolTable) : Draft SymbolTable :=
  { d with resolver := d.resolver.withTable table }

theorem foldl_acceptToken_withTable (line : String) (tokens : List String) (d : Draft SymbolTable) :
    tokens.foldl (acceptToken line) (d.withTable other) = (tokens.foldl (acceptToken line) d).withTable other := by
  induction tokens generalizing d with
  | nil => rfl
  | cons token rest ih =>
    have htoken : acceptToken line (d.withTable other) token = (acceptToken line d token).withTable other := by
      rw [acceptToken, acceptToken]
      cases contentTypes.lookup token <;> rfl
    rw [List.foldl_cons, List.foldl_cons, htoken, ih]

theorem apply_withTable {d : Draft SymbolTable} (h : d.resolver.table.Alike other) (package line : String)
    (directive : Directive) :
    (d.withTable other).apply package line directive
      = ((d.apply package line directive).1.withTable other, (d.apply package line directive).2) := by
  cases directive with
  | accept tokens => rw [apply, apply, foldl_acceptToken_withTable]
  | successType code isArray ref =>
    have hprim : (d.withTable other).resolver.primitiveName? ref = d.resolver.primitiveName? ref := rfl
    have hresolve : (d.withTable other).resolver.resolve ref package
        = (d.resolver.resolve ref package).withTable other := Resolver.resolve_withTable h ref package
    rw [apply, apply, hprim, hresolve]
    cases d.resolver.primitiveName? ref with
    | some name => rfl
    | none =>
      generalize d.resolver.resolve ref package = resolution
      obtain ⟨answer, resolver, completed⟩ := resolution
      cases answer with
      | error e => rfl
      | ok models => cases models <;> rfl
  | router path method => rfl
  | title text => rfl
  | description text => rfl
  | param name paramType dataType required description => rfl
  | failure code message => rfl
  | successMessage code message => rfl

theorem applyLine_withTable {d : Draft SymbolTable} (h : d.resolver.table.Alike other) (package raw : String) :
    (d.withTable other).applyLine package raw
      = ((d.applyLine package raw).1.withTable other, (d.applyLine package raw).2) := by
  unfold applyLine
  split
  · rfl
  · rfl
  · exact apply_withTable h package _ _

/-- lines do not change the table -/
theorem table_applyLine (d : Draft SymbolTable) (package raw : String) :
    (d.applyLine package raw).1.resolver.table = d.resolver.table :=
  (reads_applyLine package d raw).resolver (Q := fun r => r.table = d.resolver.table)
    (fun r ref package hr => (r.table_resolve ref package).trans hr) rfl

theorem applyLines_withTable {d : Draft SymbolTable} (h : d.resolver.table.Alike other) (package : String)
    (lines : List String) :
    (d.withTable other).applyLines package lines
      = ((d.applyLines package lines).1.withTable other, (d.applyLines package lines).2) := by
  induction lines generalizing d with
  | nil => rfl
  | cons raw rest ih =>
    have htable := d.table_applyLine package raw
    rw [applyLines, applyLines, applyLine_withTable h]
    generalize d.applyLine package raw = outcome at htable
    obtain ⟨after, e⟩ := outcome
    cases e with
    | some e => rfl
    | none => exact ih (htable ▸ h)

end Draft

/-- the outcome of reading a comment block, with another table in the resolver -/
def Reading.withTable (r : Reading SymbolTable) (table : SymbolTable) : Reading SymbolTable :=
  { r with resolver := r.resolver.withTable table }

/-- **Blocks are read alike.** A resolver with the other table reads a block alike, and records the same. -/
theorem readComment_withTable {r : Resolver} (h : r.table.Alike other) (comments : List String) (package : String) :
    readComment comments (r.withTable other) package = (readComment comments r package).withTable other := by
  have hlines : Draft.applyLines package ⟨.blank, r.withTable other, []⟩ comments = _ :=
    Draft.applyLines_withTable (d := ⟨.blank, r, []⟩) h package comments
  unfold readComment
  split
  · rfl
  · rw [hlines]
    generalize Draft.applyLines package ⟨.blank, r, []⟩ comments = outcome
    obtain ⟨d, e⟩ := outcome
    cases e <;> rfl

/-! ## Passes -/

namespace Generator

def withTable (g : Generator) (table : SymbolTable) : Generator := { g with resolver := g.resolver.withTable table }

variable {g : Generator}

/-- a candidate is read alike, and leaves the table as it is -/
theorem addHandler_withTable (h : g.resolver.table.Alike other) (c : Candidate) :
    (g.withTable other).addHandler c = ((g.addHandler c).1.withTable other, (g.addHandler c).2) ∧
      (g.addHandler c).1.resolver.table = g.resolver.table := by
  have hreading := readComment_withTable h c.comments c.signature.module
  have htable := readComment_resolver (Q := fun r : Resolver => r.table = g.resolver.table)
    (fun r ref package hr => (r.table_resolve ref package).trans hr) c.comments g.resolver c.signature.module rfl
  have hresolver : (g.withTable other).resolver = g.resolver.withTable other := rfl
  rw [addHandler, addHandler, hresolver, hreading]
  generalize readComment c.comments g.resolver c.signature.module = reading at htable
  obtain ⟨answer, resolver, log⟩ := reading
  cases answer with
  | error e =>
    dsimp only [Reading.withTable, refuse]
    split <;> exact ⟨rfl, htable⟩
  | ok o =>
    dsimp only [Reading.withTable, withTable]
    generalize g.builder.add o = outcome
    obtain ⟨builder, added⟩ := outcome
    cases added with
    | ok event => exact ⟨rfl, htable⟩
    | error e =>
      dsimp only [refuse]
      split <;> exact ⟨rfl, htable⟩

variable (isHandler : Signature → Bool)

/-- candidates are read alike, and leave the table as it is -/
theorem addHandlers_withTable (h : g.resolver.table.Alike other) (batch : List Candidate) :
    (g.withTable other).addHandlers isHandler batch
        = ((g.addHandlers isHandler batch).1.withTable other, (g.addHandlers isHandler batch).2) ∧
      (g.addHandlers isHandler batch).1.resolver.table = g.resolver.table := by
  induction batch generalizing g with
  | nil => exact ⟨rfl, rfl⟩
  | cons c rest ih =>
    rw [addHandlers, addHandlers]
    by_cases haccepted : isHandler c.signature = true
    · obtain ⟨hcandidate, htable⟩ := addHandler_withTable h c
      rw [if_pos haccepted, if_pos haccepted, hcandidate]
      generalize g.addHandler c = outcome at htable
      obtain ⟨g', e⟩ := outcome
      cases e with
      | some e => exact ⟨rfl, htable⟩
      | none =>
        obtain ⟨hrest, hsame⟩ := ih (htable ▸ h)
        exact ⟨hrest, hsame.trans htable⟩
    · rw [if_neg haccepted, if_neg haccepted]
      exact ih h

/-- **Passes are the same.** A pass over the other table makes the same documents of a batch, or ends in the same
failure. -/
theorem generate_withTable (h : g.resolver.table.Alike other) (batch : List Candidate) :
    (g.withTable other).generate isHandler batch
        = ((g.generate isHandler batch).1.withTable other, (g.generate isHandler batch).2) ∧
      (g.generate isHandler batch).1.resolver.table = g.resolver.table := by
  obtain ⟨hbatch, htable⟩ := addHandlers_withTable isHandler h batch
  rw [generate, generate, hbatch]
  generalize g.addHandlers isHandler batch = outcome at htable
  obtain ⟨g', e⟩ := outcome
  cases e with
  | some e => exact ⟨rfl, htable⟩
  | none => exact ⟨rfl, htable⟩

theorem run_withTable (h : g.resolver.table.Alike other) (batches : List (List Candidate)) :
    (g.withTable other).run isHandler batches = (g.run isHandler batches).withTable other ∧
      (g.run isHandler batches).resolver.table = g.resolver.table := by
  induction batches generalizing g with
  | nil => exact ⟨rfl, rfl⟩
  | cons batch rest ih =>
    obtain ⟨hbatch, htable⟩ := generate_withTable isHandler h batch
    obtain ⟨hrest, hsame⟩ := ih (htable.symm ▸ h)
    refine ⟨?_, hsame.trans htable⟩
    rw [run, List.foldl_cons, hbatch]
    exact hrest

end Generator

/-! ## Orders of insertion -/

theorem Schema.SymbolTable.Distinct.alike {table : SymbolTable} (h : table.Distinct)
    (hperm : table.definitions.Perm other.definitions) : table.Alike other :=
  ⟨hperm.length_eq, h.lookup_perm hperm⟩

/-- **Look-ups and insertion.** A look-up answers nothing just if the table has no class that the reference means, and
otherwise just what is nearest to the module. So for tables of the same definitions, each of another class, in any two
orders: all look-ups answer alike, a resolver with the one table answers and records what it does with the other one,
and a pass makes the same documents, or ends in the same failure, whatever it has read before. -/
theorem lookup_insertionOrder (table : SymbolTable) :
    (∀ ref package, (table.lookup ref package = none ↔ ∀ d ∈ table.definitions, ¬ d.MeantBy ref) ∧
      ∀ d, table.lookup ref package = some d ↔ table.Nearest ref package d) ∧
    ∀ other : SymbolTable, table.Distinct → table.definitions.Perm other.definitions →
      (∀ ref package, other.lookup ref package = table.lookup ref package) ∧
      (∀ (r : Resolver) ref package, ((r.withTable other).resolve ref package).answer
            = ((r.withTable table).resolve ref package).answer ∧
          ((r.withTable other).resolve ref package).resolver.cache
            = ((r.withTable table).resolve ref package).resolver.cache) ∧
      ∀ aliases info basePath isHandler batches batch,
        (((Generator.new other aliases info basePath).run isHandler batches).generate isHandler batch).2
          = (((Generator.new table aliases info basePath).run isHandler batches).generate isHandler batch).2 := by
  refine ⟨fun ref package => ⟨SymbolTable.lookup_none_iff, fun d => SymbolTable.lookup_some_iff⟩, ?_⟩
  intro other hdistinct hperm
  have halike := hdistinct.alike hperm
  refine ⟨fun ref package => (halike.lookup ref package).symm, fun r ref package => ?_, ?_⟩
  · have hresolve := Resolver.resolve_withTable (r := r.withTable table) halike ref package
    have hsame : (r.withTable other).resolve ref package = _ := hresolve
    rw [hsame]
    exact ⟨rfl, rfl⟩
  · intro aliases info basePath isHandler batches batch
    have hnew : Generator.new other aliases info basePath
        = (Generator.new table aliases info basePath).withTable other := rfl
    obtain ⟨hrun, htable⟩ :=
      Generator.run_withTable (g := .new table aliases info basePath) isHandler halike batches
    generalize (Generator.new table aliases info basePath).run isHandler batches = g at hrun htable
    obtain rfl : table = g.resolver.table := htable.symm
    rw [hnew, hrun, (Generator.generate_withTable isHandler halike batch).1]

/-- classes of one name in three modules -/
def scatteredPets : SymbolTable := ⟨[
  ⟨"Pet", "legacy.models", [], [⟨"id", "int", true⟩]⟩,
  ⟨"Pet", "app.v2.models", [], [⟨"tag", "str", true⟩]⟩,
  ⟨"Pet", "app.models", [], [⟨"name", "str", true⟩]⟩]⟩

/-- a function that answers with the class that is nearest to it -/
def showNearest : Candidate :=
  ⟨⟨"show", "show", "app.views", [], []⟩, ["# @Success 200 \x7bobject\x7d Pet", "# @router /pets"]⟩

theorem lookup_insertionOrder_scattered :
    let reversed : SymbolTable := ⟨scatteredPets.definitions.reverse⟩
    (reversed.lookup "Pet" "app.views").map Definition.module = some "app.models" ∧
      ((Generator.new scatteredPets ∅ .blank "").generate (fun _ => true) [showNearest]).2.isOk = true ∧
      ((Generator.new reversed ∅ .blank "").generate (fun _ => true) [showNearest]).2
        = ((Generator.new scatteredPets ∅ .blank "").generate (fun _ => true) [showNearest]).2 := by
  intro reversed
  have hdistinct : scatteredPets.Distinct := by
    unfold SymbolTable.Distinct
    decide
  obtain ⟨hlookup, -, hgenerate⟩ :=
    (lookup_insertionOrder scatteredPets).2 reversed hdistinct (List.reverse_perm _).symm
  refine ⟨?_, by decide +kernel, hgenerate ∅ .blank "" (fun _ => true) [] [showNearest]⟩
  rw [hlookup]
  decide +kernel

end RouteDocs
