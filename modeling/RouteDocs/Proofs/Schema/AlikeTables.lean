/-
A resolver whose table is replaced by one that answers every reference alike.

A walk sees its table only through the answers to references, and through the number of definitions, which bounds how
deep bases are followed. So all that a resolver does commutes with the replacement: every step of a walk, its end, and
the cache that it leaves.

- `Walk.run_withTable`: a walk over the other table is the same walk.
- `Resolver.resolve_withTable`: so is a call.
-/
import RouteDocs.Proofs.Schema.InheritedFields
import RouteDocs.Proofs.Schema.Session

namespace RouteDocs.Schema

variable {table other : SymbolTable} {aliases : Aliases}

namespace SymbolTable

/-- two tables of as many definitions that answer every reference alike -/
structure Alike (table other : SymbolTable) : Prop where
  length : table.definitions.length = other.definitions.length
  lookup : ∀ ref package, table.lookup ref package = other.lookup ref package

theorem Alike.lineageFrom (h : table.Alike other) (depth : Nat) :
    table.lineageFrom depth = other.lineageFrom depth := by
  have haddBase (sub : Definition → List String → Lineage) :
      Lineage.addBase table sub = Lineage.addBase other sub := by
    funext package acc base
    rw [Lineage.addBase, Lineage.addBase, h.lookup]
  induction depth with
  | zero => rfl
  | succ depth ih =>
    funext d seen
    rw [SymbolTable.lineageFrom, SymbolTable.lineageFrom, ih, haddBase]

/-- every class has the same fields -/
theorem Alike.fieldsOf (h : table.Alike other) (d : Definition) :
    (Schema.fieldsOf table d).1 = (Schema.fieldsOf other d).1 := by
  rw [fieldsOf_eq, fieldsOf_eq, contributions, contributions, lineage, lineage, h.lineageFrom, h.length]

/-- the other table answers a question alike, and neither table is changed by it -/
theorem Alike.ask (h : table.Alike other) {ref package : String} {answer : Option Definition} {after : SymbolTable}
    (asked : TypeLookup.ask table ref package = (answer, after)) :
    after = table ∧ TypeLookup.ask other ref package = (answer, other) := by
  rw [ask_eq] at asked
  obtain ⟨hanswer, hafter⟩ := Prod.mk.inj asked
  exact ⟨hafter.symm, by rw [ask_eq, ← h.lookup, hanswer]⟩

end SymbolTable

/-! ## Walks -/

def Walk.withTable (w : Walk SymbolTable) (table : SymbolTable) : Walk SymbolTable := { w with table := table }

/-- what following a reference came to, with another table -/
def Entry.withTable (e : Entry SymbolTable) (table : SymbolTable) : Entry SymbolTable := { e with table := table }

theorem Follows.withTable (h : table.Alike other) {c : Cache} {ref package : String} {e : Entry SymbolTable}
    (hf : Follows c table ref package e) : Follows c other ref package (e.withTable other) := by
  cases hf with
  | unresolved asked => exact .unresolved (h.ask asked).2
  | collision asked found other => exact .collision (h.ask asked).2 found other
  | known asked found => exact .known (h.ask asked).2 found
  | opened asked new =>
    obtain ⟨rfl, asked'⟩ := h.ask asked
    have hopened := Follows.opened asked' new
    rw [← h.fieldsOf, SymbolTable.fieldsOf_table] at hopened
    exact hopened

theorem Moves.withTable {w v : Walk SymbolTable} (hm : Moves aliases w v) (h : w.table.Alike other) :
    Moves aliases (w.withTable other) (v.withTable other) := by
  cases hm with
  | close todo => exact .close todo
  | primitive todo typed => exact .primitive todo typed
  | known todo typed asked found => exact .known todo typed (h.ask asked).2 found
  | @opened f outer c t after field rest ref isArray d todo typed asked new =>
    obtain ⟨rfl, asked'⟩ := h.ask asked
    have hopened : Moves aliases ⟨f :: outer, c, other⟩ _ := .opened todo typed asked' new
    rw [← h.fieldsOf, SymbolTable.fieldsOf_table] at hopened
    exact hopened

theorem Fails.withTable {w v : Walk SymbolTable} {e : ResolveError} (hf : Fails aliases w e v)
    (h : w.table.Alike other) : Fails aliases (w.withTable other) e (v.withTable other) := by
  cases hf with
  | unresolved todo typed asked => exact .unresolved todo typed (h.ask asked).2
  | collision todo typed asked found other => exact .collision todo typed (h.ask asked).2 found other

/-- **Walks are the same.** A walk over the other table makes the same steps, and ends alike. -/
theorem Walk.run_withTable {w : Walk SymbolTable} (h : w.table.Alike other) :
    (w.withTable other).run aliases = ((w.run aliases).1, (w.run aliases).2.withTable other) := by
  fun_induction Walk.run aliases w with
  | case1 w hs =>
    have hframes : w.frames = [] := frames_of_finished hs
    exact run_finished (w := w.withTable other) hframes
  | case2 w e v hs => exact run_failed (step_of_fails ((fails_of_step hs).withTable h))
  | case3 w v hs ih =>
    have hm := moves_of_step hs
    rw [run_moved (step_of_moves (hm.withTable h))]
    exact ih (hm.table_eq ▸ h)

/-! ## Calls -/

namespace Resolver

/-- the outcome of a call, with another table in the resolver -/
def Resolution.withTable (r : Resolution SymbolTable) (table : SymbolTable) : Resolution SymbolTable :=
  { r with resolver := r.resolver.withTable table }

/-- **Calls are the same.** A resolver with the other table answers alike, and records the same. -/
theorem resolve_withTable {r : Resolver} (h : r.table.Alike other) (ref package : String) :
    (r.withTable other).resolve ref package = (r.resolve ref package).withTable other := by
  have hfollow : follow r.cache other ref package = (follow r.cache r.table ref package).withTable other :=
    ((follows_follow r.cache r.table ref package).withTable h).follow_eq
  have hwalk : (r.withTable other).walk ref package = (r.walk ref package).withTable other := by
    dsimp only [walk, withTable]
    rw [hfollow]
    rfl
  have htable : (r.walk ref package).table = r.table := (follows_follow r.cache r.table ref package).table_eq
  have hrun : ((r.walk ref package).withTable other).run r.aliases = _ := Walk.run_withTable (htable.symm ▸ h)
  rw [← hwalk] at hrun
  cases hprim : r.primitiveName? ref with
  | some name =>
    have hsome : (r.primitiveName? ref).isSome = true := by rw [hprim]; rfl
    rw [resolve_primitive hsome, resolve_primitive (r := r.withTable other) hsome]
    rfl
  | none =>
    have hreached : (r.withTable other).reached ref package = r.reached ref package := by
      dsimp only [reached, withTable] at hrun ⊢
      rw [hrun, hfollow]
      rfl
    have hwalked : (r.withTable other).walked ref package = (r.walked ref package).withTable other := by
      dsimp only [walked, withTable] at hrun ⊢
      rw [hrun]
    rw [resolve_eq hprim, resolve_eq (r := r.withTable other) hprim, hreached, hwalked]
    cases r.reached ref package with
    | error e => rfl
    | ok id => rfl

end Resolver

end RouteDocs.Schema
