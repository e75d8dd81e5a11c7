/-
Passes over a symbol table: their resolver is faithful, whatever they read.
-/
import RouteDocs.Proofs.Generation.Pass
import RouteDocs.Proofs.Operation.SharedResolver

namespace RouteDocs.Generator

open Schema

variable {table : SymbolTable} {aliases : Aliases}

/-- a pass over a symbol table, with a faithful resolver -/
structure Faithful (table : SymbolTable) (aliases : Aliases) (g : Generator) : Prop where
  inv : g.Inv aliases
  resolver : g.resolver.Faithful table aliases

theorem faithful_new (table : SymbolTable) (aliases : Aliases) (info : ApiInfo) (basePath : String) :
    (new table aliases info basePath).Faithful table aliases :=
  ⟨inv_new table aliases info basePath, Resolver.faithful_new table aliases⟩

variable {g g' : Generator} {c : Candidate}

namespace Faithful

theorem reading (h : g.Faithful table aliases) (c : Candidate) : (g.reading c).resolver.Faithful table aliases :=
  readComment_resolver (fun _ ref package hr => hr.resolve ref package) c.comments g.resolver _ h.resolver

/-- reading a candidate only adds to what has been recorded -/
theorem within_reading (h : g.Faithful table aliases) (c : Candidate) :
    g.resolver.cache.Within (g.reading c).resolver.cache :=
  (h.inv.reading c).growth.within

theorem handles (h : g.Faithful table aliases) {e : Option GenerationError} (hh : g.Handles c g' e) :
    g'.Faithful table aliases := by
  refine ⟨hh.inv h.inv, ?_⟩
  rw [hh.effect.1]
  exact h.reading c

theorem addHandlers (h : g.Faithful table aliases) (isHandler : Signature → Bool) (l : List Candidate) :
    (g.addHandlers isHandler l).1.Faithful table aliases := by
  obtain ⟨-, hlast⟩ := addHandlers_induction isHandler l h.inv h
    fun _ _ _ _ _ _ _ hP hhandles => hP.handles hhandles
  exact hlast

end Faithful

end RouteDocs.Generator
