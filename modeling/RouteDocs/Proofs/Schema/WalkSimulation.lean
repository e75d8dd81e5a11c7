/-
Two walks over one symbol table, of which the one has recorded no class that the other has not.

The walk that lags behind meets classes which the other one has closed before; it opens and closes them on the way, and
can not fail there, since all that they refer to has been recorded by the other walk (`Trails.catch_up`). Apart from
these classes both make the same steps.

- `Trails.step`: each step of the walk ahead is one of the walk behind.
- `Walk.run_trails`: unless the walk ahead meets a second class of a name, both walks end alike.
-/
import RouteDocs.Proofs.Schema.FaithfulCache

namespace RouteDocs.Schema

variable {table : SymbolTable} {aliases : Aliases}

/-- `v` is where `w` is, but for the open classes in `extra`, which `w` has closed before, and for classes that only `w`
has recorded -/
structure Trails (table : SymbolTable) (aliases : Aliases) (extra : List Frame) (v w : Walk SymbolTable) : Prop where
  behind : v.Faithful table aliases
  ahead : w.Faithful table aliases
  frames : v.frames = extra ++ w.frames
  within : v.cache.Within w.cache
  held : ∀ f ∈ extra, w.cache.Holds table aliases f.definition

namespace Trails

variable {extra : List Frame} {v w : Walk SymbolTable}

/-- a class that only the walk ahead has recorded is closed there -/
theorem holds_of_new (h : Trails table aliases extra v w) {d : Definition} (hd : table.Visible d)
    (hw : w.cache.origins.get? d.name = some d.module) (hv : v.cache.origins.get? d.name = none) :
    w.cache.Holds table aliases d := by
  rcases h.ahead.tracks.entries d.name d.module hw with ⟨e, he, hname, hmodule, hholds⟩ | ⟨f, hf, hname⟩
  · exact he.eq hd hname hmodule ▸ hholds
  · have hopen : f ∈ v.frames := by
      rw [h.frames]
      exact List.mem_append_right _ hf
    have hrecorded := (h.behind.tracks.frames f hopen).recorded
    rw [hname, hv] at hrecorded
    cases hrecorded

/-- a class that the walk ahead has recorded with its module is not recorded with another one by the walk behind -/
theorem known_or_new (h : Trails table aliases extra v w) {d : Definition}
    (hw : w.cache.origins.get? d.name = some d.module) :
    v.cache.origins.get? d.name = some d.module ∨ v.cache.origins.get? d.name = none := by
  cases hv : v.cache.origins.get? d.name with
  | none => exact Or.inr rfl
  | some module => exact Or.inl ((h.within _ _ hv).symm.trans hw)

/-- the walk behind goes on with the classes that the walk ahead has closed -/
theorem advance {f : Frame} (h : Trails table aliases (f :: extra) v w) :
    ∃ v' extra', Moves aliases v v' ∧ Trails table aliases extra' v' w := by
  obtain ⟨frames, c, t⟩ := v
  obtain rfl : frames = f :: (extra ++ w.frames) := h.frames
  obtain rfl : t = table := h.behind.tracks.sameTable
  have hf := h.behind.tracks.frames f List.mem_cons_self
  have hheld := h.held f List.mem_cons_self
  have hextra : ∀ g ∈ extra, w.cache.Holds t aliases g.definition :=
    fun g hg => h.held g (List.mem_cons_of_mem _ hg)
  cases todo : f.todo with
  | nil =>
    have hm : Moves aliases ⟨f :: (extra ++ w.frames), c, t⟩ _ := .close todo
    exact ⟨_, extra, hm, hm.faithful h.behind, h.ahead, rfl, h.within, hextra⟩
  | cons field rest =>
    cases typed : field.typeIn aliases with
    | primitive type isArray =>
      have hm : Moves aliases ⟨f :: (extra ++ w.frames), c, t⟩ _ := .primitive todo typed
      refine ⟨_, f.describe field.name (.ofPrimitive type isArray) :: extra, hm, hm.faithful h.behind, h.ahead, rfl,
        h.within, ?_⟩
      exact List.forall_mem_cons.2 ⟨hheld, hextra⟩
    | composite ref isArray =>
      obtain ⟨d, hlookup, hw⟩ := hheld.covered ref (hf.mem_mentions todo typed)
      have asked : TypeLookup.ask t ref f.definition.module = (some d, t) := by rw [SymbolTable.ask_eq, hlookup]
      rcases h.known_or_new hw with found | new
      · have hm : Moves aliases ⟨f :: (extra ++ w.frames), c, t⟩ _ := .known todo typed asked found
        refine ⟨_, f.refer field.name d.name isArray :: extra, hm, hm.faithful h.behind, h.ahead, rfl, h.within, ?_⟩
        exact List.forall_mem_cons.2 ⟨hheld, hextra⟩
      · have hm : Moves aliases ⟨f :: (extra ++ w.frames), c, t⟩ _ := .opened todo typed asked new
        refine ⟨_, .start d (fieldsOf t d).1 :: f.refer field.name d.name isArray :: extra, hm,
          hm.faithful h.behind, h.ahead, rfl, h.within.start hw, ?_⟩
        have hd := h.holds_of_new (SymbolTable.visible_of_lookup hlookup) hw new
        exact List.forall_mem_cons.2 ⟨hd, List.forall_mem_cons.2 ⟨hheld, hextra⟩⟩

/-- the walk behind comes to where the walk ahead is -/
theorem catch_up (h : Trails table aliases extra v w) :
    ∃ v', v.run aliases = v'.run aliases ∧ Trails table aliases [] v' w := by
  cases extra with
  | nil => exact ⟨v, rfl, h⟩
  | cons f extra =>
    fun_induction Walk.run aliases v generalizing f extra with
    | case1 v hs =>
      obtain ⟨v', extra', hm, -⟩ := h.advance
      rw [Walk.step_of_moves hm] at hs
      cases hs
    | case2 v e u hs =>
      obtain ⟨v', extra', hm, -⟩ := h.advance
      rw [Walk.step_of_moves hm] at hs
      cases hs
    | case3 v u hs ih =>
      obtain ⟨v', extra', hm, h'⟩ := h.advance
      rw [Walk.step_of_moves hm] at hs
      obtain rfl : v' = u := Step.moved.inj hs
      cases extra' with
      | nil => exact ⟨v', rfl, h'⟩
      | cons g extra' => exact ih g extra' h'

/-- **Steps are matched.** Where the walk ahead moves, the walk behind moves too, and may have to open a class that is
closed for the walk ahead. -/
theorem step {w' : Walk SymbolTable} (h : Trails table aliases [] v w) (hw : Moves aliases w w') :
    ∃ v' extra', Moves aliases v v' ∧ Trails table aliases extra' v' w' := by
  have hahead := hw.faithful h.ahead
  obtain ⟨frames, b, t⟩ := v
  obtain rfl : t = table := h.behind.tracks.sameTable
  obtain rfl : frames = w.frames := h.frames
  cases hw with
  | @close f outer c table' todo =>
    have hm : Moves aliases ⟨f :: outer, b, t⟩ _ := .close todo
    exact ⟨_, [], hm, hm.faithful h.behind, hahead, rfl, h.within, by simp⟩
  | @primitive f outer c table' field rest type isArray todo typed =>
    have hm : Moves aliases ⟨f :: outer, b, t⟩ _ := .primitive todo typed
    exact ⟨_, [], hm, hm.faithful h.behind, hahead, rfl, h.within, by simp⟩
  | @known f outer c table' after field rest ref isArray d todo typed asked found =>
    obtain rfl : table' = t := h.ahead.tracks.sameTable
    obtain ⟨hlookup, rfl⟩ := Prod.mk.inj asked
    rcases h.known_or_new found with hv | new
    · have hm : Moves aliases ⟨f :: outer, b, table'⟩ _ := .known todo typed asked hv
      exact ⟨_, [], hm, hm.faithful h.behind, hahead, rfl, h.within, by simp⟩
    · have hm : Moves aliases ⟨f :: outer, b, table'⟩ _ := .opened todo typed asked new
      have hd : c.Holds table' aliases d := h.holds_of_new (SymbolTable.visible_of_lookup hlookup) found new
      exact ⟨_, [_], hm, hm.faithful h.behind, hahead, rfl, h.within.start found,
        List.forall_mem_cons.2 ⟨hd, by simp⟩⟩
  | @opened f outer c table' after field rest ref isArray d todo typed asked new =>
    obtain rfl : table' = t := h.ahead.tracks.sameTable
    obtain ⟨hlookup, rfl⟩ := Prod.mk.inj asked
    have hv : b.origins.get? d.name = none := by
      cases hb : b.origins.get? d.name with
      | none => rfl
      | some module =>
        have := h.within _ _ hb
        rw [show c.origins.get? d.name = none from new] at this
        cases this
    have hm : Moves aliases ⟨f :: outer, b, table'⟩ _ := .opened todo typed asked hv
    have hwithin : (b.start d).Within (c.start d) :=
      Cache.Within.start (h.within.trans (Cache.extends_start new).within) (by rw [Cache.get?_start, if_pos rfl])
    exact ⟨_, [], hm, hm.faithful h.behind, hahead, rfl, hwithin, by simp⟩

end Trails

/-- **Walks behind fail no other way.** Unless the walk ahead meets a second class of a name, both walks end alike: with
the same reference that means no class, or without a failure, the walk behind having recorded nothing else. -/
theorem Walk.run_trails {extra : List Frame} {v w : Walk SymbolTable} (h : Trails table aliases extra v w) :
    (∃ id, (w.run aliases).1 = some (.collision id)) ∨
      ((v.run aliases).1 = (w.run aliases).1 ∧
        ((w.run aliases).1 = none → (v.run aliases).2.cache.Within (w.run aliases).2.cache)) := by
  fun_induction Walk.run aliases w generalizing v extra with
  | case1 w hs =>
    obtain ⟨v', hrun, h'⟩ := h.catch_up
    have hframes : v'.frames = [] := by rw [h'.frames, List.nil_append, frames_of_finished hs]
    rw [hrun, run_finished hframes]
    exact Or.inr ⟨rfl, fun _ => h'.within⟩
  | case2 w e u hs =>
    obtain ⟨v', hrun, h'⟩ := h.catch_up
    obtain ⟨frames, b, t⟩ := v'
    obtain rfl : t = table := h'.behind.tracks.sameTable
    obtain rfl : frames = w.frames := h'.frames
    cases fails_of_step hs with
    | collision todo typed asked found other => exact Or.inl ⟨_, rfl⟩
    | @unresolved f outer c table' after field rest ref isArray todo typed asked =>
      obtain rfl : table' = t := h'.ahead.tracks.sameTable
      have hf : Fails aliases ⟨f :: outer, b, table'⟩ _ _ := .unresolved todo typed asked
      rw [hrun, run_failed (step_of_fails hf)]
      exact Or.inr ⟨rfl, fun he => (by cases he)⟩
  | case3 w u hs ih =>
    obtain ⟨v', hrun, h'⟩ := h.catch_up
    obtain ⟨v'', extra', hm, h''⟩ := h'.step (moves_of_step hs)
    rw [hrun, run_moved (step_of_moves hm)]
    exact ih h''

end RouteDocs.Schema
