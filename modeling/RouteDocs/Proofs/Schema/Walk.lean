/-
Walks over class definitions, by their steps.

- `Walk.step_moved_iff`, `Walk.step_failed_iff`: a step moves on exactly as `Moves` says, and fails exactly as `Fails`
  says.
- `Walk.run_invariant`: what holds at the start of a walk and is kept by every step holds when the walk is over,
  whether it has failed or not.
- `Walk.frames_of_run`: a walk that has not failed has closed every class.
- `Walk.run_moved`, `Walk.run_failed`: a run is its first step and then the rest.
-/
import RouteDocs.Schema.Resolver

namespace RouteDocs.Schema

variable {τ : Type} [TypeLookup τ] {aliases : Aliases}

theorem Follows.follow_eq {c : Cache} {table : τ} {ref package : String} {e : Entry τ}
    (h : Follows c table ref package e) : follow c table ref package = e := by
  cases h with
  | unresolved asked => simp [follow, asked]
  | collision asked found other => simp [follow, asked, found, other]
  | known asked found => simp [follow, asked, found]
  | opened asked new => simp [follow, asked, new]

/-- is the failure that a class is not found, or that there is a second one of its name? -/
def ResolveError.OfClasses : ResolveError → Prop
  | .unresolved _ _ | .collision _ => True
  | .unknownModel _ => False

/-- what a step of a walk stumbles over -/
inductive Fails (aliases : Aliases) : Walk τ → ResolveError → Walk τ → Prop
  /-- a field refers to no class -/
  | unresolved {f : Frame} {outer : List Frame} {c : Cache} {table after : τ} {field : Field} {rest : List Field}
    {ref : String} {isArray : Bool} (todo : f.todo = field :: rest)
    (typed : field.typeIn aliases = .composite ref isArray)
    (asked : TypeLookup.ask table ref f.definition.module = (none, after)) :
    Fails aliases ⟨f :: outer, c, table⟩ (.unresolved ref f.definition.module) ⟨f :: outer, c, after⟩
  /-- a field refers to a second class of a recorded name -/
  | collision {f : Frame} {outer : List Frame} {c : Cache} {table after : τ} {field : Field} {rest : List Field}
    {ref : String} {isArray : Bool} {d : Definition} {module : String} (todo : f.todo = field :: rest)
    (typed : field.typeIn aliases = .composite ref isArray)
    (asked : TypeLookup.ask table ref f.definition.module = (some d, after))
    (found : c.origins.get? d.name = some module) (other : module ≠ d.module) :
    Fails aliases ⟨f :: outer, c, table⟩ (.collision d.name) ⟨f :: outer, c, after⟩

namespace Walk

theorem step_of_moves {w v : Walk τ} (h : Moves aliases w v) : w.step aliases = .moved v := by
  cases h with
  | close todo => simp [step, todo]
  | primitive todo typed => simp [step, todo, typed]
  | known todo typed asked found => simp [step, todo, typed, (Follows.known asked found).follow_eq]
  | opened todo typed asked new => simp [step, todo, typed, (Follows.opened asked new).follow_eq]

theorem step_moved_iff {w v : Walk τ} : w.step aliases = .moved v ↔ Moves aliases w v :=
  ⟨moves_of_step, step_of_moves⟩

theorem step_of_fails {w v : Walk τ} {e : ResolveError} (h : Fails aliases w e v) : w.step aliases = .failed e v := by
  cases h with
  | unresolved todo typed asked => simp [step, todo, typed, (Follows.unresolved asked).follow_eq]
  | collision todo typed asked found other =>
    simp [step, todo, typed, (Follows.collision asked found other).follow_eq]

theorem fails_of_step {w v : Walk τ} {e : ResolveError} (h : w.step aliases = .failed e v) : Fails aliases w e v := by
  obtain ⟨frames, c, table⟩ := w
  unfold step at h
  cases frames with
  | nil => simp at h
  | cons f outer =>
    simp only at h
    split at h
    · simp at h
    · next field rest todo =>
      split at h
      · simp at h
      · next ref isArray typed =>
        have hf := follows_follow c table ref f.definition.module
        generalize follow c table ref f.definition.module = entry at h hf
        split at h
        · next error herror =>
          cases h
          cases hf with
          | unresolved asked => cases herror; exact .unresolved todo typed asked
          | collision asked found other => cases herror; exact .collision todo typed asked found other
          | known asked found => simp at herror
          | opened asked new => simp at herror
        · simp at h

theorem step_failed_iff {w v : Walk τ} {e : ResolveError} : w.step aliases = .failed e v ↔ Fails aliases w e v :=
  ⟨fails_of_step, step_of_fails⟩

theorem frames_of_finished {w : Walk τ} (h : w.step aliases = .finished) : w.frames = [] := by
  unfold step at h
  split at h
  · assumption
  · split at h
    · simp at h
    · split at h
      · simp at h
      · dsimp only at h
        split at h <;> simp at h

/-! ## Runs -/

theorem run_finished {w : Walk τ} (h : w.frames = []) : w.run aliases = (none, w) := by
  have hs : w.step aliases = .finished := by simp [step, h]
  rw [run]
  split <;> simp_all

theorem run_moved {w v : Walk τ} (h : w.step aliases = .moved v) : w.run aliases = v.run aliases := by
  rw [run]
  split <;> simp_all

theorem run_failed {w v : Walk τ} {e : ResolveError} (h : w.step aliases = .failed e v) :
    w.run aliases = (some e, v) := by
  rw [run]
  split <;> simp_all

/-- **Invariants of walks.** What every step keeps, moving on or failing, holds when the walk is over. -/
theorem run_invariant {P : Walk τ → Prop} (hmove : ∀ w v, Moves aliases w v → P w → P v)
    (hfail : ∀ w e v, Fails aliases w e v → P w → P v) (w : Walk τ) (h : P w) : P (w.run aliases).2 := by
  fun_induction run aliases w with
  | case1 w hs => exact h
  | case2 w e v hs => exact hfail w e v (fails_of_step hs) h
  | case3 w v hs ih => exact ih (hmove w v (moves_of_step hs) h)

/-- a walk fails only for a class that is not found or a second one of a name -/
theorem error_of_run {w : Walk τ} {e : ResolveError} (h : (w.run aliases).1 = some e) : e.OfClasses := by
  fun_induction run aliases w with
  | case1 w hs => cases h
  | case2 w e' v hs =>
    obtain rfl := Option.some.inj h
    cases fails_of_step hs <;> trivial
  | case3 w v hs ih => exact ih h

/-- a walk that has not failed has closed every class -/
theorem frames_of_run (aliases : Aliases) {w : Walk τ} (h : (w.run aliases).1 = none) :
    (w.run aliases).2.frames = [] := by
  fun_induction run aliases w with
  | case1 w hs => exact frames_of_finished hs
  | case2 w e v hs => simp at h
  | case3 w v hs ih => exact ih h

end Walk

end RouteDocs.Schema
