/-
Paths with null characters. No file has such a path, and an operation that is asked for one does not fail as the system
fails: the failure has no number.

- `locate_unusable_iff`: only such a path is unusable.
- `read_null_iff`, `makeDirectory_null_iff`: reading and making a directory fail so just for such a path.
- `write_null_iff`: writing does if nothing else fails before.
-/
import RouteDocs.Files.FileTree

namespace RouteDocs.Files

theorem Path.hasNull_parent {p : Path} (h : p.hasNull = false) : p.parent.hasNull = false := by
  rw [Path.hasNull, List.any_eq_false] at h ⊢
  intro part hpart
  exact h part ((List.dropLast_sublist _).subset hpart)

namespace FileTree

variable {t t' : FileTree} {p : Path} {content : List UInt8} {c : Conditions}

/-! ## Looking up -/

theorem follow_ne_unusable (t : FileTree) (place parts : List String) : t.follow place parts ≠ .unusable := by
  fun_induction follow t place parts with
  | case2 place rest ih => exact ih
  | case4 place part rest hup hsize hentry ih => exact ih
  | _ => exact nofun

theorem locate_unusable_iff : t.locate p = .unusable ↔ p.hasNull = true := by
  rw [locate]
  split
  · next hnull => simp [hnull]
  · next hnull =>
    refine ⟨fun h => ?_, fun h => absurd h hnull⟩
    split at h
    · cases h
    · exact absurd h (follow_ne_unusable t _ _)

theorem find_error {e : OsError} (h : t.find p = .error e) : e = .at .nameTooLong p := by
  rw [find] at h
  split at h
  · exact (Except.error.inj h).symm
  · cases h

theorem read_null_iff : t.read p = .error .nullCharacter ↔ p.hasNull = true := by
  rw [← locate_unusable_iff (t := t), read]
  cases t.locate p <;> simp

/-! ## Writing -/

theorem makeOne_null_iff : (t.makeOne p).2 = some .nullCharacter ↔ p.hasNull = true := by
  rw [← locate_unusable_iff (t := t), makeOne]
  cases t.locate p <;> simp

theorem makeDirectory_null_iff (depth : Nat) :
    (t.makeDirectory p depth).2 = some .nullCharacter ↔ p.hasNull = true := by
  induction depth generalizing p with
  | zero => exact makeOne_null_iff
  | succ depth ih =>
    rw [makeDirectory]
    split
    · next hlost =>
      have hnull : p.hasNull = false := by
        rw [Bool.eq_false_iff]
        intro hnull
        rw [locate_unusable_iff.2 hnull] at hlost
        cases hlost
      split
      · next t' e hmake =>
        have habove : (t.makeDirectory p.parent depth).2 ≠ some .nullCharacter := by
          rw [Ne, ih, Path.hasNull_parent hnull]
          exact nofun
        rw [hmake] at habove
        simp [hnull, habove]
      · exact makeOne_null_iff
    · exact makeOne_null_iff

theorem makeTemporary_null_iff (letters : List String) :
    t.makeTemporary p letters = .error .nullCharacter ↔ p.hasNull = true := by
  rw [makeTemporary]
  split
  · next hnull => simp [hnull]
  · next hnull =>
    refine ⟨fun h => ?_, fun h => absurd h hnull⟩
    split at h
    · cases h
    · split at h
      · split at h <;> cases h
      · cases h

theorem move_ne_null (source : List String) (hp : p.hasNull = false) : (t.move source p).2 ≠ some .nullCharacter := by
  rw [move]
  split
  · split
    · exact nofun
    · cases hlocation : t.locate p with
      | unusable => rw [locate_unusable_iff.1 hlocation] at hp; cases hp
      | _ => exact nofun
  · exact nofun

/-- a temporary file is not moved for a null character, and nothing else but the conditions can say so -/
theorem settle_ne_null (temporary : List String) (content : List UInt8) (hp : p.hasNull = false)
    (hc : ∀ n e, c.fault? = some (n, e) → e ≠ .nullCharacter) :
    (t.settle temporary p content c.fault?).2 ≠ some .nullCharacter := by
  unfold settle fill
  cases hfault : c.fault? with
  | some fault =>
    have hne := hc fault.1 fault.2 hfault
    simpa using hne
  | none =>
    have hmove := move_ne_null (t := t.put temporary (.file content)) temporary hp
    dsimp only
    split
    · next t' e hmoved => rwa [hmoved] at hmove
    · exact nofun

/-- **Writing to a path with a null character.** That is why a write fails just if the path holds one, and what stands
before its last part is not in the way. -/
theorem write_null_iff (hc : ∀ n e, c.fault? = some (n, e) → e ≠ .nullCharacter) :
    (t.write p content c).2 = some .nullCharacter ↔
      p.hasNull = true ∧ (p.parent.hasNull = true ∨ (t.makeDirectory p.parent p.parts.length).2 = none) := by
  rw [write]
  split
  · next t' e hmake =>
    have hparent := makeDirectory_null_iff (t := t) (p := p.parent) p.parts.length
    rw [hmake] at hparent
    rw [hmake, hparent]
    constructor
    · intro hnull
      refine ⟨?_, Or.inl hnull⟩
      cases hp : p.hasNull with
      | true => rfl
      | false => rw [Path.hasNull_parent hp] at hnull; cases hnull
    · rintro ⟨-, hnull | hnone⟩
      · exact hnull
      · cases hnone
  · next t' hmake =>
    rw [hmake]
    split
    · next e htemporary =>
      have hnull := makeTemporary_null_iff (t := t') (p := p) c.letters
      rw [htemporary] at hnull
      rw [← hnull]
      simp
    · next t'' temporary htemporary =>
      have hp : p.hasNull = false := by
        rw [Bool.eq_false_iff]
        intro hnull
        rw [(makeTemporary_null_iff c.letters).2 hnull] at htemporary
        cases htemporary
      have hne := settle_ne_null (t := t'') temporary content hp hc
      simp [hp, hne]

end FileTree

end RouteDocs.Files
