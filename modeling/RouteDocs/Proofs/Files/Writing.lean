/-
What a write does to the other files of a tree.

- `Grows`, `Writes`: the two things that can happen to a tree; either one keeps the directories (`Keeps`).
- `write_failed`: a write that fails leaves every file as it was, and no temporary file.
- `write_done`: one that does not fail puts its content where its path leads, and changes no other file.
- `write_directory`, `write_below_file`: two paths that can not be written.
- `contentAt?_writeAll`: after a sequence of writes a file holds what was written to it last.
-/
import RouteDocs.Files.FileTree
import RouteDocs.Proofs.OrderedMap

namespace RouteDocs.Files.FileTree

/-! ## Trees with the same files -/

def contentAt? (t : FileTree) (place : List String) : Option (List UInt8) :=
  match t.entry? place with
  | some (.file content) => some content
  | _ => none

/-- the working directory is the same in another tree, and every directory is there -/
structure Keeps (t t' : FileTree) : Prop where
  above : t'.above = t.above
  directories : ∀ q, t.entry? q = some .directory → t'.entry? q = some .directory

/-- the files are the same in another tree, which may have further directories -/
structure Grows (t t' : FileTree) : Prop extends t.Keeps t' where
  files : ∀ q, t'.contentAt? q = t.contentAt? q

/-- in another tree a path leads to a file with some content, all other files are the same, and there may be further
directories -/
structure Writes (t t' : FileTree) (p : Path) (place : List String) (content : List UInt8) : Prop
    extends t.Keeps t' where
  location : t'.locate p = .file place content
  files : ∀ q, q ≠ place → t'.contentAt? q = t.contentAt? q

theorem Keeps.refl (t : FileTree) : t.Keeps t := ⟨rfl, fun _ h => h⟩

theorem Keeps.trans {t₁ t₂ t₃ : FileTree} (h : t₁.Keeps t₂) (h' : t₂.Keeps t₃) : t₁.Keeps t₃ :=
  ⟨h'.above.trans h.above, fun q hq => h'.directories q (h.directories q hq)⟩

theorem Grows.refl (t : FileTree) : t.Grows t := ⟨.refl t, fun _ => rfl⟩

theorem Grows.trans {t₁ t₂ t₃ : FileTree} (h : t₁.Grows t₂) (h' : t₂.Grows t₃) : t₁.Grows t₃ :=
  ⟨h.toKeeps.trans h'.toKeeps, fun q => (h'.files q).trans (h.files q)⟩

theorem Grows.writes {t₁ t₂ t₃ : FileTree} {p : Path} {place : List String} {content : List UInt8}
    (h : t₁.Grows t₂) (h' : t₂.Writes t₃ p place content) : t₁.Writes t₃ p place content :=
  ⟨h.toKeeps.trans h'.toKeeps, h'.location, fun q hq => (h'.files q hq).trans (h.files q)⟩

variable {t t' : FileTree} {place q : List String} {content : List UInt8} {e : Entry}

theorem contentAt?_eq_some : t.contentAt? q = some content ↔ t.entry? q = some (.file content) := by
  unfold contentAt?
  split <;> simp_all

theorem contentAt?_congr (h : t'.entry? q = t.entry? q) : t'.contentAt? q = t.contentAt? q := by
  unfold contentAt?
  rw [h]

/-! ## Entries -/

theorem isTop_eq_false (h : t.entry? place ≠ some .directory) : isTop place = false := by
  rw [Bool.eq_false_iff]
  intro htop
  exact h (by rw [ entry?, if_pos htop])

theorem entry?_put (h : isTop place = false) :
    entry? (t.put place e) q = if q = place then some e else t.entry? q := by
  unfold entry? put
  by_cases hq : isTop q = true
  · have hne : q ≠ place := by
      rintro rfl
      exact absurd hq (by simp [h])
    simp [hq, hne]
  · simp [hq, OrderedMap.get?_insert]

theorem entry?_remove (h : isTop place = false) :
    entry? (t.remove place) q = if q = place then none else t.entry? q := by
  unfold entry? remove
  by_cases hq : isTop q = true
  · have hne : q ≠ place := by
      rintro rfl
      exact absurd hq (by simp [h])
    simp [hq, hne]
  · simp [hq, OrderedMap.get?_erase]

/-- a directory in a place where nothing was changes no file -/
theorem grows_put_directory (h : t.entry? place = none) : t.Grows (t.put place .directory) := by
  have htop : isTop place = false := isTop_eq_false (by rw [h]; exact nofun)
  refine ⟨⟨rfl, fun q hd => ?_⟩, fun q => ?_⟩
  · by_cases hq : q = place
    · rw [entry?_put htop, if_pos hq]
    · rwa [entry?_put htop, if_neg hq]
  · by_cases hq : q = place
    · subst hq
      simp [contentAt?, entry?_put htop, h]
    · exact contentAt?_congr (by rw [entry?_put htop, if_neg hq])

/-! ## Locations -/

/-- the place where a file can be put: nothing is there, or a file -/
def Location.target? : Location → Option (List String)
  | .file place _ | .missing place => some place
  | _ => none

/-- the entry at the place of a location is the one that the location tells -/
def Location.Tells (t : FileTree) : Location → Prop
  | .file place content => t.entry? place = some (.file content)
  | .missing place => t.entry? place = none
  | _ => True

theorem follow_tells (t : FileTree) (place parts : List String) : (t.follow place parts).Tells t := by
  fun_induction follow t place parts with
  | case1 => trivial
  | case2 place rest ih => exact ih
  | case3 => trivial
  | case4 place part rest hup hsize hentry ih => exact ih
  | case5 place part rest hup hsize content hentry hrest => exact hentry
  | case6 => trivial
  | case7 place part rest hup hsize hentry hrest => exact hentry
  | case8 => trivial

section Keeps

variable (hkeeps : t.Keeps t')
include hkeeps

theorem Keeps.up (place : List String) : t'.up place = t.up place := by rw [FileTree.up, FileTree.up, hkeeps.above]

theorem Keeps.down (place : List String) (name : String) : t'.down place name = t.down place name := by
  rw [FileTree.down, FileTree.down, hkeeps.above]

theorem Keeps.start (p : Path) : t'.start p = t.start p := by
  rw [FileTree.start, FileTree.start, top, top, hkeeps.above]

/-- a name on the way that is a directory is still one -/
theorem Keeps.follow_into {part : String} {rest : List String} (hup : part ≠ "..")
    (hsize : ¬ part.utf8ByteSize > maxNameSize) (hentry : t.entry? (t.down place part) = some .directory) :
    t'.follow place (part :: rest) = t'.follow (t.down place part) rest := by
  rw [follow, if_neg hup, if_neg hsize, hkeeps.down]
  simp only [hkeeps.directories _ hentry]

/-- the last name leads to the file that is put there -/
theorem Keeps.follow_last {part : String} {rest : List String} (hup : part ≠ "..")
    (hsize : ¬ part.utf8ByteSize > maxNameSize) (hrest : rest.isEmpty = true)
    (hfilled : t'.entry? (t.down place part) = some (.file content)) :
    t'.follow place (part :: rest) = .file (t.down place part) content := by
  rw [follow, if_neg hup, if_neg hsize, hkeeps.down]
  simp only [hfilled, if_pos hrest]

/-- what leads to a place leads to the file that is put there, if the directories on the way stay -/
theorem follow_filled {parts : List String} (hfilled : t'.entry? q = some (.file content))
    (h : (t.follow place parts).target? = some q) : t'.follow place parts = .file q content := by
  fun_induction follow t place parts with
  | case2 place rest ih =>
    rw [follow, if_pos rfl, hkeeps.up]
    exact ih h
  | case4 place part rest hup hsize hentry ih =>
    rw [hkeeps.follow_into hup hsize hentry]
    exact ih h
  | case5 place part rest hup hsize found hentry hrest =>
    cases h
    exact hkeeps.follow_last hup hsize hrest hfilled
  | case7 place part rest hup hsize hentry hrest =>
    cases h
    exact hkeeps.follow_last hup hsize hrest hfilled
  | _ => cases h

/-- what leads to a directory leads there as long as all directories stay -/
theorem follow_directory {parts : List String} (h : t.follow place parts = .directory q) :
    t'.follow place parts = .directory q := by
  fun_induction follow t place parts with
  | case1 => exact h
  | case2 place rest ih =>
    rw [follow, if_pos rfl, hkeeps.up]
    exact ih h
  | case4 place part rest hup hsize hentry ih =>
    rw [hkeeps.follow_into hup hsize hentry]
    exact ih h
  | _ => cases h

end Keeps

variable {p : Path}

theorem locate_tells (t : FileTree) (p : Path) : (t.locate p).Tells t := by
  unfold locate
  repeat' split
  · trivial
  · trivial
  · exact follow_tells t (t.start p) p.parts

/-- no directory is where a file can be put -/
theorem target_not_directory (h : (t.locate p).target? = some q) : t.entry? q ≠ some .directory := by
  have htells := locate_tells t p
  cases hlocation : t.locate p with
  | file place content =>
    rw [hlocation] at h htells
    cases h
    rw [show t.entry? q = some (.file content) from htells]
    exact nofun
  | missing place =>
    rw [hlocation] at h htells
    cases h
    rw [show t.entry? q = none from htells]
    exact nofun
  | _ =>
    rw [hlocation] at h
    cases h

theorem locate_filled (hkeeps : t.Keeps t') (hfilled : t'.entry? q = some (.file content))
    (h : (t.locate p).target? = some q) : t'.locate p = .file q content := by
  unfold locate at h ⊢
  split at h
  · cases h
  · next hnull =>
    split at h
    · cases h
    · next hsize =>
      rw [if_neg hnull, if_neg hsize, hkeeps.start]
      exact follow_filled hkeeps hfilled h

theorem locate_directory (hkeeps : t.Keeps t') (h : t.locate p = .directory q) : t'.locate p = .directory q := by
  unfold locate at h ⊢
  split at h
  · cases h
  · next hnull =>
    split at h
    · cases h
    · next hsize =>
      rw [if_neg hnull, if_neg hsize, hkeeps.start]
      exact follow_directory hkeeps h

/-! ## Making directories -/

theorem makeOne_grows (t : FileTree) (p : Path) : t.Grows (t.makeOne p).1 := by
  have htells := locate_tells t p
  unfold makeOne
  split
  case h_2 place hmissing =>
    rw [hmissing] at htells
    exact grows_put_directory htells
  all_goals exact Grows.refl t

theorem makeDirectory_grows (t : FileTree) (p : Path) (depth : Nat) : t.Grows (t.makeDirectory p depth).1 := by
  fun_induction makeDirectory t p depth with
  | case1 p => exact makeOne_grows t p
  | case2 p depth hlost t' e hparent ih =>
    rw [hparent] at ih
    exact ih
  | case3 p depth hlost t' hparent ih =>
    rw [hparent] at ih
    exact ih.trans (makeOne_grows t' p)
  | case4 p depth hthere => exact makeOne_grows t p

/-! ## The temporary file -/

/-- a tree with a temporary file, at a place where nothing was -/
structure Stages (t t' : FileTree) (place : List String) (content : List UInt8) : Prop where
  above : t'.above = t.above
  free : t.entry? place = none
  entries : ∀ q, t'.entry? q = if q = place then some (.file content) else t.entry? q

theorem Stages.isTop_eq_false (h : t.Stages t' place content) : isTop place = false :=
  FileTree.isTop_eq_false (by rw [h.free]; exact nofun)

theorem stages_makeTemporary {letters : List String} (h : t.makeTemporary p letters = .ok (t', place)) :
    t.Stages t' place [] := by
  unfold makeTemporary at h
  split at h
  · cases h
  · split at h
    · cases h
    · split at h
      · split at h
        · next q hfind =>
          cases h
          have hnone := List.find?_some hfind
          have hfree : t.entry? place = none := eq_of_beq hnone
          exact ⟨rfl, hfree, fun q => entry?_put (FileTree.isTop_eq_false (by rw [hfree]; exact nofun))⟩
        · cases h
      · cases h

/-- whatever is written to the temporary file, it is all that is new -/
theorem Stages.put (h : t.Stages t' place content) (more : List UInt8) :
    t.Stages (t'.put place (.file more)) place more := by
  refine ⟨h.above, h.free, fun q => ?_⟩
  rw [entry?_put h.isTop_eq_false]
  by_cases hq : q = place
  · simp [hq]
  · simp [hq, h.entries]

/-- without the temporary file the tree is as it was -/
theorem Stages.entry?_remove (h : t.Stages t' place content) (q : List String) :
    entry? (t'.remove place) q = t.entry? q := by
  rw [FileTree.entry?_remove h.isTop_eq_false]
  by_cases hq : q = place
  · rw [if_pos hq, hq, h.free]
  · rw [if_neg hq, h.entries, if_neg hq]

theorem Stages.grows_remove (h : t.Stages t' place content) : t.Grows (t'.remove place) :=
  ⟨⟨h.above, fun q hq => (h.entry?_remove q).trans hq⟩, fun q => contentAt?_congr (h.entry?_remove q)⟩

theorem Stages.stay (h : t.Stages t' place content) (hq : t.entry? q = some .directory) :
    t'.entry? q = some .directory := by
  rw [h.entries]
  split
  · next heq =>
    rw [heq, h.free] at hq
    cases hq
  · exact hq

/-- a temporary file that can not be moved stays where it is -/
theorem move_failed {e : OsError} {t₂ : FileTree} (h : t.move place p = (t₂, some e)) : t₂ = t := by
  unfold move at h
  repeat' split at h
  all_goals cases h; try rfl

/-- a temporary file that is moved is where the path leads, and nowhere else -/
theorem Stages.move_done {t₂ : FileTree} (h : t.Stages t' place content) (hmove : t'.move place p = (t₂, none)) :
    ∃ target, t.Writes t₂ p target content := by
  have hmoved : ∃ target, (t'.locate p).target? = some target ∧
      t₂ = (t'.remove place).put target (.file content) := by
    have hsource : t'.entry? place = some (.file content) := by rw [h.entries, if_pos rfl]
    unfold move at hmove
    rw [hsource] at hmove
    simp only at hmove
    split at hmove
    · cases hmove
    · cases hlocation : t'.locate p <;> rw [hlocation] at hmove <;> cases hmove
      · exact ⟨_, rfl, rfl⟩
      · exact ⟨_, rfl, rfl⟩
  obtain ⟨target, htarget, rfl⟩ := hmoved
  have hnot : t'.entry? target ≠ some .directory := target_not_directory htarget
  have hentry (q : List String) : entry? ((t'.remove place).put target (.file content)) q
      = if q = target then some (.file content) else t.entry? q := by
    rw [entry?_put (FileTree.isTop_eq_false hnot), h.entry?_remove]
  have hstay (r : List String) (hr : t.entry? r = some .directory) :
      entry? ((t'.remove place).put target (.file content)) r = some .directory := by
    rw [hentry, if_neg, hr]
    rintro rfl
    exact hnot (h.stay hr)
  have hkeeps : t'.Keeps ((t'.remove place).put target (.file content)) := by
    refine ⟨rfl, fun r hr => ?_⟩
    -- a directory beside a temporary file was there before
    rw [h.entries] at hr
    split at hr
    · cases hr
    · exact hstay r hr
  exact ⟨target, ⟨h.above, hstay⟩, locate_filled hkeeps (by rw [hentry, if_pos rfl]) htarget,
    fun q hq => contentAt?_congr (by rw [hentry, if_neg hq])⟩

/-! ## Writing -/

variable {fault? : Option (Nat × OsError)} {more : List UInt8} {e : OsError} {t₂ : FileTree} {c : Conditions}

theorem Stages.settle_failed (h : t.Stages t' place more)
    (hsettle : t'.settle place p content fault? = (t₂, some e)) :
    t.Grows t₂ := by
  unfold settle fill at hsettle
  cases fault? with
  | some fault =>
    cases hsettle
    exact (h.put _).grows_remove
  | none =>
    simp only at hsettle
    split at hsettle
    · next t₃ e' hmove =>
      cases hsettle
      rw [move_failed hmove]
      exact (h.put _).grows_remove
    · cases hsettle

theorem Stages.settle_done (h : t.Stages t' place more) (hsettle : t'.settle place p content fault? = (t₂, none)) :
    ∃ target, t.Writes t₂ p target content := by
  unfold settle fill at hsettle
  cases fault? with
  | some fault => cases hsettle
  | none =>
    simp only at hsettle
    split at hsettle
    · cases hsettle
    · next t₃ hmove =>
      cases hsettle
      exact (h.put _).move_done hmove

/-- **A write that fails leaves every file as it was, and no temporary one.** -/
theorem write_failed (h : (t.write p content c).2 = some e) : t.Grows (t.write p content c).1 := by
  have hgrows := makeDirectory_grows t p.parent p.parts.length
  unfold write at h ⊢
  split
  · next t₁ e₁ hmake =>
    rw [hmake] at hgrows
    exact hgrows
  · next t₁ hmake =>
    rw [hmake] at hgrows h
    simp only at h
    split
    · exact hgrows
    · next t₂ temporary htemporary =>
      rw [htemporary] at h
      exact hgrows.trans ((stages_makeTemporary htemporary).settle_failed (Prod.ext rfl h))

/-- **A write that does not fail puts its content where its path leads, and changes no other file.** -/
theorem write_done (h : (t.write p content c).2 = none) :
    ∃ place, t.Writes (t.write p content c).1 p place content := by
  have hgrows := makeDirectory_grows t p.parent p.parts.length
  unfold write at h ⊢
  split
  · next t₁ e₁ hmake =>
    rw [hmake] at h
    cases h
  · next t₁ hmake =>
    rw [hmake] at hgrows h
    simp only at h
    split
    · next e' htemporary =>
      rw [htemporary] at h
      cases h
    · next t₂ temporary htemporary =>
      rw [htemporary] at h
      obtain ⟨place, hwrites⟩ := (stages_makeTemporary htemporary).settle_done (Prod.ext rfl h)
      exact ⟨place, hgrows.writes hwrites⟩

/-- what leads to a directory can not be written -/
theorem write_directory (h : t.locate p = .directory q) : ∃ e, (t.write p content c).2 = some e := by
  cases hwrite : (t.write p content c).2 with
  | some e => exact ⟨e, rfl⟩
  | none =>
    obtain ⟨place, hwrites⟩ := write_done hwrite
    have hstays := locate_directory hwrites.toKeeps h
    rw [hwrites.location] at hstays
    cases hstays

/-- what stands below a file can not be written -/
theorem write_below_file {old : List UInt8} (h : t.locate p.parent = .file q old) :
    (t.write p content c).2 = some (.at .exists p.parent) := by
  have hone : t.makeOne p.parent = (t, some (.at .exists p.parent)) := by
    unfold makeOne
    rw [h]
  have hmake (depth : Nat) : t.makeDirectory p.parent depth = (t, some (.at .exists p.parent)) := by
    cases depth with
    | zero => exact hone
    | succ depth =>
      rw [makeDirectory, if_neg (by rw [h]; exact nofun)]
      exact hone
  unfold write
  rw [hmake]

end FileTree

/-! ## Sequences of writes -/

structure Write where
  path : Path
  content : List UInt8
  conditions : FileTree.Conditions
deriving DecidableEq

def Write.run (w : Write) (t : FileTree) : FileTree × Option OsError := t.write w.path w.content w.conditions

namespace FileTree

/-- a tree after some writes, of which some may have failed -/
def writeAll (t : FileTree) (writes : List Write) : FileTree := writes.foldl (fun t w => (w.run t).1) t

/-- where a write puts its content, if it does not fail -/
def landing? (t : FileTree) (w : Write) : Option (List String) :=
  match w.run t with
  | (_, some _) => none
  | (t', none) => (t'.locate w.path).target?

/-- what some writes put at a place, from the first to the last -/
def landed (q : List String) : FileTree → List Write → List (List UInt8)
  | _, [] => []
  | t, w :: rest => (if t.landing? w = some q then [w.content] else []) ++ landed q (w.run t).1 rest

theorem contentAt?_run (t : FileTree) (w : Write) (q : List String) :
    (w.run t).1.contentAt? q = if t.landing? w = some q then some w.content else t.contentAt? q := by
  cases hresult : (w.run t).2 with
  | some e =>
    have hlanding : t.landing? w = none := by
      unfold landing?
      rw [show w.run t = ((w.run t).1, some e) from Prod.ext rfl hresult]
    rw [hlanding, if_neg nofun]
    exact (write_failed hresult).files q
  | none =>
    obtain ⟨place, hwrites⟩ := write_done hresult
    have hlanding : t.landing? w = some place := by
      unfold landing?
      rw [show w.run t = ((w.run t).1, none) from Prod.ext rfl hresult]
      have hlocation : (w.run t).1.locate w.path = .file place w.content := hwrites.location
      simp only [hlocation, Location.target?]
    rw [hlanding]
    by_cases hq : place = q
    · subst hq
      rw [if_pos rfl, contentAt?_eq_some]
      have htells := locate_tells (w.run t).1 w.path
      rwa [Write.run, hwrites.location] at htells
    · rw [if_neg (fun h => hq (Option.some.inj h))]
      exact hwrites.files q (Ne.symm hq)

/-- **A file holds what was written to it last, or what it held before.** -/
theorem contentAt?_writeAll (t : FileTree) (writes : List Write) (q : List String) :
    (t.writeAll writes).contentAt? q = (landed q t writes).getLast?.or (t.contentAt? q) := by
  induction writes generalizing t with
  | nil => rfl
  | cons w rest ih =>
    rw [writeAll, List.foldl_cons, ← writeAll, ih, landed, contentAt?_run]
    by_cases hw : t.landing? w = some q
    · rw [if_pos hw, if_pos hw, List.singleton_append]
      cases hrest : landed q (w.run t).1 rest with
      | nil => rfl
      | cons a l => rw [List.getLast?_cons_cons, List.getLast?_cons]; rfl
    · rw [if_neg hw, if_neg hw, List.nil_append]

end FileTree

end RouteDocs.Files
