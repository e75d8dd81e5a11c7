/-
Configuration files that break a run off.

Of what can be wrong with a configuration, a run reports that the text is not well formed, and that a setting has a
value of the wrong kind. Nothing else that a file can have wrong is looked out for. This is so with any decoder.

- `Breaks`: what else can be wrong with a configuration file.
- `ofFile_escapes_iff`: a file that is there gives a failure that is not reported just if that is wrong with it.
-/
import RouteDocs.CommandLine.Run

namespace RouteDocs

open Files Yaml CommandLine

/-- each of some values can be read just if all of them can -/
theorem mapM_option_iff {α β : Type} {f : α → Option β} {l : List α} :
    (∃ r, l.mapM f = some r) ↔ ∀ x ∈ l, ∃ y, f x = some y := by
  induction l with
  | nil => simp
  | cons x rest ih =>
    rw [List.mapM_cons, List.forall_mem_cons, ← ih]
    constructor
    · rintro ⟨r, hr⟩
      obtain ⟨y, hy, hr⟩ := Option.bind_eq_some_iff.1 hr
      obtain ⟨ys, hys, -⟩ := Option.bind_eq_some_iff.1 hr
      exact ⟨⟨y, hy⟩, ys, hys⟩
    · rintro ⟨⟨y, hy⟩, ys, hys⟩
      exact ⟨y :: ys, by rw [hy, hys]; rfl⟩

/-- the path leads to a file with a text -/
def Files.FileTree.Holds (files : FileTree) (path : Path) (text : List Char) : Prop :=
  ∃ place bytes, files.locate path = .file place bytes ∧ Text.Utf8.decode bytes = .ok text

def Yaml.Value.IsNamed (v : Value) : Prop :=
  ∃ entries, v = .map entries ∧ ∀ e ∈ entries, ∃ name, e.1 = .str name

namespace Config

/-! ## Values -/

theorem name?_iff {v : Value} : (∃ name, name? v = some name) ↔ ∃ name, v = .str name := by
  cases v <;> simp [name?]

theorem settings?_iff {v : Value} : (∃ settings, settings? v = some settings) ↔ v.IsNamed := by
  rw [Value.IsNamed]
  cases v with
  | map entries =>
    have hall : (∃ settings, settings? (.map entries) = some settings)
        ↔ ∀ e ∈ entries, ∃ y, (name? e.1).map (·, e.2) = some y := mapM_option_iff
    rw [hall]
    constructor
    · intro h
      refine ⟨entries, rfl, fun e he => ?_⟩
      obtain ⟨y, hy⟩ := h e he
      obtain ⟨name, hread, -⟩ := Option.map_eq_some_iff.1 hy
      exact name?_iff.1 ⟨name, hread⟩
    · rintro ⟨entries', hsame, h⟩ e he
      cases hsame
      obtain ⟨name, hread⟩ := name?_iff.2 (h e he)
      exact ⟨(name, e.2), by rw [hread]; rfl⟩
  | _ => simp [settings?]

/-- a failure to get a configuration from a path is not reported -/
def Escapes (path : Path) (answer : Except ConfigError Config) : Prop :=
  ∃ e, answer = .error e ∧ (Failure.config path e).isReported = false

theorem ofValue_escapes_iff {d : Decoder} {path : Path} {v : Value} :
    Escapes path (ofValue v d) ↔ v.isEmpty = false ∧ ¬ v.IsNamed := by
  rw [← settings?_iff, ofValue]
  split
  · next hempty => simp [Escapes, hempty]
  · next hcontent =>
    rw [Bool.eq_false_iff.2 hcontent]
    split
    · next hnone => simp [Escapes, hnone, Failure.isReported]
    · next settings hsettings =>
      split
      · simp [Escapes, hsettings, Failure.isReported]
      · simp [Escapes, hsettings]

/-! ## Files -/

variable {d : Decoder} {files : FileTree} {path : Path} {text : List Char}

theorem ofFile_of_holds (h : files.Holds path text) :
    ofFile files path d = ((d.load (Text.unifyNewlines text)).mapError .yaml).bind fun v => ofValue v d := by
  obtain ⟨place, bytes, hlocation, hdecode⟩ := h
  have hread : files.read path = .ok bytes := by rw [FileTree.read, hlocation]
  simp only [ofFile, hread, hdecode]
  cases d.load (Text.unifyNewlines text) <;> rfl

/-- what can be wrong with a configuration file so that it breaks a run off -/
inductive Breaks (d : Decoder) (files : FileTree) (path : Path) : Prop
  | directory {place : List String} (leads : files.locate path = .directory place)
  | undecodable {place : List String} {bytes : List UInt8} {offset : Nat}
    (leads : files.locate path = .file place bytes) (decoding : Text.Utf8.decode bytes = .error offset)
  /-- the text is well formed, but something in it stands for no value -/
  | value {text : List Char} {fault : Fault} (holds : files.Holds path text)
    (loading : d.load (Text.unifyNewlines text) = .error fault) (wellFormed : fault ≠ .malformed)
  /-- the value is not one of names with values -/
  | shape {text : List Char} {v : Value} (holds : files.Holds path text)
    (loading : d.load (Text.unifyNewlines text) = .ok v) (content : v.isEmpty = false) (shape : ¬ v.IsNamed)

theorem Breaks.escapes (h : Breaks d files path) : Escapes path (ofFile files path d) := by
  cases h with
  | directory leads =>
    have hread : files.read path = .error (.at .isDirectory path) := by rw [FileTree.read, leads]
    exact ⟨.os (.at .isDirectory path), by rw [ofFile, hread], rfl⟩
  | @undecodable place bytes offset leads decoding =>
    have hread : files.read path = .ok bytes := by rw [FileTree.read, leads]
    exact ⟨.undecodable, by simp only [ofFile, hread, decoding], rfl⟩
  | @value text fault holds loading wellFormed =>
    refine ⟨.yaml fault, by rw [ofFile_of_holds holds, loading]; rfl, ?_⟩
    cases fault with
    | malformed => exact absurd rfl wellFormed
    | _ => rfl
  | shape holds loading content shape =>
    rw [ofFile_of_holds holds, loading]
    exact ofValue_escapes_iff.2 ⟨content, shape⟩

theorem breaks_of_escapes (hthere : (files.locate path).isThere = true) (h : Escapes path (ofFile files path d)) :
    Breaks d files path := by
  cases hlocation : files.locate path with
  | directory place => exact .directory hlocation
  | file place bytes =>
    cases hdecode : Text.Utf8.decode bytes with
    | error offset => exact .undecodable hlocation hdecode
    | ok text =>
      have hholds : files.Holds path text := ⟨place, bytes, hlocation, hdecode⟩
      rw [ofFile_of_holds hholds] at h
      cases hvalue : d.load (Text.unifyNewlines text) with
      | error fault =>
        rw [hvalue] at h
        obtain ⟨e, he, hreported⟩ := h
        obtain rfl := Except.error.inj he
        refine .value hholds hvalue ?_
        rintro rfl
        cases hreported
      | ok v =>
        rw [hvalue] at h
        obtain ⟨hcontent, hshape⟩ := ofValue_escapes_iff.1 h
        exact .shape hholds hvalue hcontent hshape
  | _ => rw [hlocation] at hthere; cases hthere

/-- **Configuration files that break a run off**, of those that are there. -/
theorem ofFile_escapes_iff (hthere : (files.locate path).isThere = true) :
    Escapes path (ofFile files path d) ↔ Breaks d files path :=
  ⟨breaks_of_escapes hthere, Breaks.escapes⟩

end Config

end RouteDocs
