/-
Source files that break a run off.

The main file is read first, then the files of the package in their order, and the first that can not be taken
decides. A text that is not well formed is reported, and so is a file that is not there or is no text. Not looked out
for are null characters, and expressions that can not be written as text again.

- `Source.scan_ok_iff`, `Source.scan_escapes_iff`: what a text that scans holds, and the texts that a module can not
  have.
- `mapM_error_iff`: files are read up to the first that fails.
- `moduleName_of_mem`: every file of a package has a module name.
- `scanPackage_escapes_iff`, `generateFrom_escapes_iff`: the files that break a run off.
-/
import RouteDocs.CommandLine.Run
import RouteDocs.Proofs.Files.NullPath

namespace RouteDocs

open Files Source CommandLine

/-- a failure to get something from a tree of source files is not reported -/
def Escapes {α : Type} (answer : Except ProjectError α) : Prop :=
  ∃ e, answer = .error e ∧ (Failure.project e).isReported = false

theorem not_escapes_ok {α : Type} (a : α) : ¬ Escapes (.ok a : Except ProjectError α) := by
  rintro ⟨e, he, -⟩
  cases he

theorem escapes_error_iff {α : Type} {e : ProjectError} :
    Escapes (.error e : Except ProjectError α) ↔ (Failure.project e).isReported = false := by
  constructor
  · rintro ⟨e', he, hreported⟩
    rwa [Except.error.inj he]
  · exact fun hreported => ⟨e, rfl, hreported⟩

/-- a step after another fails if the first one does, or if it does with what the first one gives -/
theorem bind_error_iff {α β ε : Type} {x : Except ε α} {f : α → Except ε β} {e : ε} :
    x >>= f = .error e ↔ x = .error e ∨ ∃ a, x = .ok a ∧ f a = .error e := by
  cases x with
  | error e' => simp [bind, Except.bind]
  | ok a => simp [bind, Except.bind]

theorem bind_ok_iff {α β ε : Type} {x : Except ε α} {f : α → Except ε β} {b : β} :
    x >>= f = .ok b ↔ ∃ a, x = .ok a ∧ f a = .ok b := by
  cases x with
  | error e => simp [bind, Except.bind]
  | ok a => simp [bind, Except.bind]

theorem mapError_ok_iff {α ε ε' : Type} {f : ε → ε'} {x : Except ε α} {a : α} :
    x.mapError f = .ok a ↔ x = .ok a := by
  cases x with
  | error e => exact iff_of_false nofun nofun
  | ok b =>
    change (Except.ok b : Except ε' α) = .ok a ↔ _
    rw [Except.ok.injEq, Except.ok.injEq]

theorem mapError_eq_error {α ε ε' : Type} {f : ε → ε'} {x : Except ε α} {e : ε'}
    (h : x.mapError f = .error e) :
    ∃ e', e = f e' := by
  cases x with
  | ok a => cases h
  | error e' => exact ⟨e', (Except.error.inj h).symm⟩

/-- items are read up to the first that can not be -/
theorem mapM_error_iff {α β ε : Type} {f : α → Except ε β} {l : List α} {e : ε} :
    l.mapM f = .error e ↔
      ∃ before x after, l = before ++ x :: after ∧ (∀ y ∈ before, ∃ b, f y = .ok b) ∧ f x = .error e := by
  induction l with
  | nil =>
    refine iff_of_false nofun ?_
    rintro ⟨before, x, after, hl, -⟩
    cases before <;> cases hl
  | cons y rest ih =>
    rw [List.mapM_cons, bind_error_iff]
    simp only [bind_error_iff, ih]
    constructor
    · rintro (hy | ⟨b, hy, ⟨before, x, after, rfl, hbefore, hx⟩ | ⟨bs, -, hpure⟩⟩)
      · exact ⟨[], y, rest, rfl, by simp, hy⟩
      · exact ⟨y :: before, x, after, rfl, List.forall_mem_cons.2 ⟨⟨b, hy⟩, hbefore⟩, hx⟩
      · cases hpure
    · rintro ⟨before, x, after, hl, hbefore, hx⟩
      cases before with
      | nil =>
        cases hl
        exact Or.inl hx
      | cons z before =>
        cases hl
        obtain ⟨⟨b, hy⟩, hbefore⟩ := List.forall_mem_cons.1 hbefore
        exact Or.inr ⟨b, hy, Or.inl ⟨before, x, after, rfl, hbefore, hx⟩⟩

/-! ## Texts -/

namespace Source

/-- a text that a module can not have: it holds a null character, or what it shows can not be written again -/
def Unscannable (text : List Char) : Prop :=
  '\x00' ∈ text ∨ ∃ parsed, parse text = .ok parsed ∧
  ∃ e ∈ parsed.body.flatMap shownExprs, e.hasText = false

theorem parse_null_iff {text : List Char} : parse text = .error .nullCharacter ↔ '\x00' ∈ text := by
  rw [parse]
  split
  · next hnull => simpa using hnull
  · next hnull =>
    refine iff_of_false ?_ (by simpa using hnull)
    split
    · exact nofun
    · split <;> exact nofun

theorem parse_ne_unwritable (text : List Char) : parse text ≠ .error .unwritable := by
  rw [parse]
  split
  · exact nofun
  · split
    · exact nofun
    · split <;> exact nofun

theorem annotationLines_error_iff {text : List Char} {e : SourceError} :
    annotationLines text = .error e ↔ parse text = .error e := by
  rw [annotationLines, bind_error_iff]
  constructor
  · rintro (hparse | ⟨parsed, -, hpure⟩)
    · exact hparse
    · cases hpure
  · exact Or.inl

/-- scanning fails as parsing does, or because something that is shown can not be written again -/
theorem scan_error_iff {module : String} {text : List Char} {e : SourceError} :
    scan module text = .error e ↔ parse text = .error e ∨ ∃ parsed, parse text = .ok parsed ∧
      e = .unwritable ∧ ∃ x ∈ parsed.body.flatMap shownExprs, x.hasText = false := by
  rw [scan, bind_error_iff]
  refine or_congr_right (exists_congr fun parsed => and_congr_right fun _ => ?_)
  cases hshown : (parsed.body.flatMap shownExprs).all Expr.hasText with
  | false =>
    have hexpr : ∃ x ∈ parsed.body.flatMap shownExprs, x.hasText = false := by
      obtain ⟨x, hx, hno⟩ := List.all_eq_false.1 hshown
      exact ⟨x, hx, Bool.eq_false_iff.2 hno⟩
    rw [and_iff_left hexpr, eq_comm]
    simp [bind, Except.bind, throw, throwThe, MonadExceptOf.throw]
  | true =>
    refine iff_of_false ?_ ?_
    · simp [pure, Except.pure]
    · rintro ⟨-, x, hx, hno⟩
      rw [List.all_eq_true.1 hshown x hx] at hno
      cases hno

/-- what a text that scans holds -/
theorem scan_ok_iff {module : String} {text : List Char} {contents : ModuleContents} :
    scan module text = .ok contents ↔ ∃ parsed, parse text = .ok parsed ∧
      (parsed.body.flatMap shownExprs).all Expr.hasText = true ∧
      contents = ⟨parsed.body.flatMap (candidates module (Text.lines text) Subtype.val),
        parsed.body.filterMap (definition? module)⟩ := by
  rw [scan, bind_ok_iff]
  refine exists_congr fun parsed => and_congr_right fun _ => ?_
  cases (parsed.body.flatMap shownExprs).all Expr.hasText with
  | false => exact iff_of_false nofun fun h => Bool.false_ne_true h.1
  | true =>
    refine Iff.trans ?_ (and_iff_right rfl).symm
    exact ⟨fun h => (Except.ok.inj h).symm, fun h => congrArg Except.ok h.symm⟩

/-- the classes of a module have its name -/
theorem module_of_scan {module : String} {text : List Char} {contents : ModuleContents}
    (h : scan module text = .ok contents) {d : Schema.Definition} (hd : d ∈ contents.types) : d.module = module := by
  obtain ⟨parsed, -, -, rfl⟩ := scan_ok_iff.1 h
  obtain ⟨s, -, hs⟩ := List.mem_filterMap.1 hd
  cases s with
  | classDef name bases body =>
    obtain rfl := Option.some.inj hs
    rfl
  | _ => cases hs

theorem scan_escapes_iff {module : String} {text : List Char} :
    (∃ e, scan module text = .error e ∧ e ≠ .malformed) ↔ Unscannable text := by
  rw [Unscannable, ← parse_null_iff]
  simp only [scan_error_iff]
  constructor
  · rintro ⟨e, hparse | ⟨parsed, hparse, -, hexpr⟩, hne⟩
    · cases e with
      | nullCharacter => exact Or.inl hparse
      | malformed => exact absurd rfl hne
      | unwritable => exact absurd hparse (parse_ne_unwritable text)
    · exact Or.inr ⟨parsed, hparse, hexpr⟩
  · rintro (hnull | ⟨parsed, hparse, hexpr⟩)
    · exact ⟨_, Or.inl hnull, nofun⟩
    · exact ⟨_, Or.inr ⟨parsed, hparse, rfl, hexpr⟩, nofun⟩

end Source

/-! ## Files -/

variable {files : FileTree} {root path : Path}

theorem readSource_escapes_iff : Escapes (readSource files path) ↔ path.hasNull = true := by
  rw [← FileTree.read_null_iff (t := files), readSource]
  cases hread : files.read path with
  | error e =>
    rw [escapes_error_iff, Except.error.injEq]
    cases e <;> simp [Failure.isReported]
  | ok bytes =>
    refine iff_of_false ?_ nofun
    dsimp only
    split
    · rw [escapes_error_iff]
      exact nofun
    · exact not_escapes_ok _

/-- what a text gives is not taken: it fails, and not because it is not well formed -/
theorem mapError_source_escapes_iff {α : Type} {x : Except SourceError α} :
    Escapes (x.mapError ProjectError.source) ↔ ∃ e, x = .error e ∧ e ≠ .malformed := by
  cases x with
  | ok a => exact iff_of_false (not_escapes_ok a) (by rintro ⟨e, he, -⟩; cases he)
  | error e =>
    change Escapes (.error (.source e) : Except ProjectError α) ↔ _
    rw [escapes_error_iff]
    cases e <;> simp [Failure.isReported]

theorem bind_escapes_iff {α β : Type} {x : Except ProjectError α} {f : α → Except ProjectError β} :
    Escapes (x >>= f) ↔ Escapes x ∨ ∃ a, x = .ok a ∧ Escapes (f a) := by
  simp only [Escapes, bind_error_iff, or_and_right, exists_or]
  refine or_congr_right ?_
  constructor
  · rintro ⟨e, ⟨a, hx, hf⟩, hreported⟩
    exact ⟨a, hx, e, hf, hreported⟩
  · rintro ⟨a, hx, e, hf, hreported⟩
    exact ⟨e, ⟨a, hx, hf⟩, hreported⟩

/-- the main file breaks a run off if its path or its text holds a null character -/
theorem readAnnotationLines_escapes_iff :
    Escapes (readAnnotationLines files path) ↔
      path.hasNull = true ∨ ∃ text, readSource files path = .ok text ∧ '\x00' ∈ text := by
  rw [readAnnotationLines, bind_escapes_iff, readSource_escapes_iff]
  refine or_congr_right (exists_congr fun text => and_congr_right fun _ => ?_)
  rw [mapError_source_escapes_iff, ← parse_null_iff]
  simp only [annotationLines_error_iff]
  constructor
  · rintro ⟨e, hparse, hne⟩
    cases e with
    | nullCharacter => exact hparse
    | malformed => exact absurd rfl hne
    | unwritable => exact absurd hparse (parse_ne_unwritable text)
  · exact fun hparse => ⟨_, hparse, nofun⟩

/-! ## Packages -/

/-- a file of a package lies below it, or is the package -/
theorem mem_sourceFiles {paths : List Path} (h : sourceFiles files root = .ok paths) (hpath : path ∈ paths) :
    (∃ place content, files.find root = .ok (.file place content) ∧ path = root) ∨
      ∃ place parts, files.find root = .ok (.directory place) ∧ parts ≠ [] ∧ path = root.extend parts := by
  rw [sourceFiles] at h
  cases hfind : files.find root with
  | error e => rw [hfind] at h; cases h
  | ok location =>
    rw [hfind] at h
    cases location with
    | file place content =>
      cases h
      exact Or.inl ⟨place, content, rfl, List.mem_singleton.1 hpath⟩
    | directory place =>
      obtain rfl := Except.ok.inj h
      obtain ⟨parts, hparts, rfl⟩ := List.mem_map.1 hpath
      refine Or.inr ⟨place, parts, rfl, ?_, rfl⟩
      rw [List.mem_mergeSort] at hparts
      obtain ⟨hbelow, -⟩ := List.mem_filter.1 hparts
      obtain ⟨-, hhead⟩ := List.mem_filter.1 hbelow
      rintro rfl
      simp at hhead
    | _ => cases h; cases hpath

theorem Files.Path.relativeTo?_extend (p : Path) (parts : List String) :
    (p.extend parts).relativeTo? p = some parts := by
  simp [Path.relativeTo?, Path.extend]

theorem moduleName_extend {place parts : List String} (hfind : files.find root = .ok (.directory place))
    (hparts : parts ≠ []) :
    moduleName files root (root.extend parts)
      = .ok (dashesToUnderscores (".".intercalate (root.name :: moduleParts parts))) := by
  obtain ⟨part, rest, rfl⟩ := List.exists_cons_of_ne_nil hparts
  rw [moduleName, FileTree.isFile, hfind, Path.relativeTo?_extend]
  rfl

/-- **Every file of a package has a module name.** -/
theorem moduleName_of_mem {paths : List Path} (h : sourceFiles files root = .ok paths) (hpath : path ∈ paths) :
    ∃ module, moduleName files root path = .ok module := by
  rcases mem_sourceFiles h hpath with ⟨place, content, hfind, rfl⟩ | ⟨place, parts, hfind, hne, rfl⟩
  · refine ⟨path.stem, ?_⟩
    rw [moduleName, FileTree.isFile, hfind]
    rfl
  · exact ⟨_, moduleName_extend hfind hne⟩

theorem not_escapes_sourceFiles : ¬ Escapes (sourceFiles files root) := by
  rintro ⟨e, he, hreported⟩
  rw [sourceFiles] at he
  cases hfind : files.find root with
  | error e' =>
    rw [hfind] at he
    obtain rfl := FileTree.find_error hfind
    obtain rfl := Except.error.inj he
    cases hreported
  | ok location =>
    rw [hfind] at he
    cases location <;> cases he

/-- the file at a path breaks a run off when its package is read -/
def BreaksAt (files : FileTree) (path : Path) : Prop :=
  path.hasNull = true ∨ ∃ text, readSource files path = .ok text ∧ Unscannable text

theorem scanFile_escapes_iff {paths : List Path} (h : sourceFiles files root = .ok paths) (hpath : path ∈ paths) :
    Escapes (scanFile files root path) ↔ BreaksAt files path := by
  obtain ⟨module, hmodule⟩ := moduleName_of_mem h hpath
  rw [scanFile, hmodule]
  change Escapes (readSource files path >>= fun text => (scan module text).mapError .source) ↔ _
  rw [bind_escapes_iff, readSource_escapes_iff, BreaksAt]
  refine or_congr_right (exists_congr fun text => and_congr_right fun _ => ?_)
  rw [mapError_source_escapes_iff, scan_escapes_iff]

/-- **Packages that break a run off.** The first file that can not be scanned does. -/
theorem scanPackage_escapes_iff :
    Escapes (scanPackage files root) ↔
      ∃ before path after, sourceFiles files root = .ok (before ++ path :: after) ∧
      (∀ p ∈ before, ∃ contents, scanFile files root p = .ok contents) ∧ BreaksAt files path := by
  have hpure {paths : List Path} : Escapes (do
        let contents ← paths.mapM (scanFile files root)
        return ⟨contents.flatMap ModuleContents.handlers, contents.flatMap ModuleContents.types⟩ :
          Except ProjectError ModuleContents)
      ↔ Escapes (paths.mapM (scanFile files root)) := by
    rw [bind_escapes_iff, or_iff_left]
    rintro ⟨contents, -, hescapes⟩
    exact not_escapes_ok _ hescapes
  rw [scanPackage, bind_escapes_iff, or_iff_right not_escapes_sourceFiles]
  constructor
  · rintro ⟨paths, hpaths, hescapes⟩
    obtain ⟨e, he, hreported⟩ := hpure.1 hescapes
    obtain ⟨before, path, after, rfl, hbefore, hfile⟩ := mapM_error_iff.1 he
    exact ⟨before, path, after, hpaths, hbefore,
      (scanFile_escapes_iff hpaths (by simp)).1 ⟨e, hfile, hreported⟩⟩
  · rintro ⟨before, path, after, hpaths, hbefore, hbreaks⟩
    obtain ⟨e, hfile, hreported⟩ := (scanFile_escapes_iff hpaths (by simp)).2 hbreaks
    exact ⟨_, hpaths, hpure.2 ⟨e, mapM_error_iff.2 ⟨before, path, after, rfl, hbefore, hfile⟩, hreported⟩⟩

/-- **Sources that break a run off.** The main file does, or else the package. -/
theorem generateFrom_escapes_iff {config : Config} {package main : Path} :
    Escapes (generateFrom files config package main).answer ↔
      Escapes (readAnnotationLines files main) ∨
        (∃ lines, readAnnotationLines files main = .ok lines) ∧ Escapes (scanPackage files package) := by
  rw [generateFrom]
  cases hlines : readAnnotationLines files main with
  | error e => simp [escapes_error_iff]
  | ok lines =>
    rw [or_iff_right (not_escapes_ok lines), and_iff_right ⟨lines, rfl⟩]
    cases hcontents : scanPackage files package with
    | error e => simp [escapes_error_iff]
    | ok contents =>
      refine iff_of_false ?_ (not_escapes_ok contents)
      rintro ⟨e, he, hreported⟩
      obtain ⟨e', rfl⟩ := mapError_eq_error he
      cases hreported

end RouteDocs
