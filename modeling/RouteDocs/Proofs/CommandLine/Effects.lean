/-
What a run does to the files.

- `Effect`: a run changes nothing, or fails to write, or completes its command.
- `effect_perform`, `effect_invoke`: it is one of these for every command.
- `run_effects`: a run that does not end well changes no file, one that does changes the output file at most; and what
  holds for the write of a run holds for each write of a sequence.
-/
import RouteDocs.CommandLine.Run
import RouteDocs.Proofs.Files.Writing

namespace RouteDocs.CommandLine

open Files

/-- the run of a command ends well: documents were made, and they are only shown, or written to the output file -/
structure Run.Completes (r : Run) (l : Libraries) (files : FileTree) (i : Invocation) (config : Config)
    (docs : GeneratedDocs) : Prop where
  configured : configOf l files i.options = .ok config
  generated : (generateDocs files config).answer = .ok docs
  shown : i.command = .show → r.files = files
  written : i.command = .generate →
    ∃ place, files.Writes r.files config.output place (Text.Utf8.encode (renderModule docs.texts))

/-- what the run of a command may do to the files -/
inductive Effect (l : Libraries) (files : FileTree) (i : Invocation) (r : Run) : Prop where
  /-- the command does not come to writing -/
  | untouched (same : r.files = files) (ending : r.ending ≠ .done)
      (notWriting : ∀ path e, r.ending ≠ .failed (.writing path e))
  | unwritten (path : Path) (e : OsError) (ending : r.ending = .failed (.writing path e)) (grows : files.Grows r.files)
  | completed (config : Config) (docs : GeneratedDocs) (ending : r.ending = .done)
      (completes : r.Completes l files i config docs)

variable {l : Libraries} {files : FileTree} {i : Invocation} {c : FileTree.Conditions}

theorem effect_save {config : Config} {docs : GeneratedDocs} {printed : List String} {log : List Event}
    (hconfig : configOf l files i.options = .ok config) (hdocs : (generateDocs files config).answer = .ok docs)
    (hcommand : i.command = .generate) : Effect l files i (save c files config docs printed log) := by
  unfold save
  split
  · next t e hwrite =>
    have hgrows := FileTree.write_failed (show (files.write _ _ c).2 = some e by rw [hwrite])
    rw [hwrite] at hgrows
    exact .unwritten config.output e rfl hgrows
  · next t hwrite =>
    have hwrites := FileTree.write_done (show (files.write _ _ c).2 = none by rw [hwrite])
    rw [hwrite] at hwrites
    refine .completed config docs rfl ⟨hconfig, hdocs, fun hshow => ?_, fun _ => hwrites⟩
    rw [hcommand] at hshow
    cases hshow

theorem effect_perform {config : Config} (package : Path) (hconfig : configOf l files i.options = .ok config) :
    Effect l files i (perform c files i.command config package) := by
  unfold perform
  dsimp only
  split
  · exact .untouched rfl nofun nofun
  · next docs hdocs =>
    cases hcommand : i.command with
    | generate => exact effect_save hconfig hdocs hcommand
    | «show» =>
      refine .completed config docs rfl ⟨hconfig, hdocs, fun _ => rfl, fun hgenerate => ?_⟩
      rw [hcommand] at hgenerate
      cases hgenerate

/-- the log plays no part -/
theorem Effect.report {r : Run} (h : Effect l files i r) (log : List Event) :
    Effect l files i { r with reported := log } := by
  cases h with
  | untouched same ending notWriting => exact .untouched same ending notWriting
  | unwritten path e ending grows => exact .unwritten path e ending grows
  | completed config docs ending completes =>
    exact .completed config docs ending ⟨completes.configured, completes.generated, completes.shown,
      completes.written⟩

/-- a configuration that is asked for and is not to be had -/
theorem configOf_error_iff {o : SourceOptions} {failure : Failure} :
    configOf l files o = .error failure ↔
      ∃ path e, o.config = some path ∧ Config.ofFile files path l.toDecoder = .error e ∧
        failure = .config path e := by
  rw [configOf]
  cases hpath : o.config with
  | none => simp
  | some path =>
    dsimp only
    cases hfile : Config.ofFile files path l.toDecoder with
    | error e => simp [hfile, eq_comm]
    | ok config => simp [hfile]

theorem effect_invoke (l : Libraries) (files : FileTree) (i : Invocation) (c : FileTree.Conditions) :
    Effect l files i (invoke l c files i) := by
  unfold invoke
  split
  · next e hconfig =>
    obtain ⟨path, e', -, -, rfl⟩ := configOf_error_iff.1 hconfig
    exact .untouched rfl nofun nofun
  · next config hconfig =>
    split
    · next package _ _ _ => exact (effect_perform package hconfig).report _
    · exact .untouched rfl nofun nofun

/-- a run carries out a command, or it ends before anything is done -/
theorem run_cases (files : FileTree) (args : List String) (c : FileTree.Conditions) (l : Libraries) :
    (∃ i, l.request files args = .run i ∧ run files args c l = invoke l c files i) ∨
      run files args c l = ⟨.help, [], [], files⟩ ∨ run files args c l = ⟨.misuse, [], [], files⟩ ∨
      ∃ value, l.request files args = .broken value ∧
        run files args c l = ⟨.failed (.argument value), [], [], files⟩ := by
  unfold run
  split
  · next i hargs => exact Or.inl ⟨i, hargs, rfl⟩
  · exact Or.inr (Or.inl rfl)
  · exact Or.inr (Or.inr (Or.inl rfl))
  · next value hargs => exact Or.inr (Or.inr (Or.inr ⟨value, hargs, rfl⟩))

theorem run_failed {args : List String} (h : (run files args c l).ending.status ≠ 0) :
    files.Grows (run files args c l).files ∧
      ((∀ path e, (run files args c l).ending ≠ .failed (.writing path e)) →
        (run files args c l).files = files) := by
  rcases run_cases files args c l with ⟨i, -, hrun⟩ | hrun | hrun | ⟨value, -, hrun⟩
  · rw [hrun] at h ⊢
    cases effect_invoke l files i c with
    | untouched same ending notWriting =>
      rw [same]
      exact ⟨FileTree.Grows.refl files, fun _ => rfl⟩
    | unwritten path e ending grows => exact ⟨grows, fun hno => absurd ending (hno path e)⟩
    | completed config docs ending completes => exact absurd (by rw [ending]; rfl) h
  all_goals
    rw [hrun]
    exact ⟨FileTree.Grows.refl files, fun _ => rfl⟩

theorem run_ended_well {args : List String} (h : (run files args c l).ending.status = 0) :
    ((run files args c l).ending = .help ∧ (run files args c l).files = files) ∨
      ((run files args c l).ending = .done ∧ ∃ i config docs, l.request files args = .run i ∧
        (run files args c l).Completes l files i config docs) := by
  rcases run_cases files args c l with ⟨i, hargs, hrun⟩ | hrun | hrun | ⟨value, -, hrun⟩
  · rw [hrun] at h ⊢
    cases effect_invoke l files i c with
    | untouched same ending notWriting =>
      refine Or.inl ⟨?_, same⟩
      cases hending : (invoke l c files i).ending with
      | help => rfl
      | done => exact absurd hending ending
      | misuse => rw [hending] at h; cases h
      | failed e => rw [hending] at h; cases h
    | unwritten path e ending grows => rw [ending] at h; cases h
    | completed config docs ending completes => exact Or.inr ⟨ending, i, config, docs, hargs, completes⟩
  · rw [hrun]
    exact Or.inl ⟨rfl, rfl⟩
  · rw [hrun] at h
    cases h
  · rw [hrun] at h
    cases h

/-- **A run that does not end well changes no file and leaves no temporary one; a run that ends well changes at most
the file at the output path, which then holds the module of the documents.** This is so with any libraries. The same is
true of each write of a sequence: what leads to a directory or stands below a file is not written, and at the end every
file holds what was written to it last. -/
theorem run_effects (files : FileTree) (args : List String) (c : FileTree.Conditions) (l : Libraries) :
    ((run files args c l).ending.status ≠ 0 →
      files.Grows (run files args c l).files ∧
        ((∀ path e, (run files args c l).ending ≠ .failed (.writing path e)) →
          (run files args c l).files = files)) ∧
    ((run files args c l).ending.status = 0 →
      ((run files args c l).ending = .help ∧ (run files args c l).files = files) ∨
        ((run files args c l).ending = .done ∧ ∃ i config docs, l.request files args = .run i ∧
          (run files args c l).Completes l files i config docs)) ∧
    ∀ writes : List Write,
      (∀ (w : Write) (t : FileTree), files.writeAll writes = t →
        (∀ e, (w.run t).2 = some e → t.Grows (w.run t).1) ∧
        ((w.run t).2 = none → ∃ place, t.Writes (w.run t).1 w.path place w.content) ∧
        (∀ place, t.locate w.path = .directory place → ∃ e, (w.run t).2 = some e) ∧
        (∀ place old, t.locate w.path.parent = .file place old → ∃ e, (w.run t).2 = some e)) ∧
      ∀ place, (files.writeAll writes).contentAt? place
        = (FileTree.landed place files writes).getLast?.or (files.contentAt? place) := by
  refine ⟨run_failed, run_ended_well, fun writes => ⟨fun w t _ => ?_, files.contentAt?_writeAll writes⟩⟩
  refine ⟨fun e => FileTree.write_failed, FileTree.write_done, fun place => FileTree.write_directory, ?_⟩
  exact fun place old h => ⟨_, FileTree.write_below_file h⟩

end RouteDocs.CommandLine
