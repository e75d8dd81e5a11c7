/-
Failures that are reported, and those that break a run off.

A run that fails says why in a line of its own, unless it meets one of the failures that nobody looks out for. Which
these are is said here of the arguments and the files, in the order in which a run gets to them: the arguments, the
configuration, the main file, the files of the package, the output file. What the arguments ask for, which value a text
has and which settings are in order is up to the libraries; of these it is relied on that the configuration is there.

- `BreaksOff`: what a command can meet that breaks it off.
- `perform_escapes_iff`, `invoke_escapes_iff`: the stages of a command put together.
- `run_escapes_iff`: a run ends without a diagnostic if and only if its arguments can not be read, or its command meets
  one of these.
- `config_directory_escapes`: a directory in the place of a configuration does.
-/
import RouteDocs.Proofs.CommandLine.Effects
import RouteDocs.Proofs.CommandLine.OwnLibraries
import RouteDocs.Proofs.Config.Loading
import RouteDocs.Proofs.Project.Scanning

namespace RouteDocs.CommandLine

open Files Source

/-! ## What breaks a command off -/

/-- a run ends in a failure that is not reported -/
def Ending.Escapes (e : Ending) : Prop := ∃ failure, e = .failed failure ∧ failure.isReported = false

/-- a command comes to its sources -/
structure Starts (l : Libraries) (files : FileTree) (i : Invocation) (config : Config) (package main : Path) :
    Prop where
  configured : configOf l files i.options = .ok config
  package : config.apiPackage = some package
  main : config.mainApiFile = some main

/-- what a command can meet that breaks it off -/
inductive BreaksOff (l : Libraries) (files : FileTree) (i : Invocation) : Prop
  | config {path : Path} (option : i.options.config = some path) (breaks : Config.Breaks l.toDecoder files path)
  /-- the path of the main file, or its text, holds a null character -/
  | main {config : Config} {package main : Path} (starts : Starts l files i config package main)
    (there : files.isThere package = .ok true)
    (breaks : main.hasNull = true ∨ ∃ text, readSource files main = .ok text ∧ '\x00' ∈ text)
  /-- the first file of the package that can not be scanned holds what no module can have -/
  | package {config : Config} {package main : Path} {lines : List String} {before after : List Path} {path : Path}
    (starts : Starts l files i config package main) (there : files.isThere package = .ok true)
    (introduced : readAnnotationLines files main = .ok lines)
    (sources : sourceFiles files package = .ok (before ++ path :: after))
    (scanned : ∀ p ∈ before, ∃ contents, scanFile files package p = .ok contents) (breaks : BreaksAt files path)
  /-- the path of the output file holds a null character, and what stands before its last part is not in the way -/
  | output {config : Config} {package main : Path} {docs : GeneratedDocs}
    (starts : Starts l files i config package main) (generated : (generateDocs files config).answer = .ok docs)
    (command : i.command = .generate) (null : config.output.hasNull = true)
    (reached : config.output.parent.hasNull = true ∨
      (files.makeDirectory config.output.parent config.output.parts.length).2 = none)

variable {l : Libraries} {files : FileTree} {i : Invocation} {c : FileTree.Conditions} {config : Config}
  {package main : Path}

/-! ## Commands -/

theorem generateDocs_escapes_iff (hpackage : config.apiPackage = some package)
    (hmain : config.mainApiFile = some main) :
    Escapes (generateDocs files config).answer ↔
      files.isThere package = .ok true ∧ Escapes (generateFrom files config package main).answer := by
  rw [generateDocs, hpackage, hmain]
  dsimp only
  cases hthere : files.isThere package with
  | error e =>
    obtain ⟨e', rfl⟩ : ∃ e', e = .at .nameTooLong e' := by
      rw [FileTree.isThere] at hthere
      cases hfind : files.find package with
      | ok location => rw [hfind] at hthere; cases hthere
      | error e' =>
        rw [hfind] at hthere
        obtain rfl := Except.error.inj hthere
        exact ⟨package, FileTree.find_error hfind⟩
    refine iff_of_false ?_ (by rintro ⟨h, -⟩; cases h)
    rw [escapes_error_iff]
    exact nofun
  | ok isThere =>
    cases isThere with
    | false =>
      refine iff_of_false ?_ (by rintro ⟨h, -⟩; cases h)
      rw [escapes_error_iff]
      exact nofun
    | true => rw [and_iff_right rfl]

/-- a command breaks off in its sources, or in writing -/
theorem perform_escapes_iff {command : Command} :
    (perform c files command config package).ending.Escapes ↔
      Escapes (generateDocs files config).answer ∨ command = .generate ∧ ∃ docs,
        (generateDocs files config).answer = .ok docs ∧
        (files.write config.output (Text.Utf8.encode (renderModule docs.texts)) c).2 = some .nullCharacter := by
  unfold perform
  dsimp only
  cases hanswer : (generateDocs files config).answer with
  | error e =>
    rw [escapes_error_iff, or_iff_left]
    · simp [Ending.Escapes]
    · rintro ⟨-, docs, hdocs, -⟩
      cases hdocs
  | ok docs =>
    rw [or_iff_right (not_escapes_ok docs)]
    cases command with
    | «show» => simp [Ending.Escapes]
    | generate =>
      dsimp only [save]
      generalize hwrite : files.write config.output (Text.Utf8.encode (renderModule docs.texts)) c = outcome
      obtain ⟨files', e⟩ := outcome
      cases e with
      | none => simp [Ending.Escapes, hwrite]
      | some e => cases e <;> simp [Ending.Escapes, Failure.isReported, OsError.kind?, hwrite]

theorem invoke_misconfigured {failure : Failure} (hconfig : configOf l files i.options = .error failure)
    (c : FileTree.Conditions) : (invoke l c files i).ending = .failed failure := by
  rw [invoke, hconfig]

theorem Starts.invoke_ending (h : Starts l files i config package main) (c : FileTree.Conditions) :
    (invoke l c files i).ending = (perform c files i.command config package).ending := by
  rw [invoke, h.configured]
  simp only [h.package, h.main]

/-- a command with its sources breaks off in the main file, in the package or in writing -/
theorem Starts.breaksOff (hc : ∀ n e, c.fault? = some (n, e) → e ≠ .nullCharacter)
    (hstarts : Starts l files i config package main)
    (h : (perform c files i.command config package).ending.Escapes) : BreaksOff l files i := by
  rw [perform_escapes_iff, generateDocs_escapes_iff hstarts.package hstarts.main, generateFrom_escapes_iff] at h
  rcases h with ⟨hthere, hlines | ⟨⟨lines, hlines⟩, hscan⟩⟩ | ⟨hcommand, docs, hdocs, hwrite⟩
  · exact .main hstarts hthere (readAnnotationLines_escapes_iff.1 hlines)
  · obtain ⟨before, path, after, hfiles, hscanned, hbreaks⟩ := scanPackage_escapes_iff.1 hscan
    exact .package hstarts hthere hlines hfiles hscanned hbreaks
  · obtain ⟨hnull, hreached⟩ := (FileTree.write_null_iff hc).1 hwrite
    exact .output hstarts hdocs hcommand hnull hreached

/-- a command that breaks off has met one of the things that do that, if its configuration is there -/
theorem breaksOff_of_invoke (hc : ∀ n e, c.fault? = some (n, e) → e ≠ .nullCharacter)
    (hthere : ∀ p ∈ i.options.sources, (files.locate p).isThere = true) (h : (invoke l c files i).ending.Escapes) :
    BreaksOff l files i := by
  cases hconfig : configOf l files i.options with
  | error failure =>
    obtain ⟨path, e, hoption, hfile, rfl⟩ := configOf_error_iff.1 hconfig
    rw [invoke_misconfigured hconfig] at h
    obtain ⟨failure, hfailure, hreported⟩ := h
    obtain rfl := Ending.failed.inj hfailure
    have hsource : path ∈ i.options.sources := by simp [SourceOptions.sources, hoption]
    exact .config hoption (Config.breaks_of_escapes (hthere path hsource) ⟨e, hfile, hreported⟩)
  | ok config =>
    cases hpackage : config.apiPackage with
    | none =>
      rw [invoke, hconfig] at h
      simp [hpackage, Ending.Escapes] at h
    | some package =>
      cases hmain : config.mainApiFile with
      | none =>
        rw [invoke, hconfig] at h
        simp [hpackage, hmain, Ending.Escapes] at h
      | some main =>
        have hstarts : Starts l files i config package main := ⟨hconfig, hpackage, hmain⟩
        rw [hstarts.invoke_ending c] at h
        exact hstarts.breaksOff hc h

theorem BreaksOff.invoke (hc : ∀ n e, c.fault? = some (n, e) → e ≠ .nullCharacter) (h : BreaksOff l files i) :
    (CommandLine.invoke l c files i).ending.Escapes := by
  cases h with
  | @config path option breaks =>
    obtain ⟨e, hfile, hreported⟩ := breaks.escapes
    have hconfig : configOf l files i.options = .error (.config path e) :=
      configOf_error_iff.2 ⟨path, e, option, hfile, rfl⟩
    exact ⟨_, invoke_misconfigured hconfig c, hreported⟩
  | main starts there breaks =>
    rw [starts.invoke_ending c, perform_escapes_iff, generateDocs_escapes_iff starts.package starts.main,
      generateFrom_escapes_iff]
    exact Or.inl ⟨there, Or.inl (readAnnotationLines_escapes_iff.2 breaks)⟩
  | package starts there introduced sources scanned breaks =>
    rw [starts.invoke_ending c, perform_escapes_iff, generateDocs_escapes_iff starts.package starts.main,
      generateFrom_escapes_iff]
    exact Or.inl ⟨there, Or.inr ⟨⟨_, introduced⟩,
      scanPackage_escapes_iff.2 ⟨_, _, _, sources, scanned, breaks⟩⟩⟩
  | output starts generated command null reached =>
    rw [starts.invoke_ending c, perform_escapes_iff]
    exact Or.inr ⟨command, _, generated, (FileTree.write_null_iff hc).2 ⟨null, reached⟩⟩

/-- **The stages of a command.** -/
theorem invoke_escapes_iff (hc : ∀ n e, c.fault? = some (n, e) → e ≠ .nullCharacter)
    (hthere : ∀ p ∈ i.options.sources, (files.locate p).isThere = true) :
    (invoke l c files i).ending.Escapes ↔ BreaksOff l files i :=
  ⟨breaksOff_of_invoke hc hthere, BreaksOff.invoke hc⟩

/-! ## Runs -/

/-- **Runs without a diagnostic.** A run ends in a failure that is not reported if and only if its arguments can not be
read, or they ask for a command that meets one of the things that break it off; whichever it is, the exit status is that
of any failure. -/
theorem run_escapes_iff (files : FileTree) (args : List String) (c : FileTree.Conditions) (l : Libraries)
    (hc : ∀ n e, c.fault? = some (n, e) → e ≠ .nullCharacter) (hl : l.Documented) :
    ((run files args c l).ending.Escapes ↔ (∃ value, l.request files args = .broken value) ∨
        ∃ i, l.request files args = .run i ∧ BreaksOff l files i) ∧
      ((run files args c l).ending.Escapes → (run files args c l).ending.status = 1) := by
  refine ⟨?_, by rintro ⟨failure, hfailure, -⟩; rw [hfailure]; rfl⟩
  constructor
  · rintro ⟨failure, hfailure, hreported⟩
    rcases run_cases files args c l with ⟨i, hargs, hrun⟩ | hrun | hrun | ⟨value, hargs, -⟩
    · rw [hrun] at hfailure
      exact Or.inr ⟨i, hargs, breaksOff_of_invoke hc (hl.there hargs) ⟨failure, hfailure, hreported⟩⟩
    · rw [hrun] at hfailure
      cases hfailure
    · rw [hrun] at hfailure
      cases hfailure
    · exact Or.inl ⟨value, hargs⟩
  · rintro (⟨value, hargs⟩ | ⟨i, hargs, hbreaks⟩)
    · rw [run, hargs]
      exact ⟨.argument value, rfl, rfl⟩
    · rw [run, hargs]
      exact hbreaks.invoke hc

def directoryTree : FileTree := FileTree.empty.put ["conf"] .directory

/-- what `generate --config conf` asks for -/
def directoryInvocation : Invocation := ⟨false, .generate, ⟨some (.ofText "conf"), none, none, none, none⟩⟩

theorem run_escapes_iff_directory :
    (∀ n e, FileTree.Conditions.usual.fault? = some (n, e) → e ≠ .nullCharacter) ∧ Libraries.own.Documented ∧
      (run directoryTree ["generate", "--config", "conf"] .usual .own).ending.Escapes := by
  have hc : ∀ n e, FileTree.Conditions.usual.fault? = some (n, e) → e ≠ .nullCharacter := by
    intro n e h
    cases h
  have hargs : Libraries.own.request directoryTree ["generate", "--config", "conf"] = .run directoryInvocation := by
    decide +kernel
  have hlocation : directoryTree.locate (.ofText "conf") = .directory ["conf"] := by decide +kernel
  have hbreaks : BreaksOff .own directoryTree directoryInvocation := .config rfl (.directory hlocation)
  exact ⟨hc, documented_own, (run_escapes_iff _ _ _ _ hc documented_own).1.2 (Or.inr ⟨_, hargs, hbreaks⟩)⟩

/-- **A directory for a configuration.** The option allows it, reading it fails, and nothing says so. -/
theorem config_directory_escapes :
    (run directoryTree ["generate", "--config", "conf"]).ending
        = .failed (.config (.ofText "conf") (.os (.at .isDirectory (.ofText "conf")))) ∧
      (Failure.config (.ofText "conf") (.os (.at .isDirectory (.ofText "conf")))).isReported = false := by
  decide +kernel

end RouteDocs.CommandLine
