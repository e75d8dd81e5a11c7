/-
What the libraries that come with the program do of what is relied on.

- `isPath_of_mem_sources`: each source that options name is the value of an option for a path.
- `documented_own`: a command is only carried out if its sources are there.
-/
import RouteDocs.CommandLine.Libraries

namespace RouteDocs.CommandLine

open Files

variable {files : FileTree} {flags : List (Flag × String)}

theorem locate_of_existsText {name : String} (h : files.existsText name = true) :
    (files.locate (.ofText name)).isThere = true := by
  rw [FileTree.existsText] at h
  split at h
  · next hlocation => rw [hlocation]; rfl
  · next hlocation => rw [hlocation]; rfl
  · simp at h

/-- an option that has a value is given -/
theorem mem_of_value? {f : Flag} {value : String} (h : value? flags f = some value) : (f, value) ∈ flags := by
  obtain ⟨before, after, hflags, -⟩ := List.lookup_eq_some_iff.1 h
  exact List.mem_reverse.1 (hflags ▸ List.mem_append_right before List.mem_cons_self)

theorem isPath_of_mem_sources {p : Path} (h : p ∈ (SourceOptions.ofFlags flags).sources) :
    ∃ f name, f.isPath = true ∧ f ≠ .output ∧ value? flags f = some name ∧ p = .ofText name := by
  have hsome {f : Flag} (hp : (value? flags f).map Path.ofText = some p) :
      ∃ name, value? flags f = some name ∧ p = .ofText name := by
    obtain ⟨name, hname, rfl⟩ := Option.map_eq_some_iff.1 hp
    exact ⟨name, hname, rfl⟩
  obtain ⟨o, ho, hp⟩ := List.mem_filterMap.1 h
  simp only [List.mem_cons, List.not_mem_nil, or_false] at ho
  rcases ho with rfl | rfl | rfl
  · exact ⟨.config, (hsome hp).imp fun _ hname => ⟨rfl, nofun, hname⟩⟩
  · exact ⟨.apiPackage, (hsome hp).imp fun _ hname => ⟨rfl, nofun, hname⟩⟩
  · exact ⟨.mainApiFile, (hsome hp).imp fun _ hname => ⟨rfl, nofun, hname⟩⟩

/-- the value of an option for a source leads to something if there is nothing wrong with it -/
theorem there_of_fault? {f : Flag} {name : String} (hpath : f.isPath = true) (hsource : f ≠ .output)
    (hname : value? flags f = some name) (h : fault? files flags f = none) :
    (files.locate (.ofText name)).isThere = true := by
  have houtput : (f == .output) = false := beq_eq_false_iff_ne.2 hsource
  rw [fault?, if_pos hpath, hname, Option.bind_some, houtput, Bool.false_or] at h
  split at h
  · cases h
  · split at h
    · next hexists => exact locate_of_existsText hexists
    · cases h

theorem there_of_ofCommandArgs {isVerbose : Bool} {command : Command} {args : List String} {i : Invocation}
    (h : Request.ofCommandArgs files isVerbose command args = .run i) {p : Path} (hp : p ∈ i.options.sources) :
    (files.locate p).isThere = true := by
  rw [Request.ofCommandArgs] at h
  split at h
  · cases h
  · next flags extra _ =>
    split at h
    · cases h
    · split at h
      · next fault hfault =>
        -- what is asked for instead is no command
        obtain ⟨entry, -, hentry⟩ := List.exists_of_findSome?_eq_some hfault
        rw [h, fault?] at hentry
        split at hentry
        · obtain ⟨value, -, hvalue⟩ := Option.bind_eq_some_iff.1 hentry
          split at hvalue
          · cases hvalue
          · split at hvalue <;> cases hvalue
        · cases hentry
      · next hnone =>
        split at h
        · cases h
          obtain ⟨f, name, hpath, hsource, hname, rfl⟩ := isPath_of_mem_sources hp
          exact there_of_fault? hpath hsource hname (List.findSome?_eq_none_iff.1 hnone _ (mem_of_value? hname))
        · cases h

/-- **The libraries that come with the program** do what is relied on. -/
theorem documented_own : Libraries.own.Documented := by
  refine ⟨fun {files args i} h p hp => ?_⟩
  change Request.ofArgs files args = .run i at h
  rw [Request.ofArgs] at h
  split at h
  · cases h
  · split at h
    · cases h
    · split at h
      · cases h
      · split at h
        · exact there_of_ofCommandArgs h hp
        · split at h
          · split at h <;> cases h
          · cases h

end RouteDocs.CommandLine
