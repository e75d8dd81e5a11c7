/-
Module names, and what they tell apart.

The name of a module is made of the segments of its path: what stands between points counts as a segment of its own,
dashes become underscores, and the suffix and the name of an initial file leave no trace. So different files of a
package can have one name, but in these ways only.

- `moduleName_eq_iff`: two files have one name just if their segments are the same.
- `segments_plain_iff`: without points and dashes in the way they are, just if one is the initial file of the package
  that the other one stands beside.
- `mem_types_iff`: the classes of a package are those of its files.
- `moduleName_identifies`: as long as segments tell files apart, names of modules tell classes of one name apart.
- `moduleName_twins`: two files that a dash tells apart, and not their names of modules.
-/
import RouteDocs.Proofs.Project.Scanning
import RouteDocs.Proofs.Schema.Lookup
import RouteDocs.Proofs.Schema.PostOrder

namespace RouteDocs

open Files Schema Source

variable {files : FileTree} {root path : Path} {paths : List Path}

/-! ## Segments -/

/-- The segments of a module name for the parts of a path below a package. -/
def segments (parts : List String) : List (List Char) :=
  (moduleParts parts).flatMap fun part => (dashesToUnderscores part).toList.splitOn '.'

/-- the segments of the module name of a file, after those for its package -/
def Files.Path.segments (path root : Path) : List (List Char) := RouteDocs.segments ((path.relativeTo? root).getD [])

theorem toList_dashesToUnderscores (s : String) :
    (dashesToUnderscores s).toList = s.toList.map fun c => if c = '-' then '_' else c := by
  rw [dashesToUnderscores, String.toList_ofList]

theorem toList_dashes_intercalate (first second : String) (parts : List String) :
    (dashesToUnderscores (".".intercalate (first :: second :: parts))).toList
      = (dashesToUnderscores first).toList
        ++ '.' :: (dashesToUnderscores (".".intercalate (second :: parts))).toList := by
  have hpoint : ".".toList = ['.'] := rfl
  simp only [toList_dashesToUnderscores, String.toList_intercalate, List.map_cons, List.intercalate_cons_cons, hpoint,
    List.map_append, List.append_assoc, List.singleton_append]
  rfl

/-- what a name is made of can be read off again -/
theorem splitOn_intercalate_dashes (first : String) (parts : List String) :
    (dashesToUnderscores (".".intercalate (first :: parts))).toList.splitOn '.'
      = (first :: parts).flatMap fun part => (dashesToUnderscores part).toList.splitOn '.' := by
  induction parts generalizing first with
  | nil => simp
  | cons second parts ih =>
    rw [toList_dashes_intercalate, List.flatMap_cons, ← ih second]
    exact List.splitOnP_append_cons _ _ (beq_self_eq_true _)

theorem splitOn_injective (sep : Char) : Function.Injective (List.splitOn sep) := fun s t h => by
  have hs : [sep].intercalate (s.splitOn sep) = s := List.intercalate_splitOn sep
  rw [← hs, h, List.intercalate_splitOn]

/-! ## Names -/

/-- **Names and segments.** Two files of a package have one module name just if their segments are the same. -/
theorem moduleName_eq_iff (h : sourceFiles files root = .ok paths) {p q : Path} (hp : p ∈ paths) (hq : q ∈ paths) :
    moduleName files root p = moduleName files root q ↔ p.segments root = q.segments root := by
  -- a package is one file, or a directory with files below it
  rcases mem_sourceFiles h hp with ⟨place, content, hfind, rfl⟩ | ⟨place, parts, hfind, hne, rfl⟩
  · rcases mem_sourceFiles h hq with ⟨-, -, -, rfl⟩ | ⟨place', -, hfind', -⟩
    · exact ⟨fun _ => rfl, fun _ => rfl⟩
    · cases hfind.symm.trans hfind'
  · rcases mem_sourceFiles h hq with ⟨place', content, hfind', -⟩ | ⟨place', parts', -, hne', rfl⟩
    · cases hfind.symm.trans hfind'
    · -- both names begin with that of the package, and the rest can be cut at the points again
      rw [moduleName_extend hfind hne, moduleName_extend hfind hne', Except.ok.injEq, ← String.toList_inj,
        ← (splitOn_injective '.').eq_iff, splitOn_intercalate_dashes, splitOn_intercalate_dashes, List.flatMap_cons,
        List.flatMap_cons, List.append_cancel_left_eq, Path.segments, Path.segments, Path.relativeTo?_extend,
        Path.relativeTo?_extend]
      rfl

/-! ## Plain paths -/

/-- a name without points and dashes -/
def PlainName (name : String) : Prop := '.' ∉ name.toList ∧ '-' ∉ name.toList

/-- a path below a package to a source file, with no points and dashes but for the point of the suffix -/
def PlainParts (parts : List String) : Prop :=
  ∃ front stem, parts = front ++ [stem ++ ".py"] ∧ stem ≠ "" ∧ ∀ part ∈ front ++ [stem], PlainName part

/-- a source file, and the initial file of the package that it stands beside -/
def Beside (parts parts' : List String) : Prop :=
  ∃ front stem, stem ≠ "__init__" ∧ parts = front ++ [stem ++ ".py"] ∧ parts' = front ++ [stem, "__init__.py"]

theorem PlainName.splitOn {name : String} (h : PlainName name) :
    (dashesToUnderscores name).toList.splitOn '.' = [name.toList] := by
  have hdashes : (dashesToUnderscores name).toList = name.toList := by
    rw [toList_dashesToUnderscores]
    refine (List.map_congr_left fun c hc => if_neg ?_).trans (List.map_id _)
    rintro rfl
    exact h.2 hc
  have hsingle : (['.'].intercalate [name.toList]).splitOn '.' = [name.toList] :=
    List.splitOn_intercalate '.' (by simpa using h.1) (by simp)
  rw [hdashes]
  simpa using hsingle

theorem segments_plain {parts : List String} (h : ∀ part ∈ moduleParts parts, PlainName part) :
    segments parts = (moduleParts parts).map String.toList := by
  rw [segments]
  generalize moduleParts parts = parts at h
  induction parts with
  | nil => rfl
  | cons part rest ih =>
    obtain ⟨hpart, hrest⟩ := List.forall_mem_cons.1 h
    rw [List.flatMap_cons, hpart.splitOn, ih hrest]
    rfl

theorem moduleParts_append (front : List String) {stem : String} (hstem : stem ≠ "") :
    moduleParts (front ++ [stem ++ ".py"]) = if stem = "__init__" then front else front ++ [stem] := by
  have hcut : Text.cutLast '.' (stem ++ ".py").toList = (stem.toList, "py".toList) := by
    rw [String.toList_append]
    exact Text.cutLast_eq_iff.2 (.inside (by decide))
  have hsuffix : Path.splitSuffix (stem ++ ".py") = (stem, ".py") := by
    rw [Path.splitSuffix, hcut]
    simp [hstem]
  simp [moduleParts, hsuffix]

theorem PlainParts.segments_eq {parts : List String} (h : PlainParts parts) :
    segments parts = (moduleParts parts).map String.toList := by
  obtain ⟨front, stem, rfl, hstem, hplain⟩ := h
  refine segments_plain fun part hpart => hplain part ?_
  rw [moduleParts_append front hstem] at hpart
  split at hpart
  · exact List.mem_append_left _ hpart
  · exact hpart

theorem Beside.moduleParts_eq {parts parts' : List String} (h : Beside parts parts') (hparts : PlainParts parts) :
    moduleParts parts = moduleParts parts' := by
  obtain ⟨front, stem, hinitial, rfl, rfl⟩ := h
  obtain ⟨front', stem', hsame, hstem', -⟩ := hparts
  obtain ⟨-, hname⟩ := List.append_inj' hsame rfl
  have hstem : stem ≠ "" := by
    rintro rfl
    have hlength := congrArg String.length (List.singleton_inj.1 hname)
    simp at hlength
    exact hstem' hlength
  have hpackage : front ++ [stem, "__init__.py"] = (front ++ [stem]) ++ ["__init__" ++ ".py"] := by simp
  rw [moduleParts_append front hstem, if_neg hinitial, hpackage, moduleParts_append _ (by decide), if_pos rfl]

/-- Without points and dashes, two paths have the same segments just if they are the same, or the one is that of the
initial file of the package that the other one stands beside. -/
theorem segments_plain_iff {parts parts' : List String} (h : PlainParts parts) (h' : PlainParts parts') :
    segments parts = segments parts' ↔ parts = parts' ∨ Beside parts parts' ∨ Beside parts' parts := by
  have hinjective : Function.Injective (List.map String.toList) :=
    List.map_injective_iff.2 fun _ _ h => String.toList_injective h
  rw [h.segments_eq, h'.segments_eq, hinjective.eq_iff]
  constructor
  · intro hsame
    obtain ⟨front, stem, rfl, hstem, -⟩ := h
    obtain ⟨front', stem', rfl, hstem', -⟩ := h'
    rw [moduleParts_append front hstem, moduleParts_append front' hstem'] at hsame
    by_cases hinitial : stem = "__init__" <;> by_cases hinitial' : stem' = "__init__"
    · rw [if_pos hinitial, if_pos hinitial'] at hsame
      exact Or.inl (by rw [hsame, hinitial, hinitial'])
    · rw [if_pos hinitial, if_neg hinitial'] at hsame
      exact Or.inr (Or.inr ⟨front', stem', hinitial', rfl, by rw [hsame, hinitial]; simp⟩)
    · rw [if_neg hinitial, if_pos hinitial'] at hsame
      exact Or.inr (Or.inl ⟨front, stem, hinitial, rfl, by rw [← hsame, hinitial']; simp⟩)
    · rw [if_neg hinitial, if_neg hinitial'] at hsame
      obtain ⟨rfl, hname⟩ := List.append_inj' hsame rfl
      exact Or.inl (by rw [List.singleton_inj.1 hname])
  · rintro (rfl | hbeside | hbeside)
    · rfl
    · exact hbeside.moduleParts_eq h
    · exact (hbeside.moduleParts_eq h').symm

/-! ## Classes of a package -/

def StandsIn (files : FileTree) (root path : Path) (d : Definition) : Prop :=
  ∃ contents, scanFile files root path = .ok contents ∧ d ∈ contents.types

theorem mem_of_mapM_ok {α β ε : Type} {f : α → Except ε β} {l : List α} {bs : List β} (h : l.mapM f = .ok bs)
    {b : β} :
    b ∈ bs ↔ ∃ a ∈ l, f a = .ok b := by
  induction l generalizing bs with
  | nil =>
    cases h
    simp
  | cons a rest ih =>
    rw [List.mapM_cons, bind_ok_iff] at h
    obtain ⟨first, hfirst, h⟩ := h
    obtain ⟨others, hothers, hbs⟩ := bind_ok_iff.1 h
    obtain rfl := Except.ok.inj hbs
    simp [ih hothers, hfirst, eq_comm]

theorem StandsIn.moduleName_eq {d : Definition} (h : StandsIn files root path d) :
    moduleName files root path = .ok d.module := by
  obtain ⟨contents, hfile, hd⟩ := h
  obtain ⟨module, hmodule, htext⟩ := bind_ok_iff.1 hfile
  obtain ⟨text, -, hscan⟩ := bind_ok_iff.1 htext
  rw [hmodule, module_of_scan (mapError_ok_iff.1 hscan) hd]

/-- the classes of a package are those that stand in one of its files -/
theorem mem_types_iff (hpaths : sourceFiles files root = .ok paths) {contents : ModuleContents}
    (hscan : scanPackage files root = .ok contents) {d : Definition} :
    d ∈ contents.types ↔ ∃ path ∈ paths, StandsIn files root path d := by
  obtain ⟨paths', hpaths', hall⟩ := bind_ok_iff.1 hscan
  obtain rfl := Except.ok.inj (hpaths.symm.trans hpaths')
  obtain ⟨scanned, hscanned, hcontents⟩ := bind_ok_iff.1 hall
  obtain rfl := Except.ok.inj hcontents
  rw [List.mem_flatMap]
  constructor
  · rintro ⟨found, hfound, hd⟩
    obtain ⟨path, hpath, hfile⟩ := (mem_of_mapM_ok hscanned).1 hfound
    exact ⟨path, hpath, found, hfile, hd⟩
  · rintro ⟨path, hpath, found, hfile, hd⟩
    exact ⟨found, (mem_of_mapM_ok hscanned).2 ⟨path, hpath, hfile⟩, hd⟩

/-- classes have one module just if the segments of their files are the same -/
theorem StandsIn.module_eq_iff (hpaths : sourceFiles files root = .ok paths) {p q : Path} (hp : p ∈ paths)
    (hq : q ∈ paths) {d e : Definition} (hd : StandsIn files root p d) (he : StandsIn files root q e) :
    d.module = e.module ↔ p.segments root = q.segments root := by
  rw [← moduleName_eq_iff hpaths hp hq, hd.moduleName_eq, he.moduleName_eq, Except.ok.injEq]

/-! ## Classes of one name -/

section Identity

variable {contents : ModuleContents} {p q : Path} {d e : Definition}

/-- so their full names are the same, too -/
theorem StandsIn.fullName_eq_iff (hpaths : sourceFiles files root = .ok paths) (hp : p ∈ paths) (hq : q ∈ paths)
    (hd : StandsIn files root p d) (he : StandsIn files root q e) (hname : d.name = e.name) :
    d.fullName = e.fullName ↔ p.segments root = q.segments root := by
  rw [← hd.module_eq_iff hpaths hp hq he, Definition.fullName, Definition.fullName, hname]
  refine ⟨fun h => ?_, fun h => by rw [h]⟩
  have htext := congrArg String.toList h
  simp only [String.toList_append] at htext
  exact String.toList_injective (List.append_cancel_right (List.append_cancel_right htext))

/-- From the module of a class, what means the class leads to no file with other segments. -/
theorem StandsIn.lookup_own (hpaths : sourceFiles files root = .ok paths)
    (hscan : scanPackage files root = .ok contents)
    (hq : q ∈ paths) (he : StandsIn files root q e) {ref : String} (hmeant : e.MeantBy ref) :
    ∃ x, (SymbolTable.mk contents.types).lookup ref e.module = some x ∧ x.name = e.name ∧
      ∀ file ∈ paths, StandsIn files root file x → file.segments root = q.segments root := by
  have hmem : e ∈ contents.types := (mem_types_iff hpaths hscan).2 ⟨q, hq, he⟩
  cases hlookup : (SymbolTable.mk contents.types).lookup ref e.module with
  | none => exact absurd hmeant (SymbolTable.lookup_none_iff.1 hlookup e hmem)
  | some x =>
    have hnearest := SymbolTable.nearest_of_lookup hlookup
    -- the class itself stands in the module, so what is nearest does
    have hmodule : x.module = e.module := (hnearest.noFarther e hmem hmeant).own rfl
    exact ⟨x, rfl, hnearest.meant.name_eq hmeant,
      fun file hfile hx => (hx.module_eq_iff hpaths hfile hq he).1 hmodule⟩

/-- Where a class of the name has been recorded, another one is a collision just if the segments of their files are not
the same. -/
theorem StandsIn.follow_recorded (hpaths : sourceFiles files root = .ok paths) (hp : p ∈ paths) (hq : q ∈ paths)
    (hd : StandsIn files root p d) (he : StandsIn files root q e) {table : SymbolTable} {cache : Cache}
    {ref package : String} (hlookup : table.lookup ref package = some e)
    (hrecorded : cache.origins.get? e.name = some d.module) :
    (follow cache table ref package).answer
      = if p.segments root = q.segments root then .ok e.name else .error (.collision e.name) := by
  have hasked : TypeLookup.ask table ref package = (some e, table) := by rw [SymbolTable.ask_eq, hlookup]
  rw [← if_congr (hd.module_eq_iff hpaths hp hq he) rfl rfl]
  unfold follow
  rw [hasked]
  dsimp only
  rw [hrecorded]

/-- What a class inherits is in its lineage; of classes of one name those are the same that stand in files with the same
segments. -/
theorem StandsIn.mem_lineage (hpaths : sourceFiles files root = .ok paths) (hp : p ∈ paths) (hq : q ∈ paths)
    (hd : StandsIn files root p d) (he : StandsIn files root q e) (hname : d.name = e.name) {table : SymbolTable}
    {c : Definition} (hc : table.Found c) (hcd : table.Descends c d) (hce : table.Descends c e) :
    d ∈ table.lineage c ∧ e ∈ table.lineage c ∧ (d = e ↔ p.segments root = q.segments root) := by
  have hfound {x : Definition} (hx : table.Descends c x) : table.Found x := by
    cases hx with
    | refl => exact hc
    | tail _ hlast => exact hlast.found
  obtain ⟨order, after, hvisits, hlineage⟩ := table.visits_lineage c
  rw [hlineage, hvisits.mem_lineage hc, hvisits.mem_lineage hc, ← hd.fullName_eq_iff hpaths hp hq he hname]
  exact ⟨hcd, hce, fun h => by rw [h], (hfound hcd).eq (hfound hce)⟩

end Identity

/-- **What module names tell apart.** Every file of a package has a module name, and two files have the same one just
if their segments are the same; in the absence of points and dashes, just if one is the initial file of the package
that the other stands beside. Where two classes of one name stand in files with other segments, their modules and full
names differ, a look-up from the module of the one does not lead to the file of the other, to resolve the one after
the other is a collision, and a class that inherits both has both in its lineage. -/
theorem moduleName_identifies (hpaths : sourceFiles files root = .ok paths) :
    (∀ p ∈ paths, ∃ module, moduleName files root p = .ok module) ∧
      (∀ p ∈ paths, ∀ q ∈ paths,
        moduleName files root p = moduleName files root q ↔ p.segments root = q.segments root) ∧
      (∀ parts parts', root.extend parts ∈ paths → root.extend parts' ∈ paths →
        PlainParts parts → PlainParts parts' →
        (moduleName files root (root.extend parts) = moduleName files root (root.extend parts') ↔
          parts = parts' ∨ Beside parts parts' ∨ Beside parts' parts)) ∧
      ∀ contents table, scanPackage files root = .ok contents → table = SymbolTable.mk contents.types →
        ∀ p ∈ paths, ∀ q ∈ paths, ∀ d e,
          StandsIn files root p d → StandsIn files root q e → d.name = e.name →
          (d.module = e.module ↔ p.segments root = q.segments root) ∧
          (d.fullName = e.fullName ↔ p.segments root = q.segments root) ∧
          (∀ ref, e.MeantBy ref → ∃ x, table.lookup ref e.module = some x ∧ x.name = e.name ∧
            ∀ file ∈ paths, StandsIn files root file x → file.segments root = q.segments root) ∧
          (∀ cache ref package, table.lookup ref package = some e → cache.origins.get? e.name = some d.module →
            (follow cache table ref package).answer
              = if p.segments root = q.segments root then .ok e.name else .error (.collision e.name)) ∧
          ∀ c, table.Found c → table.Descends c d → table.Descends c e →
            d ∈ table.lineage c ∧ e ∈ table.lineage c ∧ (d = e ↔ p.segments root = q.segments root) := by
  refine ⟨fun p hp => moduleName_of_mem hpaths hp, fun p hp q hq => moduleName_eq_iff hpaths hp hq, ?_, ?_⟩
  · intro parts parts' hp hq hplain hplain'
    rw [moduleName_eq_iff hpaths hp hq, Path.segments, Path.segments, Path.relativeTo?_extend, Path.relativeTo?_extend]
    exact segments_plain_iff hplain hplain'
  · rintro contents _ hscan rfl p hp q hq d e hd he hname
    exact ⟨hd.module_eq_iff hpaths hp hq he, hd.fullName_eq_iff hpaths hp hq he hname,
      fun ref hmeant => he.lookup_own hpaths hscan hq hmeant,
      fun cache ref package hlookup hrecorded => hd.follow_recorded hpaths hp hq he hlookup hrecorded,
      fun c hc hcd hce => hd.mem_lineage hpaths hp hq he hname hc hcd hce⟩

/-! ## Two packages -/

/-- the files of a package are those found below it, if these are in order -/
theorem sourceFiles_of_sorted {place : List String} {found : List (List String)}
    (hfind : files.find root = .ok (.directory place))
    (hfound : ((files.below place isSourceName).filter fun parts => !(parts.any (· ∈ ignoredDirectories))) = found)
    (hsorted : found.Pairwise fun parts parts' => partsLe parts parts' = true) :
    sourceFiles files root = .ok (found.map root.extend) := by
  rw [sourceFiles, hfind]
  change Except.ok _ = _
  rw [hfound, List.mergeSort_of_pairwise hsorted]

/-- a package of two files, each with a class of the same name -/
def shopTree : FileTree :=
  (FileTree.empty.putFile ["app", "farm.py"] "class Pet:\n    age: int\n".toUTF8.toList).putFile ["app", "shop.py"]
    "class Pet:\n    price: int\n".toUTF8.toList

def farmPet : Definition := ⟨"Pet", "app.farm", [], [⟨"age", "int", true⟩]⟩

def shopPet : Definition := ⟨"Pet", "app.shop", [], [⟨"price", "int", true⟩]⟩

/-- The two classes have different modules, a look-up from the one does not lead to the other, and one after the other
they are a collision. -/
theorem moduleName_identifies_shop :
    sourceFiles shopTree (.ofText "app") = .ok [.ofText "app/farm.py", .ofText "app/shop.py"] ∧
      farmPet.module ≠ shopPet.module ∧ farmPet.fullName ≠ shopPet.fullName ∧
      (∃ x, (SymbolTable.mk [farmPet, shopPet]).lookup "Pet" "app.shop" = some x ∧
        ¬ StandsIn shopTree (.ofText "app") (.ofText "app/farm.py") x) ∧
      (follow ⟨.ofList [("Pet", "app.farm")], ∅, ∅⟩ (SymbolTable.mk [farmPet, shopPet])
        "shop.Pet" "app.farm").answer
        = .error (.collision "Pet") := by
  have hpaths : sourceFiles shopTree (.ofText "app") = .ok [.ofText "app/farm.py", .ofText "app/shop.py"] :=
    sourceFiles_of_sorted (by decide +kernel : shopTree.find (.ofText "app") = .ok (.directory ["app"])) rfl
      (by decide +kernel)
  have hscan : scanPackage shopTree (.ofText "app") = .ok ⟨[], [farmPet, shopPet]⟩ := by
    rw [scanPackage, hpaths]
    decide +kernel
  have hfarm : StandsIn shopTree (.ofText "app") (.ofText "app/farm.py") farmPet :=
    ⟨⟨[], [farmPet]⟩, by decide +kernel, List.mem_singleton_self _⟩
  have hshop : StandsIn shopTree (.ofText "app") (.ofText "app/shop.py") shopPet :=
    ⟨⟨[], [shopPet]⟩, by decide +kernel, List.mem_singleton_self _⟩
  have hsegments : (Path.ofText "app/farm.py").segments (.ofText "app")
      ≠ (Path.ofText "app/shop.py").segments (.ofText "app") := by decide +kernel
  have hmeant : shopPet.MeantBy "Pet" := Reference.allows_iff.1 (by decide +kernel)
  obtain ⟨-, -, -, hclasses⟩ := moduleName_identifies hpaths
  obtain ⟨hmodule, hfull, hlookup, hfollow, -⟩ :=
    hclasses _ _ hscan rfl _ (by simp) _ (by simp) farmPet shopPet hfarm hshop rfl
  obtain ⟨x, hx, -, hfile⟩ := hlookup "Pet" hmeant
  refine ⟨hpaths, fun h => hsegments (hmodule.1 h), fun h => hsegments (hfull.1 h),
    ⟨x, hx, fun hstands => hsegments (hfile _ (by simp) hstands)⟩, ?_⟩
  rw [hfollow _ "shop.Pet" "app.farm" (by decide +kernel) (by decide +kernel), if_neg hsegments]
  rfl

/-- a package of two files whose names differ in a dash only, each with a class of the same name -/
def twinTree : FileTree :=
  (FileTree.empty.putFile ["app", "a-b.py"] "class Pet:\n    draft: int\n".toUTF8.toList).putFile ["app", "a_b.py"]
    "class Pet:\n    name: str\n".toUTF8.toList

def draftPet : Definition := ⟨"Pet", "app.a_b", [], [⟨"draft", "int", true⟩]⟩

def namedPet : Definition := ⟨"Pet", "app.a_b", [], [⟨"name", "str", true⟩]⟩

/-- **Twins.** A dash and an underscore give one name of a module, so the class of the one file is taken for that of the
other. -/
theorem moduleName_twins :
    sourceFiles twinTree (.ofText "app") = .ok [.ofText "app/a-b.py", .ofText "app/a_b.py"] ∧
      Path.ofText "app/a-b.py" ≠ .ofText "app/a_b.py" ∧
      moduleName twinTree (.ofText "app") (.ofText "app/a-b.py") = .ok "app.a_b" ∧
      moduleName twinTree (.ofText "app") (.ofText "app/a_b.py") = .ok "app.a_b" ∧
      StandsIn twinTree (.ofText "app") (.ofText "app/a_b.py") namedPet ∧
      scanPackage twinTree (.ofText "app") = .ok ⟨[], [draftPet, namedPet]⟩ ∧
      (SymbolTable.mk [draftPet, namedPet]).lookup "Pet" namedPet.module = some draftPet := by
  have hpaths : sourceFiles twinTree (.ofText "app") = .ok [.ofText "app/a-b.py", .ofText "app/a_b.py"] :=
    sourceFiles_of_sorted (by decide +kernel : twinTree.find (.ofText "app") = .ok (.directory ["app"])) rfl
      (by decide +kernel)
  refine ⟨hpaths, by decide +kernel, by decide +kernel, by decide +kernel, ?_, ?_, by decide +kernel⟩
  · exact ⟨⟨[], [namedPet]⟩, by decide +kernel, List.mem_singleton_self _⟩
  · rw [scanPackage, hpaths]
    decide +kernel

end RouteDocs
