/-
The fields of scanned classes.

A class variable is told by the text of its annotation, and not by the annotation: every public name whose annotation
begins with the name of the marker is left out, whatever comes after these letters.

- `takenFields_eq_meant_iff`: when a class has the fields that it is meant to have.
- `scan_fields`: the fields of the classes of a module, and that they appear in the models.
- `variant_left_out`: a field whose type only begins with the letters of the marker is lost.
-/
import RouteDocs.Proofs.Project.Scanning
import RouteDocs.Proofs.Schema.Overriding
import RouteDocs.Proofs.Source.LeadingName

namespace RouteDocs.Source

open Schema

/-! ## Annotations -/

def Expr.isMarker : Expr → Bool
  | .name n => n == "ClassVar"
  | .attribute (.name m) n => m == "typing" && n == "ClassVar"
  | _ => false

/-- is the annotation that of a class variable, the marker bare or subscripted? -/
def Expr.isClassVar : Expr → Bool
  | .subscript value _ => value.isMarker
  | e => e.isMarker

/-- does the annotation begin with a name that looks like the marker? -/
def Expr.seemsClassVar (e : Expr) : Bool := (e.front .test).any Expr.looksMarked

/-- an annotation is passed over just if it seems to be that of a class variable -/
theorem isClassVariable_text (e : Expr) : isClassVariable e.text = e.seemsClassVar := by
  rw [Bool.eq_iff_iff, isClassVariable_iff, Expr.text, String.toList_ofList,
    Expr.looksMarked_print .test (Nat.le_refl _), Expr.seemsClassVar]

theorem Expr.front_of_isMarker {e : Expr} (h : e.isMarker = true) (p : Precedence) :
    (e.front p).any looksMarked = true := by
  have hmarker : isClassVariable "ClassVar" = true := by decide
  have hletters : "ClassVar".toList.isPrefixOf "ClassVar".toList = true := by decide
  unfold Expr.isMarker at h
  split at h
  · rw [beq_iff_eq] at h
    rw [Expr.front, Option.any_some, looksMarked, h, hmarker]
  · rw [Bool.and_eq_true, beq_iff_eq, beq_iff_eq] at h
    rw [Expr.front, Option.any_some, looksMarked, h.1, h.2, hletters]
    decide
  · cases h

/-- a class variable also seems to be one -/
theorem Expr.seemsClassVar_of_isClassVar {e : Expr} (h : e.isClassVar = true) : e.seemsClassVar = true := by
  unfold Expr.isClassVar at h
  split at h
  · exact Expr.front_of_isMarker h .atom
  · exact Expr.front_of_isMarker h .test

/-! ## Fields of a class -/

variable {π : Type}

/-- the annotation and the field that a statement of a class declares, if it is for a name that is not private -/
def Stmt.declaration? : Stmt π → Option (Expr × Field)
  | .annotated (.name name) type hasValue =>
    if ['_'].isPrefixOf name.toList then none else some (type, ⟨name, type.text, !hasValue⟩)
  | _ => none

/-- the annotations and the fields that the statements of a class declare, in their order -/
def declarations (body : List (Stmt π)) : List (Expr × Field) := body.filterMap Stmt.declaration?

/-- the fields that a class is meant to have: all but the class variables -/
def meantFields (body : List (Stmt π)) : List Field :=
  ((declarations body).filter fun d => !d.1.isClassVar).map Prod.snd

/-- the fields that are taken: all but what seems to be a class variable -/
def takenFields (body : List (Stmt π)) : List Field :=
  ((declarations body).filter fun d => !d.1.seemsClassVar).map Prod.snd

theorem field?_eq (s : Stmt π) :
    field? s = (s.declaration?.filter fun d => !d.1.seemsClassVar).map Prod.snd := by
  cases s with
  | annotated target type hasValue =>
    cases target with
    | name name =>
      simp only [field?, Stmt.declaration?, isClassVariable_text]
      cases ['_'].isPrefixOf name.toList <;> cases hseems : type.seemsClassVar <;> simp [Option.filter, hseems]
    | _ => rfl
  | _ => rfl

theorem filterMap_field? (body : List (Stmt π)) : body.filterMap field? = takenFields body := by
  have hfield : (field? : Stmt π → Option Field)
      = fun s => (s.declaration?.filter fun d => !d.1.seemsClassVar).map Prod.snd := funext field?_eq
  rw [hfield, takenFields, declarations, List.filter_filterMap, List.map_filterMap]

/-- what is taken is what is meant, without the fields that only seem to be class variables -/
theorem takenFields_eq (body : List (Stmt π)) : takenFields body
    = (((declarations body).filter fun d => !d.1.isClassVar).filter fun d => !d.1.seemsClassVar).map Prod.snd := by
  rw [takenFields, List.filter_filter]
  refine congrArg (List.map Prod.snd) (List.filter_congr fun d _ => ?_)
  cases hseems : d.1.seemsClassVar with
  | true => rfl
  | false =>
    have hnot : d.1.isClassVar = false := by
      by_contra h
      rw [Expr.seemsClassVar_of_isClassVar (Bool.eq_true_of_not_eq_false h)] at hseems
      cases hseems
    rw [hnot]
    rfl

/-- **Lost fields.** A class has the fields that it is meant to have just if nothing only seems to be a class
variable. -/
theorem takenFields_eq_meant_iff {body : List (Stmt π)} : takenFields body = meantFields body ↔
    ∀ d ∈ declarations body, d.1.seemsClassVar = true → d.1.isClassVar = true := by
  constructor
  · intro hsame d hd hseems
    by_contra hnot
    -- one that only seems to be a class variable would make the list shorter
    have hlength := congrArg List.length hsame
    rw [takenFields_eq, meantFields, List.length_map, List.length_map, List.length_filter_eq_length_iff] at hlength
    have htaken := hlength d (List.mem_filter.2 ⟨hd, by simpa using hnot⟩)
    rw [hseems] at htaken
    cases htaken
  · intro hright
    refine congrArg (List.map Prod.snd) (List.filter_congr fun d hd => congrArg not ?_)
    rw [Bool.eq_iff_iff]
    exact ⟨hright d hd, Expr.seemsClassVar_of_isClassVar⟩

/-! ## Classes of a module -/

structure ClassDef (π : Type) where
  name : String
  bases : List Expr
  body : List (Stmt π)

def classDef? : Stmt π → Option (ClassDef π)
  | .classDef name bases body => some ⟨name, bases, body⟩
  | _ => none

/-- the classes that statements at the top of a module define -/
def classDefs (body : List (Stmt π)) : List (ClassDef π) := body.filterMap classDef?

def ClassDef.scanned (module : String) (c : ClassDef π) : Definition :=
  ⟨c.name, module, c.bases.map Expr.text, takenFields c.body⟩

theorem definition?_eq (module : String) (s : Stmt π) :
    definition? module s = (classDef? s).map (ClassDef.scanned module) := by
  cases s with
  | classDef name bases body =>
    rw [definition?, filterMap_field?]
    rfl
  | _ => rfl

/-- **Fields of scanned classes.** The classes of a module are those at its top, in their order. A field is taken for
every annotated name that is not private, in its place, with the text of the annotation, and required if it has no
value; left out is what seems to be a class variable. So they are the fields that the class is meant to have just if
nothing only seems to be one. A field that is taken, and not declared again later, is in the model of the class. -/
theorem scan_fields {module : String} {text : List Char} {contents : ModuleContents}
    (h : scan module text = .ok contents) :
    ∃ parsed, parse text = .ok parsed ∧ contents.types = (classDefs parsed.body).map (ClassDef.scanned module) ∧
      ∀ c ∈ classDefs parsed.body,
        ((c.scanned module).fields = meantFields c.body ↔
          ∀ d ∈ declarations c.body, d.1.seemsClassVar = true → d.1.isClassVar = true) ∧
        ∀ (table : SymbolTable) before f after, (c.scanned module).fields = before ++ f :: after →
          (∀ g ∈ after, g.name ≠ f.name) → table.Shows (c.scanned module) f := by
  obtain ⟨parsed, hparse, -, rfl⟩ := scan_ok_iff.1 h
  refine ⟨parsed, hparse, ?_, fun c _ => ⟨takenFields_eq_meant_iff,
    fun table before f after hfields hafter => ?_⟩⟩
  · have hdefinition : (definition? module : Stmt (LineOf parsed.tokens) → Option Definition)
        = fun s => (classDef? s).map (ClassDef.scanned module) := funext (definition?_eq module)
    rw [classDefs, List.map_filterMap, hdefinition]
  · exact (SymbolTable.provides_own hfields hafter).shows

/-- the only class of a text, by what is computed of it -/
theorem exists_classDef {β : Type} (text : List Char) (f : (π : Type) → ClassDef π → β) {b : β}
    (h : ((parse text).toOption.map fun parsed => (classDefs parsed.body).map (f _)) = some [b]) :
    ∃ parsed c, parse text = .ok parsed ∧ classDefs parsed.body = [c] ∧ f _ c = b := by
  cases hparse : parse text with
  | error e =>
    rw [hparse] at h
    cases h
  | ok parsed =>
    rw [hparse] at h
    obtain ⟨c, rest, hclasses, hc, hrest⟩ := List.map_eq_cons_iff.1 (Option.some.inj h)
    obtain rfl := List.map_eq_nil_iff.1 hrest
    exact ⟨parsed, c, rfl, hclasses, hc⟩

/-- a class with class variables, a private name, and two fields -/
def petFieldsSource : List Char :=
  ("class Pet(Animal):\n    count: ClassVar = 0\n    kinds: typing.ClassVar[dict[str, int]]\n    _seen: int\n"
    ++ "    name: str\n    tag: Optional[str] = None\n").toList

def petFieldsClass : Definition :=
  ⟨"Pet", "app", ["Animal"], [⟨"name", "str", true⟩, ⟨"tag", "Optional[str]", false⟩]⟩

/-- Two fields are taken from the class, and they are those that it is meant to have; the second is in its models. -/
theorem scan_fields_pet :
    scan "app" petFieldsSource = .ok ⟨[], [petFieldsClass]⟩ ∧
      ∃ parsed c, parse petFieldsSource = .ok parsed ∧ classDefs parsed.body = [c] ∧
      c.scanned "app" = petFieldsClass ∧
        petFieldsClass.fields = meantFields c.body ∧
        ∀ table : SymbolTable, table.Shows petFieldsClass ⟨"tag", "Optional[str]", false⟩ := by
  have hscan : scan "app" petFieldsSource = .ok ⟨[], [petFieldsClass]⟩ := by decide +kernel
  obtain ⟨parsed, c, hparse, hdefs, hc⟩ := exists_classDef (b := (petFieldsClass, true)) petFieldsSource
    (fun _ c => (c.scanned "app", (declarations c.body).all fun d => !d.1.seemsClassVar || d.1.isClassVar))
    (by decide +kernel)
  obtain ⟨_, hsame, -, hfields⟩ := scan_fields hscan
  obtain rfl := Except.ok.inj (hparse.symm.trans hsame)
  obtain ⟨hscanned, hright⟩ := Prod.mk.inj hc
  obtain ⟨hmeant, hshows⟩ := hfields c (by simp [hdefs])
  rw [hscanned] at hmeant hshows
  refine ⟨hscan, parsed, c, hparse, hdefs, hscanned, hmeant.2 fun d hd hseems => ?_, fun table => ?_⟩
  · simpa [hseems] using List.all_eq_true.1 hright d hd
  · exact hshows table [⟨"name", "str", true⟩] _ [] rfl (List.forall_mem_nil _)

/-- a class with a field whose type only begins as the marker does -/
def variantSource : List Char := "class Pet:\n    kind: ClassVariant\n    name: str\n".toList

def variantClass : Definition := ⟨"Pet", "app", [], [⟨"name", "str", true⟩]⟩

/-- **A lost field.** The type of the field is not the marker of class variables, but a class with a longer name. The
field is not taken, and is not in the model of the class. -/
theorem variant_left_out :
    ∃ parsed c, parse variantSource = .ok parsed ∧ classDefs parsed.body = [c] ∧
      meantFields c.body = [⟨"kind", "ClassVariant", true⟩, ⟨"name", "str", true⟩] ∧
      scan "app" variantSource = .ok ⟨[], [variantClass]⟩ ∧
      ((Resolver.new (SymbolTable.mk [variantClass]) ∅).resolve "Pet" "app").answer
        = .ok [⟨"Pet", ["name"], .ofList [("name", .primitive ⟨"string", none⟩)]⟩] := by
  obtain ⟨parsed, c, hparse, hclasses, hmeant⟩ := exists_classDef
    (b := [⟨"kind", "ClassVariant", true⟩, ⟨"name", "str", true⟩]) variantSource (fun _ c => meantFields c.body)
    (by decide +kernel)
  exact ⟨parsed, c, hparse, hclasses, hmeant, by decide +kernel, by decide +kernel⟩

end RouteDocs.Source
