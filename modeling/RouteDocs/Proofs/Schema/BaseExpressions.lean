/-
Which class a base expression means, and what a class takes from it.

A base expression is reduced as the type of a field is, and the class that is meant is looked up by the element which is
left. Of a name that is the name itself, with arguments or without, unless it names a container or a wrapper. Of a
container of elements it is the first argument, so that a class which only stands between the brackets becomes a base.

- `BaseExpr.reduce_text`: the element that is left of a base expression.
- `BaseExpr.base?_text`: the class that a base expression means.
- `SymbolTable.takes_base?`: a class takes the fields of the class that a base expression means, with those of all that
  this class inherits, and no others.
- `SymbolTable.takes_element`: the same for names with and without arguments.
- `SymbolTable.argument_is_base`: the class that only stands between the brackets gives its fields.
-/
import RouteDocs.Proofs.Schema.OptionalText
import RouteDocs.Proofs.Schema.PostOrder

namespace RouteDocs.Schema

open TypeExpr

/-! ## Elements -/

/-- a base expression: a dotted name, and text in brackets after it or nothing -/
structure BaseExpr where
  head : List Char
  args : Option (List Char)
  named : Named head

namespace BaseExpr

def text (e : BaseExpr) : List Char :=
  match e.args with
  | none => e.head
  | some args => applied e.head args

/-- what the name means in a type expression -/
def kind (e : BaseExpr) : Head := Head.ofName (bareName e.head)

/-- no bar divides what is between the brackets -/
def Whole (e : BaseExpr) : Prop := ∀ args ∈ e.args, splitAt '|' 1 args = [args]

/-- the name by which the class is looked up that the expression means -/
def element (e : BaseExpr) : List Char :=
  match e.args with
  | none =>
    match e.kind with
    | .array => bareArray.element
    | .mapping => mapping.element
    | _ => e.head
  | some args =>
    match e.kind with
    | .transparent | .array => (reduce (firstArgument args)).element
    | .union => ((firstMember? (split ',' args)).map fun m => (reduce m).element).getD noneName
    | .mapping => mapping.element
    | .literal => "str".toList
    | .other => dropTyping e.head

/-- the name is neither that of a container nor, before arguments, that of a wrapper or one that loses its module -/
def Plain (e : BaseExpr) : Prop :=
  match e.args with
  | none => e.kind ≠ .array ∧ e.kind ≠ .mapping
  | some _ => e.kind = .other ∧ dropTyping e.head = e.head

/-- such an expression is looked up by its name -/
theorem Plain.element {e : BaseExpr} (h : e.Plain) : e.element = e.head := by
  obtain ⟨head, args, named⟩ := e
  cases args with
  | none =>
    obtain ⟨harray, hmapping⟩ := h
    unfold BaseExpr.element
    dsimp only
    split
    · next hkind => exact absurd hkind harray
    · next hkind => exact absurd hkind hmapping
    · rfl
  | some args =>
    obtain ⟨hkind, hhead⟩ := h
    unfold BaseExpr.element
    dsimp only
    rw [hkind]
    exact hhead

/-- an expression reduces to the name by which its class is looked up -/
theorem reduce_text {e : BaseExpr} (h : e.Whole) : (reduce e.text).element = e.element := by
  unfold text element kind
  cases hargs : e.args with
  | none =>
    have hstep := step_named e.named
    dsimp only
    rw [stepName] at hstep
    generalize Head.ofName (bareName e.head) = meaning at hstep
    cases meaning <;> rw [reduce_done hstep]
  | some args =>
    have hstep := step_applied e.named (h args hargs)
    dsimp only
    rw [stepApplication, bareName_dropTyping] at hstep
    generalize Head.ofName (bareName e.head) = meaning at hstep
    cases meaning with
    | transparent => rw [reduce_into hstep]
    | array => rw [reduce_into hstep]
    | mapping => rw [reduce_done hstep]
    | literal => rw [reduce_done hstep]
    | other => rw [reduce_done hstep]
    | union =>
      dsimp only at hstep
      cases hmember : firstMember? (split ',' args) with
      | none =>
        rw [hmember] at hstep
        rw [reduce_done hstep]
        rfl
      | some m =>
        rw [hmember] at hstep
        rw [reduce_into hstep]
        rfl

theorem base?_text {e : BaseExpr} (h : e.Whole) (table : SymbolTable) (package : String) :
    table.base? package (String.ofList e.text) = table.lookup (String.ofList e.element) package := by
  rw [SymbolTable.base?, elementType, String.toList_ofList, reduce_text h]

end BaseExpr

/-! ## What a class takes from a base -/

namespace SymbolTable

variable {table : SymbolTable} {d : Definition} {before later : List String}

/-- the class is meant by one of some base expressions, as seen from a module, or inherited by one that is -/
def OfBases (table : SymbolTable) (package : String) (bases : List String) (x : Definition) : Prop :=
  ∃ base ∈ bases, ∃ b, table.base? package base = some b ∧ table.Descends b x

theorem not_ofBases_nil {package : String} {x : Definition} : ¬ table.OfBases package [] x := by
  rintro ⟨base, hbase, -⟩
  exact List.not_mem_nil hbase

/-- What a class takes from one of its bases, with others before and after it, is what `root` has: the fields are put in
class after class, and between the classes that other bases contribute there are those which `root` inherits, and `root`
itself, less those that come from a base before it. Nothing is taken if there is no such class. -/
def Takes (table : SymbolTable) (d : Definition) (before later : List String) (root : Option Definition) : Prop :=
  ∃ earlier taken following,
    (fieldsOf table d).1 = (FieldMap.ofClasses (earlier ++ taken ++ following ++ [d])).values ∧
      (∀ x ∈ earlier, table.OfBases d.module before x) ∧ (∀ x ∈ following, table.OfBases d.module later x) ∧
      (∀ x ∈ taken, x ∉ earlier ∧ ∃ b, root = some b ∧ table.Descends b x) ∧
      ∀ b, root = some b → table.Found d → ¬ table.Descends b d →
        ∀ x, table.Descends b x → x ∈ earlier ∨ x ∈ taken

/-- what a visited base inherits has been left, unless it leads back to the class whose bases are visited -/
theorem Visits.mem_of_descends {bases : List String} {order : List Definition} {after : List String}
    (h : table.Visits d.module bases [d.fullName] order after) (hd : table.Found d) {base : String}
    (hbase : base ∈ bases) {b : Definition} (means : table.base? d.module base = some b)
    (hback : ¬ table.Descends b d)
    {x : Definition} (hx : table.Descends b x) : x ∈ order := by
  obtain ⟨hroots, hinner⟩ := h.covers
  have hleft {y : Definition} (hy : table.Descends b y) (hfound : table.Found y) (hseen : y.fullName ∈ after) :
      y ∈ order := by
    rcases (h.mem_after _).1 hseen with hself | ⟨z, hz, hname⟩
    · obtain rfl := hfound.eq hd (List.mem_singleton.1 hself)
      exact absurd hy hback
    · obtain rfl := (h.found z hz).eq hfound hname
      exact hz
  induction hx with
  | refl => exact hleft .refl ⟨_, _, means⟩ (hroots base hbase b means)
  | @tail x y hx hy ih => exact hleft (hx.tail hy) hy.found (hinner x ih y hy)

/-- **What a class takes from a base** is what the class has that the base expression means, whatever its text is. -/
theorem takes_base? {base : String} (hbases : d.bases = before ++ base :: later) :
    table.Takes d before later (table.base? d.module base) := by
  obtain ⟨order, after, hvisits, -⟩ := table.visits_lineage d
  have hfields := hvisits.fieldsOf_eq
  have hsplit : d.bases = (before ++ [base]) ++ later := by rw [hbases]; simp
  rw [hsplit] at hvisits
  obtain ⟨front, middle, following, hfront, hfollowing, rfl⟩ := hvisits.split
  obtain ⟨earlier, seen, taken, hearlier, htaken, rfl⟩ := hfront.split
  refine ⟨earlier, taken, following, hfields, hearlier.sound, hfollowing.sound,
    fun x hx => ⟨fun hold => ?_, ?_⟩, ?_⟩
  · -- what has been taken before has been seen
    exact htaken.not_seen x hx ((hearlier.mem_after _).2 (Or.inr ⟨x, hold, rfl⟩))
  · obtain ⟨base', hbase', b, means, hdescends⟩ := htaken.sound x hx
    obtain rfl := List.mem_singleton.1 hbase'
    exact ⟨b, means, hdescends⟩
  · intro b means hd hback x hx
    exact List.mem_append.1 (hfront.mem_of_descends hd (by simp) means hback hx)

/-- **Bases with and without arguments.** What a class takes from a base of a name, or a name with arguments that no bar
divides, is what the class has by whose name the expression is looked up; that is the name before the brackets, if it is
not the one of a container or wrapper, and does not lose its module. -/
theorem takes_element {e : BaseExpr} (hbases : d.bases = before ++ String.ofList e.text :: later) (hwhole : e.Whole) :
    table.Takes d before later (table.lookup (String.ofList e.element) d.module) ∧
      (e.Plain → table.Takes d before later (table.lookup (String.ofList e.head) d.module)) := by
  have htakes : table.Takes d before later (table.base? d.module (String.ofList e.text)) := takes_base? hbases
  rw [BaseExpr.base?_text hwhole] at htakes
  refine ⟨htakes, fun hplain => ?_⟩
  rw [hplain.element] at htakes
  exact htakes

/-- what the pages of the example are made of -/
def recordOfPage : Definition := ⟨"Record", "app.base", [], [⟨"id", "int", true⟩]⟩

def petOfPage : Definition := ⟨"Pet", "app.models", [], [⟨"name", "str", true⟩]⟩

/-- a class with two bases that have arguments -/
def pageClass : Definition :=
  ⟨"Page", "app.models", ["Generic[Pet]", "base.Record[Pet]"], [⟨"total", "int", true⟩]⟩

/-- Only one of the two bases is in the table. -/
def pageClasses : SymbolTable := ⟨[recordOfPage, petOfPage, pageClass]⟩

/-- the base of the example that is in the table -/
def recordOfPet : BaseExpr where
  head := "base.Record".toList
  args := some "Pet".toList
  named := ⟨by decide, List.all_eq_true.1 (by decide +kernel)⟩

/-- The page takes the record and nothing of the pet, which only stands between the brackets. -/
theorem takes_element_page :
    pageClass.bases = ["Generic[Pet]"] ++ String.ofList recordOfPet.text :: [] ∧ recordOfPet.Whole ∧
      recordOfPet.Plain ∧ pageClasses.lookup "base.Record" pageClass.module = some recordOfPage ∧
      pageClasses.Takes pageClass ["Generic[Pet]"] [] (pageClasses.lookup "base.Record" pageClass.module) ∧
      (fieldsOf pageClasses pageClass).1 = [⟨"id", "int", true⟩, ⟨"total", "int", true⟩] := by
  have hbases : pageClass.bases = ["Generic[Pet]"] ++ String.ofList recordOfPet.text :: [] := by decide +kernel
  have hwhole : recordOfPet.Whole := by
    intro args hargs
    obtain rfl := Option.some.inj hargs
    decide +kernel
  have hplain : recordOfPet.Plain := ⟨by decide +kernel, by decide +kernel⟩
  obtain ⟨-, htakes⟩ := @takes_element pageClasses pageClass _ _ recordOfPet hbases hwhole
  exact ⟨hbases, hwhole, hplain, by decide +kernel, htakes hplain, by decide +kernel⟩

/-- a class that is a sequence of pets, with a field of its own -/
def petSequence : Definition := ⟨"PetList", "app.models", ["Sequence[Pet]"], [⟨"total", "int", true⟩]⟩

/-- The table has the pets, and no sequence. -/
def sequenceClasses : SymbolTable := ⟨[petOfPage, petSequence]⟩

/-- **An argument as a base.** There is no class of the name before the brackets, so nothing should be taken from the
only base; the class that stands between them gives its field. -/
theorem argument_is_base :
    sequenceClasses.lookup "Sequence" petSequence.module = none ∧
      sequenceClasses.base? petSequence.module "Sequence[Pet]" = some petOfPage ∧
      (fieldsOf sequenceClasses petSequence).1 = [⟨"name", "str", true⟩, ⟨"total", "int", true⟩] ∧
      ¬ sequenceClasses.Takes petSequence [] [] (sequenceClasses.lookup "Sequence" petSequence.module) := by
  have hnone : sequenceClasses.lookup "Sequence" petSequence.module = none := by decide +kernel
  have hfields : (fieldsOf sequenceClasses petSequence).1
      = [⟨"name", "str", true⟩, ⟨"total", "int", true⟩] := by
    decide +kernel
  refine ⟨hnone, by decide +kernel, hfields, ?_⟩
  rintro ⟨earlier, taken, following, heq, hearlier, hfollowing, htaken, -⟩
  rw [hnone] at htaken
  -- with no other base and no class for this one, only the class itself is left
  have hearlier' : earlier = [] := List.eq_nil_iff_forall_not_mem.2 fun x hx => not_ofBases_nil (hearlier x hx)
  have hfollowing' : following = [] := List.eq_nil_iff_forall_not_mem.2 fun x hx => not_ofBases_nil (hfollowing x hx)
  have htaken' : taken = [] := by
    refine List.eq_nil_iff_forall_not_mem.2 fun x hx => ?_
    obtain ⟨-, b, hb, -⟩ := htaken x hx
    cases hb
  subst hearlier' hfollowing' htaken'
  rw [hfields] at heq
  revert heq
  decide +kernel

end SymbolTable

end RouteDocs.Schema
