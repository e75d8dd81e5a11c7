/-
The operations of a pass, those of its builder, and the candidates that they come from.

A candidate that is read becomes an operation, is skipped, or is faulty and ends its batch (`Fate`); the ledger of a
batch is the list of the candidates that are read with what becomes of them. The operations of a pass and the functions
that it has skipped are what the ledgers of its batches say, and the builder has gathered these operations and no
others. All that holds for any table of definitions, also after batches that failed.

- `Generator.Inv.add_succeeds`: the builder never refuses an operation that has been read.
- `Generator.accounts_ledger`: what the ledger of a batch holds.
- `Generator.run_agrees`: operations, skipped functions, builder and documents agree after any batches.
-/
import RouteDocs.Proofs.Document.Grouping
import RouteDocs.Proofs.Generation.Pass

namespace RouteDocs

open Schema

/-- what becomes of a candidate that is read -/
inductive Fate where
  | documented (o : Operation)
  | skipped
  /-- the batch ends -/
  | faulty (e : GenerationError)
deriving DecidableEq

/-- the operation that a candidate becomes, if it does -/
def Fate.operation? : Fate → Option Operation
  | .documented o => some o
  | .skipped | .faulty _ => none

/-- why a candidate ends its batch, if it does -/
def Fate.failure? : Fate → Option GenerationError
  | .faulty e => some e
  | .documented _ | .skipped => none

/-- what becomes of a candidate when reading its comments gives an answer -/
def Candidate.fate (c : Candidate) : Except CommentError Operation → Fate
  | .ok o => .documented o
  | .error e => if e.isUndocumented then .skipped else .faulty ⟨c.signature.fullName, .comment e⟩

/-- candidates that have been read, in order, each with what has become of it -/
abbrev Ledger := List (Candidate × Fate)

namespace Ledger

def operations (l : Ledger) : List Operation := l.filterMap (·.2.operation?)

/-- the names of the functions that have been skipped -/
def skipped (l : Ledger) : List String := (l.filter (·.2 = .skipped)).map (·.1.signature.fullName)

theorem operations_append (l m : Ledger) : operations (l ++ m) = operations l ++ operations m :=
  List.filterMap_append

theorem skipped_append (l m : Ledger) : skipped (l ++ m) = skipped l ++ skipped m := by
  simp [skipped]

/-- no candidate of a ledger is faulty -/
def Sound (l : Ledger) : Prop := ∀ entry ∈ l, entry.2.failure? = none

end Ledger

/-- The ledger of a batch, by how the batch fails. If it does not, the ledger holds all candidates that the predicate
selects, and none of them is faulty. If it does, the ledger ends with the faulty candidate, and later ones are not
read. -/
inductive Accounts (isHandler : Signature → Bool) (batch : List Candidate) :
    Option GenerationError → Ledger → Prop
  | finished (l : Ledger) (sound : l.Sound) (read : l.map Prod.fst = batch.filter (isHandler ·.signature)) :
    Accounts isHandler batch none l
  | failed (e : GenerationError) (l : Ledger) (before unread : List Candidate) (faulty : Candidate) (sound : l.Sound)
    (split : batch = before ++ faulty :: unread) (selected : isHandler faulty.signature = true)
    (read : l.map Prod.fst = before.filter (isHandler ·.signature)) :
    Accounts isHandler batch (some e) (l ++ [(faulty, .faulty e)])

/-- how a batch with a result fails, if it does -/
def failure? : Except GenerationError GeneratedDocs → Option GenerationError
  | .ok _ => none
  | .error e => some e

namespace Generator

variable {τ : Type} [TypeLookup τ] {aliases : Aliases} (isHandler : Signature → Bool)

/-! ## Ledgers -/

/-- the ledger of a batch: the candidates that the predicate selects, up to the first that is faulty -/
def ledger : Generator τ → List Candidate → Ledger
  | _, [] => []
  | g, c :: rest =>
    if isHandler c.signature then
      (c, c.fate (g.reading c).answer) ::
        match g.addHandler c with
        | (g', none) => g'.ledger rest
        | (_, some _) => []
    else g.ledger rest

/-- how batches fail, one after another, with their ledgers -/
def journal : Generator τ → List (List Candidate) → List (Option GenerationError × Ledger)
  | _, [] => []
  | g, batch :: rest =>
    (failure? (g.generate isHandler batch).2, g.ledger isHandler batch) :: (g.generate isHandler batch).1.journal rest

/-- all that is entered in the ledgers of batches -/
def entered (g : Generator τ) (batches : List (List Candidate)) : Ledger :=
  (g.journal isHandler batches).flatMap Prod.snd

variable {g g' : Generator τ} {c : Candidate} {e : Option GenerationError}

/-- a candidate is entered as it was handled -/
theorem Handles.fate (h : g.Handles c g' e) :
    g'.operations = g.operations ++ Ledger.operations [(c, c.fate (g.reading c).answer)] ∧
      g'.skipped = g.skipped ++ Ledger.skipped [(c, c.fate (g.reading c).answer)] ∧
      e = (c.fate (g.reading c).answer).failure? := by
  cases h with
  | @skipped f answer undocumented log =>
    have hfate : c.fate (.error f) = .skipped := if_pos undocumented
    rw [answer, hfate]
    exact ⟨(List.append_nil _).symm, rfl, rfl⟩
  | @failed f answer documented log =>
    have hfate : c.fate (.error f) = .faulty ⟨c.signature.fullName, .comment f⟩ :=
      if_neg (Bool.eq_false_iff.1 documented)
    rw [answer, hfate]
    exact ⟨(List.append_nil _).symm, (List.append_nil _).symm, rfl⟩
  | @added o answer log =>
    rw [answer]
    exact ⟨rfl, (List.append_nil _).symm, rfl⟩

/-- the operations and the skipped functions of a pass after a batch are entered in the ledger of the batch, whether it
fails or not -/
theorem ledger_addHandlers (hg : g.Inv aliases) (batch : List Candidate) :
    (g.addHandlers isHandler batch).1.operations = g.operations ++ (g.ledger isHandler batch).operations ∧
      (g.addHandlers isHandler batch).1.skipped = g.skipped ++ (g.ledger isHandler batch).skipped := by
  induction batch generalizing g with
  | nil => exact ⟨(List.append_nil _).symm, (List.append_nil _).symm⟩
  | cons c rest ih =>
    rw [addHandlers, ledger]
    by_cases haccepted : isHandler c.signature = true
    · have hhandles := handles_addHandler hg c
      obtain ⟨hoperations, hskipped, -⟩ := hhandles.fate
      have hinv := hhandles.inv hg
      rw [if_pos haccepted, if_pos haccepted]
      generalize g.addHandler c = outcome at hoperations hskipped hinv
      obtain ⟨g', failure⟩ := outcome
      rw [← List.singleton_append, Ledger.operations_append, Ledger.skipped_append, ← List.append_assoc,
        ← List.append_assoc, ← hoperations, ← hskipped]
      cases failure with
      | none => exact ih hinv
      | some e => exact ⟨(List.append_nil _).symm, (List.append_nil _).symm⟩
    · rw [if_neg haccepted, if_neg haccepted]
      exact ih hg

variable {batch : List Candidate} {failure : Option GenerationError} {l : Ledger}

omit [TypeLookup τ] in
/-- a candidate that the predicate does not select is not entered -/
theorem accounts_unselected (h : Accounts isHandler batch failure l) (hc : isHandler c.signature = false) :
    Accounts isHandler (c :: batch) failure l := by
  have hfilter (rest : List Candidate) :
      (c :: rest).filter (isHandler ·.signature) = rest.filter (isHandler ·.signature) := by
    rw [List.filter_cons, hc, if_neg Bool.false_ne_true]
  cases h with
  | finished l sound read => exact .finished l sound (by rw [hfilter, read])
  | failed e l before unread faulty sound split selected read =>
    exact .failed e l (c :: before) unread faulty sound (by rw [split]; rfl) selected (by rw [hfilter, read])

omit [TypeLookup τ] in
/-- a candidate that the predicate selects is entered before the later ones, if it is not faulty -/
theorem accounts_selected (h : Accounts isHandler batch failure l) (hc : isHandler c.signature = true) {fate : Fate}
    (hfate : fate.failure? = none) : Accounts isHandler (c :: batch) failure ((c, fate) :: l) := by
  have hfilter (rest : List Candidate) :
      (c :: rest).filter (isHandler ·.signature) = c :: rest.filter (isHandler ·.signature) := by
    rw [List.filter_cons, hc, if_pos rfl]
  cases h with
  | finished l sound read =>
    exact .finished _ (List.forall_mem_cons.2 ⟨hfate, sound⟩) (by rw [hfilter, List.map_cons, read])
  | failed e l before unread faulty sound split selected read =>
    exact .failed e ((c, fate) :: l) (c :: before) unread faulty (List.forall_mem_cons.2 ⟨hfate, sound⟩)
      (by rw [split]; rfl) selected (by rw [hfilter, List.map_cons, read])

omit [TypeLookup τ] in
theorem eq_faulty_of_failure? {fate : Fate} {e : GenerationError} (h : fate.failure? = some e) : fate = .faulty e := by
  cases fate with
  | faulty f => rw [Option.some.inj h]
  | documented o => cases h
  | skipped => cases h

/-- **The ledger of a batch** holds the candidates that have been read, and tells how the batch fails. -/
theorem accounts_ledger (hg : g.Inv aliases) (batch : List Candidate) :
    Accounts isHandler batch (g.addHandlers isHandler batch).2 (g.ledger isHandler batch) := by
  induction batch generalizing g with
  | nil => exact .finished [] (fun _ h => by cases h) rfl
  | cons c rest ih =>
    rw [addHandlers, ledger]
    by_cases haccepted : isHandler c.signature = true
    · have hhandles := handles_addHandler hg c
      obtain ⟨-, -, hfailure⟩ := hhandles.fate
      have hinv := hhandles.inv hg
      rw [if_pos haccepted, if_pos haccepted]
      generalize g.addHandler c = outcome at hfailure hinv
      obtain ⟨g', failure⟩ := outcome
      cases failure with
      | none => exact accounts_selected isHandler (ih hinv) haccepted hfailure.symm
      | some e =>
        rw [eq_faulty_of_failure? hfailure.symm]
        exact .failed e [] [] rest c (fun _ h => by cases h) rfl haccepted rfl
    · rw [if_neg haccepted, if_neg haccepted]
      exact accounts_unselected isHandler (ih hg) (Bool.eq_false_iff.2 haccepted)

theorem failure?_generate (g : Generator τ) (batch : List Candidate) :
    failure? (g.generate isHandler batch).2 = (g.addHandlers isHandler batch).2 := by
  rcases generate_cases isHandler g batch with ⟨e, he, hgenerate⟩ | ⟨hnone, event, hgenerate⟩
  · rw [hgenerate, he]
    rfl
  · rw [hgenerate, hnone]
    rfl

theorem operations_generate (g : Generator τ) (batch : List Candidate) :
    (g.generate isHandler batch).1.operations = (g.addHandlers isHandler batch).1.operations ∧
      (g.generate isHandler batch).1.skipped = (g.addHandlers isHandler batch).1.skipped := by
  rcases generate_cases isHandler g batch with ⟨e, -, hgenerate⟩ | ⟨-, event, hgenerate⟩
  · rw [hgenerate]
    exact ⟨rfl, rfl⟩
  · rw [hgenerate]
    exact ⟨rfl, rfl⟩

theorem inv_generate (hg : g.Inv aliases) (batch : List Candidate) : (g.generate isHandler batch).1.Inv aliases :=
  (run_induction isHandler [batch] hg (P := fun _ => True) trivial (fun _ _ _ _ _ _ _ _ _ => trivial)
    fun _ _ _ => trivial).1

/-- the operations and the skipped functions of a pass are entered in the ledgers of its batches -/
theorem entered_run (hg : g.Inv aliases) (batches : List (List Candidate)) :
    (g.run isHandler batches).operations = g.operations ++ (g.entered isHandler batches).operations ∧
      (g.run isHandler batches).skipped = g.skipped ++ (g.entered isHandler batches).skipped := by
  induction batches generalizing g with
  | nil => exact ⟨(List.append_nil _).symm, (List.append_nil _).symm⟩
  | cons batch rest ih =>
    obtain ⟨hoperations, hskipped⟩ := ih (inv_generate isHandler hg batch)
    obtain ⟨hbatch, hbatch'⟩ := operations_generate isHandler g batch
    obtain ⟨hledger, hledger'⟩ := ledger_addHandlers isHandler hg batch
    rw [entered, journal, List.flatMap_cons, Ledger.operations_append, Ledger.skipped_append, run, List.foldl_cons,
      ← run, ← entered]
    constructor
    · rw [hoperations, hbatch, hledger, List.append_assoc]
    · rw [hskipped, hbatch', hledger', List.append_assoc]

/-- the journal of batches has their ledgers -/
theorem accounts_journal (hg : g.Inv aliases) (batches : List (List Candidate)) :
    List.Forall₂ (fun batch entry => Accounts isHandler batch entry.1 entry.2) batches
      (g.journal isHandler batches) := by
  induction batches generalizing g with
  | nil => exact .nil
  | cons batch rest ih =>
    refine .cons ?_ (ih (inv_generate isHandler hg batch))
    rw [failure?_generate]
    exact accounts_ledger isHandler hg batch

/-! ## The builder -/

/-- **The builder never refuses** an operation that has been read. -/
theorem Inv.add_succeeds (h : g.Inv aliases) {o : Operation} (answer : (g.reading c).answer = .ok o) :
    ∃ event, (g.builder.add o).2 = .ok event := by
  obtain ⟨hsupported, -, hpath⟩ := readComment_supported ⟨h.ready.aliases, h.ready.sound, .refl _⟩ answer
  exact ((h.builder.mono (h.reading c).growth).add hsupported hpath).1

/-- the builder has gathered the operations of the pass -/
theorem Handles.gathers (h : g.Handles c g' e) (hg : g.Inv aliases) (hgathers : g.builder.Gathers g.operations) :
    g'.builder.Gathers g'.operations := by
  cases h with
  | skipped answer undocumented log => exact hgathers
  | failed answer documented log => exact hgathers
  | added answer log =>
    obtain ⟨event, hadd⟩ := hg.add_succeeds answer
    exact hgathers.add hadd

theorem gathers_addHandlers (hg : g.Inv aliases) (hgathers : g.builder.Gathers g.operations) (batch : List Candidate) :
    (g.addHandlers isHandler batch).1.Inv aliases ∧
      (g.addHandlers isHandler batch).1.builder.Gathers (g.addHandlers isHandler batch).1.operations :=
  addHandlers_induction isHandler batch hg (P := fun g => g.builder.Gathers g.operations) hgathers
    fun _ _ _ _ _ _ hinv hP hhandles => hhandles.gathers hinv hP

theorem gathers_run (table : τ) (aliases : Aliases) (info : ApiInfo) (basePath : String)
    (batches : List (List Candidate)) :
    ((new table aliases info basePath).run isHandler batches).Inv aliases ∧
      ((new table aliases info basePath).run isHandler batches).builder.Gathers
        ((new table aliases info basePath).run isHandler batches).operations :=
  run_induction isHandler batches (inv_new table aliases info basePath) (P := fun g => g.builder.Gathers g.operations)
    (Builder.gathers_new info basePath) (fun _ _ _ _ _ _ hinv hP hhandles => hhandles.gathers hinv hP)
    fun _ _ hP => hP

/-- **Agreement.** After any batches of a new pass, also when some of them failed: the builder has under each resource
the operations of the pass with that resource, in order, and has no other resources; the operations and the skipped
functions are those that are entered in the ledgers of the batches, and each ledger holds the candidates that have been
read. Of a further batch: whatever has been read of it, the builder does not refuse an operation that is read next; and
if documents are made of it, they are made of the declarations of the builder, and their number of operations is that of
these declarations. -/
theorem run_agrees (table : τ) (aliases : Aliases) (info : ApiInfo) (basePath : String)
    (isHandler : Signature → Bool)
    (batches : List (List Candidate)) (batch : List Candidate) :
    let start : Generator τ := new table aliases info basePath
    let g := start.run isHandler batches
    (∀ key, g.builder.operationsOf key = g.operations.filter (resourceKey ·.path = key)) ∧
      (∀ key, key ∈ g.builder.operations.keys ↔ ∃ o ∈ g.operations, resourceKey o.path = key) ∧
      g.operations = (start.entered isHandler batches).operations ∧
      g.skipped = (start.entered isHandler batches).skipped ∧
      List.Forall₂ (fun batch entry => Accounts isHandler batch entry.1 entry.2) batches
        (start.journal isHandler batches) ∧
      (∀ c o, ((g.addHandlers isHandler batch).1.reading c).answer = .ok o →
        ∃ event, ((g.addHandlers isHandler batch).1.builder.add o).2 = .ok event) ∧
      ∀ docs, (g.generate isHandler batch).2 = .ok docs →
        docs.texts = renderDocuments (g.generate isHandler batch).1.builder.listing
          (g.generate isHandler batch).1.builder.declarations ∧
        docs.operations = ((g.generate isHandler batch).1.builder.declarations.values.flatMap
          fun d => d.apis.flatMap Api.operations).length := by
  intro start g
  have hstart : start.Inv aliases := inv_new table aliases info basePath
  obtain ⟨hinv, hgathers⟩ := gathers_run isHandler table aliases info basePath batches
  obtain ⟨hoperations, hskipped⟩ := entered_run isHandler hstart batches
  obtain ⟨hinv', hgathers'⟩ := gathers_addHandlers isHandler hinv hgathers batch
  refine ⟨hgathers.grouped, hgathers.keys, hoperations, hskipped, accounts_journal isHandler hstart batches,
    fun c o answer => hinv'.add_succeeds answer, fun docs hdocs => ?_⟩
  rcases generate_cases isHandler g batch with ⟨e, -, hgenerate⟩ | ⟨-, event, hgenerate⟩
  · rw [hgenerate] at hdocs
    cases hdocs
  · rw [hgenerate] at hdocs ⊢
    obtain rfl := Except.ok.inj hdocs
    exact ⟨rfl, hgathers'.perm_declarations.length_eq.symm⟩

end Generator

end RouteDocs
