/-
The reduction of any text whatsoever, run with every part looked up by its position.

A reduction looks at the first argument, at the first member of a union, and at the last segment of a name. There always
is one: a text is cut into one piece at least. Each call gets a shorter text than the one before, and the name that is
left at the end is reduced to itself.

- `step?_agree`: each part that a step looks up is there.
- `exists_runs`: every text has a run, which gives what the text comes down to.
- `Runs.shrinks`: each text of a run is shorter than those before it.
- `step_done_normal`: an answer is reduced to itself, if the text that gives it has a member which is not `None`.
- `elementType_normal`: the three together.
-/
import RouteDocs.Proofs.Schema.OptionalText

namespace RouteDocs.Schema

open Text

namespace TypeExpr

/-! ## Parts by their positions -/

/-- the last of the segments between the points of a name -/
def lastSegment? (name : List Char) : Option (List Char) := (pieces (· == '.') name).getLast?

/-- the members between separators, without those that are `None` -/
def otherMembers (sep : Char) (s : List Char) : List (List Char) := (split sep s).filter (· != noneName)

def stepName? (x : List Char) : Option Step :=
  (lastSegment? x).map fun bare =>
    match Head.ofName bare with
    | .array => .done bareArray
    | .mapping => .done mapping
    | _ => .done ⟨x, false⟩

/-- the step for a name with arguments; a union whose members are all `None` goes on with `None` -/
def stepApplication? (name args : List Char) : Option Step :=
  (lastSegment? name).bind fun bare =>
    match Head.ofName bare with
    | .transparent => (split ',' args)[0]?.map fun first => .into first false
    | .union =>
      let members := if otherMembers ',' args = [] then [noneName] else otherMembers ',' args
      members[0]?.map fun first => .into first false
    | .array => (split ',' args)[0]?.map fun first => .into first true
    | .mapping => some (.done mapping)
    | .literal => some (.done ⟨"str".toList, false⟩)
    | .other => some (.done ⟨name, false⟩)

/-- the step for an expression that is no union -/
def stepSingle? (x : List Char) : Option Step :=
  match application? x with
  | some (name, args) => stepApplication? name args
  | none => stepName? x

/-- the step for an expression without empty brackets in front -/
def stepElement? (x : List Char) : Option Step :=
  let members := otherMembers '|' x
  if 1 < members.length ∨ members ≠ [] ∧ members[0]? ≠ some x then
    members[0]?.map fun first => .into first false
  else stepSingle? x

/-- the step for any expression, or nothing if some part of it that is looked up is not there -/
def step? (s : List Char) : Option Step :=
  match unwrap s with
  | '[' :: ']' :: rest => some (.into rest true)
  | x => stepElement? x

/-- a run of the reduction of a text: the texts of the further calls, in order, and the answer -/
inductive Runs : (s : List Char) → (calls : List (List Char)) → (answer : Reduced) → Prop
  | done {s : List Char} {answer : Reduced} (h : step? s = some (.done answer)) : Runs s [] answer
  | into {s inner : List Char} {isArray : Bool} {calls : List (List Char)} {answer : Reduced}
      (h : step? s = some (.into inner isArray)) (rest : Runs inner calls answer) :
      Runs s (inner :: calls) ⟨answer.element, isArray || answer.isArray⟩

/-! ## Every part is there -/

variable {s x name args inner : List Char} {answer : Reduced}

theorem lastSegment?_eq (name : List Char) : lastSegment? name = some (bareName name) := by
  have hplain : ∀ {tail : List Char}, '.' ∉ tail → ∀ c ∈ tail, (c == '.') = false :=
    fun h c hc => beq_eq_false_iff_ne.2 fun heq => h (heq ▸ hc)
  obtain ⟨front, tail, hcut⟩ := exists_cutsLast '.' name
  rw [lastSegment?, bareName, hcut.cutLast_eq]
  cases hcut with
  | whole h => rw [pieces_single (hplain h), List.getLast?_singleton]
  | inside h =>
    obtain ⟨first, others, hpieces⟩ := pieces_separator_end (p := (· == '.')) (c := '.') rfl front (hplain h)
    rw [hpieces, ← List.cons_append, List.getLast?_concat]

theorem head_split (sep : Char) (s : List Char) : ∃ first others, split sep s = first :: others := by
  obtain ⟨first, others, h⟩ := List.exists_cons_of_ne_nil (splitAt_ne_nil sep 0 s)
  exact ⟨trim first, others.map trim, by rw [split, h, List.map_cons]⟩

theorem firstArgument_position (args : List Char) : (split ',' args)[0]? = some (firstArgument args) := by
  obtain ⟨first, others, h⟩ := head_split ',' args
  rw [firstArgument, h]
  rfl

theorem firstMember_position (sep : Char) (s : List Char) :
    (otherMembers sep s)[0]? = firstMember? (split sep s) := by
  rw [← List.head?_eq_getElem?, otherMembers, List.head?_filter, firstMember?]

theorem stepName?_eq (x : List Char) : stepName? x = some (stepName x) := by
  rw [stepName?, lastSegment?_eq]
  rfl

/-- The two forms of a step for a text of some length: they are the same, or the step by positions goes on with `None`
where the other one has the answer. -/
inductive Agree (length : Nat) (plain : Step) : Option Step → Prop
  | same : Agree length plain (some plain)
  | missing (h : plain = .done ⟨noneName, false⟩) (shorter : noneName.length < length) :
      Agree length plain (some (.into noneName false))

theorem Agree.mono {n k : Nat} {plain : Step} {found : Option Step} (h : Agree n plain found) (hle : n ≤ k) :
    Agree k plain found := by
  cases h with
  | same => exact .same
  | missing h shorter => exact .missing h (shorter.trans_le hle)

theorem Agree.elim {n : Nat} {plain : Step} {found : Option Step} (h : Agree n plain found) :
    found = some plain ∨
      (found = some (.into noneName false) ∧ plain = .done ⟨noneName, false⟩ ∧ noneName.length < n) := by
  cases h with
  | same => exact Or.inl rfl
  | missing h shorter => exact Or.inr ⟨rfl, h, shorter⟩

theorem length_bareName_le (name : List Char) : (bareName name).length ≤ name.length := by
  have hsub : (name.reverse.takeWhile (· != '.')).Sublist name.reverse := List.takeWhile_sublist _
  simpa [bareName, cutLast] using hsub.length_le

/-- the name of the missing type is shorter than a union in brackets -/
theorem length_none_lt (happ : application? x = some (name, args)) (hhead : Head.ofName (bareName name) = .union) :
    noneName.length < x.length := by
  have hword := (Head.mem_words (bareName name)).resolve_left (by rw [hhead]; decide)
  rw [hhead, Head.words, List.mem_singleton] at hword
  have hunion := congrArg String.length hword
  have hnone : noneName.length < "Union".length := by decide
  have hbare := length_bareName_le name
  have hname := length_name_le happ
  rw [String.length_ofList] at hunion
  omega

theorem stepApplication?_agree (happ : application? x = some (name, args)) :
    Agree x.length (stepApplication name args) (stepApplication? name args) := by
  rw [stepApplication?, lastSegment?_eq, Option.bind_some, stepApplication]
  cases hhead : Head.ofName (bareName name) with
  | transparent =>
    rw [firstArgument_position]
    exact .same
  | array =>
    rw [firstArgument_position]
    exact .same
  | mapping => exact .same
  | literal => exact .same
  | other => exact .same
  | union =>
    dsimp only
    rw [← firstMember_position]
    cases hmembers : otherMembers ',' args with
    | nil => exact .missing rfl (length_none_lt happ hhead)
    | cons m ms => exact .same

theorem stepSingle?_agree (x : List Char) : Agree x.length (stepSingle x) (stepSingle? x) := by
  rw [stepSingle?, stepSingle]
  cases happ : application? x with
  | none =>
    rw [stepName?_eq]
    exact .same
  | some parts => exact stepApplication?_agree happ

/-- a text that is one of its own members has no other -/
theorem split_of_mem {sep : Char} (h : x ∈ split sep x) : split sep x = [x] := by
  obtain ⟨e, ps, l, hcut⟩ := exists_cut sep 0 x
  rw [hcut.split_eq] at h ⊢
  cases ps with
  | nil => rw [← List.mem_singleton.1 h, List.map_nil, List.nil_append]
  | cons p ps =>
    -- with a separator in it, the text is longer than each of its pieces
    have htext := congrArg List.length hcut.text
    have htrim : ∀ t, (trim t).length ≤ t.length := fun t => (trimWhile_sublist isBlank t).length_le
    exfalso
    rcases List.mem_append.1 h with h | h
    · obtain ⟨t, ht, rfl⟩ := List.mem_map.1 h
      have hpiece := (List.sublist_flatten_of_mem (List.mem_map_of_mem (f := (· ++ [sep])) ht)).length_le
      have := htrim t
      rw [← List.flatMap_def, List.length_append] at hpiece
      rw [List.length_append] at htext
      simp only [List.length_singleton] at hpiece
      omega
    · rw [List.mem_singleton.1 h, List.flatMap_cons, List.length_append, List.length_append, List.length_append,
        List.length_singleton] at htext
      have := htrim l
      omega

/-- the first member is looked up only where there is one, and if it differs from the text, that has more members -/
theorem looksUp_iff (x : List Char) :
    (1 < (otherMembers '|' x).length ∨ otherMembers '|' x ≠ [] ∧ (otherMembers '|' x)[0]? ≠ some x) ↔
      ∃ m, firstMember? (split '|' x) = some m ∧ m ≠ x := by
  rw [← firstMember_position]
  constructor
  · rintro (hmore | ⟨hne, hfirst⟩)
    · have hone := List.getElem?_eq_getElem (Nat.zero_lt_of_lt hmore)
      refine ⟨_, hone, fun heq => ?_⟩
      have hmem : x ∈ split '|' x := (List.mem_filter.1 (heq ▸ List.getElem_mem _)).1
      have hle := List.length_filter_le (· != noneName) (split '|' x)
      rw [← otherMembers, split_of_mem hmem, List.length_singleton] at hle
      omega
    · obtain ⟨m, ms, hmembers⟩ := List.exists_cons_of_ne_nil hne
      rw [hmembers] at hfirst ⊢
      exact ⟨m, rfl, fun heq => hfirst (congrArg some heq)⟩
  · rintro ⟨m, hm, hne⟩
    refine Or.inr ⟨?_, ?_⟩
    · intro hempty
      rw [hempty] at hm
      cases hm
    · rw [hm]
      exact fun heq => hne (Option.some.inj heq)

/-- an expression whose members are all `None` is looked at as a single one -/
theorem step_missing (hx : unwrap s = x) (hlist : ∀ rest, x ≠ '[' :: ']' :: rest)
    (hm : firstMember? (split '|' x) = none) : step s = stepSingle x := by
  rw [step, hx]
  split
  · next rest => exact absurd rfl (hlist rest)
  · rw [hm]

theorem step?_element (hx : unwrap s = x) (hlist : ∀ rest, x ≠ '[' :: ']' :: rest) : step? s = stepElement? x := by
  rw [step?, hx]
  split
  · next rest => exact absurd rfl (hlist rest)
  · rfl

/-- **Every part is there.** Each part that a step looks up by its position is found. -/
theorem step?_agree (s : List Char) : Agree s.length (step s) (step? s) := by
  generalize hx : unwrap s = x
  have hlength : x.length ≤ s.length := hx ▸ (unwrap_sublist s).length_le
  by_cases hlist : ∃ rest, x = '[' :: ']' :: rest
  · obtain ⟨rest, rfl⟩ := hlist
    rw [step_listOf hx, step?, hx]
    exact .same
  · have hlist : ∀ rest, x ≠ '[' :: ']' :: rest := fun rest heq => hlist ⟨rest, heq⟩
    have hsingle := (stepSingle?_agree x).mono hlength
    rw [step?_element hx hlist, stepElement?]
    cases hm : firstMember? (split '|' x) with
    | none =>
      rw [step_missing hx hlist hm, if_neg (mt (looksUp_iff x).1 (by simp [hm]))]
      exact hsingle
    | some m =>
      rw [step_element hx hlist hm]
      by_cases hne : m = x
      · rw [if_neg (mt (looksUp_iff x).1 (by simp [hm, hne])), if_neg (by simp [hne])]
        exact hsingle
      · rw [if_pos ((looksUp_iff x).2 ⟨m, hm, hne⟩), if_pos hne, firstMember_position, hm]
        exact .same

/-! ## Runs -/

/-- a further call gets a shorter text -/
theorem length_of_step? {isArray : Bool} (h : step? s = some (.into inner isArray)) : inner.length < s.length := by
  rcases (step?_agree s).elim with hsame | ⟨hnone, -, hshorter⟩
  · exact length_of_step (Option.some.inj (hsame.symm.trans h))
  · obtain ⟨rfl, rfl⟩ := Step.into.inj (Option.some.inj (hnone.symm.trans h))
    exact hshorter

/-- an answer by positions is the answer -/
theorem step_of_step?_done (h : step? s = some (.done answer)) : step s = .done answer := by
  rcases (step?_agree s).elim with hsame | ⟨hnone, -, -⟩
  · exact Option.some.inj (hsame.symm.trans h)
  · cases hnone.symm.trans h

theorem runs_none : Runs noneName [] ⟨noneName, false⟩ := .done (by decide)

/-- **Every text has a run**, and its answer is what the text comes down to. -/
theorem exists_runs (s : List Char) : ∃ calls, Runs s calls (reduce s) := by
  fun_induction reduce s with
  | case1 s answer hstep =>
    rcases (step?_agree s).elim with hsame | ⟨hnone, hdone, -⟩
    · exact ⟨[], .done (hsame.trans (congrArg some hstep))⟩
    · obtain rfl : answer = ⟨noneName, false⟩ := Step.done.inj (hstep.symm.trans hdone)
      exact ⟨[noneName], .into hnone runs_none⟩
  | case2 s inner isArray hstep r ih =>
    obtain ⟨calls, hruns⟩ := ih
    rcases (step?_agree s).elim with hsame | ⟨-, hdone, -⟩
    · exact ⟨inner :: calls, .into (hsame.trans (congrArg some hstep)) hruns⟩
    · cases hstep.symm.trans hdone

namespace Runs

variable {calls : List (List Char)}

/-- **Each call gets a shorter text** than all those before it. -/
theorem shrinks (h : Runs s calls answer) :
    (s :: calls).Pairwise fun outer inner => inner.length < outer.length := by
  induction h with
  | done h => exact List.pairwise_singleton _ _
  | @into s inner isArray calls answer h rest ih =>
    have hinner := length_of_step? h
    refine List.pairwise_cons.2 ⟨fun t ht => ?_, ih⟩
    rcases List.mem_cons.1 ht with rfl | ht
    · exact hinner
    · exact ((List.pairwise_cons.1 ih).1 t ht).trans hinner

/-- the last call has the answer, but for the array that is made of it -/
theorem last (h : Runs s calls answer) :
    ∃ isArray, step (calls.getLastD s) = .done ⟨answer.element, isArray⟩ := by
  induction h with
  | @done s answer h => exact ⟨answer.isArray, step_of_step?_done h⟩
  | into h rest ih =>
    rw [List.getLastD_cons]
    exact ih

end Runs

/-! ## Answers -/

/-- is a text reduced to itself? -/
def Normal (s : List Char) : Prop := reduce s = ⟨s, false⟩

theorem normal_fixed : ∀ answer ∈ fixedAnswers, Normal answer.element := by
  simp only [fixedAnswers, List.forall_mem_cons]
  exact ⟨reduce_done (by decide), reduce_done (by decide), reduce_done (by decide), reduce_done (by decide),
    List.forall_mem_nil _⟩

/-- what stands before the brackets is a name -/
theorem named_of_application (h : application? s = some (name, args)) : Named name := by
  unfold application? at h
  split at h
  · split at h
    · next hname =>
      cases h
      refine ⟨?_, fun c hc => List.mem_takeWhile_imp ((dropTyping_sublist _).subset hc)⟩
      unfold dropTyping
      split
      · next htyping => exact List.ne_nil_of_length_pos (by rw [List.length_drop]; omega)
      · exact hname.1
    · cases h
  · cases h

theorem normal_name (h : Named name) (hhead : Head.ofName (bareName name) = .other) : Normal name := by
  refine reduce_done ?_
  rw [step_named h, stepName, hhead]

/-- a text without blanks and quotes around it, which is one of the members of the text, has none to lose -/
theorem unwrap_of_member (hx : unwrap s = x) (hm : x ∈ split '|' x) : unwrap x = x := by
  obtain ⟨piece, -, hpiece⟩ := List.mem_map.1 hm
  have htrim : trim x = x := by rw [← hpiece, trim_trim]
  rw [unwrap, htrim, ← hx, unwrap, trimWhile_trimWhile]

/-- **An answer is reduced to itself**, if the text that gives it has a member which is not `None`. -/
theorem step_done_normal (h : step s = .done answer) (hmember : HasMember (unwrap s)) : Normal answer.element := by
  generalize hx : unwrap s = x at hmember
  have hlist : ∀ rest, x ≠ '[' :: ']' :: rest := by
    rintro rest rfl
    rw [step_listOf hx] at h
    cases h
  obtain ⟨m, hm⟩ := hmember.exists_first
  rw [step_element hx hlist hm] at h
  split at h
  · cases h
  · next heq =>
    obtain rfl : m = x := not_not.1 heq
    rcases stepSingle_done h with hfixed | ⟨name, args, happ, hhead, rfl⟩ | rfl
    · exact normal_fixed answer hfixed
    · exact normal_name (named_of_application happ) hhead
    · have hself := unwrap_of_member hx (mem_of_firstMember hm)
      refine reduce_done ?_
      rw [step_element hself hlist hm, if_neg heq]
      exact h

end TypeExpr

open TypeExpr

/-- **Type expressions come to a normal form.** For every text there is a run in which each part that is looked up is
found, and each further call gets a shorter text than those before it. The element it ends with is reduced to itself,
unless the members of the last text are all `None`. -/
theorem elementType_normal (expr : String) :
    ∃ calls, Runs expr.toList calls ⟨(elementType expr).name.toList, (elementType expr).isArray⟩ ∧
      (expr.toList :: calls).Pairwise (fun outer inner => inner.length < outer.length) ∧
      (elementType (elementType expr).name = ⟨(elementType expr).name, false⟩ ∨
        ∀ m ∈ split '|' (unwrap (calls.getLastD expr.toList)), m = noneName) := by
  obtain ⟨calls, hruns⟩ := exists_runs expr.toList
  refine ⟨calls, ?_, hruns.shrinks, ?_⟩
  · simpa [elementType] using hruns
  · obtain ⟨isArray, hlast⟩ := hruns.last
    by_cases hmember : HasMember (unwrap (calls.getLastD expr.toList))
    · have hnormal := step_done_normal hlast hmember
      left
      rw [elementType, elementType, String.toList_ofList, hnormal]
    · right
      simpa [HasMember] using hmember

/-- blanks in quotes stay beside a `None`, and are lost when that is reduced again -/
example : elementType "'None '" = ⟨"None ", false⟩ ∧ elementType "None " = ⟨"None", false⟩ := by
  decide +kernel

end RouteDocs.Schema
