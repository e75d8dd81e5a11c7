/-
The path and the method of an operation.

Both are those of the last route line. The path is its first word. Of what comes after the path only the first word is
looked at, and the brackets at the ends of this word are taken off. So the verb is found unless this word is brackets
and nothing else, as where a blank follows the opening bracket. Then the method is empty, and an empty method is not
written into a document.

- `Directive.methodOf_eq_verbMethod`: the method is the verb in capitals if the first word is more than brackets.
- `Directive.given_methodOf`: what holds of the path and the method of every route line.
- `Draft.route_applyLines`: lines that are read to their end leave the route of the last route line.
- `route_of_read`: the route of every operation that is read, and when its method is written.
- `bracketed_verb_lost`: a verb with blanks between it and its brackets is lost.
-/
import RouteDocs.Proofs.Document.Decoding
import RouteDocs.Proofs.Operation.DirectiveText
import RouteDocs.Proofs.Operation.ResponseType
import RouteDocs.Proofs.Text.Upper

namespace RouteDocs

open Text Schema

namespace Directive

/-! ## Verbs -/

/-- the verb that a text gives: it comes after any brackets and blanks, and ends before a blank or the brackets before
it -/
def verb (more : List Char) : List Char :=
  dropWhileEnd isBracket ((more.dropWhile fun c => isBracket c || isBlank c).takeWhile (!isBlank ·))

/-- the method that a text should give: its verb in capitals, and `GET` if there is no verb -/
def verbMethod (more : List Char) : String :=
  if verb more = [] then "GET" else String.ofList (upper (verb more))

/-- the first word of a text is brackets and nothing else -/
def OpensInBrackets (more : List Char) : Prop := more ≠ [] ∧ ∀ c ∈ (firstWord more).1, isBracket c = true

instance (more : List Char) : Decidable (OpensInBrackets more) :=
  decidable_of_iff (more ≠ [] ∧ (firstWord more).1.all isBracket = true) (by simp [OpensInBrackets])

theorem verbMethod_ne_empty (more : List Char) : verbMethod more ≠ "" := by
  rw [verbMethod]
  split
  · decide
  · next h => simpa [upper_eq_nil_iff] using h

/-- a word that is more than brackets begins, behind its brackets, with another character -/
theorem exists_after_brackets {word : List Char} (h : ¬ ∀ c ∈ word, isBracket c = true) :
    ∃ front c rest, word = front ++ c :: rest ∧ (∀ d ∈ front, isBracket d = true) ∧ isBracket c = false := by
  cases hrest : word.dropWhile isBracket with
  | nil => exact absurd (List.dropWhile_eq_nil_iff.1 hrest) h
  | cons c rest =>
    have hc := List.head?_dropWhile_not isBracket word
    rw [hrest] at hc
    refine ⟨word.takeWhile isBracket, c, rest, ?_, fun d hd => List.mem_takeWhile_imp hd, hc⟩
    rw [← hrest, List.takeWhile_append_dropWhile]

/-- what is taken off a word that is more than brackets is what comes before and after its verb -/
theorem trimWhile_firstWord {more : List Char} (hfront : more.dropWhile isBlank = more)
    (h : ¬ ∀ c ∈ (firstWord more).1, isBracket c = true) :
    trimWhile isBracket (firstWord more).1 = verb more ∧ verb more ≠ [] := by
  have hblanks : ¬ Blanks more := fun hblanks => h (by simp [firstWord_blanks hblanks])
  obtain ⟨gap, after, hgap, hword, hafter, hmore, -⟩ := exists_firstWord hblanks
  -- there is no blank before the word
  have hgap : gap = [] := by
    cases gap with
    | nil => rfl
    | cons b gap =>
      have hb := hgap b List.mem_cons_self
      have hstart := List.head?_dropWhile_not isBlank more
      rw [hfront, hmore] at hstart
      simp [hb] at hstart
  subst hgap
  obtain ⟨front, c, rest, hsplit, hbrackets, hc⟩ := exists_after_brackets h
  have hsolid := hword.unbroken
  rw [hsplit] at hsolid
  have hcblank : isBlank c = false := hsolid c (by simp)
  have hstart : more.dropWhile (fun c => isBracket c || isBlank c) = c :: rest ++ after := by
    rw [hmore, hsplit, List.nil_append, List.append_assoc]
    exact dropWhile_run (fun d hd => by simp [hbrackets d hd]) (by rintro d ⟨⟩; simp [hc, hcblank])
  have hend : (c :: rest ++ after).takeWhile (!isBlank ·) = c :: rest := by
    refine takeWhile_run (fun d hd => ?_) (fun d hd => ?_)
    · simp [hsolid d (List.mem_append_right _ hd)]
    · simp [hafter d hd]
  have htrim : trimWhile isBracket (firstWord more).1 = dropWhileEnd isBracket (c :: rest) := by
    rw [trimWhile, hsplit, dropWhile_run hbrackets (by rintro d ⟨⟩; exact hc)]
  refine ⟨by rw [verb, hstart, hend, htrim], ?_⟩
  rw [verb, hstart, hend, Ne, dropWhileEnd_eq_rdropWhile, List.rdropWhile_eq_nil_iff]
  intro hall
  rw [hall c List.mem_cons_self] at hc
  cases hc

/-- **Verbs are found** where the first word is more than brackets. -/
theorem methodOf_eq_verbMethod {more : List Char} (hfront : more.dropWhile isBlank = more)
    (h : ¬ OpensInBrackets more) : methodOf more = verbMethod more := by
  by_cases hnil : more = []
  · subst hnil
    rfl
  · have hword : ¬ ∀ c ∈ (firstWord more).1, isBracket c = true := fun hall => h ⟨hnil, hall⟩
    obtain ⟨htrim, hverb⟩ := trimWhile_firstWord hfront hword
    rw [methodOf, verbMethod, if_neg hnil, if_neg hverb, htrim]

/-- where the first word is brackets only, the method is empty -/
theorem methodOf_brackets {more : List Char} (h : OpensInBrackets more) : methodOf more = "" := by
  obtain ⟨hnil, hall⟩ := h
  rw [methodOf, if_neg hnil, trimWhile, List.dropWhile_eq_nil_iff.2 hall]
  rfl

theorem dropWhile_firstWord_rest (rest : List Char) :
    (firstWord rest).2.dropWhile isBlank = (firstWord rest).2 := List.dropWhile_idempotent ..

/-- what holds of the path and the method that the text of a route line gives -/
structure Given (rest : List Char) (path method : String) : Prop where
  first : path = String.ofList (firstWord rest).1
  solid : Solid path.toList
  unbroken : ∀ c ∈ method.toList, isBlank c = false
  front : ∀ c, method.toList.head? = some c → isBracket c = false
  back : ∀ c, method.toList.getLast? = some c → isBracket c = false
  /-- the method is the verb just if the text after the path does not open in a word of brackets -/
  verb : method = verbMethod (firstWord rest).2 ↔ ¬ OpensInBrackets (firstWord rest).2
  empty : method = "" ↔ OpensInBrackets (firstWord rest).2

theorem isBracket_iff {c : Char} : isBracket c = true ↔ c = '[' ∨ c = ']' := by
  simp [isBracket]

/-- a bracket keeps its place in upper-casing -/
theorem mem_caselessCodes_of_isBracket {c : Char} (h : isBracket c = true) : c.toNat ∈ caselessCodes := by
  rcases isBracket_iff.1 h with rfl | rfl <;> decide

/-- a word without the brackets at its ends has none there in capitals -/
theorem upper_trimWhile_ends (word : List Char) :
    (∀ c, (upper (trimWhile isBracket word)).head? = some c → isBracket c = false) ∧
      ∀ c, (upper (trimWhile isBracket word)).getLast? = some c → isBracket c = false := by
  obtain ⟨hfront, hback⟩ := trimWhile_ends isBracket word
  constructor
  · intro c hc
    by_contra hbracket
    have hcode := mem_caselessCodes_of_isBracket (by simpa using hbracket)
    exact hbracket (hfront c (head?_upper hc hcode))
  · intro c hc
    by_contra hbracket
    have hcode := mem_caselessCodes_of_isBracket (by simpa using hbracket)
    exact hbracket (hback c (getLast?_upper hc hcode))

/-- **Route lines.** What holds of the path and the method that are read from the text of a route line. -/
theorem given_methodOf {rest : List Char} (h : ¬ Blanks rest) :
    Given rest (String.ofList (firstWord rest).1) (methodOf (firstWord rest).2) := by
  have hword := firstWord_solid h
  generalize hmore : (firstWord rest).2 = more
  have hfront : more.dropWhile isBlank = more := hmore ▸ dropWhile_firstWord_rest rest
  have hverb : methodOf more = verbMethod more ↔ ¬ OpensInBrackets more := by
    constructor
    · intro heq hopens
      rw [methodOf_brackets hopens] at heq
      exact verbMethod_ne_empty more heq.symm
    · exact methodOf_eq_verbMethod hfront
  have hempty : methodOf more = "" ↔ OpensInBrackets more := by
    constructor
    · intro heq
      by_contra hopens
      rw [methodOf_eq_verbMethod hfront hopens] at heq
      exact verbMethod_ne_empty more heq
    · exact methodOf_brackets
  by_cases hnil : more = []
  · have hget : methodOf more = "GET" := if_pos hnil
    refine ⟨rfl, by simpa using hword, ?_, ?_, ?_, hmore ▸ hverb, hmore ▸ hempty⟩
    · have hsolid : "GET".toList.all (!isBlank ·) = true := by decide
      rw [hget]
      exact fun c hc => by simpa using List.all_eq_true.1 hsolid c hc
    · rw [hget]
      rintro c ⟨⟩
      rfl
    · rw [hget]
      rintro c ⟨⟩
      rfl
  · have hblanks : ¬ Blanks more :=
      fun hblanks => hnil (by rw [← hfront]; exact List.dropWhile_eq_nil_iff.2 hblanks)
    have hsolid := firstWord_solid hblanks
    have htext : (methodOf more).toList = upper (trimWhile isBracket (firstWord more).1) := by
      rw [methodOf, if_neg hnil, String.toList_ofList]
    obtain ⟨hhead, hlast⟩ := upper_trimWhile_ends (firstWord more).1
    refine ⟨rfl, by simpa using hword, ?_, ?_, ?_, hmore ▸ hverb, hmore ▸ hempty⟩
    · rw [htext]
      have hsub : (trimWhile isBracket (firstWord more).1).Sublist (firstWord more).1 := TypeExpr.trimWhile_sublist _ _
      exact isBlank_of_mem_upper fun c hc => hsolid.unbroken c (hsub.subset hc)
    · rw [htext]
      exact hhead
    · rw [htext]
      exact hlast

end Directive

/-! ## Route lines -/

/-- the text after the token of a route line -/
def routeText? (raw : String) : Option (List Char) :=
  match Directive.dispatch (stripMarker raw.toList) with
  | some (.router, rest) => some rest
  | _ => none

theorem routeText?_eq_some_iff {raw : String} {rest : List Char} :
    routeText? raw = some rest ↔ Directive.dispatch (stripMarker raw.toList) = some (.router, rest) := by
  rw [routeText?]
  split
  · next rest' hline => simp [hline]
  · next hother =>
    constructor
    · intro h
      cases h
    · intro h
      exact absurd h (hother rest)

/-- the path and the method that a text after the token gives -/
def routeOf (rest : List Char) : String × String :=
  (String.ofList (firstWord rest).1, Directive.methodOf (firstWord rest).2)

/-- a route line that can be read has more than blanks after its token, and gives path and method from there -/
theorem route_of_readable {raw : String} (hread : ∀ e, Directive.ofLine raw ≠ some (.error e)) {rest : List Char}
    (h : routeText? raw = some rest) : ¬ Blanks rest ∧
      Directive.ofLine raw = some (.ok (.router (routeOf rest).1 (routeOf rest).2)) := by
  have hline := ofLine_eq (routeText?_eq_some_iff.1 h)
  rw [Directive.parse] at hline
  have hblanks : ¬ Blanks rest := by
    intro hblanks
    rw [Directive.parseRouter, words_blanks hblanks] at hline
    exact hread _ hline
  rw [Directive.parseRouter_eq hblanks] at hline
  exact ⟨hblanks, hline⟩

variable {τ : Type} [TypeLookup τ]

/-- lines that are read to their end hold no directive that can not be read -/
theorem Draft.readable_of_applyLines {package : String} {lines : List String} {d after : Draft τ}
    (h : d.applyLines package lines = (after, none)) :
    ∀ raw ∈ lines, ∀ e, Directive.ofLine raw ≠ some (.error e) := by
  have hlines : ∀ raw ∈ [] ++ lines, ∀ e, Directive.ofLine raw ≠ some (.error e) := Draft.applyLines_induction
    (P := fun (seen : List String) (_ : Draft τ) => ∀ raw ∈ seen, ∀ e, Directive.ofLine raw ≠ some (.error e))
    ?_ (by simp) h
  · rwa [List.nil_append] at hlines
  · intro seen d raw after hseen hread raw' hraw' e he
    rcases List.mem_append.1 hraw' with hraw' | hraw'
    · exact hseen raw' hraw' e he
    · obtain rfl := List.mem_singleton.1 hraw'
      cases hread with
      | prose line => rw [line] at he; cases he
      | directive line applies => rw [line] at he; cases he

/-- the routes that readable lines give are those of their texts -/
theorem routings_of_readable {lines : List String}
    (hread : ∀ raw ∈ lines, ∀ e, Directive.ofLine raw ≠ some (.error e)) :
    (directivesOf lines).filterMap Directive.routing? = (lines.filterMap routeText?).map routeOf := by
  rw [directivesOf, List.filterMap_filterMap, List.map_filterMap]
  refine List.filterMap_congr fun raw hraw => ?_
  cases htext : routeText? raw with
  | some rest =>
    rw [(route_of_readable (hread raw hraw) htext).2]
    rfl
  | none =>
    -- a directive that gives a route is that of a route line
    cases hline : Directive.ofLine raw with
    | none => rfl
    | some outcome =>
      cases outcome with
      | error e => rfl
      | ok directive =>
        obtain ⟨kind, rest, hdispatch, hread⟩ := Directive.ofLine_ok_iff.1 hline
        obtain rfl := Directive.kind_of_parse hread
        cases directive with
        | router path method => rw [routeText?_eq_some_iff.2 hdispatch] at htext; cases htext
        | _ => rfl

/-- **Last routes.** Lines that are read to their end leave the path and the method of the last route line. -/
theorem Draft.route_applyLines {package : String} {lines : List String} {r : Resolver τ} {d : Draft τ}
    (h : Draft.applyLines package ⟨.blank, r, []⟩ lines = (d, none)) :
    (d.operation.path, d.operation.method) = ((lines.filterMap routeText?).getLast?.map routeOf).getD ("", "GET") := by
  obtain ⟨-, hoperation⟩ := Draft.applyLines_facts h
  rw [← Operation.ofFacts_eq_foldl] at hoperation
  have hroutes := routings_of_readable (Draft.readable_of_applyLines h)
  have hlast : lastOf Fact.route? (Directive.facts package r (directivesOf lines))
      = (lines.filterMap routeText?).getLast?.map routeOf := by
    rw [lastOf, routing_facts, hroutes, List.getLast?_map]
  rw [hoperation, Operation.ofFacts, hlast]
  cases (lines.filterMap routeText?).getLast? <;> rfl

/-- the method is a member of what is written of an operation unless it is empty -/
theorem httpMethod_wire (o : Operation) : ∃ members, wire o = .obj members ∧
    (Json.member? members "httpMethod" = some (.str o.method) ↔ o.method ≠ "") ∧
      (Json.member? members "httpMethod" = none ↔ o.method = "") := by
  refine ⟨_, rfl, ?_⟩
  rw [Json.member?_dropEmptyMembers (by simp)]
  by_cases hmethod : o.method = ""
  · simp [hmethod, Json.kept?, Json.dropEmpty, Json.isEmpty]
  · simp [hmethod, Json.kept?_str]

/-- **Routes.** In a block that documents an operation every route line has a path, without blanks. Its method has no
blanks, and no bracket at its ends; it is the verb in capitals, or `GET` without a verb, unless the text after the path
opens in a word of brackets. Then it is empty. The operation has the route of the last of these lines, and its method is
written into a document just if it is not empty. -/
theorem route_of_read {comments : List String} {r : Resolver τ} {package : String} {o : Operation}
    (h : (readComment comments r package).answer = .ok o) :
    (∀ raw ∈ comments, ∀ rest, routeText? raw = some rest → ∃ path method,
        Directive.ofLine raw = some (.ok (.router path method)) ∧ Directive.Given rest path method) ∧
      ∃ rest, (comments.filterMap routeText?).getLast? = some rest ∧ Directive.Given rest o.path o.method ∧
        ∃ members, wire o = .obj members ∧
          (Json.member? members "httpMethod" = some (.str o.method) ↔
            ¬ Directive.OpensInBrackets (firstWord rest).2) ∧
          (Json.member? members "httpMethod" = none ↔ Directive.OpensInBrackets (firstWord rest).2) := by
  obtain ⟨d, hlines, rfl, -, hpath⟩ := readComment_ok h
  have hread := Draft.readable_of_applyLines hlines
  have hgiven {raw : String} (hraw : raw ∈ comments) {rest : List Char} (htext : routeText? raw = some rest) :
      Directive.Given rest (routeOf rest).1 (routeOf rest).2 :=
    Directive.given_methodOf (route_of_readable (hread raw hraw) htext).1
  constructor
  · intro raw hraw rest htext
    exact ⟨_, _, (route_of_readable (hread raw hraw) htext).2, hgiven hraw htext⟩
  · have hroute := Draft.route_applyLines hlines
    cases hlast : (comments.filterMap routeText?).getLast? with
    | none =>
      -- without a route line there would be no path
      rw [hlast] at hroute
      obtain ⟨hnone, -⟩ := Prod.mk.inj hroute
      rw [hnone] at hpath
      cases hpath
    | some rest =>
      rw [hlast] at hroute
      obtain ⟨hroutePath, hrouteMethod⟩ := Prod.mk.inj hroute
      obtain ⟨raw, hraw, htext⟩ := List.mem_filterMap.1 (List.mem_of_getLast? hlast)
      have hrest : Directive.Given rest d.operation.path d.operation.method := by
        rw [hroutePath, hrouteMethod]
        exact hgiven hraw htext
      obtain ⟨members, hwire, hwritten, hdropped⟩ := httpMethod_wire d.operation
      exact ⟨rest, rfl, hrest, members, hwire, hwritten.trans (not_congr hrest.empty), hdropped.trans hrest.empty⟩

def noClasses : Resolver := .new ⟨[]⟩ ∅

/-- a route line, and one that comes after it -/
def twoRouteLines : List String := ["# @router /pets post", "prose", "// @router /pets/{id}  [get] and more"]

/-- The later line gives path and method. -/
theorem route_of_read_two :
    ∃ o, (readComment twoRouteLines noClasses "").answer = .ok o ∧
      ∃ rest, (twoRouteLines.filterMap routeText?).getLast? = some rest ∧
      Directive.Given rest "/pets/{id}" "GET" ∧
        ¬ Directive.OpensInBrackets (firstWord rest).2 := by
  have h : (readComment twoRouteLines noClasses "").answer
      = .ok { Operation.blank with path := "/pets/{id}", method := "GET" } := by decide +kernel
  obtain ⟨-, rest, hlast, hgiven, -⟩ := route_of_read h
  exact ⟨_, h, rest, hlast, hgiven, fun hopens => absurd (hgiven.empty.2 hopens) (by decide)⟩

/-- a route line with blanks between the verb and its brackets -/
def looseRouteLine : String := "# @router /pets [ get ]"

/-- **A verb that is lost.** The verb on the line is `get`, but the method of the operation is empty, and the operation
is written without it. -/
theorem bracketed_verb_lost :
    routeText? looseRouteLine = some "/pets [ get ]".toList ∧ Directive.verbMethod "[ get ]".toList = "GET" ∧
      (readComment [looseRouteLine] noClasses "").answer
        = .ok { Operation.blank with path := "/pets", method := "" } ∧
      wire { Operation.blank with path := "/pets", method := "" }
        = .obj [("path", .str "/pets")] := by
  decide +kernel

end RouteDocs
