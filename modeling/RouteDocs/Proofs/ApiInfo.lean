/-
What the general information holds after comment lines.

The rule is that of the directives: a line has a tag if the tag is its first word, and the last such line counts
(`Tagged`, `Latest`). The reader asks for less. After the name of a tag any character is good that does not go on with
a word, so a line such as `@License-Url …` is one of the tag `@License` (`RunOn`).

- `tagOfLine?_eq_some`: the tag and the value of a line, by the text of the line.
- `gives_iff`: a line gives a tag a value if it has the tag by the rule, or runs on after its name.
- `latest_ofLines`: a field is the value of the last line that gives its tag one, so the rule holds unless a line that
  runs on has the last word.
- `hyphen_ends_name`: the rule fails.
-/
import Mathlib.Data.List.Induction
import RouteDocs.ApiInfo
import RouteDocs.Proofs.Text.Blank

namespace RouteDocs.ApiInfo

open Text

/-! ## The last line that counts -/

/-- a value is that of the last line that gives one, and empty if no line does -/
inductive Latest (gives : String → String → Prop) : List String → String → Prop
  | none {lines : List String} (silent : ∀ raw ∈ lines, ∀ v, ¬ gives raw v) : Latest gives lines ""
  | last {before after : List String} {raw value : String} (given : gives raw value)
    (silent : ∀ later ∈ after, ∀ v, ¬ gives later v) : Latest gives (before ++ raw :: after) value

/-- one line more has the last word, if it gives a value -/
theorem Latest.concat {gives : String → String → Prop} {lines : List String} {value : String}
    (h : Latest gives lines value) {raw : String} {new : Option String} (hnew : ∀ v, new = some v ↔ gives raw v) :
    Latest gives (lines ++ [raw]) (new.getD value) := by
  cases new with
  | some v =>
    have hlast : Latest gives (lines ++ raw :: []) v := .last ((hnew v).1 rfl) (List.forall_mem_nil _)
    exact hlast
  | none =>
    have hraw : ∀ later ∈ [raw], ∀ v, ¬ gives later v := by
      intro later hlater v hv
      obtain rfl := List.mem_singleton.1 hlater
      cases (hnew v).2 hv
    cases h with
    | none silent => exact .none (List.forall_mem_append.2 ⟨silent, hraw⟩)
    | @last before after given _ hgiven silent =>
      have hlast : Latest gives (before ++ given :: (after ++ [raw])) value :=
        .last hgiven (List.forall_mem_append.2 ⟨silent, hraw⟩)
      simpa using hlast

/-! ## Tags -/

theorem get_set (info : ApiInfo) (t u : Tag) (v : String) : (info.set t v).get u = if u = t then v else info.get u := by
  cases t <;> cases u <;> rfl

theorem get_blank (tag : Tag) : blank.get tag = "" := by cases tag <;> rfl

theorem Tag.mem_all (tag : Tag) : tag ∈ all := by cases tag <;> decide

theorem Tag.token_injective {t u : Tag} (h : t.token.toList = u.token.toList) : t = u := by
  have hall : ∀ t ∈ all, ∀ u ∈ all, t.token.toList = u.token.toList → t = u := by decide +kernel
  exact hall t t.mem_all u u.mem_all h

/-- a token is an at sign with a word after it -/
theorem Tag.token_eq (tag : Tag) : ∃ word, tag.token.toList = '@' :: word ∧ ∀ c ∈ word, isWord c = true := by
  have hall : ∀ t ∈ all,
      t.token.toList.head? = some '@' ∧ t.token.toList.tail.all isWord = true := by decide +kernel
  obtain ⟨hhead, htail⟩ := hall tag tag.mem_all
  obtain ⟨word, hword⟩ := List.head?_eq_some_iff.1 hhead
  rw [hword] at htail
  exact ⟨word, hword, List.all_eq_true.1 htail⟩

theorem Tag.solid (tag : Tag) : Solid tag.token.toList := by
  obtain ⟨word, htoken, hword⟩ := tag.token_eq
  rw [htoken]
  exact ⟨List.cons_ne_nil _ _, List.forall_mem_cons.2 ⟨by decide, fun c hc => isBlank_of_isWord (hword c hc)⟩⟩

/-- the tag with a given token -/
theorem Tag.find?_token {tag : Tag} {token : List Char} :
    all.find? (fun t => t.token.toList == token) = some tag ↔ tag.token.toList = token := by
  constructor
  · intro h
    simpa using List.find?_some h
  · rintro rfl
    obtain ⟨t, ht⟩ : ∃ t, all.find? (fun t => t.token.toList == tag.token.toList) = some t :=
      Option.isSome_iff_exists.1 (List.find?_isSome.2 ⟨tag, tag.mem_all, beq_self_eq_true _⟩)
    obtain rfl : t = tag := Tag.token_injective (by simpa using List.find?_some ht)
    exact ht

/-! ## Lines -/

/-- what follows the front of a line ends as the line does -/
theorem trim_rest {front rest : List Char} (h : trim (front ++ rest) = front ++ rest) :
    trim rest = rest.dropWhile isBlank := by
  rw [trim, trimWhile, dropWhileEnd_eq_rdropWhile]
  refine List.rdropWhile_eq_self_iff.2 fun hne => ?_
  have hrest : rest ≠ [] := by
    rintro rfl
    exact hne rfl
  have hkept := dropWhileEnd_eq_self_of_trim h
  rw [dropWhileEnd_eq_rdropWhile] at hkept
  have hend := List.rdropWhile_eq_self_iff.1 hkept (List.append_ne_nil_of_right_ne_nil front hrest)
  rw [List.getLast_append_of_ne_nil _ hrest] at hend
  have hsame : (rest.dropWhile isBlank).getLast hne = rest.getLast hrest :=
    (List.dropWhile_suffix isBlank).getLast hne
  rwa [hsame]

/-- **The tag of a line.** The line begins with the token, and no word goes on there. -/
theorem tagOfLine?_eq_some {raw value : String} {tag : Tag} : tagOfLine? raw = some (tag, value) ↔
    ∃ rest, stripMarker raw.toList = tag.token.toList ++ rest ∧ (∀ c ∈ rest.head?, isWord c = false) ∧
      value = String.ofList (trim rest) ∧ '\n' ∉ trim rest := by
  have htrim : trim (stripMarker raw.toList) = stripMarker raw.toList := trim_trim _
  rw [tagOfLine?]
  constructor
  · intro h
    split at h
    · next rest hline =>
      dsimp only at h
      split at h
      · cases h
      · next hfeed =>
        obtain ⟨t, htag, heq⟩ := Option.map_eq_some_iff.1 h
        obtain ⟨rfl, rfl⟩ := Prod.mk.inj heq
        have hsplit : stripMarker raw.toList = t.token.toList ++ rest.dropWhile isWord := by
          rw [Tag.find?_token.1 htag, hline, List.cons_append, List.takeWhile_append_dropWhile]
        have hend := trim_rest (hsplit ▸ htrim)
        exact ⟨_, hsplit, fun c hc => dropWhile_stop hc, by rw [← hend, trim_trim], by simpa [hend] using hfeed⟩
    · cases h
  · rintro ⟨rest, hline, hstop, rfl, hfeed⟩
    obtain ⟨word, htoken, hword⟩ := tag.token_eq
    have hend := trim_rest (hline ▸ htrim)
    have hfind : Tag.all.find? (fun t => t.token.toList == '@' :: word) = some tag := Tag.find?_token.2 htoken
    rw [hend] at hfeed
    rw [hline, htoken, List.cons_append]
    simp only [takeWhile_run hword hstop, dropWhile_run hword hstop]
    rw [if_neg (by simpa using hfeed), hfind, ← hend, trim_trim]
    rfl

/-- a tag is the first word of a comment line, and a value is the text after it -/
structure Tagged (tag : Tag) (raw value : String) : Prop where
  word : (stripMarker raw.toList).takeWhile (!isBlank ·) = tag.token.toList
  text : value = String.ofList (trim ((stripMarker raw.toList).dropWhile (!isBlank ·)))

/-- the name of a tag stands in front of a value that begins with neither a blank nor a character of a word -/
structure RunOn (tag : Tag) (raw value : String) : Prop where
  line : stripMarker raw.toList = tag.token.toList ++ value.toList
  start : ∃ c ∈ value.toList.head?, isWord c = false ∧ isBlank c = false

/-- a line gives a tag a value: by the rule, or since it runs on after the name of the tag -/
def Gives (tag : Tag) (raw value : String) : Prop :=
  (Tagged tag raw value ∨ RunOn tag raw value) ∧ '\n' ∉ value.toList

theorem tagged_iff {tag : Tag} {raw value : String} : Tagged tag raw value ↔
    ∃ rest, stripMarker raw.toList = tag.token.toList ++ rest ∧ (∀ c ∈ rest.head?, isBlank c = true) ∧
      value = String.ofList (trim rest) := by
  constructor
  · rintro ⟨hword, rfl⟩
    refine ⟨_, by rw [← hword, List.takeWhile_append_dropWhile], fun c hc => ?_, rfl⟩
    simpa using dropWhile_stop hc
  · rintro ⟨rest, hline, hstop, rfl⟩
    obtain ⟨htake, hdrop⟩ := tag.solid.cut hstop
    exact ⟨by rw [hline, htake], by rw [hline, hdrop]⟩

/-- a line that runs on after the name of a tag does not have the tag -/
theorem RunOn.not_tagged {tag : Tag} {raw value other : String} (h : RunOn tag raw value) :
    ¬ Tagged tag raw other := by
  intro htagged
  obtain ⟨rest, hline, hstop, -⟩ := tagged_iff.1 htagged
  obtain ⟨c, hc, -, hvisible⟩ := h.start
  rw [h.line, List.append_cancel_left_eq] at hline
  rw [hline] at hc
  rw [hstop c hc] at hvisible
  cases hvisible

/-- a line gives a tag just the value that is read from it -/
theorem gives_iff {tag : Tag} {raw value : String} : tagOfLine? raw = some (tag, value) ↔ Gives tag raw value := by
  have htrim : trim (stripMarker raw.toList) = stripMarker raw.toList := trim_trim _
  rw [tagOfLine?_eq_some]
  constructor
  · rintro ⟨rest, hline, hstop, rfl, hfeed⟩
    refine ⟨?_, by simpa using hfeed⟩
    cases rest with
    | nil => exact Or.inl (tagged_iff.2 ⟨[], hline, by simp, rfl⟩)
    | cons c rest =>
      by_cases hc : isBlank c = true
      · exact Or.inl (tagged_iff.2 ⟨c :: rest, hline, by simpa using hc, rfl⟩)
      · have hvalue : trim (c :: rest) = c :: rest := by
          rw [trim_rest (hline ▸ htrim), List.dropWhile_cons_of_neg hc]
        refine Or.inr ⟨by rw [hvalue, String.toList_ofList, hline], c, ?_, hstop c rfl, Bool.eq_false_iff.2 hc⟩
        rw [hvalue, String.toList_ofList]
        rfl
  · rintro ⟨htagged | ⟨hline, c, hc, hword, hblank⟩, hfeed⟩
    · obtain ⟨rest, hline, hstop, rfl⟩ := tagged_iff.1 htagged
      refine ⟨rest, hline, fun c hc => ?_, rfl, by simpa using hfeed⟩
      refine Bool.eq_false_iff.2 fun hword => ?_
      have hvisible := isBlank_of_isWord hword
      rw [hstop c hc] at hvisible
      cases hvisible
    · have hvalue : trim value.toList = value.toList := by
        obtain ⟨rest, hrest⟩ := List.head?_eq_some_iff.1 hc
        rw [trim_rest (hline ▸ htrim), hrest, List.dropWhile_cons_of_neg (by simp [hblank])]
      refine ⟨value.toList, hline, fun d hd => ?_, by rw [hvalue, String.ofList_toList], by rwa [hvalue]⟩
      obtain rfl := Option.some.inj ((Option.mem_def.1 hc).symm.trans hd)
      exact hword

/-! ## Fields -/

def valueFor (tag : Tag) (raw : String) : Option String :=
  (tagOfLine? raw).bind fun given => if given.1 = tag then some given.2 else none

theorem valueFor_eq_some {tag : Tag} {raw value : String} : valueFor tag raw = some value ↔ Gives tag raw value := by
  rw [← gives_iff, valueFor]
  cases tagOfLine? raw with
  | none => simp
  | some given =>
    obtain ⟨t, v⟩ := given
    by_cases ht : t = tag <;> simp [ht]

theorem get_readLine (info : ApiInfo) (raw : String) (tag : Tag) :
    (readLine info raw).get tag = (valueFor tag raw).getD (info.get tag) := by
  rw [readLine, valueFor]
  cases tagOfLine? raw with
  | none => rfl
  | some given =>
    obtain ⟨t, v⟩ := given
    dsimp only
    rw [get_set]
    by_cases ht : tag = t
    · simp [ht]
    · simp [ht, Ne.symm ht]

/-- **Fields.** Each is the value of the last line that gives its tag one. -/
theorem get_ofLines (lines : List String) (tag : Tag) : Latest (Gives tag) lines ((ofLines lines).get tag) := by
  induction lines using List.reverseRecOn with
  | nil =>
    have hblank : (ofLines []).get tag = "" := get_blank tag
    rw [hblank]
    exact .none (List.forall_mem_nil _)
  | append_singleton lines raw ih =>
    have hstep : ofLines (lines ++ [raw]) = readLine (ofLines lines) raw := List.foldl_concat ..
    rw [hstep, get_readLine]
    exact ih.concat fun v => valueFor_eq_some

/-- a line feed in a value is one of the line -/
theorem Tagged.feed {tag : Tag} {raw value : String} (h : Tagged tag raw value) (hraw : '\n' ∉ raw.toList) :
    '\n' ∉ value.toList := by
  rw [h.text, String.toList_ofList]
  intro hmem
  have hline : '\n' ∈ stripMarker raw.toList := (List.dropWhile_sublist _).subset (mem_of_mem_trimWhile hmem)
  exact hraw (mem_of_mem_trimWhile ((List.dropWhile_sublist _).subset (mem_of_mem_trimWhile hline)))

/-- **General information.** A field is the value of the last line that gives its tag one: the text after the tag if
that is the first word of the line, or what runs on right after its name. So in lines without line feeds the rule of
first words holds for a tag, if every line that runs on after its name is followed by one that has the tag. -/
theorem latest_ofLines (lines : List String) (tag : Tag) :
    Latest (Gives tag) lines ((ofLines lines).get tag) ∧
      ((∀ raw ∈ lines, '\n' ∉ raw.toList) →
        (∀ before raw after, lines = before ++ raw :: after → (∃ v, RunOn tag raw v) →
          ∃ later ∈ after, ∃ v, Tagged tag later v) →
        Latest (Tagged tag) lines ((ofLines lines).get tag)) := by
  refine ⟨get_ofLines lines tag, fun hlines hlast => ?_⟩
  have hgiven := get_ofLines lines tag
  generalize (ofLines lines).get tag = value at hgiven
  have hgives {raw : String} (hraw : raw ∈ lines) {v : String} (htagged : Tagged tag raw v) : Gives tag raw v :=
    ⟨Or.inl htagged, htagged.feed (hlines raw hraw)⟩
  cases hgiven with
  | none silent => exact .none fun raw hraw v htagged => silent raw hraw v (hgives hraw htagged)
  | @last before after raw _ given silent =>
    have hsilent : ∀ later ∈ after, ∀ v, ¬ Tagged tag later v :=
      fun later hlater v htagged => silent later hlater v (hgives (by simp [hlater]) htagged)
    refine .last ?_ hsilent
    -- a line that runs on is not the last one that counts
    refine given.1.resolve_right fun hrun => ?_
    obtain ⟨later, hlater, v, htagged⟩ := hlast before raw after rfl ⟨value, hrun⟩
    exact hsilent later hlater v htagged

/-- lines with a tag that runs on, and comes again as a word of its own -/
def licenceLines : List String := ["# @License-Url http://x", "// @LicenseUrl http://y", "prose", "##  @License  MIT "]

theorem latest_ofLines_licence :
    (ofLines licenceLines).get .license = "MIT" ∧ Latest (Tagged .license) licenceLines "MIT" := by
  have hvalue : (ofLines licenceLines).get .license = "MIT" := by decide +kernel
  have hlast : Tagged .license "##  @License  MIT " "MIT" := ⟨by decide +kernel, by decide +kernel⟩
  have hrule := (latest_ofLines licenceLines .license).2 (by decide +kernel) fun before raw after hsplit hrun => by
    obtain rfl | ⟨others, later, rfl⟩ := List.eq_nil_or_concat' after
    · -- the last line has the tag, so it does not run on
      have hend := congrArg List.getLast? hsplit
      rw [List.getLast?_concat] at hend
      obtain rfl : "##  @License  MIT " = raw := Option.some.inj hend
      obtain ⟨v, hv⟩ := hrun
      exact absurd hlast hv.not_tagged
    · have hend := congrArg List.getLast? hsplit
      rw [← List.cons_append, ← List.append_assoc, List.getLast?_concat] at hend
      obtain rfl : "##  @License  MIT " = later := Option.some.inj hend
      exact ⟨_, by simp, _, hlast⟩
  rw [hvalue] at hrule
  exact ⟨hvalue, hrule⟩

/-- **A tag that is none.** The first word of the line is no tag, but what comes after the hyphen is taken for the name
of a licence. -/
theorem hyphen_ends_name :
    (ofLines ["# @License-Url http://x"]).get .license = "-Url http://x" ∧
      (∀ value, ¬ Tagged .license "# @License-Url http://x" value) ∧
      ¬ Latest (Tagged .license) ["# @License-Url http://x"] "-Url http://x" := by
  have hword : ∀ value, ¬ Tagged .license "# @License-Url http://x" value :=
    fun value htagged => absurd htagged.word (by decide +kernel)
  refine ⟨by decide +kernel, hword, fun hlatest => ?_⟩
  generalize hlines : ["# @License-Url http://x"] = lines at hlatest
  generalize hvalue : "-Url http://x" = value at hlatest
  cases hlatest with
  | none silent => exact absurd hvalue (by decide)
  | @last before after raw _ given silent =>
    obtain rfl : raw = "# @License-Url http://x" := by
      have hmem : raw ∈ ["# @License-Url http://x"] := hlines ▸ by simp
      exact List.mem_singleton.1 hmem
    exact hword _ given

end RouteDocs.ApiInfo
