/-
Laws of maps that remember the order of their keys.

- `get?_eq_some`, `mem_keys`: a map is looked up in its entries.
- `entries_insert_new`: a new key goes to the end.
- `filterKeys_append`, `filterKeys_grown`: what filtering by key takes back.
- `sortKeys_congr`: sorting forgets the order of insertion.
- `strict_sortKeys`: sorted keys increase strictly.
- `eraseDups_concat`: a list without its repetitions, from its end.
- `entries_ofList`: entries with distinct keys make the map of these entries.
- `get?_ofList_eq_some`: in a map made of a list, the last value of a key counts.
- `insertAll_ofList`: inserting a list is inserting the map made of it.
-/
import Mathlib.Data.List.Induction
import Mathlib.Data.List.Sort
import RouteDocs.OrderedMap

namespace RouteDocs

/-! ## The order of texts -/

theorem textLe_trans (a b c : String) (hab : textLe a b = true) (hbc : textLe b c = true) : textLe a c = true := by
  simp only [textLe, decide_eq_true_eq] at *
  exact String.le_trans hab hbc

theorem textLe_total (a b : String) : (textLe a b || textLe b a) = true := by
  simp only [textLe, Bool.or_eq_true, decide_eq_true_eq]
  exact String.le_total a b

theorem textLe_antisymm {a b : String} (hab : textLe a b = true) (hba : textLe b a = true) : a = b := by
  simp only [textLe, decide_eq_true_eq] at *
  exact String.le_antisymm hab hba

/-! ## Lists without repetitions -/

section EraseDups

variable {α : Type} [DecidableEq α]

theorem eraseDups_concat (l : List α) (x : α) :
    (l ++ [x]).eraseDups = if x ∈ l then l.eraseDups else l.eraseDups ++ [x] := by
  have hone : [x].eraseDups = [x] := rfl
  rw [List.eraseDups_append]
  by_cases h : x ∈ l
  · simp [List.removeAll, h]
  · simp [List.removeAll, h, hone]

theorem nodup_eraseDups (l : List α) : l.eraseDups.Nodup := by
  induction l using List.reverseRecOn with
  | nil => exact .nil
  | append_singleton l x ih =>
    rw [eraseDups_concat]
    split
    · exact ih
    · next hnew => exact ih.append (List.nodup_singleton x) (List.disjoint_singleton.2 (by simpa using hnew))

theorem eraseDups_eq_self {l : List α} (h : l.Nodup) : l.eraseDups = l := by
  induction l using List.reverseRecOn with
  | nil => rfl
  | append_singleton l x ih =>
    obtain ⟨hl, -, hnew⟩ := List.nodup_append.1 h
    have hx : x ∉ l := fun hmem => hnew x hmem x List.mem_cons_self rfl
    rw [eraseDups_concat, if_neg hx, ih hl]

end EraseDups

namespace OrderedMap

variable {α β : Type}

theorem ext_entries {m n : OrderedMap α β} (h : m.entries = n.entries) : m = n := by
  cases m
  cases n
  cases h
  rfl

variable [DecidableEq α]

/-! ## Looking up -/

@[simp] theorem get?_empty (k : α) : (∅ : OrderedMap α β).get? k = none := rfl

@[simp] theorem contains_empty (k : α) : (∅ : OrderedMap α β).contains k = false := rfl

theorem lookup_eq_some {es : List (α × β)} (hd : (es.map Prod.fst).Nodup) {k : α} {v : β} :
    es.lookup k = some v ↔ (k, v) ∈ es := by
  induction es with
  | nil => simp
  | cons e rest ih =>
    obtain ⟨a, b⟩ := e
    rw [List.map_cons, List.nodup_cons] at hd
    rw [List.lookup_cons, List.mem_cons, Prod.mk.injEq]
    by_cases ha : k = a
    · subst ha
      have hk : ∀ w, (k, w) ∉ rest := fun w hw => hd.1 (List.mem_map.2 ⟨(k, w), hw, rfl⟩)
      simp [hk, eq_comm]
    · simp [beq_eq_false_iff_ne.2 ha, ha, ih hd.2]

theorem get?_eq_some {m : OrderedMap α β} {k : α} {v : β} : m.get? k = some v ↔ (k, v) ∈ m.entries :=
  lookup_eq_some m.distinct

theorem contains_iff {m : OrderedMap α β} {k : α} : m.contains k = true ↔ ∃ v, m.get? k = some v :=
  Option.isSome_iff_exists

theorem mem_keys {m : OrderedMap α β} {k : α} : k ∈ m.keys ↔ m.contains k = true := by
  simp only [contains_iff, get?_eq_some, keys, List.mem_map, Prod.exists, exists_and_right, exists_eq_right]

theorem contains_of_get? {m : OrderedMap α β} {k : α} {v : β} (h : m.get? k = some v) : m.contains k = true :=
  contains_iff.2 ⟨v, h⟩

theorem get?_eq_none {m : OrderedMap α β} {k : α} : m.get? k = none ↔ m.contains k = false := by
  rw [contains, Option.isSome_eq_false_iff, Option.isNone_iff_eq_none]

theorem mem_values {m : OrderedMap α β} {v : β} : v ∈ m.values ↔ ∃ k, m.get? k = some v := by
  simp only [values, List.mem_map, get?_eq_some, Prod.exists, exists_eq_right]

/-! ## Inserting -/

theorem put_new {k : α} (v : β) {es : List (α × β)} (h : k ∉ es.map Prod.fst) : put k v es = es ++ [(k, v)] := by
  induction es with
  | nil => rfl
  | cons e rest ih =>
    rw [List.map_cons, List.mem_cons, not_or] at h
    rw [put, if_neg (Ne.symm h.1), ih h.2, List.cons_append]

theorem entries_insert_new {m : OrderedMap α β} {k : α} (v : β) (h : m.contains k = false) :
    (m.insert k v).entries = m.entries ++ [(k, v)] := by
  refine put_new v fun hk => ?_
  have hc : m.contains k = true := mem_keys.1 hk
  rw [h] at hc
  cases hc

/-- what an insertion leaves among the values is the new value or an old one -/
theorem mem_values_insert {m : OrderedMap α β} {k : α} {v w : β} (h : w ∈ (m.insert k v).values) :
    w = v ∨ w ∈ m.values := by
  obtain ⟨l, hl⟩ := mem_values.1 h
  rw [get?_insert] at hl
  split at hl
  · exact Or.inl (Option.some.inj hl).symm
  · exact Or.inr (mem_values.2 ⟨l, hl⟩)

/-- entries with distinct keys make the map of these entries -/
theorem entries_ofList {es : List (α × β)} (h : (es.map Prod.fst).Nodup) : (ofList es).entries = es := by
  have hall : ∀ (rest : List (α × β)) (m : OrderedMap α β), ((m.entries ++ rest).map Prod.fst).Nodup →
      (insertAll m rest).entries = m.entries ++ rest := by
    intro rest
    induction rest with
    | nil => intro m _; exact (List.append_nil _).symm
    | cons e rest ih =>
      intro m hd
      have hnew : m.contains e.1 = false := by
        rw [Bool.eq_false_iff, ne_eq, ← mem_keys]
        intro hk
        rw [List.map_append, List.map_cons] at hd
        exact List.disjoint_of_nodup_append hd hk List.mem_cons_self
      have he : (m.insert e.1 e.2).entries = m.entries ++ [e] := entries_insert_new _ hnew
      have := ih (m.insert e.1 e.2) (by rw [he, List.append_assoc]; exact hd)
      rw [he, List.append_assoc] at this
      exact this
  exact hall es empty h

/-! ## Inserting lists -/

theorem insertAll_concat (m : OrderedMap α β) (es : List (α × β)) (e : α × β) :
    m.insertAll (es ++ [e]) = (m.insertAll es).insert e.1 e.2 := List.foldl_append

/-- in a map made of a list, a key has the value that comes last under it -/
theorem get?_ofList_eq_some {es : List (α × β)} {k : α} {v : β} :
    (ofList es).get? k = some v ↔
      ∃ earlier later, es = earlier ++ (k, v) :: later ∧ ∀ e ∈ later, e.1 ≠ k := by
  induction es using List.reverseRecOn with
  | nil => simp [ofList, insertAll, empty, get?]
  | append_singleton es e ih =>
    obtain ⟨l, w⟩ := e
    rw [ofList, insertAll_concat, get?_insert]
    by_cases hk : k = l
    · subst hk
      rw [if_pos rfl, Option.some.injEq]
      constructor
      · rintro rfl
        exact ⟨es, [], rfl, by simp⟩
      · rintro ⟨earlier, later, hes, hlater⟩
        -- nothing of the key comes after the last entry
        obtain rfl | ⟨later, e, rfl⟩ := List.eq_nil_or_concat' later
        · exact (Prod.mk.inj (List.append_inj_right' hes rfl |> List.cons.inj |>.1)).2
        · rw [← List.cons_append, ← List.append_assoc] at hes
          obtain rfl := List.cons.inj (List.append_inj_right' hes rfl) |>.1
          exact absurd rfl (hlater (k, w) (by simp))
    · rw [if_neg hk]
      refine ih.trans ⟨?_, ?_⟩
      · rintro ⟨earlier, later, rfl, hlater⟩
        refine ⟨earlier, later ++ [(l, w)], by simp, fun e he => ?_⟩
        rcases List.mem_append.1 he with he | he
        · exact hlater e he
        · rw [List.mem_singleton.1 he]
          exact Ne.symm hk
      · rintro ⟨earlier, later, hes, hlater⟩
        obtain rfl | ⟨later, e, rfl⟩ := List.eq_nil_or_concat' later
        · have he := List.cons.inj (List.append_inj_right' hes rfl) |>.1
          exact absurd (Prod.mk.inj he).1.symm hk
        · rw [← List.cons_append, ← List.append_assoc] at hes
          exact ⟨earlier, later, List.append_inj_left' hes rfl, fun e he => hlater e (by simp [he])⟩

/-- a present key keeps its place, so it may be given its value before another key gets one -/
theorem put_comm {k l : α} (v w : β) {es : List (α × β)} (hk : k ∈ es.map Prod.fst) (hne : k ≠ l) :
    put k v (put l w es) = put l w (put k v es) := by
  induction es with
  | nil => cases hk
  | cons e rest ih =>
    rw [List.map_cons, List.mem_cons] at hk
    by_cases hek : e.1 = k
    · have hel : e.1 ≠ l := hek ▸ hne
      rw [put, if_neg hel, put, if_pos hek, put, if_pos hek, put, if_neg hne]
    · have hrest := hk.resolve_left (Ne.symm hek)
      by_cases hel : e.1 = l
      · rw [put, if_pos hel, put, if_neg (Ne.symm hne), put, if_neg hek, put, if_pos hel]
      · rw [put, if_neg hel, put, if_neg hek, put, if_neg hek, put, if_neg hel, ih hrest]

theorem insert_comm {m : OrderedMap α β} {k l : α} (v w : β) (hk : m.contains k = true) (hne : k ≠ l) :
    (m.insert l w).insert k v = (m.insert k v).insert l w :=
  ext_entries (put_comm v w (mem_keys.2 hk) hne)

theorem insert_insert (m : OrderedMap α β) (k : α) (v w : β) : (m.insert k v).insert k w = m.insert k w := by
  have hput (es : List (α × β)) : put k w (put k v es) = put k w es := by
    induction es with
    | nil => simp [put]
    | cons e rest ih => by_cases he : e.1 = k <;> simp [put, he, ih]
  exact ext_entries (hput m.entries)

/-- entries inserted after a key that is not among them may come before the key gets its last value -/
theorem insertAll_insert {es : List (α × β)} {k : α} (hk : k ∉ es.map Prod.fst) (m : OrderedMap α β)
    (v w : β) :
    ((m.insert k v).insertAll es).insert k w = (m.insert k w).insertAll es := by
  induction es using List.reverseRecOn with
  | nil => exact insert_insert m k v w
  | append_singleton es e ih =>
    rw [List.map_append, List.mem_append, not_or] at hk
    have hne : k ≠ e.1 := by simpa using hk.2
    have hpresent : ((m.insert k v).insertAll es).contains k = true := by
      have hkeep (es : List (α × β)) (n : OrderedMap α β) (hn : n.contains k = true) :
          (n.insertAll es).contains k = true := by
        induction es generalizing n with
        | nil => exact hn
        | cons e es ih => exact ih _ (by rw [contains_insert, hn, Bool.or_true])
      exact hkeep es _ (by rw [contains_insert]; simp)
    rw [insertAll_concat, insertAll_concat, insert_comm w e.2 hpresent hne, ih hk.1]

/-- inserting the entries of a map made of a list is inserting the list -/
theorem insertAll_ofList (m : OrderedMap α β) (es : List (α × β)) :
    m.insertAll (ofList es).entries = m.insertAll es := by
  induction es using List.reverseRecOn with
  | nil => rfl
  | append_singleton es e ih =>
    have hlast : ofList (es ++ [e]) = (ofList es).insert e.1 e.2 := insertAll_concat _ _ _
    rw [hlast, insertAll_concat, ← ih]
    cases hc : (ofList es).contains e.1 with
    | false => rw [entries_insert_new _ hc, insertAll_concat]
    | true =>
      -- the key is overwritten in its place
      obtain ⟨v, hv⟩ := contains_iff.1 hc
      obtain ⟨before, after, hsplit⟩ := List.append_of_mem (get?_eq_some.1 hv)
      have hd := (ofList es).distinct
      rw [hsplit, List.map_append, List.map_cons] at hd
      obtain ⟨-, hd, hdisjoint⟩ := List.nodup_append.1 hd
      have hafter : e.1 ∉ after.map Prod.fst := (List.nodup_cons.1 hd).1
      have hbefore : e.1 ∉ before.map Prod.fst := fun hb => hdisjoint _ hb _ List.mem_cons_self rfl
      have hput (before : List (α × β)) (hb : e.1 ∉ before.map Prod.fst) :
          put e.1 e.2 (before ++ (e.1, v) :: after) = before ++ (e.1, e.2) :: after := by
        induction before with
        | nil => simp [put]
        | cons b rest ih =>
          rw [List.map_cons, List.mem_cons, not_or] at hb
          rw [List.cons_append, put, if_neg (Ne.symm hb.1), ih hb.2, List.cons_append]
      have hentries : ((ofList es).insert e.1 e.2).entries = before ++ (e.1, e.2) :: after :=
        (congrArg (put e.1 e.2) hsplit).trans (hput before hbefore)
      rw [hentries, hsplit, insertAll, insertAll, List.foldl_append, List.foldl_append]
      exact (insertAll_insert hafter _ v e.2).symm

/-! ## Filtering -/

theorem get?_filterKeys (m : OrderedMap α β) (p : α → Bool) (k : α) :
    (m.filterKeys p).get? k = if p k then m.get? k else none := by
  apply Option.ext
  intro v
  rw [get?_eq_some, filterKeys, List.mem_filter]
  by_cases hk : p k = true
  · rw [if_pos hk, get?_eq_some]
    exact and_iff_left hk
  · rw [if_neg hk]
    simp [hk]

theorem get?_erase (m : OrderedMap α β) (k l : α) : (m.erase k).get? l = if l = k then none else m.get? l := by
  rw [erase, get?_filterKeys]
  by_cases hl : l = k <;> simp [hl]

omit [DecidableEq α] in
/-- filtering takes back what came in after an earlier state, if it rejects just that -/
theorem filterKeys_append {m n : OrderedMap α β} {p : α → Bool} (hpre : m.entries <+: n.entries)
    (hold : ∀ k ∈ m.keys, p k = true) (hnew : ∀ k ∈ n.keys, k ∉ m.keys → p k = false) :
    n.filterKeys p = m := by
  obtain ⟨more, hmore⟩ := hpre
  have hd := n.distinct
  rw [← hmore, List.map_append] at hd
  have hm : m.entries.filter (p ·.1) = m.entries :=
    List.filter_eq_self.2 fun e he => hold e.1 (List.mem_map.2 ⟨e, he, rfl⟩)
  have hn : more.filter (p ·.1) = [] := by
    rw [List.filter_eq_nil_iff]
    intro e he
    have hk : e.1 ∈ more.map Prod.fst := List.mem_map.2 ⟨e, he, rfl⟩
    have hin : e.1 ∈ n.keys := by
      rw [keys, ← hmore, List.map_append]
      exact List.mem_append_right _ hk
    rw [hnew e.1 hin fun hm => List.disjoint_of_nodup_append hd hm hk]
    decide
  have hf : n.entries.filter (p ·.1) = m.entries := by
    rw [← hmore, List.filter_append, hm, hn, List.append_nil]
  exact ext_entries hf

/-- filtering takes back what came in after an earlier state, if `old` has the keys then and `now` those since -/
theorem filterKeys_grown {m n : OrderedMap α β} {old now : α → Bool} (hpre : m.entries <+: n.entries)
    (hold : ∀ k, m.contains k = true ↔ old k = true) (hnow : ∀ k, n.contains k = true → now k = true) :
    n.filterKeys (fun k => old k || !now k) = m := by
  refine filterKeys_append hpre (fun k hk => ?_) fun k hk hno => ?_
  · rw [(hold k).1 (mem_keys.1 hk), Bool.true_or]
  · have hk' : old k = false := Bool.eq_false_iff.2 fun h => hno (mem_keys.2 ((hold k).2 h))
    rw [hk', hnow k (mem_keys.1 hk)]
    rfl

theorem get?_of_prefix {m n : OrderedMap α β} (h : m.entries <+: n.entries) {k : α} {v : β}
    (hv : m.get? k = some v) : n.get? k = some v :=
  get?_eq_some.2 (h.subset (get?_eq_some.1 hv))

/-! ## Replacing values -/

omit [DecidableEq α] in
@[simp] theorem keys_mapValues {γ : Type} (f : β → γ) (m : OrderedMap α β) : (m.mapValues f).keys = m.keys := by
  simp [keys, mapValues, Function.comp_def]

theorem get?_mapValues {γ : Type} (f : β → γ) (m : OrderedMap α β) (k : α) :
    (m.mapValues f).get? k = (m.get? k).map f := by
  have hlookup (es : List (α × β)) : (es.map fun e => (e.1, f e.2)).lookup k = (es.lookup k).map f := by
    induction es with
    | nil => rfl
    | cons e rest ih =>
      rw [List.map_cons, List.lookup_cons, List.lookup_cons, ih]
      cases k == e.1 <;> rfl
  exact hlookup m.entries

/-! ## Sorting -/

omit [DecidableEq α] in
theorem perm_sortKeys (le : α → α → Bool) (m : OrderedMap α β) : (m.sortKeys le).entries.Perm m.entries :=
  List.mergeSort_perm _ _

theorem get?_congr_of_perm {m n : OrderedMap α β} (h : m.entries.Perm n.entries) (k : α) : m.get? k = n.get? k := by
  apply Option.ext
  intro v
  rw [get?_eq_some, get?_eq_some, h.mem_iff]

theorem get?_sortKeys (le : α → α → Bool) (m : OrderedMap α β) (k : α) : (m.sortKeys le).get? k = m.get? k :=
  get?_congr_of_perm (perm_sortKeys le m) k

omit [DecidableEq α] in
theorem nodup_entries (m : OrderedMap α β) : m.entries.Nodup := m.distinct.of_map _

theorem perm_of_get? {m n : OrderedMap α β} (h : ∀ k, m.get? k = n.get? k) : m.entries.Perm n.entries := by
  rw [List.perm_ext_iff_of_nodup m.nodup_entries n.nodup_entries]
  intro e
  rw [← get?_eq_some (k := e.1) (v := e.2), ← get?_eq_some (k := e.1) (v := e.2), h]

theorem pairwise_sortKeys (m : OrderedMap String β) :
    (m.sortKeys textLe).entries.Pairwise fun a b => textLe a.1 b.1 = true := by
  let le (a b : String × β) : Bool := textLe a.1 b.1
  have htrans : ∀ a b c, le a b = true → le b c = true → le a c = true := fun a b c => textLe_trans a.1 b.1 c.1
  have htotal : ∀ a b, (le a b || le b a) = true := fun a b => textLe_total a.1 b.1
  exact List.pairwise_mergeSort htrans htotal m.entries

/-- sorting sorts the keys -/
theorem keys_sortKeys (m : OrderedMap String β) : (m.sortKeys textLe).keys = m.keys.mergeSort textLe := by
  have hperm : (m.sortKeys textLe).keys.Perm (m.keys.mergeSort textLe) :=
    ((perm_sortKeys textLe m).map Prod.fst).trans (List.mergeSort_perm _ _).symm
  exact hperm.eq_of_pairwise (fun a b _ _ => textLe_antisymm) (List.pairwise_map.2 (pairwise_sortKeys m))
    (List.pairwise_mergeSort textLe_trans textLe_total _)

/-- sorted keys increase strictly, since no key occurs twice -/
theorem strict_sortKeys (m : OrderedMap String β) : (m.sortKeys textLe).keys.Pairwise (· < ·) := by
  have hle : (m.sortKeys textLe).keys.Pairwise fun a b => textLe a b = true := List.pairwise_map.2 (pairwise_sortKeys m)
  have hne : (m.sortKeys textLe).keys.Pairwise (· ≠ ·) := (m.sortKeys textLe).distinct
  refine (hle.and hne).imp ?_
  rintro a b ⟨hab, hdistinct⟩
  exact Std.lt_of_le_of_ne (of_decide_eq_true hab) hdistinct

omit [DecidableEq α] in
theorem mem_keys_sortKeys (le : α → α → Bool) (m : OrderedMap α β) (k : α) :
    k ∈ (m.sortKeys le).keys ↔ k ∈ m.keys :=
  ((perm_sortKeys le m).map Prod.fst).mem_iff

/-- sorting forgets the order in which the keys came in -/
theorem sortKeys_congr {m n : OrderedMap String β} (h : ∀ k, m.get? k = n.get? k) :
    m.sortKeys textLe = n.sortKeys textLe := by
  apply ext_entries
  have hp : (m.sortKeys textLe).entries.Perm (n.sortKeys textLe).entries :=
    (perm_sortKeys _ m).trans ((perm_of_get? h).trans (perm_sortKeys _ n).symm)
  refine hp.eq_of_pairwise (fun a b ha hb hab hba => ?_) (pairwise_sortKeys m) (pairwise_sortKeys n)
  -- two entries under one key are the same entry
  have hk : a.1 = b.1 := textLe_antisymm hab hba
  have hb' : (m.sortKeys textLe).get? b.1 = some b.2 := get?_eq_some.2 (hp.mem_iff.2 hb)
  rw [← hk, get?_eq_some.2 ha] at hb'
  exact Prod.ext hk (Option.some.inj hb')

end OrderedMap

end RouteDocs
