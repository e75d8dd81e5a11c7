/-!
Maps that remember the order in which their keys came in. Giving a present key a new value leaves the key in its
place; a new key goes to the end. No key occurs twice, by the type.
-/

namespace RouteDocs

/-- a map whose entries stand in the order of their first insertion -/
structure OrderedMap (α β : Type) where
  entries : List (α × β)
  /-- no key occurs twice -/
  distinct : (entries.map Prod.fst).Nodup
deriving DecidableEq

namespace OrderedMap

variable {α β : Type}

def empty : OrderedMap α β := ⟨[], .nil⟩

instance : Inhabited (OrderedMap α β) := ⟨empty⟩

instance : EmptyCollection (OrderedMap α β) := ⟨empty⟩

def keys (m : OrderedMap α β) : List α := m.entries.map Prod.fst

def values (m : OrderedMap α β) : List β := m.entries.map Prod.snd

def size (m : OrderedMap α β) : Nat := m.entries.length

variable [DecidableEq α]

def get? (m : OrderedMap α β) (k : α) : Option β := m.entries.lookup k

def contains (m : OrderedMap α β) (k : α) : Bool := (m.get? k).isSome

/-- overwrite the entry of a key, or add one at the end -/
def put (k : α) (v : β) : List (α × β) → List (α × β)
  | [] => [(k, v)]
  | e :: rest => if e.1 = k then (k, v) :: rest else e :: put k v rest

theorem map_fst_put (k : α) (v : β) (es : List (α × β)) :
    (put k v es).map Prod.fst = if k ∈ es.map Prod.fst then es.map Prod.fst else es.map Prod.fst ++ [k] := by
  induction es with
  | nil => simp [put]
  | cons e rest ih =>
    by_cases h : e.1 = k
    · simp [put, h]
    · have h' : k ≠ e.1 := Ne.symm h
      simp only [put, h, if_false, List.map_cons, ih, List.mem_cons, h', false_or]
      split <;> rfl

theorem nodup_put (k : α) (v : β) (es : List (α × β)) (h : (es.map Prod.fst).Nodup) :
    ((put k v es).map Prod.fst).Nodup := by
  rw [map_fst_put]
  split
  · exact h
  · next hk => exact List.nodup_append.2 ⟨h, by simp, by simpa using fun a b hab => fun e => hk (by grind)⟩

def insert (m : OrderedMap α β) (k : α) (v : β) : OrderedMap α β :=
  ⟨put k v m.entries, nodup_put k v _ m.distinct⟩

theorem mem_put {k : α} {v : β} {es : List (α × β)} {e : α × β} (h : e ∈ put k v es) :
    e = (k, v) ∨ e ∈ es := by
  induction es with
  | nil => exact Or.inl (List.mem_singleton.1 h)
  | cons a rest ih =>
    rw [put] at h
    split at h
    · exact (List.mem_cons.1 h).imp_right (List.mem_cons_of_mem _)
    · rcases List.mem_cons.1 h with rfl | h
      · exact Or.inr List.mem_cons_self
      · exact (ih h).imp_right (List.mem_cons_of_mem _)

theorem lookup_put (k l : α) (v : β) (es : List (α × β)) :
    (put k v es).lookup l = if l = k then some v else es.lookup l := by
  induction es with
  | nil =>
    by_cases h : l = k
    · simp [put, h]
    · simp [put, h, List.lookup_cons, beq_eq_false_iff_ne.2 h]
  | cons e rest ih =>
    obtain ⟨a, b⟩ := e
    by_cases ha : a = k
    · by_cases h : l = k
      · simp [put, ha, h]
      · simp [put, ha, h, List.lookup_cons, beq_eq_false_iff_ne.2 h]
    · by_cases h : l = a
      · simp [put, ha, h]
      · simpa [put, ha, List.lookup_cons, beq_eq_false_iff_ne.2 h] using ih

theorem get?_insert (m : OrderedMap α β) (k l : α) (v : β) :
    (m.insert k v).get? l = if l = k then some v else m.get? l := lookup_put k l v m.entries

theorem contains_insert (m : OrderedMap α β) (k l : α) (v : β) :
    (m.insert k v).contains l = (decide (l = k) || m.contains l) := by
  rw [contains, get?_insert]
  by_cases h : l = k <;> simp [h, contains]

/-- all entries of a list inserted in order: the last value of a key wins, in the place of the first -/
def insertAll (m : OrderedMap α β) (es : List (α × β)) : OrderedMap α β :=
  es.foldl (fun m e => m.insert e.1 e.2) m

def ofList (es : List (α × β)) : OrderedMap α β := insertAll empty es

omit [DecidableEq α] in
theorem nodup_filter (p : α × β → Bool) (es : List (α × β)) (h : (es.map Prod.fst).Nodup) :
    ((es.filter p).map Prod.fst).Nodup :=
  h.sublist (List.filter_sublist.map _)

def filterKeys (m : OrderedMap α β) (p : α → Bool) : OrderedMap α β :=
  ⟨m.entries.filter (p ·.1), nodup_filter _ _ m.distinct⟩

def erase (m : OrderedMap α β) (k : α) : OrderedMap α β := m.filterKeys (fun a => !decide (a = k))

omit [DecidableEq α] in
theorem nodup_map_values {γ : Type} (f : β → γ) (es : List (α × β)) (h : (es.map Prod.fst).Nodup) :
    ((es.map fun e => (e.1, f e.2)).map Prod.fst).Nodup := by
  simpa [List.map_map, Function.comp_def] using h

def mapValues {γ : Type} (f : β → γ) (m : OrderedMap α β) : OrderedMap α γ :=
  ⟨m.entries.map fun e => (e.1, f e.2), nodup_map_values f _ m.distinct⟩

/-- the same entries, in whatever order? -/
def sameEntries [DecidableEq β] (m n : OrderedMap α β) : Bool :=
  m.size == n.size && m.entries.all fun e => n.get? e.1 = some e.2

omit [DecidableEq α] in
theorem nodup_sort (le : α → α → Bool) (es : List (α × β)) (h : (es.map Prod.fst).Nodup) :
    ((es.mergeSort fun a b => le a.1 b.1).map Prod.fst).Nodup :=
  ((List.mergeSort_perm es _).map Prod.fst).nodup_iff.2 h

def sortKeys (le : α → α → Bool) (m : OrderedMap α β) : OrderedMap α β :=
  ⟨m.entries.mergeSort fun a b => le a.1 b.1, nodup_sort le _ m.distinct⟩

end OrderedMap

/-- the order of two texts by the code points of their characters -/
def textLe (a b : String) : Bool := decide (a ≤ b)

end RouteDocs
