/-
Ways back to the working directory: down from the root, and up some directories and down again.

- `follow_down`: from a directory above the working directory, its names lead back to it.
- `follow_up_down`: so double points and these names together change nothing.
- `locate_absolute`: an absolute path that passes the working directory leads where the rest of it does.
-/
import RouteDocs.Files.FileTree

namespace RouteDocs.Files.FileTree

/-- a name that a path can have for a directory on its way -/
structure IsName (name : String) : Prop where
  not_up : name ≠ ".."
  fits : name.utf8ByteSize ≤ maxNameSize
  no_null : name.toList.contains '\x00' = false

variable {t : FileTree} {k : Nat} {parts : List String}

theorem isTop_replicate (k : Nat) : isTop (List.replicate k "..") = true :=
  List.all_eq_true.2 fun _ hx => beq_iff_eq.2 (List.eq_of_mem_replicate hx)

theorem up_replicate (hk : k < t.above.length) : t.up (List.replicate k "..") = List.replicate (k + 1) ".." := by
  rw [up, if_pos (isTop_replicate k), List.length_replicate, if_pos hk, ← List.replicate_succ']

theorem down_replicate (hk : k < t.above.length) :
    t.down (List.replicate (k + 1) "..") t.above[t.above.length - (k + 1)] = List.replicate k ".." := by
  have hway : t.above[t.above.length - (k + 1)]? = some t.above[t.above.length - (k + 1)] :=
    List.getElem?_eq_getElem (by omega)
  rw [down, isTop_replicate, List.length_replicate, hway, beq_self_eq_true, Bool.and_true, if_pos rfl,
    List.replicate_succ', List.dropLast_concat]

/-- From a directory above the working directory, the names on the way lead back to it. -/
theorem follow_down (hnames : ∀ name ∈ t.above, IsName name) (hk : k ≤ t.above.length) (parts : List String) :
    t.follow (List.replicate k "..") (t.above.drop (t.above.length - k) ++ parts) = t.follow [] parts := by
  induction k with
  | zero => rw [Nat.sub_zero, List.drop_length, List.replicate_zero, List.nil_append]
  | succ k ih =>
    have hname := hnames _ (List.getElem_mem (by omega : t.above.length - (k + 1) < t.above.length))
    have hrest : t.above.length - (k + 1) + 1 = t.above.length - k := by omega
    have hentry : t.entry? (List.replicate k "..") = some .directory := by rw [ entry?, if_pos (isTop_replicate k)]
    rw [List.drop_eq_getElem_cons (by omega), List.cons_append, follow, if_neg hname.not_up,
      if_neg (Nat.not_lt.2 hname.fits), down_replicate hk, hentry, hrest]
    exact ih (Nat.le_of_succ_le hk)

/-- Double points lead up as long as there is something above. -/
theorem follow_up (hk : k ≤ t.above.length) (parts : List String) :
    t.follow [] (List.replicate k ".." ++ parts) = t.follow (List.replicate k "..") parts := by
  induction k generalizing parts with
  | zero => rfl
  | succ k ih =>
    rw [List.replicate_succ', List.append_assoc, List.singleton_append, ih (Nat.le_of_succ_le hk), follow, if_pos rfl,
      up_replicate hk, List.replicate_succ']

/-- **Up and down again.** Some double points, and the names that lead back, change nothing. -/
theorem follow_up_down (hnames : ∀ name ∈ t.above, IsName name) (hk : k ≤ t.above.length) (parts : List String) :
    t.follow [] (List.replicate k ".." ++ (t.above.drop (t.above.length - k) ++ parts)) = t.follow [] parts := by
  rw [follow_up hk, follow_down hnames hk]

/-- **Down from the root.** An absolute path that passes the working directory leads where the rest of it leads. -/
theorem locate_absolute {root : String} (hroot : root.isEmpty = false) (hnames : ∀ name ∈ t.above, IsName name)
    (hlong : (Path.mk root (t.above ++ parts)).text.utf8ByteSize ≤ maxPathSize)
    (hshort : (Path.mk "" parts).text.utf8ByteSize ≤ maxPathSize) :
    t.locate ⟨root, t.above ++ parts⟩ = t.locate ⟨"", parts⟩ := by
  have hnull : (Path.mk root (t.above ++ parts)).hasNull = (Path.mk "" parts).hasNull := by
    have habove : (t.above.any fun part => part.toList.contains '\x00') = false :=
      List.any_eq_false.2 fun name hname => Bool.eq_false_iff.1 (hnames name hname).no_null
    rw [Path.hasNull, Path.hasNull, List.any_append, habove, Bool.false_or]
  have hway := follow_down hnames (Nat.le_refl _) parts
  rw [Nat.sub_self, List.drop_zero] at hway
  have hstart : t.start ⟨root, t.above ++ parts⟩ = t.top := by rw [start, hroot, if_neg Bool.false_ne_true]
  rw [locate, locate, hnull, if_neg (Nat.not_lt.2 hlong), if_neg (Nat.not_lt.2 hshort), hstart, top, hway]
  rfl

example : (empty.put ["app"] .directory).locate (.ofText "/tmp/work/../work/app") = .directory ["app"] := by
  decide +kernel

end RouteDocs.Files.FileTree
