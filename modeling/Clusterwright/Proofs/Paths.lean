import Clusterwright.Environment

/-! # Paths — what lies under a directory

    A path that is joined to a directory stands for itself if it begins at the root, and otherwise
    it goes on from the directory with one separator (`join_eq`).  All other facts about joined
    paths come from that:

    * `FromRoot`, `opening`: how a path begins, and how everything in a directory does;
    * `Under`: a path is a directory or lies below it, as both are written.  What is joined to a
      directory lies under it (`Under.join`), unless it begins at the root (`under_join_iff`);
    * `under_of_names`: a directory with two entries under another one is under it itself. -/

namespace Clusterwright.FilePath

variable {dir base path rest : FilePath}

/-- The path begins at the root. -/
def FromRoot (path : FilePath) : Prop := path.toList.head? = some '/'

instance (path : FilePath) : Decidable path.FromRoot :=
  inferInstanceAs (Decidable (_ = _))

/-- How everything in a directory begins: with the directory and a separator, unless the directory
    is empty or ends with one. -/
def opening (dir : FilePath) : String :=
  if dir.isEmpty ∨ dir.toList.getLast? = some '/' then dir else dir ++ "/"

/-- The path is the directory or lies below it, as both are written. -/
def Under (dir path : FilePath) : Prop := dir.opening.toList <+: path.opening.toList

instance (dir path : FilePath) : Decidable (dir.Under path) :=
  inferInstanceAs (Decidable (_ <+: _))

theorem join_eq (base rest : FilePath) :
    base.join rest = if rest.FromRoot then rest else base.opening ++ rest := by
  by_cases hrest : rest.FromRoot
  · rw [if_pos hrest]
    exact if_pos hrest
  · have hjoin : base.join rest =
        if base.isEmpty ∨ base.toList.getLast? = some '/' then base ++ rest
        else base ++ "/" ++ rest := if_neg hrest
    rw [if_neg hrest, hjoin, opening]
    split <;> rfl

theorem prefix_opening (path : FilePath) : path.toList <+: path.opening.toList := by
  unfold opening
  split
  case isTrue => exact List.prefix_refl _
  case isFalse =>
    rw [String.toList_append]
    exact List.prefix_append _ _

theorem opening_isPrefix_append (path : FilePath) :
    path.opening.toList <+: path.toList ++ ['/'] := by
  unfold opening
  split
  case isTrue => exact List.prefix_append _ _
  case isFalse =>
    rw [String.toList_append]
    exact List.prefix_refl _

/-- The opening of a directory is nothing or ends with a separator. -/
theorem opening_eq_or (dir : FilePath) :
    dir.opening = "" ∨ ∃ above, dir.opening.toList = above ++ ['/'] := by
  unfold opening
  split
  case isTrue h =>
    rcases h with hempty | hslash
    · exact .inl (String.isEmpty_iff.mp hempty)
    · exact .inr (List.getLast?_eq_some_iff.mp hslash)
  case isFalse => exact .inr ⟨dir.toList, by rw [String.toList_append]; rfl⟩

/-- What is joined to a directory begins at the root if the directory does. -/
theorem fromRoot_join_iff (hrest : ¬ rest.FromRoot) :
    (base.join rest).FromRoot ↔ base.FromRoot := by
  rw [join_eq, if_neg hrest, FromRoot, FromRoot, opening]
  cases hbase : base.toList with
  | nil =>
      obtain rfl : base = "" := String.toList_eq_nil_iff.mp hbase
      simpa [FromRoot] using hrest
  | cons c cs => split <;> simp [hbase]

theorem Under.refl (dir : FilePath) : dir.Under dir := List.prefix_refl _

theorem Under.trans (hbase : dir.Under base) (hpath : base.Under path) : dir.Under path :=
  List.IsPrefix.trans hbase hpath

theorem under_opening_append (dir rest : FilePath) : dir.Under (dir.opening ++ rest) := by
  refine List.IsPrefix.trans ?_ (prefix_opening _)
  rw [String.toList_append]
  exact List.prefix_append _ _

/-- What is joined to a directory lies under it, and so under all that the directory lies under. -/
theorem Under.join (hbase : dir.Under base) (rest : FilePath) (hrest : ¬ rest.FromRoot) :
    dir.Under (base.join rest) := by
  rw [join_eq, if_neg hrest]
  exact hbase.trans (under_opening_append base rest)

theorem under_join_iff (hbase : dir.Under base) :
    dir.Under (base.join rest) ↔ ¬ rest.FromRoot ∨ dir.Under rest := by
  by_cases hrest : rest.FromRoot
  · rw [join_eq, if_pos hrest]
    exact (or_iff_right (not_not_intro hrest)).symm
  · exact iff_of_true (hbase.join rest hrest) (.inl hrest)

/-- What lies under a directory at two names that begin differently has them joined to something
    under the directory. -/
theorem under_of_names {name name' : String} {c c' : Char} {cs cs' : List Char}
    (h : dir.Under (base.opening ++ name)) (h' : dir.Under (base.opening ++ name'))
    (hname : name.toList = c :: cs) (hname' : name'.toList = c' :: cs') (hne : c ≠ c') :
    dir.Under base := by
  have hlist {name : String} {c : Char} {cs : List Char} (h : dir.Under (base.opening ++ name))
      (hname : name.toList = c :: cs) :
      dir.opening.toList <+: base.opening.toList ++ c :: (cs ++ ['/']) := by
    have hopening := List.IsPrefix.trans h (opening_isPrefix_append _)
    rwa [String.toList_append, hname, List.append_assoc, List.cons_append] at hopening
  have hfirst := hlist h hname
  have hsecond := hlist h' hname'
  rcases List.prefix_or_prefix_of_prefix hfirst (List.prefix_append _ _) with hshort | ⟨more, hlong⟩
  · exact hshort
  · rw [← hlong, List.prefix_append_right_inj] at hfirst hsecond
    -- whatever more there was would begin both names
    cases more with
    | nil => exact ⟨[], (List.append_nil _).trans (hlong.symm.trans (List.append_nil _))⟩
    | cons d more =>
        have hc := (List.cons_prefix_cons.mp hfirst).1
        have hc' := (List.cons_prefix_cons.mp hsecond).1
        exact absurd (hc.symm.trans hc') hne

end Clusterwright.FilePath
