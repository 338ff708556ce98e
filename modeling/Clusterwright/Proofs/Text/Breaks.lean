import Mathlib.Data.List.Basic

/-! # Breaks — the lines of a text

    Whoever reads a text line by line cuts it at its line breaks, wherever they come from.
    `linesOf_join` says that texts that are written one after the other are read one after the
    other, and `linesOf_of_unbroken` that each is read as it is if it has no line break in it;
    `unbroken_of_mem_linesOf` says that nobody ever reads a line with a line break. -/

namespace Clusterwright.Text

/-- A text without a line break. -/
def Unbroken (s : String) : Prop := '\n' ∉ s.toList

instance (s : String) : Decidable (Unbroken s) :=
  inferInstanceAs (Decidable ('\n' ∉ s.toList))

theorem unbroken_append {s t : String} : Unbroken (s ++ t) ↔ Unbroken s ∧ Unbroken t := by
  simp [Unbroken]

/-- The lines of a text, as they are read. -/
def linesOf (text : String) : List String := (text.toList.splitOn '\n').map String.ofList

/-- A list that is cut where a condition holds has no such place left in its pieces. -/
theorem not_cut_of_mem_splitOnP {α : Type} {isCut : α → Bool} {xs piece : List α}
    (h : piece ∈ xs.splitOnP isCut) : ∀ x ∈ piece, isCut x = false := by
  induction xs generalizing piece with
  | nil =>
      rw [List.splitOnP_nil] at h
      obtain rfl := List.mem_singleton.mp h
      exact List.forall_mem_nil _
  | cons x xs ih =>
      rw [List.splitOnP_cons_eq_if_modifyHead] at h
      cases hx : isCut x with
      | true =>
          rw [hx, if_pos rfl] at h
          rcases List.mem_cons.mp h with rfl | hold
          · exact List.forall_mem_nil _
          · exact ih hold
      | false =>
          rw [hx, if_neg Bool.false_ne_true] at h
          cases hpieces : xs.splitOnP isCut with
          | nil => exact absurd hpieces (List.splitOnP_ne_nil _ _)
          | cons first more =>
              rw [hpieces, List.modifyHead_cons] at h
              rw [hpieces] at ih
              rcases List.mem_cons.mp h with rfl | hold
              · exact List.forall_mem_cons.mpr ⟨hx, ih List.mem_cons_self⟩
              · exact ih (List.mem_cons_of_mem first hold)

/-- What is left whole is the list itself, if there is no place in it to cut. -/
theorem splitOn_eq_singleton_iff {α : Type} [BEq α] [LawfulBEq α] {x : α} {xs piece : List α} :
    xs.splitOn x = [piece] ↔ piece = xs ∧ x ∉ xs := by
  constructor
  · intro h
    obtain rfl : piece = xs := by
      have hjoined : [x].intercalate (xs.splitOn x) = xs := List.intercalate_splitOn x
      rwa [h, List.intercalate_singleton] at hjoined
    refine ⟨rfl, fun hmem => ?_⟩
    have hpiece : piece ∈ piece.splitOnP (· == x) := by
      rw [← List.splitOn_eq_splitOnP, h]
      exact List.mem_singleton_self piece
    exact absurd (not_cut_of_mem_splitOnP hpiece x hmem) (by simp)
  · rintro ⟨rfl, hx⟩
    exact List.splitOn_eq_singleton hx

theorem unbroken_of_mem_linesOf {text line : String} (h : line ∈ linesOf text) :
    Unbroken line := by
  obtain ⟨piece, hpiece, rfl⟩ := List.mem_map.mp h
  rw [List.splitOn_eq_splitOnP] at hpiece
  intro hbreak
  rw [String.toList_ofList] at hbreak
  exact absurd (not_cut_of_mem_splitOnP hpiece _ hbreak) (by decide)

/-- Texts that are written one after the other, each with a line break at its end, are read one
    after the other. -/
theorem linesOf_join (texts : List String) :
    linesOf (String.join (texts.map (· ++ "\n"))) = texts.flatMap linesOf ++ [""] := by
  induction texts with
  | nil => rfl
  | cons text texts ih =>
      have hlist : (String.join ((text :: texts).map (· ++ "\n"))).toList =
          text.toList ++ '\n' :: (String.join (texts.map (· ++ "\n"))).toList := by
        rw [List.map_cons, String.join_cons, String.toList_append, String.toList_append,
          List.append_assoc]
        rfl
      rw [linesOf, hlist, List.splitOn_eq_splitOnP, List.splitOnP_append_cons _ _ (by decide),
        List.map_append, List.flatMap_cons, List.append_assoc, ← ih]
      rfl

/-- A line is read as it was written. -/
theorem linesOf_of_unbroken {line : String} (h : Unbroken line) : linesOf line = [line] := by
  rw [linesOf, List.splitOn_eq_singleton h, List.map_singleton, String.ofList_toList]

end Clusterwright.Text
