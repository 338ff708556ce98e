import Clusterwright.SortedMap
import Mathlib.Data.List.Nodup

/-! # Sorted maps — what is found decides what the map is

    A map in key order has every key once.  Hence finding an entry is having it
    (`find?_eq_some_iff`), maps in which the same is found are equal (`ext_find?`), and a map
    of entries with different keys holds all of them, in whatever order they came
    (`find?_ofList_eq_some_iff`, `ofList_of_perm`). -/

namespace Clusterwright.SortedMap

variable {α : Type} {m n : SortedMap α} {entries : List (String × α)} {key : String} {value : α}

theorem keys_nodup (m : SortedMap α) : m.keys.Nodup :=
  m.keys_sorted.imp fun {a b} (hlt : a < b) (heq : a = b) => String.lt_irrefl b (heq ▸ hlt)

/-- Where no key is given twice, whatever entry there is is the one that is found. -/
theorem lookup_eq_some_iff_mem (h : (entries.map Prod.fst).Nodup) :
    entries.lookup key = some value ↔ (key, value) ∈ entries := by
  induction entries with
  | nil => simp
  | cons head rest ih =>
      obtain ⟨k, v⟩ := head
      rw [List.map_cons, List.nodup_cons] at h
      rw [List.lookup_cons]
      cases hkey : key == k with
      | true =>
          obtain rfl : key = k := eq_of_beq hkey
          have hnew : (key, value) ∉ rest := fun hmem =>
            h.1 (List.mem_map.mpr ⟨(key, value), hmem, rfl⟩)
          simp [hnew, eq_comm]
      | false =>
          have hne : key ≠ k := by simpa using hkey
          simp [hne, ih h.2]

theorem find?_eq_some_iff : m.find? key = some value ↔ (key, value) ∈ m.entries :=
  lookup_eq_some_iff_mem m.keys_nodup

theorem contains_iff_mem_keys : m.contains key = true ↔ key ∈ m.keys := by
  rw [contains, Option.isSome_iff_exists, keys, List.mem_map]
  constructor
  · rintro ⟨value, h⟩
    exact ⟨_, find?_eq_some_iff.mp h, rfl⟩
  · rintro ⟨⟨_, value⟩, h, rfl⟩
    exact ⟨value, find?_eq_some_iff.mpr h⟩

/-- Entries with different keys are the same ones, in some order, if the same is found in them. -/
theorem perm_of_lookup {others : List (String × α)} (h : (entries.map Prod.fst).Nodup)
    (hothers : (others.map Prod.fst).Nodup)
    (hlookup : ∀ key, entries.lookup key = others.lookup key) : entries.Perm others := by
  rw [List.perm_ext_iff_of_nodup (.of_map _ h) (.of_map _ hothers)]
  rintro ⟨key, value⟩
  rw [← lookup_eq_some_iff_mem h, ← lookup_eq_some_iff_mem hothers, hlookup]

/-- Maps in which the same is found under every key are equal. -/
theorem ext_find? (h : ∀ key, m.find? key = n.find? key) : m = n := by
  have hperm : m.entries.Perm n.entries := perm_of_lookup m.keys_nodup n.keys_nodup h
  refine ext (hperm.eq_of_pairwise ?_ m.sorted n.sorted)
  exact fun a b _ _ hab hba => absurd (String.lt_trans hab hba) (String.lt_irrefl _)

/-- Among entries that are put into a map one after the other, the last one with a key is found. -/
theorem find?_foldl_insert (entries : List (String × α)) (m : SortedMap α) (key : String) :
    (entries.foldl (fun m e => m.insert e.1 e.2) m).find? key =
      (entries.reverse.lookup key).or (m.find? key) := by
  induction entries generalizing m with
  | nil => simp
  | cons e rest ih =>
      rw [List.foldl_cons, ih, List.reverse_cons, List.lookup_append, Option.or_assoc]
      congr 1
      rw [List.lookup_cons, List.lookup_nil]
      cases hkey : key == e.1 with
      | true =>
          rw [eq_of_beq hkey, find?_insert_self]
          rfl
      | false =>
          rw [find?_insert_of_ne m e.2 (by simpa using hkey)]
          rfl

theorem find?_ofList (entries : List (String × α)) (key : String) :
    (ofList entries).find? key = entries.reverse.lookup key := by
  rw [ofList, find?_foldl_insert, find?_empty, Option.or_none]

/-- In the map of entries with different keys all of them are found. -/
theorem find?_ofList_eq_some_iff (h : (entries.map Prod.fst).Nodup) :
    (ofList entries).find? key = some value ↔ (key, value) ∈ entries := by
  have hreverse : (entries.reverse.map Prod.fst).Nodup := by
    rw [List.map_reverse]
    exact List.nodup_reverse.mpr h
  rw [find?_ofList, lookup_eq_some_iff_mem hreverse, List.mem_reverse]

/-- A map is made of its entries in whatever order they are put into it. -/
theorem ofList_of_perm (h : entries.Perm m.entries) : ofList entries = m := by
  have hnodup : (entries.map Prod.fst).Nodup := (h.map Prod.fst).nodup_iff.mpr m.keys_nodup
  refine ext_find? fun key => Option.ext fun value => ?_
  rw [find?_ofList_eq_some_iff hnodup, find?_eq_some_iff, h.mem_iff]

end Clusterwright.SortedMap
