/-!
# Maps in key order

A map from texts is the list of its entries in strictly ascending order of their keys, so that two
maps with the same entries are equal and every listing is sorted. Texts are ordered by code point,
which is also the order of their encoded bytes.

* `find?_insert_self`, `find?_insert_of_ne`: what an insertion changes and what it leaves alone.
* `keys_sorted`: the keys are strictly ascending.
-/

namespace Clusterwright

/-- Entries in strictly ascending order of their keys. -/
structure SortedMap (α : Type) where
  entries : List (String × α)
  sorted : entries.Pairwise fun a b => a.1 < b.1
  deriving Repr

namespace SortedMap

variable {α β : Type}

/-- Inserts an entry among sorted ones; an entry with the same key is replaced. -/
def insertEntry (key : String) (value : α) : List (String × α) → List (String × α)
  | [] => [(key, value)]
  | (k, v) :: rest =>
    if key < k then (key, value) :: (k, v) :: rest
    else if k < key then (k, v) :: insertEntry key value rest
    else (key, value) :: rest

theorem mem_insertEntry {key : String} {value : α} {entries : List (String × α)}
    {e : String × α} (h : e ∈ insertEntry key value entries) :
    e = (key, value) ∨ e ∈ entries := by
  induction entries with
  | nil => simpa [insertEntry] using h
  | cons head rest ih =>
    obtain ⟨k, v⟩ := head
    rw [insertEntry] at h
    split at h
    · simpa using h
    · split at h
      · rcases List.mem_cons.1 h with h | h
        · exact .inr (h ▸ List.mem_cons_self ..)
        · rcases ih h with h | h
          · exact .inl h
          · exact .inr (List.mem_cons_of_mem _ h)
      · rcases List.mem_cons.1 h with h | h
        · exact .inl h
        · exact .inr (List.mem_cons_of_mem _ h)

theorem insertEntry_sorted (key : String) (value : α) {entries : List (String × α)}
    (h : entries.Pairwise fun a b => a.1 < b.1) :
    (insertEntry key value entries).Pairwise fun a b => a.1 < b.1 := by
  induction entries with
  | nil => simp [insertEntry]
  | cons head rest ih =>
    obtain ⟨k, v⟩ := head
    obtain ⟨hhead, hrest⟩ := List.pairwise_cons.1 h
    rw [insertEntry]
    split
    · rename_i hlt
      refine List.pairwise_cons.2 ⟨fun e he => ?_, h⟩
      rcases List.mem_cons.1 he with rfl | he
      · exact hlt
      · exact String.lt_trans hlt (hhead e he)
    · split
      · rename_i hlt
        refine List.pairwise_cons.2 ⟨fun e he => ?_, ih hrest⟩
        rcases mem_insertEntry he with rfl | he
        · exact hlt
        · exact hhead e he
      · rename_i hnot hnot'
        have hkey : key = k := String.le_antisymm hnot' hnot
        subst hkey
        exact List.pairwise_cons.2 ⟨hhead, hrest⟩

/-- The map without entries. -/
def empty : SortedMap α := ⟨[], .nil⟩

instance : Inhabited (SortedMap α) := ⟨empty⟩

/-- The map with one more entry, which replaces an entry with the same key. -/
def insert (m : SortedMap α) (key : String) (value : α) : SortedMap α :=
  ⟨insertEntry key value m.entries, insertEntry_sorted key value m.sorted⟩

/-- The map of some entries; the last one with a key wins. -/
def ofList (entries : List (String × α)) : SortedMap α :=
  entries.foldl (fun m e => m.insert e.1 e.2) empty

/-- The value under a key. -/
def find? (m : SortedMap α) (key : String) : Option α := m.entries.lookup key

/-- Whether there is an entry with a key. -/
def contains (m : SortedMap α) (key : String) : Bool := (m.find? key).isSome

/-- The keys, in ascending order. -/
def keys (m : SortedMap α) : List String := m.entries.map (·.1)

/-- The values, in the order of their keys. -/
def values (m : SortedMap α) : List α := m.entries.map (·.2)

/-- Whether there are no entries. -/
def isEmpty (m : SortedMap α) : Bool := m.entries.isEmpty

/-- The same keys with other values. -/
def map (f : α → β) (m : SortedMap α) : SortedMap β :=
  ⟨m.entries.map fun e => (e.1, f e.2), by
    simpa [List.pairwise_map] using m.sorted⟩

theorem ext {m n : SortedMap α} (h : m.entries = n.entries) : m = n := by
  cases m; cases n; simp_all

instance [DecidableEq α] : DecidableEq (SortedMap α) := fun m n =>
  decidable_of_iff (m.entries = n.entries) ⟨ext, fun h => h ▸ rfl⟩

theorem keys_sorted (m : SortedMap α) : m.keys.Pairwise (· < ·) := by
  simpa [keys, List.pairwise_map] using m.sorted

theorem lookup_insertEntry_self (key : String) (value : α) (entries : List (String × α)) :
    (insertEntry key value entries).lookup key = some value := by
  induction entries with
  | nil => simp [insertEntry]
  | cons head rest ih =>
    obtain ⟨k, v⟩ := head
    rw [insertEntry]
    split
    · simp
    · split
      · rename_i hlt
        have hne : (key == k) = false := by
          simpa using fun h : key = k => String.lt_irrefl k (h ▸ hlt)
        simp [List.lookup_cons, hne, ih]
      · simp

theorem lookup_insertEntry_of_ne {key other : String} (value : α) (hne : other ≠ key)
    (entries : List (String × α)) :
    (insertEntry key value entries).lookup other = entries.lookup other := by
  have hk : (other == key) = false := by simpa using hne
  induction entries with
  | nil => simp [insertEntry, List.lookup_cons, hk]
  | cons head rest ih =>
    obtain ⟨k, v⟩ := head
    rw [insertEntry]
    split
    · simp [List.lookup_cons, hk]
    · split
      · cases h : other == k <;> simp [List.lookup_cons, h, ih]
      · rename_i hnot hnot'
        have hkey : key = k := String.le_antisymm hnot' hnot
        subst hkey
        simp [List.lookup_cons, hk]

@[simp] theorem find?_insert_self (m : SortedMap α) (key : String) (value : α) :
    (m.insert key value).find? key = some value :=
  lookup_insertEntry_self key value m.entries

theorem find?_insert_of_ne (m : SortedMap α) {key other : String} (value : α)
    (hne : other ≠ key) : (m.insert key value).find? other = m.find? other :=
  lookup_insertEntry_of_ne value hne m.entries

@[simp] theorem find?_empty (key : String) : (empty : SortedMap α).find? key = none := rfl

end SortedMap

end Clusterwright
