import Clusterwright.Yaml.Body

/-! # Records — what a mapping says about each part

    A record is built up from a blank one, one entry of a mapping after the other.  What comes of
    it is said here part by part, whatever the order of the entries:

    * `Part`: how a part of a record is written, and where it is found;
    * `Described`: every field reads its own part and leaves the other parts alone;
    * `Given`: a part has the value that the mapping holds for it, or else it is blank;
    * **`record_given`**: all parts of a record that has been read are given;
    * `record_unknown`: a mapping with another key is no record. -/

namespace Clusterwright.Yaml.Body

/-- A part of a record: the name under which it is written, how it is read, and where it is found
    in the record. -/
structure Part (σ : Type) where
  name : String
  Kind : Type
  read : Reader Kind
  get : σ → Kind

variable {σ : Type} {fields : List (Field σ)} {f : Field σ} {parts : List (Part σ)} {p : Part σ}
  {members : List (Value × Value)} {blank r r' : σ} {name what : String} {k v w body : Value}
  {seen : List String}

/-- A field reads the part of its own name, and leaves the parts of other names alone. -/
structure Fits (f : Field σ) (p : Part σ) : Prop where
  own : f.name = p.name → ∀ v r r', f.read v r = .ok r' → p.read v = .ok (p.get r')
  other : f.name ≠ p.name → ∀ v r r', f.read v r = .ok r' → p.get r' = p.get r

/-- The fields of a record are described by its parts. -/
structure Described (fields : List (Field σ)) (parts : List (Part σ)) : Prop where
  names : fields.map (·.name) = parts.map (·.name)
  fits : ∀ f ∈ fields, ∀ p ∈ parts, Fits f p

/-- A mapping has an entry with a name and a value. -/
def Written (members : List (Value × Value)) (name : String) (v : Value) : Prop :=
  ∃ k, (k, v) ∈ members ∧ k.untagged = .text name

/-- A part is what the mapping says about it; if that is nothing, it is blank. -/
structure Given (members : List (Value × Value)) (blank r : σ) (p : Part σ) : Prop where
  written : ∀ v, Written members p.name v → p.read v = .ok (p.get r)
  missing : (∀ v, ¬ Written members p.name v) → p.get r = p.get blank

theorem written_cons :
    Written ((k, v) :: members) name w ↔
      k.untagged = .text name ∧ w = v ∨ Written members name w := by
  constructor
  · rintro ⟨k', hmem, hk'⟩
    rcases List.mem_cons.mp hmem with heq | hmem
    · obtain ⟨rfl, rfl⟩ := Prod.mk.inj heq
      exact .inl ⟨hk', rfl⟩
    · exact .inr ⟨k', hmem, hk'⟩
  · rintro (⟨hk, rfl⟩ | ⟨k', hmem, hk'⟩)
    · exact ⟨k, List.mem_cons_self, hk⟩
    · exact ⟨k', List.mem_cons_of_mem _ hmem, hk'⟩

theorem not_written_nil : ¬ Written [] name v :=
  fun ⟨_, hmem, _⟩ => List.not_mem_nil hmem

/-! ## One field -/

section

variable {α : Type} {read : Reader α} {get : σ → α} {set : α → σ → σ}

theorem field_read_ok (h : (field name read set).read v r = .ok r') :
    ∃ a, read v = .ok a ∧ r' = set a r := by
  change (read v).map _ = _ at h
  cases hread : read v with
  | error m => rw [hread] at h; exact nomatch h
  | ok a => rw [hread] at h; exact ⟨a, rfl, (Except.ok.inj h).symm⟩

theorem fits_own (h : ∀ a r, get (set a r) = a) :
    Fits (field name read set) ⟨name, α, read, get⟩ where
  own _ v r r' hread := by
    obtain ⟨a, ha, rfl⟩ := field_read_ok hread
    exact ha.trans (congrArg Except.ok (h a r).symm)
  other hne := absurd rfl hne

theorem fits_other (hne : name ≠ p.name) (h : ∀ a r, p.get (set a r) = p.get r) :
    Fits (field name read set) p where
  own hname := absurd hname hne
  other _ v r r' hread := by
    obtain ⟨a, -, rfl⟩ := field_read_ok hread
    exact h a r

end

/-! ## One entry -/

theorem bind_eq_ok {ε α β : Type} {x : Except ε α} {f : α → Except ε β} {b : β}
    (h : x >>= f = .ok b) : ∃ a, x = .ok a ∧ f a = .ok b := by
  cases x with
  | error e => exact nomatch h
  | ok a => exact ⟨a, rfl, h⟩

theorem fieldName_eq_ok (h : fieldName k = .ok name) : k.untagged = .text name := by
  unfold fieldName at h
  split at h
  · next s hs => rw [hs, Except.ok.inj h]
  · exact nomatch h

/-- An entry that is read is a new one for some field. -/
theorem entries_cons_ok (h : entries fields ((k, v) :: members) seen r = .ok r') :
    ∃ f ∈ fields, k.untagged = .text f.name ∧ f.name ∉ seen ∧
      ∃ next, f.read v r = .ok next ∧ entries fields members (f.name :: seen) next = .ok r' := by
  unfold entries at h
  obtain ⟨name, hname, h⟩ := bind_eq_ok h
  split at h
  · exact nomatch h
  · next f hfind =>
    have hf : f.name = name := by simpa using List.find?_some hfind
    subst hf
    split at h
    · exact nomatch h
    · next hnew =>
      obtain ⟨next, hread, h⟩ := bind_eq_ok h
      exact ⟨f, List.mem_of_find?_eq_some hfind, fieldName_eq_ok hname, by simpa using hnew, next,
        hread, h⟩

theorem entries_nil_ok (h : entries fields [] seen r = .ok r') : r' = r := by
  unfold entries at h
  split at h
  · exact nomatch h
  · exact (Except.ok.inj h).symm

/-! ## All entries -/

/-- Every key is the name of a field. -/
theorem exists_field_of_mem (h : entries fields members seen r = .ok r')
    (hmem : (k, v) ∈ members) : ∃ f ∈ fields, k.untagged = .text f.name := by
  induction members generalizing seen r with
  | nil => exact absurd hmem List.not_mem_nil
  | cons m rest ih =>
      obtain ⟨f, hf, hk, -, next, -, h⟩ := entries_cons_ok h
      rcases List.mem_cons.mp hmem with rfl | hmem
      · exact ⟨f, hf, hk⟩
      · exact ih h hmem

/-- Nothing is said twice. -/
theorem not_written_of_mem_seen (h : entries fields members seen r = .ok r')
    (hseen : name ∈ seen) (v : Value) : ¬ Written members name v := by
  induction members generalizing seen r with
  | nil => exact not_written_nil
  | cons m rest ih =>
      obtain ⟨f, -, hk, hnew, next, -, h⟩ := entries_cons_ok h
      rw [written_cons]
      rintro (⟨hk', -⟩ | hrest)
      · have hname : f.name = name := Value.text.inj (hk.symm.trans hk')
        exact hnew (hname ▸ hseen)
      · exact ih h (List.mem_cons_of_mem _ hseen) hrest

/-- A part that nothing is said about stays as it is. -/
theorem get_of_not_written (hfits : ∀ f ∈ fields, Fits f p)
    (h : entries fields members seen r = .ok r')
    (hmissing : ∀ v, ¬ Written members p.name v) : p.get r' = p.get r := by
  induction members generalizing seen r with
  | nil => rw [entries_nil_ok h]
  | cons m rest ih =>
      obtain ⟨f, hf, hk, -, next, hread, h⟩ := entries_cons_ok h
      have hne : f.name ≠ p.name := fun hname =>
        hmissing m.2 (written_cons.mpr (.inl ⟨hname ▸ hk, rfl⟩))
      rw [ih h fun v hv => hmissing v (written_cons.mpr (.inr hv)),
        (hfits f hf).other hne m.2 r next hread]

/-- A part that something is said about has this value: later entries are about other parts. -/
theorem read_of_written (hfits : ∀ f ∈ fields, Fits f p)
    (h : entries fields members seen r = .ok r') (hv : Written members p.name v) :
    p.read v = .ok (p.get r') := by
  induction members generalizing seen r with
  | nil => exact absurd hv not_written_nil
  | cons m rest ih =>
      obtain ⟨f, hf, hk, -, next, hread, h⟩ := entries_cons_ok h
      rcases written_cons.mp hv with ⟨hk', rfl⟩ | hv
      · have hname : f.name = p.name := Value.text.inj (hk.symm.trans hk')
        have hseen : p.name ∈ f.name :: seen := hname ▸ List.mem_cons_self
        rw [(hfits f hf).own hname _ r next hread,
          get_of_not_written hfits h (not_written_of_mem_seen h hseen)]
      · exact ih h hv

/-! ## Records -/

theorem record_of_map (hbody : body.untagged = .map members) :
    record what fields blank body = entries fields members [] blank := by
  unfold record
  rw [hbody]

/-- **A RECORD IS GIVEN PART BY PART**: what a mapping is read as has the values that it holds, and
    is blank where it holds none. -/
theorem record_given (hdescribed : Described fields parts) (hbody : body.untagged = .map members)
    (h : record what fields blank body = .ok r) : ∀ p ∈ parts, Given members blank r p := by
  intro p hp
  rw [record_of_map hbody] at h
  have hfits : ∀ f ∈ fields, Fits f p := fun f hf => hdescribed.fits f hf p hp
  exact ⟨fun v hv => read_of_written hfits h hv, get_of_not_written hfits h⟩

/-- A mapping with a key that is the name of no part is no record. -/
theorem record_unknown (hdescribed : Described fields parts) (hbody : body.untagged = .map members)
    (hmem : (k, v) ∈ members) (hk : ∀ name ∈ parts.map (·.name), k.untagged ≠ .text name) :
    ∃ m, record what fields blank body = .error m := by
  rw [record_of_map hbody]
  cases h : entries fields members [] blank with
  | error m => exact ⟨m, rfl⟩
  | ok r =>
      obtain ⟨f, hf, hname⟩ := exists_field_of_mem h hmem
      rw [← hdescribed.names] at hk
      exact absurd hname (hk f.name (List.mem_map_of_mem hf))

/-- What is read as a record and is not null is a mapping. -/
theorem exists_members (h : record what fields blank body = .ok r)
    (hbody : body.untagged ≠ .null) : ∃ members, body.untagged = .map members := by
  unfold record at h
  split at h
  · next members hmembers => exact ⟨members, hmembers⟩
  · next hnull => exact absurd hnull hbody
  · exact nomatch h

end Clusterwright.Yaml.Body
