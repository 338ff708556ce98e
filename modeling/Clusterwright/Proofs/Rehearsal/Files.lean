import Clusterwright.Proofs.Paths
import Clusterwright.Rehearsal.Files
import Mathlib.Data.List.Basic

/-! # Files that differ in one content — what the content of a file has to do with

    Nothing that is done with a tree of files goes by the content of a file but reading it.  Two
    trees that are the same but for the content of one file (`AlikeBut`) stay so, and whatever is
    done with both has the same outcome:

    * `AlikeBut.walk_eq`: paths lead to the same places;
    * `AlikeBut.makeDirectories`, `AlikeBut.write`: directories and files are made in both or in
      neither, and the file itself may get different contents;
    * `AlikeBut.read_eq`: a file at another place is read in the same way.

    The place that a path names is known without looking at the files (`placeOf`), and its last
    step is the name that was joined to it last (`lastName_join`). -/

namespace Clusterwright.Rehearsal.Files

open Tool

variable {base here at_ steps : Steps} {k : String} {files files' : Files} {path : FilePath}

/-! ## Places -/

/-- Where some steps lead from a directory, whatever is there. -/
def follow (here : Steps) : Steps → Steps
  | [] => here
  | name :: rest =>
    if name = "" ∨ name = "." then follow here rest
    else if name = ".." then follow here.dropLast rest
    else follow (here ++ [name]) rest

theorem follow_append (here first rest : Steps) :
    follow here (first ++ rest) = follow (follow here first) rest := by
  induction first generalizing here with
  | nil => rfl
  | cons name first ih =>
      rw [List.cons_append, follow, follow]
      split
      · exact ih here
      · split
        · exact ih here.dropLast
        · exact ih (here ++ [name])

/-- One step of a walk. -/
theorem walk_cons (files : Files) (here : Steps) (name : String) (rest : Steps) :
    walk files here (name :: rest) =
      if name = "" ∨ name = "." then walk files here rest
      else if name = ".." then walk files here.dropLast rest
      else if maxName < name.utf8ByteSize then .error .nameTooLong
      else
        match files.entry? (here ++ [name]) with
        | none => .error .missing
        | some .directory => walk files (here ++ [name]) rest
        | some (.file _) =>
          if rest.isEmpty then .ok (here ++ [name]) else .error .notDirectory := by
  by_cases hempty : name = ""
  · subst hempty
    rw [walk, if_pos (.inl rfl)]
  by_cases hdot : name = "."
  · subst hdot
    rw [walk, if_pos (.inr rfl)]
  by_cases hup : name = ".."
  · subst hup
    rw [walk, if_neg (by decide), if_pos rfl]
  -- the equation of a step to a name asks what the name is not
  rw [walk, if_neg (not_or.mpr ⟨hempty, hdot⟩), if_neg hup] <;> first | rfl | assumption

/-- A walk that comes to its end comes to where its steps lead. -/
theorem walk_follow (h : walk files here steps = .ok at_) : at_ = follow here steps := by
  induction steps generalizing here with
  | nil => exact (Except.ok.inj h).symm
  | cons name rest ih =>
      rw [walk_cons] at h
      rw [follow]
      by_cases hstay : name = "" ∨ name = "."
      · rw [if_pos hstay] at h ⊢
        exact ih h
      rw [if_neg hstay] at h ⊢
      by_cases hup : name = ".."
      · rw [if_pos hup] at h ⊢
        exact ih h
      rw [if_neg hup] at h ⊢
      by_cases hlong : maxName < name.utf8ByteSize
      · rw [if_pos hlong] at h
        cases h
      rw [if_neg hlong] at h
      cases hentry : files.entry? (here ++ [name]) with
      | none =>
          rw [hentry] at h
          cases h
      | some e =>
          rw [hentry] at h
          cases e with
          | directory => exact ih h
          | file content =>
              -- a file has to be the end
              cases rest with
              | nil => exact (Except.ok.inj h).symm
              | cons next rest => cases h

/-! ## Trees that differ in one content -/

/-- Two trees with the same working directory that are the same but for the content of the file
    at one place, if there is one. -/
structure AlikeBut (base : Steps) (k : String) (files files' : Files) : Prop where
  base_left : files.base = base
  base_right : files'.base = base
  elsewhere : ∀ key, key ≠ k → files'.entries.find? key = files.entries.find? key
  there : files'.entries.find? k = files.entries.find? k ∨
    ∃ c c', files.entries.find? k = some (.file c) ∧ files'.entries.find? k = some (.file c')

theorem AlikeBut.refl (files : Files) (k : String) : AlikeBut files.base k files files :=
  ⟨rfl, rfl, fun _ _ => rfl, .inl rfl⟩

/-- What is at a place is the same but for the content of a file. -/
inductive SameKind : Option Entry → Option Entry → Prop
  | same (e : Option Entry) : SameKind e e
  | file (c c' : Bytes) : SameKind (some (.file c)) (some (.file c'))

theorem AlikeBut.entry (h : AlikeBut base k files files') (at_ : Steps) :
    SameKind (files.entry? at_) (files'.entry? at_) := by
  unfold entry?
  rw [h.base_left, h.base_right]
  split
  · exact .same _
  · by_cases hkey : key at_ = k
    · rw [hkey]
      rcases h.there with hsame | ⟨c, c', hc, hc'⟩
      · rw [hsame]
        exact .same _
      · rw [hc, hc']
        exact .file c c'
    · rw [h.elsewhere _ hkey]
      exact .same _

/-- A directory is at the same places. -/
theorem AlikeBut.directory_iff (h : AlikeBut base k files files') (at_ : Steps) :
    files'.entry? at_ = some .directory ↔ files.entry? at_ = some .directory := by
  have hentry := h.entry at_
  generalize files.entry? at_ = e at hentry ⊢
  generalize files'.entry? at_ = e' at hentry ⊢
  cases hentry with
  | same e => rfl
  | file c c' => simp

/-- At another place there is the same. -/
theorem AlikeBut.entry_eq (h : AlikeBut base k files files') (hkey : key at_ ≠ k) :
    files'.entry? at_ = files.entry? at_ := by
  unfold entry?
  rw [h.base_left, h.base_right, h.elsewhere _ hkey]

/-- Paths lead to the same places. -/
theorem AlikeBut.walk_eq (h : AlikeBut base k files files') (here steps : Steps) :
    walk files' here steps = walk files here steps := by
  induction steps generalizing here with
  | nil => rfl
  | cons name rest ih =>
      rw [walk_cons, walk_cons, ih, ih, ih]
      have hentry := h.entry (here ++ [name])
      generalize files.entry? (here ++ [name]) = e at hentry ⊢
      generalize files'.entry? (here ++ [name]) = e' at hentry ⊢
      cases hentry with
      | same e => rfl
      | file c c' => rfl

/-- The same is put at a place of both. -/
theorem AlikeBut.place (h : AlikeBut base k files files') (at_ : Steps) (e : Entry) :
    AlikeBut base k (files.place at_ e) (files'.place at_ e) where
  base_left := h.base_left
  base_right := h.base_right
  elsewhere key' hkey := by
    by_cases hat : key' = key at_
    · rw [hat]
      simp [Files.place]
    · simp [Files.place, SortedMap.find?_insert_of_ne _ _ hat, h.elsewhere key' hkey]
  there := by
    by_cases hat : k = key at_
    · rw [hat]
      exact .inl (by simp [Files.place])
    · simp only [Files.place, SortedMap.find?_insert_of_ne _ _ hat]
      exact h.there

/-- Different contents are put at the place itself. -/
theorem AlikeBut.place_there (h : AlikeBut base k files files') (hat : key at_ = k)
    (c c' : Bytes) : AlikeBut base k (files.place at_ (.file c)) (files'.place at_ (.file c')) where
  base_left := h.base_left
  base_right := h.base_right
  elsewhere key' hkey := by
    have hne : key' ≠ key at_ := by rwa [hat]
    simp [Files.place, SortedMap.find?_insert_of_ne _ _ hne, h.elsewhere key' hkey]
  there := .inr ⟨c, c', by simp [Files.place, hat], by simp [Files.place, hat]⟩

/-! ## What is done with trees -/

/-- Outcomes are alike: the same fault, or trees that differ in one content. -/
inductive OutcomeAlike (base : Steps) (k : String) :
    Except FileFault Files → Except FileFault Files → Prop
  | ok {files files' : Files} : AlikeBut base k files files' →
      OutcomeAlike base k (.ok files) (.ok files')
  | error (fault : FileFault) : OutcomeAlike base k (.error fault) (.error fault)

/-- The name that is the last of some steps. -/
def lastName (steps : Steps) : String := steps.getLast?.getD ""

theorem makeDirectory_eq (files : Files) (from_ steps : Steps) :
    files.makeDirectory from_ steps =
      match walk files from_ (steps.dropLast ++ [""]) with
      | .error fault => .error fault
      | .ok parent =>
        if lastName steps = "" ∨ lastName steps = ".." then .error .exists
        else if maxName < (lastName steps).utf8ByteSize then .error .nameTooLong
        else if (files.entry? (parent ++ [lastName steps])).isSome then .error .exists
        else .ok (files.place (parent ++ [lastName steps]) .directory) := by
  unfold makeDirectory lastName
  cases walk files from_ (steps.dropLast ++ [""]) with
  | error fault => rfl
  | ok parent =>
      show (if _ then _ else if _ then _ else if _ then _ else _) =
        if _ then _ else if _ then _ else if _ then _ else _
      split
      · rfl
      · split
        · rfl
        · split
          · rfl
          · rfl

theorem AlikeBut.makeDirectory (h : AlikeBut base k files files') (from_ steps : Steps) :
    OutcomeAlike base k (files.makeDirectory from_ steps) (files'.makeDirectory from_ steps) := by
  rw [makeDirectory_eq, makeDirectory_eq, h.walk_eq]
  cases walk files from_ (steps.dropLast ++ [""]) with
  | error fault => exact .error fault
  | ok parent =>
      have hsome : (files'.entry? (parent ++ [lastName steps])).isSome =
          (files.entry? (parent ++ [lastName steps])).isSome := by
        have hentry := h.entry (parent ++ [lastName steps])
        generalize files.entry? _ = e at hentry ⊢
        generalize files'.entry? _ = e' at hentry ⊢
        cases hentry with
        | same e => rfl
        | file c c' => rfl
      show OutcomeAlike base k (if _ then _ else if _ then _ else if _ then _ else _)
        (if _ then _ else if _ then _ else if _ then _ else _)
      rw [hsome]
      split
      · exact .error _
      · split
        · exact .error _
        · split
          · exact .error _
          · exact .ok (h.place _ _)

theorem AlikeBut.isDirectory_eq (h : AlikeBut base k files files') (from_ steps : Steps) :
    files'.isDirectory from_ steps = files.isDirectory from_ steps := by
  unfold isDirectory
  rw [h.walk_eq]
  cases walk files from_ (steps ++ [""]) with
  | error fault => rfl
  | ok at_ =>
      show decide (files'.entry? at_ = _) = decide (files.entry? at_ = _)
      rw [decide_eq_decide]
      exact h.directory_iff at_

theorem AlikeBut.excused_eq (h : AlikeBut base k files files') (from_ steps : Steps)
    (fault : FileFault) :
    makeAll.excused from_ steps files' fault = makeAll.excused from_ steps files fault := by
  unfold makeAll.excused
  rw [h.isDirectory_eq]

/-- What is done after the directories above have been made. -/
theorem AlikeBut.afterAbove (h : AlikeBut base k files files') (from_ steps : Steps)
    (made : Except FileFault Unit) :
    let after (files : Files) : Except FileFault Unit × Files :=
      match made, files.makeDirectory from_ steps with
      | .error fault, _ => (.error fault, files)
      | .ok (), .ok files => (.ok (), files)
      | .ok (), .error fault => (makeAll.excused from_ steps files fault, files)
    (after files').1 = (after files).1 ∧ AlikeBut base k (after files).2 (after files').2 := by
  have hmade := h.makeDirectory from_ steps
  cases made with
  | error fault => exact ⟨rfl, h⟩
  | ok _ =>
      simp only []
      generalize files.makeDirectory from_ steps = last at hmade ⊢
      generalize files'.makeDirectory from_ steps = last' at hmade ⊢
      cases hmade with
      | ok hfiles => exact ⟨rfl, hfiles⟩
      | error fault => exact ⟨h.excused_eq from_ steps fault, h⟩

/-- Making directories has the same outcome, and what could be made is made in both. -/
theorem AlikeBut.makeAll (h : AlikeBut base k files files') (from_ : Steps) (count : Nat)
    (steps : Steps) :
    (makeAll from_ count steps files').1 = (makeAll from_ count steps files).1 ∧
      AlikeBut base k (makeAll from_ count steps files).2 (makeAll from_ count steps files').2 := by
  induction count generalizing files files' steps with
  | zero => exact ⟨rfl, h⟩
  | succ count ih =>
      unfold Files.makeAll
      have hmade := h.makeDirectory from_ steps
      have habove := ih h steps.dropLast
      generalize files.makeDirectory from_ steps = made at hmade ⊢
      generalize files'.makeDirectory from_ steps = made' at hmade ⊢
      cases hmade with
      | ok hfiles => exact ⟨rfl, hfiles⟩
      | error fault =>
          cases fault with
          | missing =>
              -- the directories above come first
              generalize Files.makeAll from_ count steps.dropLast files = above at habove ⊢
              generalize Files.makeAll from_ count steps.dropLast files' = above' at habove ⊢
              obtain ⟨result, files⟩ := above
              obtain ⟨_, files'⟩ := above'
              obtain ⟨rfl, hfiles⟩ := habove
              exact hfiles.afterAbove from_ steps _
          | _ => exact ⟨h.excused_eq from_ steps _, h⟩

theorem AlikeBut.makeDirectories (h : AlikeBut base k files files') (path : FilePath) :
    (files'.makeDirectories path).1 = (files.makeDirectories path).1 ∧
      AlikeBut base k (files.makeDirectories path).2 (files'.makeDirectories path).2 := by
  unfold Files.makeDirectories
  split
  · exact ⟨rfl, h⟩
  · have hstart : files'.start path = files.start path := by
      rw [start, start, h.base_left, h.base_right]
    rw [hstart]
    exact h.makeAll _ _ _

theorem write_eq (files : Files) (path : FilePath) (content : Bytes) :
    files.write path content =
      if path.isEmpty then .error .missing
      else if path.toList.contains '\x00' then .error .zeroInName
      else
        match walk files (files.start path) ((stepsOf path).dropLast ++ [""]) with
        | .error fault => .error fault
        | .ok parent =>
          if lastName (stepsOf path) = "" ∨ lastName (stepsOf path) = "." ∨
              lastName (stepsOf path) = ".." then .error .isDirectory
          else if maxName < (lastName (stepsOf path)).utf8ByteSize then .error .nameTooLong
          else if files.entry? (parent ++ [lastName (stepsOf path)]) = some .directory then
            .error .isDirectory
          else .ok (files.place (parent ++ [lastName (stepsOf path)]) (.file content)) := by
  unfold write lastName
  split
  · rfl
  · split
    · rfl
    · show (walk files (files.start path) ((stepsOf path).dropLast ++ [""]) >>= _) = _
      cases walk files (files.start path) ((stepsOf path).dropLast ++ [""]) with
      | error fault => rfl
      | ok parent =>
          show (if _ then _ else if _ then _ else if _ then _ else _) =
            if _ then _ else if _ then _ else if _ then _ else _
          split
          · rfl
          · split
            · rfl
            · split
              · rfl
              · rfl

/-- The place that a path names. -/
def placeOf (base : Steps) (path : FilePath) : Steps :=
  follow (if path.toList.head? = some '/' then [] else base) (stepsOf path).dropLast ++
    [lastName (stepsOf path)]

theorem AlikeBut.start_eq (h : AlikeBut base k files files') (path : FilePath) :
    files'.start path = files.start path := by
  rw [start, start, h.base_left, h.base_right]

/-- Writing a file has the same outcome; at the place itself, also with different contents. -/
theorem AlikeBut.write (h : AlikeBut base k files files') {content content' : Bytes}
    (hcontent : content' = content ∨ key (placeOf base path) = k) :
    OutcomeAlike base k (files.write path content) (files'.write path content') := by
  rw [write_eq, write_eq, h.start_eq, h.walk_eq]
  split
  · exact .error _
  split
  · exact .error _
  cases hwalk : walk files (files.start path) ((stepsOf path).dropLast ++ [""]) with
  | error fault => exact .error fault
  | ok parent =>
      have hdirectory := h.directory_iff (parent ++ [lastName (stepsOf path)])
      show OutcomeAlike base k (if _ then _ else if _ then _ else if _ then _ else _)
        (if _ then _ else if _ then _ else if _ then _ else _)
      split
      · exact .error _
      split
      · exact .error _
      by_cases hdir : files.entry? (parent ++ [lastName (stepsOf path)]) = some .directory
      · rw [if_pos hdir, if_pos (hdirectory.mpr hdir)]
        exact .error _
      rw [if_neg hdir, if_neg (mt hdirectory.mp hdir)]
      rcases hcontent with rfl | hplace
      · exact .ok (h.place _ _)
      · refine .ok (h.place_there ?_ _ _)
        rw [← hplace, placeOf, walk_follow hwalk, follow_append, start, h.base_left]
        rfl

/-! ## Names -/

/-- A name without a separator, which is a step of its own. -/
def IsStep (name : String) : Prop :=
  '/' ∉ name.toList ∧ ¬ (name = "" ∨ name = "." ∨ name = "..")

instance (name : String) : Decidable (IsStep name) :=
  inferInstanceAs (Decidable (_ ∧ _))

theorem IsStep.not_fromRoot {name : String} (h : IsStep name) : ¬ FilePath.FromRoot name :=
  fun hhead => h.1 (List.mem_of_head? hhead)

/-- The last step of a path is the name that it was joined with last; the steps above it do not
    depend on that name. -/
theorem stepsOf_join (dir : FilePath) :
    ∃ above, ∀ {name : String}, IsStep name → stepsOf (dir.join name) = above ++ [name] := by
  have hjoin {name : String} (h : IsStep name) : dir.join name = dir.opening ++ name := by
    rw [FilePath.join_eq, if_neg h.not_fromRoot]
  have hname {name : String} (h : IsStep name) : name.toList.splitOn '/' = [name.toList] :=
    List.splitOn_eq_singleton h.1
  rcases dir.opening_eq_or with hnothing | ⟨above, hopening⟩
  · refine ⟨[], fun {name} h => ?_⟩
    rw [hjoin h, hnothing, String.empty_append, stepsOf, hname h]
    simp
  · refine ⟨(above.splitOn '/').map String.ofList, fun {name} h => ?_⟩
    rw [hjoin h, stepsOf, String.toList_append, hopening, List.append_assoc, List.singleton_append,
      List.splitOn_append_cons_self, hname h, List.map_append]
    simp

theorem lastName_join {name : String} (h : IsStep name) (dir : FilePath) :
    lastName (stepsOf (dir.join name)) = name := by
  obtain ⟨above, hsteps⟩ := stepsOf_join dir
  rw [hsteps h, lastName, List.getLast?_concat, Option.getD_some]

/-- The key of a place ends with its last name. -/
theorem suffix_key (above : Steps) (name : String) :
    name.toList <:+ (key (above ++ [name])).toList := by
  induction above with
  | nil => simp [key]
  | cons first above ih =>
      refine ih.trans ?_
      have hcons : key (first :: above ++ [name]) = first ++ "/" ++ key (above ++ [name]) := by
        cases above with
        | nil => rw [key, key]; exact String.intercalate_cons_cons
        | cons second above => rw [key, key]; exact String.intercalate_cons_cons
      rw [hcons, String.toList_append]
      exact List.suffix_append _ _

/-- Places that different names of the same length were joined to last are different. -/
theorem key_placeOf_ne {name name' : String} (h : IsStep name) (h' : IsStep name')
    (hlength : name.toList.length = name'.toList.length) (hne : name ≠ name')
    (dir dir' : FilePath) :
    key (placeOf base (dir.join name)) ≠ key (placeOf base (dir'.join name')) := by
  intro hkey
  rw [placeOf, placeOf, lastName_join h, lastName_join h'] at hkey
  have hsuffix := hkey ▸ suffix_key _ name
  have hlists : name.toList = name'.toList :=
    (List.suffix_of_suffix_length_le hsuffix (suffix_key _ name')
      (Nat.le_of_eq hlength)).eq_of_length hlength
  exact hne (String.ext hlists)

/-- A path to a name leads to the place that it names, if it leads anywhere. -/
theorem resolve_join {name : String} (h : IsStep name) {dir : FilePath}
    (hresolve : files.resolve (dir.join name) = .ok at_) :
    at_ = placeOf files.base (dir.join name) := by
  obtain ⟨above, hsteps⟩ := stepsOf_join dir
  unfold resolve at hresolve
  split at hresolve
  · cases hresolve
  split at hresolve
  · cases hresolve
  rw [walk_follow hresolve, placeOf, lastName_join h, hsteps h, List.dropLast_concat,
    follow_append, follow, if_neg, if_neg]
  · rfl
  · exact fun hup => h.2 (.inr (.inr hup))
  · rintro (hempty | hdot)
    · exact h.2 (.inl hempty)
    · exact h.2 (.inr (.inl hdot))

/-- A file at another place is read in the same way. -/
theorem AlikeBut.read_eq (h : AlikeBut base k files files') {name : String} (hname : IsStep name)
    {dir : FilePath} (hplace : key (placeOf base (dir.join name)) ≠ k) :
    files'.read (dir.join name) = files.read (dir.join name) := by
  have hresolve : files'.resolve (dir.join name) = files.resolve (dir.join name) := by
    rw [resolve, resolve, h.start_eq, h.walk_eq]
  rw [Files.read, Files.read, readBytes, readBytes, hresolve]
  cases hat : files.resolve (dir.join name) with
  | error fault => rfl
  | ok at_ =>
      obtain rfl := resolve_join hname hat
      dsimp only [bind, Except.bind]
      rw [h.base_left, h.entry_eq hplace]

end Clusterwright.Rehearsal.Files
