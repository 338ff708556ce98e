import Clusterwright.Proofs.Rehearsal.Files

/-! # Written files — what was written is there

    A file that was written has the content that it was written with, by the same path, and a
    file of another name in the same directory has the content that it had.

    * `entry?_place_self`, `entry?_place_of_ne`, `entry?_place_directory`: what is at a place
      after something was put at one;
    * `Leads`: a walk from a directory to a directory, which can be gone on from there, and
      which a file that is put somewhere is not in the way of;
    * `exists_of_write`: what has to be the case for a file to be written;
    * **`readBytes_of_write`**, **`readBytes_beside`**: the two laws. -/

namespace Clusterwright.Rehearsal.Files

open Tool

variable {files files' : Files} {here at_ spot steps : Steps} {path : FilePath} {content : Bytes}

/-! ## Entries -/

/-- At a place that is not always a directory there is what was put there. -/
theorem entry?_place_self (hfree : files.entry? spot ≠ some .directory) (e : Entry) :
    Files.entry? (files.place spot e) spot = some e := by
  unfold entry? at hfree ⊢
  split at hfree
  · exact absurd rfl hfree
  next hother =>
    rw [if_neg (show ¬ (spot = [] ∨ spot = (files.place spot e).base) from hother)]
    exact SortedMap.find?_insert_self _ _ _

theorem entry?_place_of_ne (hkey : key at_ ≠ key spot) (e : Entry) :
    Files.entry? (files.place spot e) at_ = files.entry? at_ := by
  show (if at_ = [] ∨ at_ = files.base then _ else (files.entries.insert _ e).find? (key at_)) = _
  rw [SortedMap.find?_insert_of_ne _ _ hkey]
  rfl

/-- A directory stays, if what is put somewhere does not take the place of one. -/
theorem entry?_place_directory (hfree : files.entry? spot ≠ some .directory)
    (hat : files.entry? at_ = some .directory) (e : Entry) :
    Files.entry? (files.place spot e) at_ = some .directory := by
  by_cases hkey : key at_ = key spot
  case neg => rwa [entry?_place_of_ne hkey]
  unfold entry? at hfree hat ⊢
  split at hfree
  · exact absurd rfl hfree
  split at hat
  next hbase => exact if_pos hbase
  next => exact absurd (hkey ▸ hat) hfree

/-! ## Walks -/

/-- Some steps lead from a directory to a directory. -/
inductive Leads (files : Files) : Steps → Steps → Steps → Prop where
  | arrived (at_ : Steps) : Leads files at_ [] at_
  | stay {name : String} {here rest at_ : Steps} : name = "" ∨ name = "." →
      Leads files here rest at_ → Leads files here (name :: rest) at_
  | up {name : String} {here rest at_ : Steps} : ¬ (name = "" ∨ name = ".") → name = ".." →
      Leads files here.dropLast rest at_ → Leads files here (name :: rest) at_
  | down {name : String} {here rest at_ : Steps} : ¬ (name = "" ∨ name = ".") → name ≠ ".." →
      ¬ maxName < name.utf8ByteSize → files.entry? (here ++ [name]) = some .directory →
      Leads files (here ++ [name]) rest at_ → Leads files here (name :: rest) at_

/-- A walk that does not end at a file has led to a directory. -/
theorem leads_of_walk (h : walk files here (steps ++ [""]) = .ok at_) :
    Leads files here steps at_ := by
  induction steps generalizing here with
  | nil =>
      obtain rfl : here = at_ := Except.ok.inj h
      exact .arrived here
  | cons name steps ih =>
      rw [List.cons_append, walk_cons] at h
      split at h
      next hstay => exact .stay hstay (ih h)
      next hstay =>
        split at h
        next hup => exact .up hstay hup (ih h)
        next hup =>
          split at h
          · cases h
          next hlong =>
            cases hentry : files.entry? (here ++ [name]) with
            | none => rw [hentry] at h; cases h
            | some e =>
                rw [hentry] at h
                cases e with
                | directory => exact .down hstay hup hlong hentry (ih h)
                | file content => simp at h

/-- A walk goes on from where it has led. -/
theorem Leads.walk_eq (h : Leads files here steps at_) (rest : Steps) :
    walk files here (steps ++ rest) = walk files at_ rest := by
  induction h with
  | arrived at_ => rfl
  | stay hstay _ ih => rw [List.cons_append, walk_cons, if_pos hstay, ih]
  | up hstay hup _ ih => rw [List.cons_append, walk_cons, if_neg hstay, if_pos hup, ih]
  | down hstay hup hlong hentry _ ih =>
      rw [List.cons_append, walk_cons, if_neg hstay, if_neg hup, if_neg hlong, hentry]
      exact ih

/-- What is put somewhere is not in the way, if it does not take the place of a directory. -/
theorem Leads.place (h : Leads files here steps at_)
    (hfree : files.entry? spot ≠ some .directory) (e : Entry) :
    Leads (files.place spot e) here steps at_ := by
  induction h with
  | arrived at_ => exact .arrived at_
  | stay hstay _ ih => exact .stay hstay ih
  | up hstay hup _ ih => exact .up hstay hup ih
  | down hstay hup hlong hentry _ ih =>
      exact .down hstay hup hlong (entry?_place_directory hfree hentry e) ih

/-- One step to a name in a directory. -/
theorem walk_name {name : String} (hname : ¬ (name = "" ∨ name = "." ∨ name = ".."))
    (hlong : ¬ maxName < name.utf8ByteSize) :
    walk files here [name] =
      match files.entry? (here ++ [name]) with
      | none => .error .missing
      | some _ => .ok (here ++ [name]) := by
  rw [walk_cons, if_neg fun h => hname (h.imp_right .inl), if_neg fun h => hname (.inr (.inr h)),
    if_neg hlong]
  cases files.entry? (here ++ [name]) with
  | none => rfl
  | some e =>
      cases e with
      | directory => rfl
      | file content => rfl

/-- A path to a name in a directory is resolved there. -/
theorem resolve_eq {above parent : Steps} {name : String}
    (hleads : Leads files (files.start path) above parent)
    (hsteps : stepsOf path = above ++ [name]) :
    files.resolve path =
      if path.isEmpty then .error .missing
      else if path.toList.contains '\x00' then .error .zeroInName
      else walk files parent [name] := by
  rw [resolve, hsteps, hleads.walk_eq]

/-! ## Contents -/

/-- What has to be the case for a file to be written, and what is then in the tree. -/
structure Writes (files : Files) (path : FilePath) (content : Bytes) (above : Steps)
    (name : String) (parent : Steps) (files' : Files) : Prop where
  steps : stepsOf path = above ++ [name]
  named : ¬ (name = "" ∨ name = "." ∨ name = "..")
  short : ¬ maxName < name.utf8ByteSize
  leads : Leads files (files.start path) above parent
  free : files.entry? (parent ++ [name]) ≠ some .directory
  nonempty : ¬ path.isEmpty = true
  nonzero : ¬ path.toList.contains '\x00' = true
  after : files' = files.place (parent ++ [name]) (.file content)

theorem exists_of_write (h : files.write path content = .ok files') :
    ∃ above name parent, Writes files path content above name parent files' := by
  rw [write_eq] at h
  split at h
  · cases h
  next hnonempty =>
    split at h
    · cases h
    next hzero =>
      cases hwalk : walk files (files.start path) ((stepsOf path).dropLast ++ [""]) with
      | error fault => rw [hwalk] at h; cases h
      | ok parent =>
          rw [hwalk] at h
          dsimp only at h
          split at h
          · cases h
          next hname =>
            split at h
            · cases h
            next hlong =>
              split at h
              · cases h
              next hfree =>
                refine ⟨_, _, parent, ?_, hname, hlong, leads_of_walk hwalk, hfree, hnonempty,
                  hzero, (Except.ok.inj h).symm⟩
                cases hlast : (stepsOf path).getLast? with
                | none => exact absurd (.inl (by rw [lastName, hlast]; rfl)) hname
                | some name =>
                    obtain ⟨above, hsteps⟩ := List.getLast?_eq_some_iff.mp hlast
                    rw [lastName, hlast, hsteps, List.dropLast_concat]
                    rfl

/-- **WHAT WAS WRITTEN** is read by the same path. -/
theorem readBytes_of_write (h : files.write path content = .ok files') :
    files'.readBytes path = .ok content := by
  obtain ⟨above, name, parent, hw⟩ := exists_of_write h
  obtain rfl := hw.after
  have hentry := entry?_place_self hw.free (.file content)
  have hleads := hw.leads.place hw.free (.file content)
  rw [readBytes, resolve_eq hleads hw.steps, if_neg hw.nonempty, if_neg hw.nonzero,
    walk_name hw.named hw.short, hentry]
  dsimp only [bind, Except.bind]
  rw [hentry]
  rfl

/-- Whether a path starts at the root does not depend on the name that it was joined with. -/
theorem start_join {name other : String} (hname : IsStep name) (hother : IsStep other)
    (files : Files) (dir : FilePath) :
    files.start (dir.join name) = files.start (dir.join other) := by
  have hroot : (dir.join name).FromRoot ↔ (dir.join other).FromRoot :=
    (FilePath.fromRoot_join_iff hname.not_fromRoot).trans
      (FilePath.fromRoot_join_iff hother.not_fromRoot).symm
  exact if_congr hroot rfl rfl

/-- **ANOTHER FILE** of the same directory is read as before. -/
theorem readBytes_beside {dir : FilePath} {name other : String} (hname : IsStep name)
    (hother : IsStep other) (hlength : name.toList.length = other.toList.length)
    (hne : name ≠ other) (h : files.write (dir.join name) content = .ok files') :
    files'.readBytes (dir.join other) = files.readBytes (dir.join other) := by
  obtain ⟨above, name', parent, hw⟩ := exists_of_write h
  obtain ⟨above', hsteps⟩ := stepsOf_join dir
  obtain ⟨rfl, hsame⟩ := List.append_inj' (hw.steps.symm.trans (hsteps hname)) rfl
  obtain rfl := List.singleton_inj.mp hsame
  obtain rfl := hw.after
  -- the directory is the same, and what is at the other name is
  have hkey : key (parent ++ [other]) ≠ key (parent ++ [name']) := by
    intro hkey
    have hlists := (List.suffix_of_suffix_length_le (hkey ▸ suffix_key parent other)
      (suffix_key parent name') (Nat.le_of_eq hlength.symm)).eq_of_length hlength.symm
    exact hne (String.ext hlists).symm
  have hentry : Files.entry? (files.place (parent ++ [name']) (.file content)) (parent ++ [other]) =
      files.entry? (parent ++ [other]) := entry?_place_of_ne hkey _
  have hleads := start_join hname hother files dir ▸ hw.leads
  have hstep : walk (files.place (parent ++ [name']) (.file content)) parent [other] =
      walk files parent [other] := by
    rw [walk_cons, walk_cons, hentry]
    rfl
  rw [readBytes, readBytes, resolve_eq (hleads.place hw.free (.file content)) (hsteps hother),
    hstep, ← resolve_eq hleads (hsteps hother)]
  cases hat : files.resolve (dir.join other) with
  | error fault => rfl
  | ok at_ =>
      rw [resolve_eq hleads (hsteps hother)] at hat
      split at hat
      · cases hat
      split at hat
      · cases hat
      obtain rfl := walk_follow hat
      have hfollow : follow parent [other] = parent ++ [other] := by
        rw [follow, if_neg fun h => hother.2 (h.imp_right .inl),
          if_neg fun h => hother.2 (.inr (.inr h))]
        rfl
      dsimp only [bind, Except.bind]
      rw [hfollow, hentry]

end Clusterwright.Rehearsal.Files
