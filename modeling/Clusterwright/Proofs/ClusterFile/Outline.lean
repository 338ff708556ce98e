import Clusterwright.Proofs.ClusterFile.Blocks
import Clusterwright.Proofs.Json.Quoting

/-! # Outline — reading a cluster file back line by line

    Whoever looks at a cluster file sees lines only.  This file says what can be seen in it: the
    lines that open blocks (`blockHeads`), all lines at the margin (`outline`), and the keys in
    the maps of reserved machines (`reservationKeys`).  The route back to the blocks:

    * `Ordinary` lines are inside a block and open no map; most lines of a body are, by how they
      begin (`ordinary_append`);
    * `Tidy`: a block whose lines are ordinary but for one map of reserved machines;
    * `blockHeads_fileText`, `outline_fileText`, `reservationKeys_fileText`: in a file of tidy
      blocks, the blocks are all that can be seen;
    * `mem_blockHeads_of_opening`: in any other file, what is read in the first line of a block
      can be seen too. -/

namespace Clusterwright.ClusterFile

open Text

/-! ## Reading -/

/-- The line begins in the first column. -/
def atMargin (line : String) : Bool := line.toList.head?.any (· ≠ ' ')

/-- The line begins in the first column and ends with an opening brace. -/
def isHead (line : String) : Bool := atMargin line && line.toList.getLast? = some '\x7b'

/-- The line begins in the first column and is no comment. -/
def isOutline (line : String) : Bool := atMargin line && line.toList.head? ≠ some '#'

/-- The lines of a text that open blocks. -/
def blockHeads (text : String) : List String := (linesOf text).filter isHead

/-- The lines of a text outside of all blocks, comments left out. -/
def outline (text : String) : List String := (linesOf text).filter isOutline

/-- The line that opens a map of reserved machines. -/
def mapHead : String := "  reservation_ids = \x7b"

/-- The line that closes a map. -/
def mapEnd : String := "  \x7d"

/-- The lines in maps of reserved machines, where the first line may be in one. -/
def mapLines : Bool → List String → List String
  | _, [] => []
  | true, line :: rest =>
    if line = mapEnd then mapLines false rest else line :: mapLines true rest
  | false, line :: rest => mapLines (line = mapHead) rest

/-- What stands before the first equals sign between blanks. -/
def beforeEquals : List Char → List Char
  | [] => []
  | c :: rest =>
    if [' ', '=', ' '].isPrefixOf (c :: rest) then [] else c :: beforeEquals rest

/-- The key of a line in a map. -/
def keyOf (line : String) : String :=
  String.ofList (beforeEquals (line.toList.dropWhile (· = ' ')))

/-- The keys in the maps of reserved machines. -/
def reservationKeys (text : String) : List String := (mapLines false (linesOf text)).map keyOf

/-! ## Ordinary lines -/

/-- A line that is seen in no outline. -/
def Quiet (line : String) : Prop := Unbroken line ∧ isHead line = false ∧ isOutline line = false

/-- A quiet line that opens no map of reserved machines. -/
def Ordinary (line : String) : Prop := Quiet line ∧ line ≠ mapHead

instance (line : String) : Decidable (Quiet line) :=
  inferInstanceAs (Decidable (_ ∧ _ ∧ _))

instance (line : String) : Decidable (Ordinary line) := inferInstanceAs (Decidable (_ ∧ _))

/-- An indented line is quiet. -/
theorem quiet_of_indented {line : String} (h : Unbroken line)
    (hindent : line.toList.head? = some ' ') : Quiet line := by
  have hmargin : atMargin line = false := by rw [atMargin, hindent]; rfl
  exact ⟨h, by rw [isHead, hmargin, Bool.false_and], by rw [isOutline, hmargin, Bool.false_and]⟩

/-- How most lines of a body begin: with a blank, and not like a map of reserved machines. -/
def Leads (start : String) : Prop :=
  Unbroken start ∧ start.toList.head? = some ' ' ∧ ¬ start.toList <+: mapHead.toList

instance (start : String) : Decidable (Leads start) := inferInstanceAs (Decidable (_ ∧ _ ∧ _))

theorem ordinary_append {start rest : String} (h : Leads start) (hrest : Unbroken rest) :
    Ordinary (start ++ rest) := by
  obtain ⟨hstart, hindent, hother⟩ := h
  refine ⟨quiet_of_indented (unbroken_append.mpr ⟨hstart, hrest⟩) ?_, ?_⟩
  · rw [String.toList_append, List.head?_append, hindent]
    rfl
  · intro heq
    refine hother ⟨rest.toList, ?_⟩
    rw [← String.toList_append, heq]

/-! ## Maps of reserved machines -/

/-- The lines of a map of reserved machines, if there are any. -/
def mapSection (ids : SortedMap String) : List String :=
  if ids.isEmpty then []
  else ["", mapHead] ++ ids.entries.map (fun e => setting ("    " ++ e.1) (.text e.2)) ++ [mapEnd]

/-- What holds of the lines around the entries, and of every line that a key sets, holds of all
    the lines of a map. -/
theorem forall_mem_mapSection {P : String → Prop} {ids : SortedMap String}
    (hframe : P "" ∧ P mapHead ∧ P mapEnd)
    (hentry : ∀ key ∈ ids.keys, ∀ id, P (setting ("    " ++ key) (.text id))) :
    ∀ line ∈ mapSection ids, P line := by
  obtain ⟨hblank, hhead, hend⟩ := hframe
  unfold mapSection
  split
  case isTrue => exact List.forall_mem_nil _
  case isFalse =>
    simp only [List.forall_mem_append, List.forall_mem_cons, List.forall_mem_map]
    exact ⟨⟨⟨hblank, hhead, List.forall_mem_nil _⟩,
      fun e he => hentry e.1 (List.mem_map_of_mem he) _⟩, hend, List.forall_mem_nil _⟩

theorem mapLines_ordinary {lines rest : List String} (h : ∀ line ∈ lines, Ordinary line) :
    mapLines false (lines ++ rest) = mapLines false rest := by
  induction lines with
  | nil => rfl
  | cons line lines ih =>
      rw [List.forall_mem_cons] at h
      rw [List.cons_append, mapLines, decide_eq_false h.1.2]
      exact ih h.2

/-- Inside a map all lines are read, up to the one that closes it. -/
theorem mapLines_inside {lines : List String} (h : ∀ line ∈ lines, line ≠ mapEnd)
    (rest : List String) :
    mapLines true (lines ++ mapEnd :: rest) = lines ++ mapLines false rest := by
  induction lines with
  | nil =>
      rw [List.nil_append, mapLines, if_pos rfl]
      rfl
  | cons line lines ih =>
      rw [List.forall_mem_cons] at h
      rw [List.cons_append, mapLines, if_neg h.1, ih h.2, List.cons_append]

theorem entry_ne_mapEnd (e : String × String) : setting ("    " ++ e.1) (.text e.2) ≠ mapEnd := by
  intro heq
  have hlist := congrArg (fun s : String => s.toList[2]?) heq
  simp [setting, mapEnd] at hlist

theorem mapLines_mapSection (ids : SortedMap String) (rest : List String) :
    mapLines false (mapSection ids ++ rest) =
      ids.entries.map (fun e => setting ("    " ++ e.1) (.text e.2)) ++ mapLines false rest := by
  unfold mapSection
  cases hempty : ids.isEmpty with
  | true =>
      have hnone : ids.entries = [] := List.isEmpty_iff.mp hempty
      rw [if_pos rfl, hnone]
      rfl
  | false =>
      have hentries := mapLines_inside
        (List.forall_mem_map.mpr fun e (_ : e ∈ ids.entries) => entry_ne_mapEnd e) rest
      have hblank : decide ("" = mapHead) = false := by decide +kernel
      rw [if_neg Bool.false_ne_true, List.append_assoc, List.append_assoc]
      show mapLines false ("" :: mapHead :: (_ ++ mapEnd :: rest)) = _
      rw [mapLines, hblank, mapLines, decide_eq_true rfl]
      exact hentries

/-! ## Tidy blocks -/

/-- A block with a map of reserved machines among its lines, all others of which are ordinary. -/
structure Tidy (b : Block) (ids : SortedMap String) : Prop where
  kind : b.kind ∈ ["module", "output", "provider"]
  label : Unbroken b.label
  lead : ∀ line ∈ b.lead, Ordinary line
  body : ∃ before after, b.body = before ++ mapSection ids ++ after ∧
    (∀ line ∈ before, Ordinary line) ∧ ∀ line ∈ after, Ordinary line
  keys : ∀ key ∈ ids.keys, Unbroken key

/-- What opens a block of a kind is seen, and it is not the end of one. -/
theorem opening_seen {kind label : String} (hkind : kind ∈ ["module", "output", "provider"])
    (hlabel : Unbroken label) :
    Unbroken (opening kind label) ∧ isHead (opening kind label) = true ∧
      isOutline (opening kind label) = true ∧ opening kind label ≠ mapHead := by
  have hword : Unbroken kind ∧ ∃ c rest, kind.toList = c :: rest ∧ c ≠ ' ' ∧ c ≠ '#' := by
    simp only [List.mem_cons, List.not_mem_nil, or_false] at hkind
    rcases hkind with rfl | rfl | rfl <;> exact ⟨by decide +kernel, _, _, rfl, by decide, by decide⟩
  obtain ⟨hunbroken, c, rest, hc, hblank, hcomment⟩ := hword
  have hhead : (opening kind label).toList.head? = some c := by simp [opening, hc]
  have hlast : (opening kind label).toList.getLast? = some '\x7b' := by
    rw [opening, String.toList_append, List.getLast?_append]
    rfl
  have hmargin : atMargin (opening kind label) = true := by simp [atMargin, hhead, hblank]
  refine ⟨?_, by simp [isHead, hmargin, hlast], by simp [isOutline, hmargin, hhead, hcomment], ?_⟩
  · simp only [opening, unbroken_append]
    exact ⟨⟨⟨hunbroken, by decide +kernel⟩, hlabel⟩, by decide +kernel⟩
  · intro heq
    rw [heq] at hmargin
    exact absurd hmargin (by decide +kernel)

/-- What closes a block is at the margin, but opens none. -/
theorem closing_seen : Unbroken "\x7d" ∧ isHead "\x7d" = false ∧ isOutline "\x7d" = true ∧
    ("\x7d" : String) ≠ mapHead := by decide +kernel

/-- The lines of a map are quiet: all of them are indented. -/
theorem quiet_mapSection {ids : SortedMap String} (h : ∀ key ∈ ids.keys, Unbroken key) :
    ∀ line ∈ mapSection ids, Quiet line := by
  refine forall_mem_mapSection (by decide +kernel) fun key hkey id => ?_
  refine quiet_of_indented ?_ (by simp [setting])
  simp only [setting, unbroken_append]
  exact ⟨⟨⟨by decide +kernel, h key hkey⟩, by decide +kernel⟩, Json.unbroken_render_text id⟩

namespace Tidy

variable {b : Block} {ids : SortedMap String} (h : Tidy b ids)
include h

theorem quiet_body : ∀ line ∈ b.body, Quiet line := by
  obtain ⟨before, after, hbody, hbefore, hafter⟩ := h.body
  rw [hbody, List.forall_mem_append, List.forall_mem_append]
  exact ⟨⟨fun line hline => (hbefore line hline).1, quiet_mapSection h.keys⟩,
    fun line hline => (hafter line hline).1⟩

theorem unbroken : ∀ line ∈ b.lines, Unbroken line := by
  rw [Block.lines, List.forall_mem_append, List.forall_mem_append, List.forall_mem_cons]
  refine ⟨⟨fun line hline => (h.lead line hline).1.1, (opening_seen h.kind h.label).1,
    fun line hline => (h.quiet_body line hline).1⟩, ?_⟩
  exact List.forall_mem_singleton.mpr closing_seen.1

/-- Who does not see quiet lines sees at most the line that opens the block and the one that
    closes it. -/
theorem filter_lines {sees : String → Bool} (hquiet : ∀ line, Quiet line → sees line = false) :
    b.lines.filter sees = [opening b.kind b.label, "\x7d"].filter sees := by
  have hlead : b.lead.filter sees = [] :=
    List.filter_eq_nil_iff.mpr fun line hline => by simp [hquiet line (h.lead line hline).1]
  have hbody : b.body.filter sees = [] :=
    List.filter_eq_nil_iff.mpr fun line hline => by simp [hquiet line (h.quiet_body line hline)]
  rw [Block.lines, List.filter_append, List.filter_append, hlead, List.nil_append,
    ← List.singleton_append, List.filter_append, hbody, List.append_nil, ← List.filter_append]
  rfl

theorem filter_isHead : b.lines.filter isHead = [opening b.kind b.label] := by
  rw [h.filter_lines fun _ hline => hline.2.1]
  simp [(opening_seen h.kind h.label).2.1, closing_seen.2.1]

theorem filter_isOutline : b.lines.filter isOutline = [opening b.kind b.label, "\x7d"] := by
  rw [h.filter_lines fun _ hline => hline.2.2]
  simp [(opening_seen h.kind h.label).2.2.1, closing_seen.2.2.1]

/-- All that is read in maps is in the one map of the block. -/
theorem mapLines_lines (rest : List String) :
    mapLines false (b.lines ++ rest) =
      ids.entries.map (fun e => setting ("    " ++ e.1) (.text e.2)) ++ mapLines false rest := by
  obtain ⟨before, after, hbody, hbefore, hafter⟩ := h.body
  have hhead := decide_eq_false (opening_seen h.kind h.label).2.2.2
  have hend := decide_eq_false closing_seen.2.2.2
  rw [Block.lines, hbody]
  simp only [List.append_assoc, List.cons_append, List.nil_append]
  rw [mapLines_ordinary h.lead, mapLines, hhead, mapLines_ordinary hbefore,
    mapLines_mapSection, mapLines_ordinary hafter, mapLines, hend]

end Tidy

/-! ## Keys -/

/-- A key that can be told from what stands around it. -/
def IsWord (key : String) : Prop := key ≠ "" ∧ ' ' ∉ key.toList

theorem beforeEquals_append {key rest : List Char} (h : ' ' ∉ key) :
    beforeEquals (key ++ [' ', '=', ' '] ++ rest) = key := by
  induction key with
  | nil => rfl
  | cons c key ih =>
      rw [List.mem_cons, not_or] at h
      obtain ⟨hc, hkey⟩ := h
      have hother : [' ', '=', ' '].isPrefixOf (c :: (key ++ [' ', '=', ' '] ++ rest)) = false := by
        simp [List.isPrefixOf, hc]
      rw [List.cons_append, List.cons_append, beforeEquals, if_neg (by rw [hother]; decide),
        ih hkey]

theorem keyOf_entry {key : String} (h : IsWord key) (v : Json) :
    keyOf (setting ("    " ++ key) v) = key := by
  have hline : (setting ("    " ++ key) v).toList.dropWhile (· = ' ') =
      key.toList ++ [' ', '=', ' '] ++ v.render.toList := by
    cases hkey : key.toList with
    | nil => exact absurd (String.toList_eq_nil_iff.mp hkey) h.1
    | cons c rest =>
        have hc : c ≠ ' ' := fun heq => h.2 (by rw [hkey, heq]; exact List.mem_cons_self)
        simp [setting, hkey, hc]
  rw [keyOf, hline, beforeEquals_append h.2, String.ofList_toList]

/-! ## Files -/

/-- Whatever its lines have in them, a file is read line by line. -/
theorem linesOf_fileText (blocks : List Block) :
    linesOf (fileText blocks) = (blocks.flatMap Block.lines).flatMap linesOf ++ [""] :=
  linesOf_join _

/-- What is read in the line that should open a block is read in the file. -/
theorem mem_blockHeads_of_opening {blocks : List Block} {b : Block} {line : String}
    (hb : b ∈ blocks) (hline : line ∈ linesOf (opening b.kind b.label))
    (hhead : isHead line = true) : line ∈ blockHeads (fileText blocks) := by
  rw [blockHeads, linesOf_fileText, List.mem_filter, List.mem_append]
  refine ⟨Or.inl (List.mem_flatMap.mpr ⟨opening b.kind b.label, ?_, hline⟩), hhead⟩
  refine List.mem_flatMap.mpr ⟨b, hb, ?_⟩
  exact List.mem_append_left _ (List.mem_append_right _ List.mem_cons_self)

section

variable {tagged : List (Block × SortedMap String)} (h : ∀ x ∈ tagged, Tidy x.1 x.2)
include h

theorem linesOf_fileText_of_tidy : linesOf (fileText (tagged.map Prod.fst)) =
    (tagged.flatMap fun x => x.1.lines) ++ [""] := by
  have hlines : ∀ line ∈ (tagged.flatMap fun x => x.1.lines), linesOf line = [line] := by
    intro line hline
    obtain ⟨x, hx, hmem⟩ := List.mem_flatMap.mp hline
    exact linesOf_of_unbroken ((h x hx).unbroken line hmem)
  rw [linesOf_fileText, List.flatMap_map, List.flatMap_congr hlines, List.flatMap_singleton']

/-- What is seen of a file is what is seen of its blocks. -/
theorem filter_linesOf_fileText {sees : String → Bool} (seen : Block → List String)
    (hempty : sees "" = false) (hblock : ∀ x ∈ tagged, x.1.lines.filter sees = seen x.1) :
    (linesOf (fileText (tagged.map Prod.fst))).filter sees =
      (tagged.map Prod.fst).flatMap seen := by
  rw [linesOf_fileText_of_tidy h, List.filter_append, List.filter_flatMap, List.flatMap_map]
  have hlast : [""].filter sees = [] := by simp [hempty]
  rw [hlast, List.append_nil, List.flatMap_def, List.flatMap_def,
    List.map_congr_left hblock]

theorem blockHeads_fileText : blockHeads (fileText (tagged.map Prod.fst)) =
    (tagged.map Prod.fst).map fun b => opening b.kind b.label :=
  (filter_linesOf_fileText h (fun b => [opening b.kind b.label]) rfl
    fun x hx => (h x hx).filter_isHead).trans List.map_eq_flatMap.symm

theorem outline_fileText : outline (fileText (tagged.map Prod.fst)) =
    (tagged.map Prod.fst).flatMap fun b => [opening b.kind b.label, "\x7d"] :=
  filter_linesOf_fileText h (fun b => [opening b.kind b.label, "\x7d"]) rfl
    fun x hx => (h x hx).filter_isOutline

theorem mapLines_flatMap (rest : List String) :
    mapLines false ((tagged.flatMap fun x => x.1.lines) ++ rest) =
      (tagged.flatMap fun x => x.2.entries.map fun e => setting ("    " ++ e.1) (.text e.2)) ++
        mapLines false rest := by
  induction tagged with
  | nil => rfl
  | cons x tagged ih =>
      rw [List.forall_mem_cons] at h
      rw [List.flatMap_cons, List.flatMap_cons, List.append_assoc, h.1.mapLines_lines, ih h.2,
        List.append_assoc]

theorem reservationKeys_fileText (hwords : ∀ x ∈ tagged, ∀ key ∈ x.2.keys, IsWord key) :
    reservationKeys (fileText (tagged.map Prod.fst)) = tagged.flatMap fun x => x.2.keys := by
  have hkeys (x : Block × SortedMap String) (hx : x ∈ tagged) :
      (x.2.entries.map fun e => setting ("    " ++ e.1) (.text e.2)).map keyOf = x.2.keys := by
    rw [List.map_map, SortedMap.keys]
    refine List.map_congr_left fun e he => ?_
    exact keyOf_entry (hwords x hx e.1 (List.mem_map_of_mem he)) _
  have hend : mapLines false [""] = [] := by decide +kernel
  rw [reservationKeys, linesOf_fileText_of_tidy h, mapLines_flatMap h, hend, List.append_nil,
    List.map_flatMap, List.flatMap_def, List.flatMap_def, List.map_congr_left hkeys]

end

end Clusterwright.ClusterFile
