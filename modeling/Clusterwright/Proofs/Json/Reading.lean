import Clusterwright.Json.Reader
import Mathlib.Algebra.BigOperators.Group.List.Basic

/-! # Reading — a quoted text is read back as it was

    The reader and the writer of JSON know nothing of each other: one takes runs of plain
    characters and looks up what follows a backslash, the other writes one character after the
    other.  The route to `parse_quote`:

    * `Reads`: a reader takes something from the front of the text, wherever the text stands; it
      is kept when readers follow each other (`Reads.bind`);
    * `takeWhile_quoted`, `dropWhile_quoted`: a plain run of the text is a plain run of what is
      written;
    * `reads_escape`: any other character is written as an escape that stands for it;
    * `reads_textRuns`: so text is read run by run, up to the closing quote. -/

namespace Clusterwright.Json

/-! ## Readers -/

/-- A reader takes something from the front of a text, and the rest is left. -/
def Reads {α : Type} (reader : Reader α) (text : List Char) (a : α) (left : List Char) : Prop :=
  ∀ cursor : Cursor, cursor.rest = text →
    ∃ after : Cursor, reader.run cursor = (.ok a, after) ∧ after.rest = left

section

variable {α β : Type} {reader : Reader α} {text left last : List Char} {a : α} {b : β}

theorem reads_pure (a : α) (text : List Char) : Reads (pure a) text a text :=
  fun cursor h => ⟨cursor, rfl, h⟩

theorem Reads.bind {more : α → Reader β} (h : Reads reader text a left)
    (hmore : Reads (more a) left b last) : Reads (reader >>= more) text b last := by
  intro cursor hcursor
  obtain ⟨middle, hrun, hmiddle⟩ := h cursor hcursor
  obtain ⟨after, hafter, hrest⟩ := hmore middle hmiddle
  refine ⟨after, ?_, hrest⟩
  have hstep : (reader >>= more).run cursor =
      ExceptT.bindCont more (reader.run cursor).1 (reader.run cursor).2 := rfl
  rw [hstep, hrun]
  exact hafter

theorem reads_get {more : Cursor → Reader β}
    (h : ∀ cursor : Cursor, cursor.rest = text → Reads (more cursor) text b last) :
    Reads (get >>= more) text b last := fun cursor hcursor => h cursor hcursor cursor hcursor

theorem reads_set (cursor : Cursor) (text : List Char) :
    Reads (set cursor) text ⟨⟩ cursor.rest := fun _ _ => ⟨cursor, rfl, rfl⟩

theorem reads_peek (text : List Char) : Reads peek text text.head? text :=
  fun cursor h => ⟨cursor, by rw [← h]; rfl, h⟩

theorem reads_next (c : Char) (text : List Char) : Reads next (c :: text) (some c) text := by
  intro cursor h
  refine ⟨cursor.after c text, ?_, ?_⟩
  · obtain ⟨rest, line, column⟩ := cursor
    subst h
    rfl
  · unfold Cursor.after
    split <;> rfl

theorem reads_eat (c : Char) (text : List Char) : Reads eat (c :: text) () text :=
  (reads_next c text).bind (reads_pure () text)

theorem skipChars_rest (keep : Char → Bool) (text : List Char) (cursor : Cursor)
    (h : cursor.rest = text) : (skipChars keep text cursor).rest = text.dropWhile keep := by
  induction text generalizing cursor with
  | nil => exact h
  | cons c text ih =>
      rw [skipChars, List.dropWhile_cons]
      split
      · refine ih _ ?_
        unfold Cursor.after
        split <;> rfl
      · exact h

theorem reads_takeRun (keep : Char → Bool) (text : List Char) :
    Reads (takeRun keep) text (text.takeWhile keep) (text.dropWhile keep) := by
  intro cursor h
  refine ⟨skipChars keep cursor.rest cursor, by rw [← h]; rfl, ?_⟩
  rw [skipChars_rest keep cursor.rest cursor rfl, h]

end

/-! ## How characters are written -/

/-- The letters that stand for characters after a backslash. -/
def letters : List (Char × Char) :=
  [('"', '"'), ('\\', '\\'), ('b', '\x08'), ('f', '\x0c'), ('n', '\n'), ('r', '\r'), ('t', '\t')]

theorem quotedChars_letter : ∀ e ∈ letters, quotedChars e.2 = ['\\', e.1] := by decide +kernel

/-- A character stands for itself, or is written with a letter, or with its number. -/
theorem quotedChars_cases (c : Char) :
    (isPlain c = true ∧ quotedChars c = [c]) ∨
      (∃ letter, (letter, c) ∈ letters ∧ quotedChars c = ['\\', letter]) ∨
      c.toNat < 0x20 ∧
        quotedChars c = '\\' :: 'u' :: Text.padZeros 4 (Text.hexChars c.toNat) := by
  by_cases hletter : c ∈ letters.map Prod.snd
  · obtain ⟨⟨letter, c⟩, hmem, rfl⟩ := List.mem_map.mp hletter
    exact Or.inr (Or.inl ⟨letter, hmem, quotedChars_letter _ hmem⟩)
  · simp only [letters, List.map_cons, List.map_nil, List.mem_cons, List.not_mem_nil, or_false,
      not_or] at hletter
    obtain ⟨hquote, hslash, hback, hfeed, hline, hreturn, htab⟩ := hletter
    rw [quotedChars, if_neg hquote, if_neg hslash, if_neg hback, if_neg hfeed, if_neg hline,
      if_neg hreturn, if_neg htab]
    by_cases hcontrol : c.toNat < 0x20
    · rw [if_pos hcontrol]
      exact Or.inr (Or.inr ⟨hcontrol, rfl⟩)
    · rw [if_neg hcontrol]
      exact Or.inl ⟨by simp [isPlain, hquote, hslash]; omega, rfl⟩

/-! ## Escapes -/

/-- A place is found after as many bytes as there are characters of one byte. -/
theorem placeAfterBytes_append {digits : List Char}
    (h : ∀ c ∈ digits, c ≠ '\n' ∧ c.utf8Size = 1) (line column : Nat) (text : List Char) :
    placeAfterBytes line column digits.length (digits ++ text) =
      some (line, column + digits.length) := by
  induction digits generalizing column with
  | nil => simp [placeAfterBytes]
  | cons c digits ih =>
      obtain ⟨hc, hdigits⟩ := List.forall_mem_cons.mp h
      rw [List.length_cons, List.cons_append, placeAfterBytes, hc.2, if_neg (by omega)]
      · rw [Nat.add_sub_cancel, ih hdigits, Nat.add_assoc, Nat.add_comm 1]
      · exact hc.1

/-- The digits of a control character are its code point. -/
theorem numeral?_control : ∀ n < 0x20, (Text.padZeros 4 (Text.hexChars n)).length = 4 ∧
    (Text.padZeros 4 (Text.hexChars n)).all (fun c => c ≠ '\n' ∧ c.utf8Size = 1) = true ∧
    Text.numeral? 16 (Text.padZeros 4 (Text.hexChars n)) = some n := by decide +kernel

theorem reads_hexEscape {n : Nat} (h : n < 0x20) (text : List Char) :
    Reads hexEscape (Text.padZeros 4 (Text.hexChars n) ++ text) n text := by
  obtain ⟨hlength, hsmall, hvalue⟩ := numeral?_control n h
  refine reads_get fun cursor hcursor => ?_
  have hplace := placeAfterBytes_append
    (fun c hc => of_decide_eq_true (List.all_eq_true.mp hsmall c hc)) cursor.line cursor.column text
  rw [hlength] at hplace
  rw [hcursor, hplace]
  dsimp only
  rw [List.take_left' hlength, hvalue, List.drop_left' hlength]
  exact (reads_set _ _).bind (reads_pure n _)

theorem reads_codePoint {c : Char} (h : c.toNat < 0x20) (text : List Char) :
    Reads codePoint (Text.padZeros 4 (Text.hexChars c.toNat) ++ text) c text := by
  unfold codePoint
  refine (reads_hexEscape h text).bind ?_
  rw [if_neg (by omega), if_pos (by omega), Char.ofNat_toNat]
  exact reads_pure c text

theorem reads_letter {letter c : Char} (h : escaped? letter = some c) (text : List Char) :
    Reads (escape id codePoint) (letter :: text) c text := by
  unfold escape
  refine (reads_peek _).bind ?_
  dsimp only [List.head?_cons]
  rw [h]
  exact (reads_eat letter text).bind (reads_pure c text)

theorem reads_number {c : Char} (h : c.toNat < 0x20) (text : List Char) :
    Reads (escape id codePoint) ('u' :: Text.padZeros 4 (Text.hexChars c.toNat) ++ text) c
      text := by
  unfold escape
  refine (reads_peek _).bind ?_
  exact (reads_eat 'u' _).bind (reads_codePoint h text)

/-- What does not stand for itself is written as an escape that stands for it. -/
theorem reads_escape {c : Char} (h : isPlain c = false) (text : List Char) :
    ∃ written, quotedChars c = '\\' :: written ∧
      Reads (escape id codePoint) (written ++ text) c text := by
  have hescaped : ∀ e ∈ letters, escaped? e.1 = some e.2 := by decide
  rcases quotedChars_cases c with ⟨hplain, -⟩ | ⟨letter, hmem, hwritten⟩ | ⟨hcontrol, hwritten⟩
  · rw [h] at hplain
    exact nomatch hplain
  · exact ⟨_, hwritten, reads_letter (hescaped _ hmem) text⟩
  · exact ⟨_, hwritten, reads_number hcontrol text⟩

/-! ## Texts -/

theorem quotedChars_of_isPlain {c : Char} (h : isPlain c = true) : quotedChars c = [c] := by
  rcases quotedChars_cases c with ⟨-, hwritten⟩ | ⟨letter, hmem, -⟩ | ⟨hcontrol, -⟩
  · exact hwritten
  · have hspecial : ∀ e ∈ letters, isPlain e.2 = false := by decide
    exact absurd (h.symm.trans (hspecial _ hmem)) (by decide)
  · simp only [isPlain, Bool.and_eq_true, decide_eq_true_eq] at h
    omega

/-- A run of plain characters is written as it is. -/
theorem takeWhile_quoted (s text : List Char) :
    (s.flatMap quotedChars ++ '"' :: text).takeWhile isPlain = s.takeWhile isPlain := by
  induction s with
  | nil => rfl
  | cons c s ih =>
      cases hplain : isPlain c with
      | true =>
          rw [List.flatMap_cons, quotedChars_of_isPlain hplain, List.singleton_append,
            List.cons_append, List.takeWhile_cons_of_pos hplain, ih,
            List.takeWhile_cons_of_pos hplain]
      | false =>
          obtain ⟨written, hwritten, -⟩ := reads_escape hplain []
          rw [List.flatMap_cons, hwritten, List.takeWhile_cons_of_neg (by simp [hplain])]
          rfl

/-- After the run stands what is written for the rest. -/
theorem dropWhile_quoted (s text : List Char) :
    (s.flatMap quotedChars ++ '"' :: text).dropWhile isPlain =
      (s.dropWhile isPlain).flatMap quotedChars ++ '"' :: text := by
  induction s with
  | nil => rfl
  | cons c s ih =>
      cases hplain : isPlain c with
      | true =>
          rw [List.flatMap_cons, quotedChars_of_isPlain hplain, List.singleton_append,
            List.cons_append, List.dropWhile_cons_of_pos hplain, ih,
            List.dropWhile_cons_of_pos hplain]
      | false =>
          obtain ⟨written, hwritten, -⟩ := reads_escape hplain []
          rw [List.dropWhile_cons_of_neg (by simp [hplain]), List.flatMap_cons, hwritten]
          rfl

/-- A text is read run by run, up to the quote that closes it. -/
theorem reads_textRuns (text : List Char) (fuel : Nat) (s : List Char) (done : List (List Char))
    (h : s.length < fuel) :
    Reads (textRuns fuel done) (s.flatMap quotedChars ++ '"' :: text)
      (String.ofList (done.reverse.flatten ++ s)) text := by
  induction fuel generalizing s done with
  | zero => exact absurd h (Nat.not_lt_zero _)
  | succ fuel ih =>
      have hrun := reads_takeRun isPlain (s.flatMap quotedChars ++ '"' :: text)
      rw [takeWhile_quoted, dropWhile_quoted] at hrun
      rw [textRuns]
      refine hrun.bind ?_
      have hs : s.takeWhile isPlain ++ s.dropWhile isPlain = s := List.takeWhile_append_dropWhile
      cases hrest : s.dropWhile isPlain with
      | nil =>
          rw [hrest, List.append_nil] at hs
          refine (reads_next '"' text).bind ?_
          have hall :
              ((s.takeWhile isPlain) :: done).reverse.flatten = done.reverse.flatten ++ s := by
            simp [hs]
          rw [← hall]
          exact reads_pure _ text
      | cons c rest =>
          -- the run ends where a character is written as an escape
          have hplain : isPlain c = false := by
            have hhead := List.head?_dropWhile_not isPlain s
            rw [hrest] at hhead
            simpa using hhead
          obtain ⟨written, hwritten, hescape⟩ :=
            reads_escape hplain (rest.flatMap quotedChars ++ '"' :: text)
          rw [List.flatMap_cons, hwritten, List.append_assoc, List.cons_append]
          refine (reads_next '\\' _).bind (hescape.bind ?_)
          have hlength : rest.length < fuel := by
            have hall := congrArg List.length hs
            rw [hrest, List.length_append, List.length_cons] at hall
            omega
          have hall : (([c] :: s.takeWhile isPlain :: done).reverse.flatten ++ rest) =
              done.reverse.flatten ++ s := by
            conv_rhs => rw [← hs, hrest]
            simp
          rw [← hall]
          exact ih rest _ hlength

theorem quotedChars_length_pos (c : Char) : 1 ≤ (quotedChars c).length := by
  rcases quotedChars_cases c with ⟨-, hwritten⟩ | ⟨letter, -, hwritten⟩ | ⟨-, hwritten⟩ <;>
    simp [hwritten]

theorem reads_textBody (s text : List Char) :
    Reads textBody (s.flatMap quotedChars ++ '"' :: text) (String.ofList s) text := by
  refine reads_get fun cursor hcursor => ?_
  have hlength : s.length ≤ (s.flatMap quotedChars).length := by
    have hsum := List.length_le_sum_of_one_le (s.map fun c => (quotedChars c).length)
      (List.forall_mem_map.mpr fun c _ => quotedChars_length_pos c)
    rwa [List.length_map, ← List.length_flatMap] at hsum
  refine reads_textRuns text _ s [] ?_
  rw [hcursor, List.length_append]
  omega

/-! ## Values -/

theorem reads_peekToken {text : List Char} (h : text.head?.all (!isSpace ·) = true) :
    Reads peekToken text text.head? text := by
  have hrun := reads_takeRun isSpace text
  have hkept : text.dropWhile isSpace = text := by
    cases text with
    | nil => rfl
    | cons c text => exact List.dropWhile_cons_of_neg (by simpa using h)
  rw [hkept] at hrun
  have hskip : Reads (discard (takeRun isSpace)) text () text := hrun.bind (reads_pure () text)
  exact hskip.bind (reads_peek text)

/-- A value that is all of a text is what the text is read as. -/
theorem runReader_of_reads {α : Type} {reader : Reader α} {text : String} {a : α}
    (h : Reads reader text.toList a []) : runReader reader text = .ok a := by
  have hfinish : Reads finish [] () [] := (reads_peekToken rfl).bind (reads_pure () [])
  have hall : Reads (do let a ← reader; finish; return a) text.toList a [] :=
    h.bind (hfinish.bind (reads_pure a []))
  obtain ⟨after, hrun, -⟩ := hall (Cursor.start text) rfl
  exact congrArg Prod.fst hrun

/-- **A QUOTED TEXT IS READ BACK** as it was, whatever characters it has. -/
theorem parse_quote (s : String) : parse (quote s) = .ok (.text s) := by
  refine runReader_of_reads (reads_get fun cursor _ => ?_)
  have hquote : (quote s).toList = '"' :: (s.toList.flatMap quotedChars ++ ['"']) := by
    rw [quote, String.toList_ofList, quoteChars]
  rw [hquote, value]
  refine (reads_peekToken rfl).bind ?_
  have htext := reads_textBody s.toList []
  rw [String.ofList_toList] at htext
  exact (reads_eat '"' _).bind (htext.bind (reads_pure _ []))

end Clusterwright.Json
