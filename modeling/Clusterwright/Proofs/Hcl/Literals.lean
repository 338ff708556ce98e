import Clusterwright.Hcl
import Clusterwright.Proofs.ClusterFile.Lines
import Clusterwright.Proofs.Json.Quoting
import Clusterwright.Proofs.Json.Reading
import Mathlib.Data.List.Infix

/-! # Literals — which quoted texts mean themselves

    A text is quoted as in JSON, but who reads it is not a reader of JSON: a literal has fewer
    letters after a backslash, and in it a dollar or percent sign before a brace opens a template.
    `Body` is the grammar of literals with what they stand for, written down without a look at the
    writer.  The route:

    * `Body.of_plain`, `Body.of_backslash`: how a literal starts, and so it stands for at most one
      text (`Body.unique`);
    * `prefix_quoted`: a plain run that starts what is written starts the text itself, so signs
      and braces come together in the literal only where they do in the text;
    * `body_quoted_cons`: what one more character asks for, and so by induction on the text
      `body_quoted_iff`: its quoted form stands for it if and only if it is `Plain`;
    * **`quoted_means_itself_iff_plain`**: the same for the literal, which stands in the lines of a
      backend block and is what the filter of the templates writes. -/

namespace Clusterwright.Hcl

open Json (letters isPlain quotedChars quotedChars_cases quotedChars_of_isPlain)

/-! ## Literals -/

/-- The letters that stand for characters after a backslash. -/
def escapes : List (Char × Char) :=
  [('n', '\n'), ('r', '\r'), ('t', '\t'), ('\\', '\\'), ('"', '"')]

/-- The letters before a code point, with the number of its digits. -/
def markers : List (Char × Nat) := [('u', 4), ('U', 8)]

/-- The signs that open a template before a brace. -/
def signs : List Char := ['$', '%']

/-- Whether a sign opens a template here, or is doubled so that it opens none. -/
def Opens (c : Char) (rest : List Char) : Prop :=
  c ∈ signs ∧ (['\x7b'] <+: rest ∨ [c, '\x7b'] <+: rest)

/-- What the rest of a literal stands for, up to the quote that closes it. -/
inductive Body : List Char → List Char → Prop
  | close : Body ['"'] []
  | plain {c : Char} {rest v : List Char} :
      c ∉ ['"', '\\', '\n'] → ¬ Opens c rest → Body rest v → Body (c :: rest) (c :: v)
  | letter {e : Char × Char} {rest v : List Char} :
      e ∈ escapes → Body rest v → Body ('\\' :: e.1 :: rest) (e.2 :: v)
  | number {m : Char × Nat} {c : Char} {digits rest v : List Char} :
      m ∈ markers → digits.length = m.2 → Text.numeral? 16 digits = some c.toNat → Body rest v →
      Body ('\\' :: m.1 :: (digits ++ rest)) (c :: v)
  | doubled {c : Char} {rest v : List Char} :
      c ∈ signs → Body rest v → Body (c :: c :: '\x7b' :: rest) (c :: '\x7b' :: v)

/-- A literal is a text between quotes; `Denotes l v` says that it stands for `v`. -/
def Denotes (literal v : String) : Prop :=
  ∃ body, literal.toList = '"' :: body ∧ Body body v.toList

section

variable {c : Char} {text rest v w : List Char}

/-- What starts with a backslash is an escape. -/
theorem Body.of_backslash (h : Body ('\\' :: text) v) :
    (∃ e ∈ escapes, ∃ rest w, text = e.1 :: rest ∧ v = e.2 :: w ∧ Body rest w) ∨
      ∃ m ∈ markers, ∃ digits rest w, ∃ c : Char, text = m.1 :: (digits ++ rest) ∧
        digits.length = m.2 ∧ Text.numeral? 16 digits = some c.toNat ∧ v = c :: w ∧
        Body rest w := by
  generalize hall : '\\' :: text = all at h
  cases h with
  | close => exact nomatch (List.cons.inj hall).1
  | plain hc hopens hrest =>
      rw [← (List.cons.inj hall).1] at hc
      exact absurd (by decide) hc
  | letter he hrest => exact Or.inl ⟨_, he, _, _, (List.cons.inj hall).2, rfl, hrest⟩
  | number hm hlength hvalue hrest =>
      exact Or.inr ⟨_, hm, _, _, _, _, (List.cons.inj hall).2, hlength, hvalue, rfl, hrest⟩
  | doubled hc hrest =>
      rw [← (List.cons.inj hall).1] at hc
      exact absurd hc (by decide)

/-- What starts with another character than a quote or a backslash starts with that character. -/
theorem Body.of_plain (hquote : c ≠ '"') (hslash : c ≠ '\\') (h : Body (c :: rest) v) :
    (¬ Opens c rest ∧ ∃ w, v = c :: w ∧ Body rest w) ∨
      c ∈ signs ∧ ∃ more w, rest = c :: '\x7b' :: more ∧ v = c :: '\x7b' :: w ∧ Body more w := by
  generalize hall : c :: rest = all at h
  cases h with
  | close => exact absurd (List.cons.inj hall).1 hquote
  | plain hc hopens hrest =>
      obtain ⟨rfl, rfl⟩ := List.cons.inj hall
      exact Or.inl ⟨hopens, _, rfl, hrest⟩
  | letter he hrest => exact absurd (List.cons.inj hall).1 hslash
  | number hm hlength hvalue hrest => exact absurd (List.cons.inj hall).1 hslash
  | doubled hc hrest =>
      obtain ⟨rfl, rfl⟩ := List.cons.inj hall
      exact Or.inr ⟨hc, _, _, rfl, rfl, hrest⟩

theorem Body.of_quote (h : Body ('"' :: rest) v) : v = [] := by
  generalize hall : '"' :: rest = all at h
  cases h with
  | close => rfl
  | plain hc hopens hrest =>
      rw [← (List.cons.inj hall).1] at hc
      exact absurd (by decide) hc
  | letter he hrest => exact nomatch (List.cons.inj hall).1
  | number hm hlength hvalue hrest => exact nomatch (List.cons.inj hall).1
  | doubled hc hrest =>
      rw [← (List.cons.inj hall).1] at hc
      exact absurd hc (by decide)

theorem letter_ne_marker : ∀ e ∈ escapes ++ letters, ∀ m ∈ markers, e.1 ≠ m.1 := by decide

theorem ne_of_isPlain {d : Char} (hc : isPlain c = true) (hd : isPlain d = false) : c ≠ d := by
  rintro rfl
  exact nomatch hc.symm.trans hd

theorem isPlain_of_sign (h : c ∈ signs) : isPlain c = true ∧ c ≠ '\x7b' := by
  simp only [signs, List.mem_cons, List.not_mem_nil, or_false] at h
  rcases h with rfl | rfl <;> decide

/-- A literal stands for at most one text. -/
theorem Body.unique (h : Body text v) (h' : Body text w) : v = w := by
  induction h generalizing w with
  | close => exact h'.of_quote.symm
  | @plain c rest v hc hopens _ ih =>
      simp only [List.mem_cons, List.not_mem_nil, or_false, not_or] at hc
      rcases h'.of_plain hc.1 hc.2.1 with ⟨-, w, rfl, hrest⟩ | ⟨hsign, more, w, rfl, -, -⟩
      · rw [ih hrest]
      · -- a sign that is doubled does not stand for itself
        exact absurd ⟨hsign, Or.inr ⟨more, rfl⟩⟩ hopens
  | @letter e rest v he _ ih =>
      rcases h'.of_backslash with ⟨e', he', rest', w, htext, rfl, hrest⟩ |
        ⟨m, hm, digits, rest', w, c, htext, -⟩
      · obtain ⟨hletter, rfl⟩ := List.cons.inj htext
        have hfun : ∀ e ∈ escapes, ∀ e' ∈ escapes, e.1 = e'.1 → e.2 = e'.2 := by decide
        rw [hfun e he e' he' hletter, ih hrest]
      · exact absurd (List.cons.inj htext).1 (letter_ne_marker e (List.mem_append_left _ he) m hm)
  | @number m c digits rest v hm hlength hvalue _ ih =>
      rcases h'.of_backslash with ⟨e, he, rest', w, htext, -⟩ |
        ⟨m', hm', digits', rest', w, c', htext, hlength', hvalue', rfl, hrest⟩
      · exact absurd (List.cons.inj htext).1.symm
          (letter_ne_marker e (List.mem_append_left _ he) m hm)
      · obtain ⟨hmarker, htext⟩ := List.cons.inj htext
        have hfun : ∀ m ∈ markers, ∀ m' ∈ markers, m.1 = m'.1 → m.2 = m'.2 := by decide
        obtain ⟨rfl, rfl⟩ := List.append_inj htext
          (hlength.trans ((hfun m hm m' hm' hmarker).trans hlength'.symm))
        rw [Char.toNat_inj.mp (Option.some.inj (hvalue.symm.trans hvalue')), ih hrest]
  | @doubled c rest v hc _ ih =>
      have hplain := (isPlain_of_sign hc).1
      -- both readings of a doubled sign take three characters
      rcases h'.of_plain (ne_of_isPlain hplain rfl) (ne_of_isPlain hplain rfl) with ⟨hopens, -⟩ |
        ⟨-, more, w, htext, rfl, hrest⟩
      · exact absurd ⟨hc, Or.inr ⟨rest, rfl⟩⟩ hopens
      · obtain ⟨-, hmore⟩ := List.cons.inj htext
        obtain ⟨-, rfl⟩ := List.cons.inj hmore
        rw [ih hrest]

end

theorem Denotes.unique {literal v w : String} (h : Denotes literal v) (h' : Denotes literal w) :
    v = w := by
  obtain ⟨body, hbody, hv⟩ := h
  obtain ⟨body', hbody', hw⟩ := h'
  obtain ⟨-, rfl⟩ := List.cons.inj (hbody.symm.trans hbody')
  exact String.toList_inj.mp (hv.unique hw)

/-! ## Texts that mean themselves -/

/-- A text with no sign before a brace, no backspace and no form feed. -/
def Plain (v : List Char) : Prop :=
  ¬ ['$', '\x7b'] <:+: v ∧ ¬ ['%', '\x7b'] <:+: v ∧ '\x08' ∉ v ∧ '\x0c' ∉ v

instance : DecidablePred Plain := fun v => inferInstanceAs
  (Decidable (¬ ['$', '\x7b'] <:+: v ∧ ¬ ['%', '\x7b'] <:+: v ∧ '\x08' ∉ v ∧ '\x0c' ∉ v))

section

variable {c : Char} {rest v w : List Char}

/-- A text is plain if no sign opens a template at its start and the rest is plain. -/
theorem plain_cons :
    Plain (c :: v) ↔ ¬ Opens c v ∧ c ≠ '\x08' ∧ c ≠ '\x0c' ∧ Plain v := by
  unfold Plain Opens signs
  simp only [List.infix_cons_iff, List.cons_prefix_cons, List.mem_cons, List.not_mem_nil, or_false]
  grind [List.IsPrefix.isInfix]

/-- A plain run starts what is written for a text only if it starts the text. -/
theorem prefix_quoted (hw : ∀ c ∈ w, isPlain c = true) :
    w <+: v.flatMap quotedChars ++ ['"'] ↔ w <+: v := by
  induction w generalizing v with
  | nil => simp
  | cons d w ih =>
      obtain ⟨hd, hw⟩ := List.forall_mem_cons.mp hw
      cases v with
      | nil =>
          have hquote : d ≠ '"' := ne_of_isPlain hd rfl
          simp [List.cons_prefix_cons, hquote]
      | cons c v =>
          cases hc : isPlain c with
          | true =>
              rw [List.flatMap_cons, quotedChars_of_isPlain hc, List.singleton_append,
                List.cons_append, List.cons_prefix_cons, List.cons_prefix_cons, ih hw]
          | false =>
              -- what is written starts with a backslash, which is not plain
              obtain ⟨written, hwritten, -⟩ := Json.reads_escape hc []
              have hslash : d ≠ '\\' := ne_of_isPlain hd rfl
              rw [List.flatMap_cons, hwritten, List.cons_append, List.cons_append,
                List.cons_prefix_cons, List.cons_prefix_cons]
              simp [hslash, ne_of_isPlain hd hc]

/-- A sign opens a template in what is written if and only if it does so in the text. -/
theorem opens_quoted_iff : Opens c (v.flatMap quotedChars ++ ['"']) ↔ Opens c v := by
  have hbrace : ∀ d ∈ ['\x7b'], isPlain d = true := List.forall_mem_singleton.mpr rfl
  refine and_congr_right fun hsign => or_congr (prefix_quoted hbrace) (prefix_quoted ?_)
  exact List.forall_mem_cons.mpr ⟨(isPlain_of_sign hsign).1, hbrace⟩

/-! ## One character -/

/-- A character that stands for itself. -/
theorem body_plain_iff (hc : isPlain c = true) :
    Body (c :: (v.flatMap quotedChars ++ ['"'])) (c :: v) ↔
      ¬ Opens c v ∧ Body (v.flatMap quotedChars ++ ['"']) v := by
  rw [← opens_quoted_iff]
  constructor
  · intro h
    rcases h.of_plain (ne_of_isPlain hc rfl) (ne_of_isPlain hc rfl) with ⟨hopens, w, hw, hrest⟩ |
      ⟨hsign, more, w, htext, hw, -⟩
    · obtain ⟨-, rfl⟩ := List.cons.inj hw
      exact ⟨hopens, hrest⟩
    · -- a doubled sign stands for one sign and a brace, and so the text goes on with a brace
      obtain ⟨-, rfl⟩ := List.cons.inj hw
      exact absurd (List.cons.inj htext).1.symm (isPlain_of_sign hsign).2
  · rintro ⟨hopens, hrest⟩
    refine .plain ?_ hopens hrest
    simp only [List.mem_cons, List.not_mem_nil, or_false, not_or]
    exact ⟨ne_of_isPlain hc rfl, ne_of_isPlain hc rfl, ne_of_isPlain hc rfl⟩

/-- A character that is written with a letter. -/
theorem body_letter_iff {letter : Char} (h : (letter, c) ∈ letters) :
    Body ('\\' :: letter :: rest) (c :: v) ↔ (letter, c) ∈ escapes ∧ Body rest v := by
  constructor
  · intro hbody
    rcases hbody.of_backslash with ⟨e, he, rest, w, htext, hw, hrest⟩ |
      ⟨m, hm, digits, rest, w, d, htext, -⟩
    · obtain ⟨rfl, rfl⟩ := List.cons.inj hw
      obtain ⟨rfl, rfl⟩ := List.cons.inj htext
      exact ⟨he, hrest⟩
    · exact absurd (List.cons.inj htext).1
        (letter_ne_marker (letter, c) (List.mem_append_right _ h) m hm)
  · rintro ⟨hknown, hrest⟩
    exact .letter hknown hrest

/-- A character that is written with its number. -/
theorem body_number_iff (h : c.toNat < 0x20) :
    Body ('\\' :: 'u' :: (Text.padZeros 4 (Text.hexChars c.toNat) ++ rest)) (c :: v) ↔
      Body rest v := by
  obtain ⟨hlength, -, hvalue⟩ := Json.numeral?_control c.toNat h
  constructor
  · intro hbody
    rcases hbody.of_backslash with ⟨e, he, rest, w, htext, -⟩ |
      ⟨m, hm, digits, rest, w, d, htext, hdigits, -, hw, hrest⟩
    · exact absurd (List.cons.inj htext).1.symm
        (letter_ne_marker e (List.mem_append_left _ he) ('u', 4) (by decide))
    · obtain ⟨hmarker, htext⟩ := List.cons.inj htext
      have hfour : ∀ m ∈ markers, 'u' = m.1 → m.2 = 4 := by decide
      obtain ⟨-, rfl⟩ := List.append_inj htext
        (hlength.trans (hdigits.trans (hfour m hm hmarker)).symm)
      obtain ⟨-, rfl⟩ := List.cons.inj hw
      exact hrest
  · exact .number (m := ('u', 4)) (by decide) hlength hvalue

/-- Of the letters of the writer only those for the backspace and the form feed are unknown. -/
theorem mem_escapes_iff : ∀ e ∈ letters,
    (e ∈ escapes ↔ e.2 ≠ '\x08' ∧ e.2 ≠ '\x0c') ∧ e.2 ∉ signs := by decide

theorem body_quoted_cons :
    Body ((c :: v).flatMap quotedChars ++ ['"']) (c :: v) ↔
      ¬ Opens c v ∧ c ≠ '\x08' ∧ c ≠ '\x0c' ∧ Body (v.flatMap quotedChars ++ ['"']) v := by
  rw [List.flatMap_cons, List.append_assoc]
  rcases quotedChars_cases c with ⟨hplain, hwritten⟩ | ⟨letter, hmem, hwritten⟩ |
    ⟨hcontrol, hwritten⟩
  · have hback : c ≠ '\x08' := ne_of_isPlain hplain rfl
    have hfeed : c ≠ '\x0c' := ne_of_isPlain hplain rfl
    rw [hwritten, List.singleton_append, body_plain_iff hplain]
    simp [hback, hfeed]
  · obtain ⟨hknown, hsign⟩ := mem_escapes_iff _ hmem
    rw [hwritten, List.cons_append, List.singleton_append, body_letter_iff hmem, hknown, and_assoc]
    exact (and_iff_right fun h => hsign h.1).symm
  · have hback : c ≠ '\x08' := by
      rintro rfl
      exact absurd hwritten (by decide)
    have hfeed : c ≠ '\x0c' := by
      rintro rfl
      exact absurd hwritten (by decide)
    have hopens : ¬ Opens c v := fun h => by
      have hplain := quotedChars_of_isPlain (isPlain_of_sign h.1).1
      exact nomatch (List.cons.inj (hplain.symm.trans hwritten)).2
    rw [hwritten, List.cons_append, List.cons_append, body_number_iff hcontrol]
    simp [hopens, hback, hfeed]

/-- **A TEXT MEANS ITSELF** when its characters are quoted, if and only if it is plain. -/
theorem body_quoted_iff : Body (v.flatMap quotedChars ++ ['"']) v ↔ Plain v := by
  induction v with
  | nil => exact iff_of_true .close (by decide)
  | cons c v ih => rw [body_quoted_cons, plain_cons, ih]

end

/-! ## Quoted values -/

theorem denotes_quote_iff {v : String} : Denotes (quote v) v ↔ Plain v.toList := by
  have hquote : (quote v).toList = '"' :: (v.toList.flatMap quotedChars ++ ['"']) := by
    rw [quote, Json.quote, String.toList_ofList, Json.quoteChars]
  constructor
  · rintro ⟨body, hbody, h⟩
    obtain ⟨-, rfl⟩ := List.cons.inj (hquote.symm.trans hbody)
    exact body_quoted_iff.mp h
  · exact fun h => ⟨_, hquote, body_quoted_iff.mpr h⟩

/-- Some texts do not mean themselves when they are quoted. -/
theorem quoted_does_not_mean_itself :
    ¬ (∀ v, Denotes (quote v) v) ∧ ¬ Denotes (quote "a$\x7bb\x7d") "a$\x7bb\x7d" ∧
      ¬ Denotes (quote "a\x08b") "a\x08b" := by
  have htemplate : ¬ Denotes (quote "a$\x7bb\x7d") "a$\x7bb\x7d" := fun h =>
    absurd (denotes_quote_iff.mp h) (by decide +kernel)
  exact ⟨fun h => htemplate (h _), htemplate, fun h =>
    absurd (denotes_quote_iff.mp h) (by decide +kernel)⟩

theorem render_texts (vs : List String) :
    (Json.ofTexts vs).render = "[" ++ ",".intercalate (vs.map quote) ++ "]" := by
  rw [Json.ofTexts, Json.render, Json.renderItems_eq, List.map_map]
  rfl

/-- The line of an attribute ends with its value. -/
theorem quote_mem_backendLines {kind name v : String} {attributes : List (String × String)}
    (h : (name, v) ∈ attributes) : ∃ start, start ++ quote v ∈ backendLines kind attributes := by
  have hne : ¬ attributes.isEmpty = true := by
    rw [List.isEmpty_iff]
    exact List.ne_nil_of_mem h
  have hline : attributeLine (widest attributes) (name, v) ∈
      attributes.map (attributeLine (widest attributes)) := List.mem_map_of_mem h
  rw [attributeLine] at hline
  refine ⟨"    " ++ padName (widest attributes) name ++ " = ", ?_⟩
  rw [backendLines, if_neg hne, List.mem_append, List.mem_append]
  exact Or.inl (Or.inr hline)

/-- **A QUOTED VALUE MEANS ITSELF** if and only if it is plain.  Such quoted values stand in the
lines of a backend block, and they are what the filter of the templates writes for a text and, item
by item, for a list of texts. -/
theorem quoted_means_itself_iff_plain (v : String) (vs : List String) (scope : Template.Scope)
    (e : Template.Expr) :
    ((∀ w, Denotes (quote v) w ↔ w = v) ↔ Plain v.toList) ∧
      (∀ (kind name : String) (attributes : List (String × String)), (name, v) ∈ attributes →
        ∃ start, start ++ quote v ∈ backendLines kind attributes) ∧
      (e.eval scope = .ok (.value (.text v)) →
        (Template.Piece.emit (.hcl e)).eval .plain scope = .ok (quote v, scope)) ∧
      (e.eval scope = .ok (.value (.ofTexts vs)) →
        (Template.Piece.emit (.hcl e)).eval .plain scope =
          .ok ("[" ++ ",".intercalate (vs.map quote) ++ "]", scope)) := by
  refine ⟨⟨fun h => denotes_quote_iff.mp ((h v).mpr rfl), fun h w => ⟨fun hw => ?_, ?_⟩⟩,
    fun kind name attributes h => quote_mem_backendLines h, fun h => ClusterFile.eval_emit_hcl h,
    fun h => ?_⟩
  · exact hw.unique (denotes_quote_iff.mpr h)
  · rintro rfl
    exact denotes_quote_iff.mpr h
  · rw [← render_texts]
    exact ClusterFile.eval_emit_hcl h

/-- The names in force in a template with a list of zones. -/
def zones : Template.Scope := [("zones", .value (.ofTexts ["a", "b"]))]

theorem quoted_zones_mean_themselves :
    (∀ w, Denotes (quote "eu-west-1") w ↔ w = "eu-west-1") ∧
      (∃ start, start ++ quote "eu-west-1" ∈ backendLines "s3" [("region", "eu-west-1")]) ∧
      (Template.Piece.emit (.hcl (.text "a\"b"))).eval .plain zones =
        .ok (quote "a\"b", zones) ∧
      (Template.Piece.emit (.hcl (.var "zones"))).eval .plain zones =
        .ok ("[" ++ ",".intercalate [quote "a", quote "b"] ++ "]", zones) := by
  obtain ⟨hmeans, hlines, -, hlist⟩ :=
    quoted_means_itself_iff_plain "eu-west-1" ["a", "b"] zones (.var "zones")
  obtain ⟨-, -, htext, -⟩ := quoted_means_itself_iff_plain "a\"b" [] zones (.text "a\"b")
  exact ⟨hmeans.mpr (by decide +kernel), hlines "s3" "region" _ List.mem_cons_self, htext rfl,
    hlist rfl⟩

end Clusterwright.Hcl
