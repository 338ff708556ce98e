import Clusterwright.Json.Writer
import Clusterwright.Proofs.Text.Breaks

/-! # Quoting — written values stay on their lines

    Compact text has no blanks, and a line break in a text is written with two other characters.
    So no text and no list of texts that is quoted has a line break in it, whatever it was
    configured as. -/

namespace Clusterwright.Json

open Text

theorem hexChars_unbroken : ∀ n < 0x20, '\n' ∉ padZeros 4 (hexChars n) := by decide +kernel

/-- No character is quoted with a line break, the line break least of all. -/
theorem newline_not_mem_quotedChars (c : Char) : '\n' ∉ quotedChars c := by
  by_cases hbreak : c = '\n'
  · subst hbreak
    decide
  by_cases hcontrol : c.toNat < 0x20
  · -- control characters are written with a letter or with their number
    have hnumber := hexChars_unbroken c.toNat hcontrol
    unfold quotedChars
    split_ifs <;> simp [hnumber]
  · unfold quotedChars
    split_ifs <;> simp [Ne.symm hbreak]

theorem unbroken_quote (s : String) : Unbroken (quote s) := by
  unfold Unbroken quote quoteChars
  rw [String.toList_ofList]
  simp [newline_not_mem_quotedChars]

theorem unbroken_render_text (s : String) : Unbroken (Json.text s).render := unbroken_quote s

theorem unbroken_render_bool (b : Bool) : Unbroken (Json.bool b).render := by
  cases b <;> decide +kernel

theorem renderItems_eq (items : List Json) : renderItems items = items.map render := by
  induction items with
  | nil => rfl
  | cons item items ih => rw [renderItems, ih, List.map_cons]

/-- Texts that are joined have no line breaks that they had not before. -/
theorem unbroken_intercalate {separator : String} {texts : List String}
    (hseparator : Unbroken separator) (h : ∀ s ∈ texts, Unbroken s) :
    Unbroken (separator.intercalate texts) := by
  induction texts with
  | nil => simp [Unbroken]
  | cons s texts ih =>
      rw [List.forall_mem_cons] at h
      cases texts with
      | nil => simpa using h.1
      | cons t texts =>
          rw [String.intercalate_cons_cons, unbroken_append, unbroken_append]
          exact ⟨⟨h.1, hseparator⟩, ih h.2⟩

theorem unbroken_render_texts (texts : List String) : Unbroken (Json.ofTexts texts).render := by
  have hitems : ∀ s ∈ renderItems (texts.map .text), Unbroken s := by
    rw [renderItems_eq, List.map_map, List.forall_mem_map]
    exact fun s _ => unbroken_render_text s
  have hcomma : Unbroken "," := by decide +kernel
  have hjoined := unbroken_intercalate hcomma hitems
  rw [ofTexts, render, unbroken_append, unbroken_append]
  exact ⟨⟨by decide +kernel, hjoined⟩, by decide +kernel⟩

end Clusterwright.Json
