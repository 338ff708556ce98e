import Clusterwright.Network.Settings
import Clusterwright.Proofs.Network.Canonical
import Mathlib.Data.List.TakeDrop

/-! # Ranges — which texts are ranges, and what is found about the others

    A range is cut at its first slash, and what stands on the two sides is read on its own.  So the
    grammar of ranges comes down to that of addresses and that of numerals, and each way in which a
    text fails to be a range is a fault of its own:

    * `ofChars_of_written`, `ofChars_of_refused`: a range is read where one is written, and a
      fault is named where the text has it;
    * `written_or_refused`: there is no third case, and so both hold the other way round
      (`ofChars_eq_ok_iff`, `ofChars_eq_error_iff`);
    * `validate_eq_flatMap`: a network is checked range by range;
    * **`ranges_are_read_exactly`**: both together, with the way back from the canonical text and
      the findings about a network. -/

namespace Clusterwright

namespace Cidr

open Address (Denotes)

/-! ## Texts of ranges -/

/-- A number of bits: decimal digits, after a plus sign or not. -/
def IsLength (w : List Char) (n : Nat) : Prop :=
  ∃ sign digits, w = sign ++ digits ∧ (sign = [] ∨ sign = ['+']) ∧ Text.IsNumeral 10 digits n

/-- Whether a text says that the first `n` bits of an address are shared. -/
def Written (s : List Char) (a : Address) (n : Nat) : Prop :=
  ∃ front back, s = front ++ '/' :: back ∧ '/' ∉ front ∧ Denotes front a ∧ IsLength back n ∧
    n ≤ a.bits

theorem Written.length_le {s : List Char} {a : Address} {n : Nat} (h : Written s a n) :
    n ≤ a.bits := by
  obtain ⟨-, -, -, -, -, -, hn⟩ := h
  exact hn

/-- Whether a text is a text of a range. -/
def IsRange (s : String) : Prop := ∃ a n, Written s.toList a n

/-- What is wrong with a text that is no range: it has no slash, no address stands before the first
one, no number of at most 255 stands after it, or the address has not so many bits. -/
inductive Refused : List Char → Fault → Prop
  | noSlash {s : List Char} : '/' ∉ s → Refused s .noSlash
  | badAddress {front back : List Char} :
      '/' ∉ front → (∀ a, ¬ Denotes front a) → Refused (front ++ '/' :: back) .badAddress
  | badLength {front back : List Char} {a : Address} :
      '/' ∉ front → Denotes front a → (∀ n ≤ 255, ¬ IsLength back n) →
      Refused (front ++ '/' :: back) (.badLength (String.ofList back))
  | longLength {front back : List Char} {a : Address} {n : Nat} :
      '/' ∉ front → Denotes front a → IsLength back n → n ≤ 255 → a.bits < n →
      Refused (front ++ '/' :: back) (.longLength n a.bits)

section

variable {s front back : List Char} {c : Cidr} {fault : Fault} {n : Nat}

/-! ## Reading -/

theorem ne_slash (h : '/' ∉ s) : ∀ c ∈ s, decide (c ≠ '/') = true := fun c hc => by
  rw [decide_eq_true_eq]
  rintro rfl
  exact h hc

/-- The first slash is the one with none before it. -/
theorem cutAtSlash?_append (h : '/' ∉ front) :
    cutAtSlash? (front ++ '/' :: back) = some (front, back) := by
  rw [cutAtSlash?, List.span_eq_takeWhile_dropWhile, List.takeWhile_append_of_pos (ne_slash h),
    List.dropWhile_append_of_pos (ne_slash h), List.takeWhile_cons_of_neg (by simp),
    List.dropWhile_cons_of_neg (by simp), List.append_nil]

theorem cutAtSlash?_eq_none (h : '/' ∉ s) : cutAtSlash? s = none := by
  rw [cutAtSlash?, List.span_eq_takeWhile_dropWhile, List.dropWhile_eq_nil_iff.mpr (ne_slash h)]

theorem unsigned?_eq_some_iff :
    Text.unsigned? 10 255 back = some n ↔ IsLength back n ∧ n ≤ 255 := by
  simp only [Text.unsigned?_eq_some_iff, Text.numeral?_eq_some_iff_isNumeral (by decide : 10 ≤ 16)]
  constructor
  · rintro ⟨sign, digits, hback, hsign, hdigits, hn⟩
    exact ⟨⟨sign, digits, hback, hsign, hdigits⟩, hn⟩
  · rintro ⟨⟨sign, digits, hback, hsign, hdigits⟩, hn⟩
    exact ⟨sign, digits, hback, hsign, hdigits, hn⟩

theorem bits_le (a : Address) : a.bits ≤ 255 := by cases a <;> simp [Address.bits]

/-- **A RANGE IS READ** where one is written. -/
theorem ofChars_of_written (h : Written s c.address c.length) : ofChars s = .ok c := by
  obtain ⟨front, back, rfl, hslash, ha, hn, -⟩ := h
  -- the reader's own limit is no bound on ranges, since no address has so many bits
  have hlength := unsigned?_eq_some_iff.mpr ⟨hn, c.length_le.trans (bits_le c.address)⟩
  rw [ofChars, cutAtSlash?_append hslash]
  dsimp only
  rw [Address.parse?_eq_some_iff.mpr ha]
  dsimp only
  rw [hlength]
  exact dif_pos c.length_le

/-- **A FAULT IS NAMED** where the text has it. -/
theorem ofChars_of_refused (h : Refused s fault) : ofChars s = .error fault := by
  cases h with
  | noSlash hslash => rw [ofChars, cutAtSlash?_eq_none hslash]
  | badAddress hslash ha =>
      have hnone := Option.eq_none_iff_forall_ne_some.mpr fun a h =>
        ha a (Address.parse?_eq_some_iff.mp h)
      rw [ofChars, cutAtSlash?_append hslash]
      dsimp only
      rw [hnone]
  | badLength hslash ha hn =>
      have hnone := Option.eq_none_iff_forall_ne_some.mpr fun n h =>
        hn n (unsigned?_eq_some_iff.mp h).2 (unsigned?_eq_some_iff.mp h).1
      rw [ofChars, cutAtSlash?_append hslash]
      dsimp only
      rw [Address.parse?_eq_some_iff.mpr ha]
      dsimp only
      rw [hnone]
  | longLength hslash ha hn hsmall hlong =>
      rw [ofChars, cutAtSlash?_append hslash]
      dsimp only
      rw [Address.parse?_eq_some_iff.mpr ha]
      dsimp only
      rw [unsigned?_eq_some_iff.mpr ⟨hn, hsmall⟩]
      exact dif_neg (Nat.not_le.mpr hlong)

/-- A text is that of a range, or has a fault. -/
theorem written_or_refused (s : List Char) :
    (∃ c : Cidr, Written s c.address c.length) ∨ ∃ fault, Refused s fault := by
  by_cases hslash : '/' ∈ s
  · obtain ⟨front, back, rfl, hfront⟩ := List.eq_append_cons_of_mem hslash
    by_cases ha : ∃ a, Denotes front a
    · obtain ⟨a, ha⟩ := ha
      by_cases hn : ∃ n ≤ 255, IsLength back n
      · obtain ⟨n, hsmall, hn⟩ := hn
        by_cases hbits : n ≤ a.bits
        · exact Or.inl ⟨⟨a, n, hbits⟩, front, back, rfl, hfront, ha, hn, hbits⟩
        · exact Or.inr ⟨_, .longLength hfront ha hn hsmall (Nat.not_le.mp hbits)⟩
      · exact Or.inr ⟨_, .badLength hfront ha fun n hsmall h => hn ⟨n, hsmall, h⟩⟩
    · exact Or.inr ⟨_, .badAddress hfront fun a h => ha ⟨a, h⟩⟩
  · exact Or.inr ⟨_, .noSlash hslash⟩

theorem ofChars_eq_ok_iff : ofChars s = .ok c ↔ Written s c.address c.length := by
  refine ⟨fun h => ?_, ofChars_of_written⟩
  rcases written_or_refused s with ⟨c', hc'⟩ | ⟨fault, hfault⟩
  · obtain rfl := Except.ok.inj (h.symm.trans (ofChars_of_written hc'))
    exact hc'
  · exact nomatch h.symm.trans (ofChars_of_refused hfault)

theorem ofChars_eq_error_iff : ofChars s = .error fault ↔ Refused s fault := by
  refine ⟨fun h => ?_, ofChars_of_refused⟩
  rcases written_or_refused s with ⟨c, hc⟩ | ⟨fault', hfault'⟩
  · exact nomatch h.symm.trans (ofChars_of_written hc)
  · obtain rfl := Except.error.inj (h.symm.trans (ofChars_of_refused hfault'))
    exact hfault'

/-- **THE CANONICAL TEXT** of a range is a text of it. -/
theorem written_text (c : Cidr) : Written c.text c.address c.length :=
  ⟨_, _, rfl, (Address.denotes_text c.address).slash_not_mem, Address.denotes_text c.address,
    ⟨[], _, rfl, Or.inl rfl, Text.isNumeral_toDigits (by decide) (by decide) c.length⟩, c.length_le⟩

end

/-! ## Findings -/

theorem isRange_iff {s : String} : IsRange s ↔ (parse s).isOk = true := by
  constructor
  · rintro ⟨a, n, h⟩
    have hread : parse s = .ok ⟨a, n, h.length_le⟩ := ofChars_of_written h
    rw [hread]
    rfl
  · intro h
    cases hread : parse s with
    | ok c => exact ⟨_, _, ofChars_eq_ok_iff.mp hread⟩
    | error fault =>
        rw [hread] at h
        exact nomatch h

instance : DecidablePred IsRange := fun _ => decidable_of_iff _ isRange_iff.symm

/-- Whether a finding is about a text that should be a range: an error that names what the text
should be, the text, and what is wrong with it. -/
def Reports (d : Diagnostic) (entry : String × String) : Prop :=
  d.severity = .error ∧ d.summary = "Invalid " ++ entry.1 ∧
    ∃ fault, Refused entry.2.toList fault ∧
      d.detail = entry.1 ++ " " ++ Text.shown entry.2 ++ " not valid: " ++ fault.message

/-- Texts that are checked one by one are found out one by one. -/
theorem reports_check (entries : List (String × String)) :
    List.Forall₂ Reports (entries.flatMap fun e => check e.1 e.2)
      (entries.filter fun e => ¬ IsRange e.2) := by
  induction entries with
  | nil => exact .nil
  | cons e entries ih =>
      rw [List.flatMap_cons, check]
      cases hread : parse e.2 with
      | ok c =>
          have hrange : IsRange e.2 := ⟨_, _, ofChars_eq_ok_iff.mp hread⟩
          rw [List.filter_cons_of_neg (by simpa using hrange)]
          exact ih
      | error fault =>
          have hrange : ¬ IsRange e.2 := fun h => by
            rw [isRange_iff, hread] at h
            exact nomatch h
          rw [List.filter_cons_of_pos (by simpa using hrange)]
          exact .cons ⟨rfl, rfl, fault, ofChars_eq_error_iff.mp hread, rfl⟩ ih

end Cidr

/-- The texts of a network that should be ranges, with what each should be. -/
def Network.ranges : Network → List (String × String)
  | .packet s =>
    [("pod CIDR", s.podCidr), ("service CIDR", s.serviceCidr)] ++
      s.nodePrivateCidr.toList.map ("node private CIDR", ·) ++
      s.managementCidrs.map ("management CIDR", ·)
  | .bareMetal s => [("pod CIDR", s.podCidr), ("service CIDR", s.serviceCidr)]

theorem Network.validate_eq_flatMap (n : Network) :
    n.validate = n.ranges.flatMap fun e => Cidr.check e.1 e.2 := by
  cases n with
  | packet s =>
      have hprivate : (s.nodePrivateCidr.map (Cidr.check "node private CIDR")).getD [] =
          s.nodePrivateCidr.toList.flatMap (Cidr.check "node private CIDR") := by
        cases s.nodePrivateCidr <;> simp
      simp [validate, ranges, NetworkSettings.checkHosted, NetworkSettings.checkCommon, hprivate,
        List.flatMap_map]
  | bareMetal s => simp [validate, ranges, NetworkSettings.checkCommon]

/-- **RANGES ARE READ EXACTLY.** A text is read as a range if and only if it is written as one, and
otherwise its fault is named; the canonical text of a range is read as that range; and a network has
one finding for each of its texts that is no range, in order, and no other. -/
theorem Cidr.ranges_are_read_exactly :
    (∀ (s : String) (a : Address) (n : Nat),
        (∃ c, parse s = .ok c ∧ c.address = a ∧ c.length = n) ↔ Written s.toList a n) ∧
      (∀ (s : String) (fault : Fault), parse s = .error fault ↔ Refused s.toList fault) ∧
      (∀ c : Cidr, parse (String.ofList c.text) = .ok c) ∧
      ∀ n : Network, List.Forall₂ Reports n.validate (n.ranges.filter fun e => ¬ IsRange e.2) := by
  refine ⟨fun s a n => ⟨?_, fun h => ?_⟩, fun s fault => ofChars_eq_error_iff, fun c => ?_,
    fun n => ?_⟩
  · rintro ⟨c, hread, rfl, rfl⟩
    exact ofChars_eq_ok_iff.mp hread
  · exact ⟨⟨a, n, h.length_le⟩, ofChars_of_written h, rfl, rfl⟩
  · rw [parse, String.toList_ofList]
    exact ofChars_of_written (written_text c)
  · rw [n.validate_eq_flatMap]
    exact reports_check n.ranges

end Clusterwright
