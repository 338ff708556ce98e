import Clusterwright.Text.Numeral
import Mathlib.Data.List.Forall2

/-! # Numerals — what is read as a number, and what is written for one

    A numeral is at least one digit, small or capital, and its value is that of its digits by
    their places.  `numeral?` reads exactly the numerals (`numeral?_eq_some_iff_isNumeral`), and
    the digits that are written for a number are one with its value (`isNumeral_toDigits`). -/

namespace Clusterwright.Text

/-- Whether a character stands for a digit of a base, in either case. -/
def Stands (base : Nat) (c : Char) (d : Nat) : Prop := d < base ∧ c.toLower = Nat.digitChar d

/-- The value of digits by their places, after digits of some value. -/
def placeValue (base value : Nat) (digits : List Nat) : Nat :=
  digits.foldl (fun value d => value * base + d) value

/-- A numeral and its value. -/
def IsNumeral (base : Nat) (w : List Char) (n : Nat) : Prop :=
  w ≠ [] ∧ ∃ digits, List.Forall₂ (Stands base) w digits ∧ placeValue base 0 digits = n

section

variable {base value n d : Nat} {c : Char} {w : List Char}

/-! ## Reading -/

/-- Among the first characters each digit is found out by its small form. -/
theorem digitValue?_ascii : ∀ k < 128, ∀ d < 16,
    digitValue? (Char.ofNat k) = some d ↔ (Char.ofNat k).toLower = Nat.digitChar d := by
  decide +kernel

theorem digitValue?_lt (h : digitValue? c = some d) : d < 16 ∧ c.toNat < 128 := by
  unfold digitValue? at h
  have hle {a b : Char} (hab : a ≤ b) : a.toNat ≤ b.toNat := hab
  split at h
  case isTrue hdigit =>
    have hlast : c.toNat ≤ 57 := hle hdigit.2
    obtain rfl := Option.some.inj h
    have hfirst : '0'.toNat = 48 := rfl
    omega
  split at h
  case isTrue hsmall =>
    have hlast : c.toNat ≤ 102 := hle hsmall.2
    obtain rfl := Option.some.inj h
    have hfirst : 'a'.toNat = 97 := rfl
    omega
  split at h
  case isTrue hcapital =>
    have hlast : c.toNat ≤ 70 := hle hcapital.2
    obtain rfl := Option.some.inj h
    have hfirst : 'A'.toNat = 65 := rfl
    omega
  exact nomatch h

theorem toNat_lt_of_toLower (hd : d < 16) (h : c.toLower = Nat.digitChar d) : c.toNat < 128 := by
  have hdigit : ∀ d < 16, (Nat.digitChar d).toNat < 128 := by decide
  by_contra hlarge
  -- only capital letters have another small form
  have hsame : c.toLower = c := by
    unfold Char.toLower
    rw [dif_neg]
    rintro ⟨-, hlast⟩
    have hlast : c.toNat ≤ 90 := hlast
    omega
  have := hdigit d hd
  rw [← h, hsame] at this
  omega

theorem digit?_eq_some_iff (hbase : base ≤ 16) : digit? base c = some d ↔ Stands base c d := by
  have hvalue (hd : d < 16) (hc : c.toNat < 128) :
      digitValue? c = some d ↔ c.toLower = Nat.digitChar d := by
    have hall := digitValue?_ascii c.toNat hc d hd
    rwa [Char.ofNat_toNat] at hall
  rw [digit?, Option.filter_eq_some_iff, decide_eq_true_eq]
  constructor
  · rintro ⟨h, hd⟩
    obtain ⟨hsmall, hc⟩ := digitValue?_lt h
    exact ⟨hd, (hvalue hsmall hc).mp h⟩
  · rintro ⟨hd, h⟩
    have hsmall := Nat.lt_of_lt_of_le hd hbase
    exact ⟨(hvalue hsmall (toNat_lt_of_toLower hsmall h)).mpr h, hd⟩

theorem digitsValue?_eq_some_iff (hbase : base ≤ 16) :
    digitsValue? base value w = some n ↔
      ∃ digits, List.Forall₂ (Stands base) w digits ∧ placeValue base value digits = n := by
  induction w generalizing value with
  | nil =>
      rw [digitsValue?, Option.some_inj]
      constructor
      · rintro rfl
        exact ⟨[], .nil, rfl⟩
      · rintro ⟨digits, hdigits, rfl⟩
        cases hdigits
        rfl
  | cons c w ih =>
      rw [digitsValue?, Option.bind_eq_some_iff]
      constructor
      · rintro ⟨d, hd, hrest⟩
        obtain ⟨digits, hdigits, hn⟩ := ih.mp hrest
        exact ⟨d :: digits, .cons ((digit?_eq_some_iff hbase).mp hd) hdigits, hn⟩
      · rintro ⟨digits, hdigits, hn⟩
        cases hdigits with
        | cons hd hrest => exact ⟨_, (digit?_eq_some_iff hbase).mpr hd, ih.mpr ⟨_, hrest, hn⟩⟩

/-- **WHAT IS READ** as a number is a numeral of that value, and all of them are read. -/
theorem numeral?_eq_some_iff_isNumeral (hbase : base ≤ 16) :
    numeral? base w = some n ↔ IsNumeral base w n := by
  cases w with
  | nil => simp [numeral?, IsNumeral]
  | cons c w =>
      rw [numeral?, if_neg (by simp), digitsValue?_eq_some_iff hbase]
      exact (and_iff_right (List.cons_ne_nil c w)).symm

/-- Every character of a numeral is a digit. -/
theorem IsNumeral.isSome_digit? (hbase : base ≤ 16) (h : IsNumeral base w n) :
    ∀ c ∈ w, (digit? base c).isSome = true := by
  obtain ⟨-, digits, hdigits, -⟩ := h
  refine ((List.forall₂_and_left _ _).mp (hdigits.imp fun c d hd => ⟨?_, hd⟩)).1
  rw [(digit?_eq_some_iff hbase).mpr hd]
  rfl

/-- What is read as a number after a plus sign or without one, up to a limit. -/
theorem unsigned?_eq_some_iff {limit : Nat} :
    unsigned? base limit w = some n ↔
      ∃ sign digits, w = sign ++ digits ∧ (sign = [] ∨ sign = ['+']) ∧
        numeral? base digits = some n ∧ n ≤ limit := by
  have hbounded (w : List Char) : (numeral? base w).filter (· ≤ limit) = some n ↔
      numeral? base w = some n ∧ n ≤ limit := by
    rw [Option.filter_eq_some_iff, decide_eq_true_eq]
  unfold unsigned?
  split
  case h_1 rest =>
    rw [hbounded]
    constructor
    · exact fun h => ⟨['+'], rest, rfl, Or.inr rfl, h⟩
    · rintro ⟨sign, digits, hs, rfl | rfl, h⟩
      · -- a plus sign is no digit
        rw [List.nil_append] at hs
        subst hs
        exact nomatch h.1
      · obtain rfl := (List.cons.inj hs).2
        exact h
  case h_2 hplus =>
    rw [hbounded]
    constructor
    · exact fun h => ⟨[], w, rfl, Or.inl rfl, h⟩
    · rintro ⟨sign, digits, hs, rfl | rfl, h⟩
      · rw [List.nil_append] at hs
        exact hs ▸ h
      · exact absurd hs (hplus digits)

/-! ## Writing -/

theorem toList_toString (n : Nat) : (toString n).toList = Nat.toDigits 10 n := by
  rw [Nat.toString_eq_repr, Nat.toList_repr]

theorem stands_digitChar (hbase : base ≤ 16) (hd : d < base) :
    Stands base (Nat.digitChar d) d := by
  have hsmall : ∀ d < 16, (Nat.digitChar d).toLower = Nat.digitChar d := by decide
  exact ⟨hd, hsmall d (Nat.lt_of_lt_of_le hd hbase)⟩

theorem IsNumeral.append (h : IsNumeral base w n) (hc : Stands base c d) :
    IsNumeral base (w ++ [c]) (n * base + d) := by
  obtain ⟨-, digits, hdigits, rfl⟩ := h
  refine ⟨by simp, digits ++ [d], List.rel_append hdigits (.cons hc .nil), ?_⟩
  rw [placeValue, List.foldl_append]
  rfl

/-- **THE DIGITS** that are written for a number are a numeral of its value. -/
theorem isNumeral_toDigits (hbase : 1 < base) (hsixteen : base ≤ 16) (n : Nat) :
    IsNumeral base (Nat.toDigits base n) n := by
  induction n using Nat.strongRecOn with
  | ind n ih =>
      rw [Nat.toDigits_eq_if hbase]
      split
      case isTrue hsmall =>
        refine ⟨List.cons_ne_nil _ _, [n], .cons (stands_digitChar hsixteen hsmall) .nil, ?_⟩
        simp [placeValue]
      case isFalse hlarge =>
        have hdigit : Stands base (Nat.digitChar (n % base)) (n % base) :=
          stands_digitChar hsixteen (Nat.mod_lt n (by omega))
        have hfront := ih (n / base) (Nat.div_lt_self (by omega) hbase)
        have hall := hfront.append hdigit
        rwa [Nat.div_add_mod'] at hall

end

end Clusterwright.Text
