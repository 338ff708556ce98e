import Clusterwright.Platform.Reservation
import Clusterwright.Proofs.Text.Breaks
import Clusterwright.Proofs.Text.Numerals
import Mathlib.Data.List.Induction

/-! # Reservation keys — what a key that is accepted looks like

    A key is the word of its role, one dash and a number, and the number is read as any
    signed word is: with as many zeros as one likes in front, and with a plus sign if one likes.
    There are three ways to say that, and all of them come to the same:

    * `KeyOf`, the grammar from the digits up; `isKey_iff` reads it off the check;
    * `SpelledOut`, the keys one after the other, by the number and the zeros in front of it
      (`keyOf_iff_spelledOut`, from `numeral?_eq_some_iff_zeros`);
    * `FitsInPieces`, what one sees when the key is cut at every dash and what stands after the
      first one is read with a sign (`isKey_iff_fitsInPieces`).

    **`keys_are_those_of_their_grammar`** puts them together, with what can never stand in a key. -/

namespace Clusterwright

namespace Text

/-- The value of decimal digits. -/
def decimalValue (digits : List Char) : Nat :=
  digits.foldl (fun value c => value * 10 + (c.toNat - '0'.toNat)) 0

theorem isDigit_of_digit? {c : Char} {n : Nat} (h : digit? 10 c = some n) : isDigit c = true := by
  obtain ⟨hvalue, hsmall⟩ := Option.filter_eq_some_iff.mp h
  unfold digitValue? at hvalue
  split at hvalue
  case isTrue hdigit => simpa [isDigit] using hdigit
  case isFalse =>
    -- what stands for ten or more is no digit of this base
    have hlarge : 10 ≤ n := by
      split at hvalue
      · obtain rfl := Option.some.inj hvalue
        omega
      · split at hvalue
        · obtain rfl := Option.some.inj hvalue
          omega
        · exact nomatch hvalue
    have hsmall := of_decide_eq_true hsmall
    omega

theorem isDigit_of_digitsValue? {value n : Nat} {digits : List Char}
    (h : digitsValue? 10 value digits = some n) : ∀ c ∈ digits, isDigit c = true := by
  induction digits generalizing value with
  | nil => exact List.forall_mem_nil _
  | cons c digits ih =>
      rw [digitsValue?] at h
      obtain ⟨d, hd, hrest⟩ := Option.bind_eq_some_iff.mp h
      exact List.forall_mem_cons.mpr ⟨isDigit_of_digit? hd, ih hrest⟩

theorem value_of_isDigit {c : Char} (h : isDigit c = true) :
    c.toNat - '0'.toNat < 10 ∧ Nat.digitChar (c.toNat - '0'.toNat) = c := by
  have hbounds : '0' ≤ c ∧ c ≤ '9' := by simpa [isDigit] using h
  have hfirst : 48 ≤ c.toNat := hbounds.1
  have hlast : c.toNat ≤ 57 := hbounds.2
  have hzero : '0'.toNat = 48 := rfl
  have hsmall : c.toNat - '0'.toNat < 10 := by omega
  refine ⟨hsmall, Char.toNat_inj.mp ?_⟩
  rw [Nat.toNat_digitChar_of_lt_ten hsmall]
  omega

theorem digit?_of_isDigit {c : Char} (h : isDigit c = true) :
    digit? 10 c = some (c.toNat - '0'.toNat) := by
  have hbounds : '0' ≤ c ∧ c ≤ '9' := by simpa [isDigit] using h
  have hsmall := decide_eq_true (value_of_isDigit h).1
  rw [digit?, digitValue?, if_pos hbounds, Option.filter_some, if_pos hsmall]

theorem digitsValue?_of_isDigit {digits : List Char} (h : ∀ c ∈ digits, isDigit c = true)
    (value : Nat) : digitsValue? 10 value digits =
      some (digits.foldl (fun value c => value * 10 + (c.toNat - '0'.toNat)) value) := by
  induction digits generalizing value with
  | nil => rfl
  | cons c digits ih =>
      obtain ⟨hc, hdigits⟩ := List.forall_mem_cons.mp h
      rw [digitsValue?, digit?_of_isDigit hc]
      exact ih hdigits _

/-- What is read as a number is at least one digit, and its value is theirs. -/
theorem numeral?_eq_some_iff {digits : List Char} {n : Nat} :
    numeral? 10 digits = some n ↔
      digits ≠ [] ∧ (∀ c ∈ digits, isDigit c = true) ∧ decimalValue digits = n := by
  unfold numeral?
  cases digits with
  | nil => simp
  | cons c rest =>
      rw [if_neg (by simp)]
      constructor
      · intro h
        have hdigits := isDigit_of_digitsValue? h
        rw [digitsValue?_of_isDigit hdigits] at h
        exact ⟨List.cons_ne_nil c rest, hdigits, Option.some.inj h⟩
      · rintro ⟨-, hdigits, rfl⟩
        exact digitsValue?_of_isDigit hdigits 0

/-- What is read as a number without a minus sign: at least one digit, with a value within the
    limit, after a plus sign or not. -/
theorem unsigned?_isSome_iff {limit : Nat} {s : List Char} :
    (unsigned? 10 limit s).isSome = true ↔
      ∃ sign digits, s = sign ++ digits ∧ (sign = [] ∨ sign = ['+']) ∧ digits ≠ [] ∧
        (∀ c ∈ digits, isDigit c = true) ∧ decimalValue digits ≤ limit := by
  rw [Option.isSome_iff_exists]
  simp only [unsigned?_eq_some_iff, numeral?_eq_some_iff]
  constructor
  · rintro ⟨n, sign, digits, hs, hsign, ⟨hne, hdigits, rfl⟩, hlimit⟩
    exact ⟨sign, digits, hs, hsign, hne, hdigits, hlimit⟩
  · rintro ⟨sign, digits, hs, hsign, hne, hdigits, hlimit⟩
    exact ⟨_, sign, digits, hs, hsign, ⟨hne, hdigits, rfl⟩, hlimit⟩

theorem decimalValue_concat (digits : List Char) (c : Char) :
    decimalValue (digits ++ [c]) = 10 * decimalValue digits + (c.toNat - '0'.toNat) := by
  rw [decimalValue, List.foldl_concat, Nat.mul_comm]
  rfl

/-- Zeros in front count for nothing. -/
theorem decimalValue_zeros (zeros : Nat) (digits : List Char) :
    decimalValue (List.replicate zeros '0' ++ digits) = decimalValue digits := by
  induction zeros with
  | zero => rfl
  | succ zeros ih =>
      rw [List.replicate_succ, List.cons_append]
      exact ih

/-- Digits are those that are written for their value, after zeros. -/
theorem exists_zeros {digits : List Char} (hne : digits ≠ [])
    (h : ∀ c ∈ digits, isDigit c = true) :
    ∃ zeros, digits = List.replicate zeros '0' ++ Nat.toDigits 10 (decimalValue digits) := by
  induction digits using List.reverseRecOn with
  | nil => exact absurd rfl hne
  | append_singleton front c ih =>
      obtain ⟨hfront, hc⟩ := List.forall_mem_append.mp h
      obtain ⟨hsmall, hchar⟩ := value_of_isDigit (hc c List.mem_cons_self)
      have hone : Nat.toDigits 10 (c.toNat - '0'.toNat) = [c] := by
        rw [Nat.toDigits_of_lt_base hsmall, hchar]
      rw [decimalValue_concat]
      rcases Nat.eq_zero_or_pos (decimalValue front) with hzero | hpos
      · -- nothing but zeros in front
        rw [hzero, Nat.mul_zero, Nat.zero_add, hone]
        by_cases hnil : front = []
        · exact ⟨0, by rw [hnil]; rfl⟩
        · obtain ⟨zeros, hzeros⟩ := ih hnil hfront
          refine ⟨zeros + 1, ?_⟩
          rw [hzero] at hzeros
          rw [List.replicate_succ', ← show Nat.toDigits 10 0 = ['0'] from rfl, ← hzeros]
      · have hnil : front ≠ [] := by
          rintro rfl
          exact absurd hpos (by decide)
        obtain ⟨zeros, hzeros⟩ := ih hnil hfront
        refine ⟨zeros, ?_⟩
        rw [← Nat.toDigits_append_toDigits (by decide) hpos hsmall, hone, ← List.append_assoc,
          ← hzeros]

/-- **THE DECIMAL NUMERALS** of a number: the digits that are written for it, after zeros. -/
theorem numeral?_eq_some_iff_zeros {digits : List Char} {n : Nat} :
    numeral? 10 digits = some n ↔
      ∃ zeros, digits = List.replicate zeros '0' ++ Nat.toDigits 10 n := by
  constructor
  · intro h
    obtain ⟨hne, hdigits, rfl⟩ := numeral?_eq_some_iff.mp h
    exact exists_zeros hne hdigits
  · rintro ⟨zeros, rfl⟩
    obtain ⟨hne, hdigits, hvalue⟩ := numeral?_eq_some_iff.mp
      ((numeral?_eq_some_iff_isNumeral (by decide)).mpr
        (isNumeral_toDigits (by decide) (by decide) n))
    refine numeral?_eq_some_iff.mpr ⟨List.append_ne_nil_of_right_ne_nil _ hne, ?_, ?_⟩
    · rw [List.forall_mem_append]
      refine ⟨fun c hc => ?_, hdigits⟩
      rw [List.eq_of_mem_replicate hc]
      rfl
    · rw [decimalValue_zeros, hvalue]

/-- Without a minus sign a number with a sign is read as one without. -/
theorem isSome_signed?_of_no_minus {base limit : Nat} {s : List Char} (h : '-' ∉ s) :
    (signed? base limit s).isSome = (unsigned? base limit s).isSome := by
  unfold signed?
  split
  case h_1 rest => exact absurd List.mem_cons_self h
  case h_2 => exact Option.isSome_map

end Text

namespace Reservations

variable {role other : NodeRole} {key : String}

/-! ## The check -/

theorem append_of_dropStart? {start s rest : List Char} (h : dropStart? start s = some rest) :
    s = start ++ rest := by
  induction start generalizing s with
  | nil => exact Option.some.inj h
  | cons a start ih =>
      cases s with
      | nil => exact nomatch h
      | cons b s =>
          rw [dropStart?] at h
          split at h
          case isTrue hab => rw [hab, ih h, List.cons_append]
          case isFalse => exact nomatch h

theorem dropStart?_append (start rest : List Char) :
    dropStart? start (start ++ rest) = some rest := by
  induction start with
  | nil => rfl
  | cons a start ih => rw [List.cons_append, dropStart?, if_pos rfl, ih]

/-- A key of a role: its word with a dash, a plus sign or none, and at least one decimal digit,
    with a value that a signed word of 64 bits can hold. -/
def KeyOf (role : NodeRole) (key : String) : Prop :=
  ∃ sign digits, key.toList = role.keyStart.toList ++ sign ++ digits ∧
    (sign = [] ∨ sign = ['+']) ∧ digits ≠ [] ∧ (∀ c ∈ digits, Text.isDigit c = true) ∧
    Text.decimalValue digits ≤ Text.maxInt64

/-- There is no second dash in a number. -/
theorem dash_not_mem {sign digits : List Char} (hsign : sign = [] ∨ sign = ['+'])
    (hdigits : ∀ c ∈ digits, Text.isDigit c = true) : '-' ∉ sign ++ digits := by
  have hrest : '-' ∉ digits := fun h => nomatch hdigits '-' h
  rcases hsign with rfl | rfl
  · exact hrest
  · simpa using hrest

/-- The check goes by what stands after the beginning of the keys of a role. -/
theorem isKey_iff_number : isKey role key = true ↔
    ∃ number, key.toList = role.keyStart.toList ++ number ∧ '-' ∉ number ∧
      (Text.unsigned? 10 Text.maxInt64 number).isSome = true := by
  unfold isKey
  constructor
  · intro h
    split at h
    case h_1 => exact nomatch h
    case h_2 number hnumber =>
      obtain ⟨hdash, hread⟩ := Bool.and_eq_true_iff.mp h
      exact ⟨number, append_of_dropStart? hnumber, by simpa using hdash, hread⟩
  · rintro ⟨number, hkey, hdash, hread⟩
    rw [hkey, dropStart?_append]
    show (!number.contains '-' && _) = true
    rw [hread, Bool.and_true, Bool.not_eq_true', List.contains_eq_mem, decide_eq_false hdash]

/-- **THE KEYS** that are accepted for a role are its keys. -/
theorem isKey_iff : isKey role key = true ↔ KeyOf role key := by
  rw [isKey_iff_number]
  constructor
  · rintro ⟨number, hkey, -, hread⟩
    obtain ⟨sign, digits, rfl, hdigits⟩ := Text.unsigned?_isSome_iff.mp hread
    exact ⟨sign, digits, by rw [hkey, List.append_assoc], hdigits⟩
  · rintro ⟨sign, digits, hkey, hsign, hne, hdigits, hvalue⟩
    refine ⟨sign ++ digits, by rw [hkey, List.append_assoc], dash_not_mem hsign hdigits, ?_⟩
    exact Text.unsigned?_isSome_iff.mpr ⟨sign, digits, rfl, hsign, hne, hdigits, hvalue⟩

instance (role : NodeRole) (key : String) : Decidable (KeyOf role key) :=
  decidable_of_iff _ isKey_iff

/-- **A KEY** that is accepted for a role. -/
theorem key_of_isKey (h : isKey role key = true) :
    ∃ sign digits, key.toList = role.keyStart.toList ++ sign ++ digits ∧
      (sign = [] ∨ sign = ['+']) ∧ digits ≠ [] ∧ ∀ c ∈ digits, Text.isDigit c = true := by
  obtain ⟨sign, digits, hkey, hsign, hne, hdigits, -⟩ := isKey_iff.mp h
  exact ⟨sign, digits, hkey, hsign, hne, hdigits⟩

/-! ## Spelling -/

/-- A key as it is spelled out: the word of its role with a dash, a plus sign or none, and the
    digits of a number that a signed word can hold, after as many zeros as one likes. -/
def SpelledOut (role : NodeRole) (key : String) : Prop :=
  ∃ sign zeros n, (sign = "" ∨ sign = "+") ∧ n ≤ Text.maxInt64 ∧
    key = role.keyStart ++ sign ++ String.ofList (List.replicate zeros '0') ++ toString n

theorem keyOf_iff_spelledOut : KeyOf role key ↔ SpelledOut role key := by
  constructor
  · rintro ⟨sign, digits, hkey, hsign, hne, hdigits, hvalue⟩
    obtain ⟨zeros, hzeros⟩ := Text.exists_zeros hne hdigits
    generalize Text.decimalValue digits = n at hvalue hzeros
    refine ⟨String.ofList sign, zeros, n, ?_, hvalue, ?_⟩
    · exact hsign.imp (congrArg String.ofList) (congrArg String.ofList)
    · refine String.ext ?_
      rw [hkey, hzeros]
      simp
  · rintro ⟨sign, zeros, n, hsign, hn, rfl⟩
    obtain ⟨hne, hdigits, hvalue⟩ :=
      Text.numeral?_eq_some_iff.mp ((Text.numeral?_eq_some_iff_zeros (n := n)).mpr ⟨zeros, rfl⟩)
    refine ⟨sign.toList, _, ?_, ?_, hne, hdigits, hvalue.symm ▸ hn⟩
    · simp
    · exact hsign.imp (congrArg String.toList) (congrArg String.toList)

/-! ## Pieces -/

/-- What comes of a key that is cut at its dashes: it begins as the keys of the role do, and there
    are two pieces, the second of which is read as a number with a sign. -/
def FitsInPieces (role : NodeRole) (key : String) : Prop :=
  role.keyStart.toList <+: key.toList ∧ ∃ word number, key.toList.splitOn '-' = [word, number] ∧
    (Text.signed? 10 Text.maxInt64 number).isSome = true

/-- The word of a role, before the only dash in the beginning of its keys. -/
theorem exists_word (role : NodeRole) :
    ∃ word, '-' ∉ word ∧ role.keyStart.toList = word ++ ['-'] := by
  cases role with
  | controller => exact ⟨"controller".toList, by decide, rfl⟩
  | worker => exact ⟨"worker".toList, by decide, rfl⟩

theorem splitOn_after_word {word rest : List Char} (hword : '-' ∉ word) :
    (word ++ ['-'] ++ rest).splitOn '-' = word :: rest.splitOn '-' := by
  rw [List.append_assoc, List.singleton_append, List.splitOn_append_cons_self,
    List.splitOn_eq_singleton hword, List.singleton_append]

theorem isKey_iff_fitsInPieces : isKey role key = true ↔ FitsInPieces role key := by
  obtain ⟨word, hword, hstart⟩ := exists_word role
  rw [isKey_iff_number]
  constructor
  · rintro ⟨number, hkey, hdash, hread⟩
    refine ⟨hkey ▸ List.prefix_append _ _, word, number, ?_, ?_⟩
    · rw [hkey, hstart, splitOn_after_word hword, List.splitOn_eq_singleton hdash]
    · rw [Text.isSome_signed?_of_no_minus hdash, hread]
  · rintro ⟨⟨number, hkey⟩, first, piece, hpieces, hread⟩
    rw [← hkey, hstart, splitOn_after_word hword] at hpieces
    obtain ⟨rfl, hdash⟩ := Text.splitOn_eq_singleton_iff.mp (List.cons.inj hpieces).2
    rw [Text.isSome_signed?_of_no_minus hdash] at hread
    exact ⟨piece, hkey.symm, hdash, hread⟩

/-! ## Characters -/

/-- The only characters that there are in a key. -/
theorem chars_of_keyOf (h : KeyOf role key) :
    ∀ c ∈ key.toList, (c.isAlphanum || c = '-' || c = '+') = true := by
  obtain ⟨sign, digits, hkey, hsign, -, hdigits, -⟩ := h
  have hstart : role.keyStart.toList.all (fun c => c.isAlphanum || c = '-' || c = '+') = true := by
    cases role <;> decide +kernel
  rw [hkey, List.forall_mem_append, List.forall_mem_append]
  refine ⟨⟨List.all_eq_true.mp hstart, ?_⟩, fun c hc => ?_⟩
  · rcases hsign with rfl | rfl
    · exact List.forall_mem_nil _
    · exact List.forall_mem_singleton.mpr rfl
  · have hdigit : c.isDigit = true := hdigits c hc
    rw [Char.isAlphanum, hdigit, Bool.or_true]
    rfl

/-- All other characters are missing from a key that is accepted. -/
theorem not_mem_of_isKey {c : Char} (h : isKey role key = true)
    (hc : ¬ (c.isAlphanum || c = '-' || c = '+') = true) : c ∉ key.toList :=
  fun hmem => hc (chars_of_keyOf (isKey_iff.mp h) c hmem)

theorem count_dash_keyStart (role : NodeRole) : role.keyStart.toList.count '-' = 1 := by
  cases role <;> decide

/-- The dash after the word is the only one. -/
theorem count_dash_of_keyOf (h : KeyOf role key) : key.toList.count '-' = 1 := by
  obtain ⟨sign, digits, hkey, hsign, -, hdigits, -⟩ := h
  rw [hkey, List.append_assoc, List.count_append, count_dash_keyStart,
    List.count_eq_zero_of_not_mem (dash_not_mem hsign hdigits)]

/-- No key is one of two roles: the words of the roles begin differently. -/
theorem role_of_keyOf (h : KeyOf role key) (hother : KeyOf other key) : role = other := by
  obtain ⟨sign, digits, hkey, -⟩ := h
  obtain ⟨sign', digits', hkey', -⟩ := hother
  have hsame := hkey.symm.trans hkey'
  cases role <;> cases other
  case controller.controller => rfl
  case worker.worker => rfl
  all_goals exact nomatch (List.cons.inj hsame).1

/-! ## All of it -/

/-- What is known of the check of a key. -/
structure KeyRule (key : String) : Prop where
  /-- Accepted are the keys of a role, and no others: -/
  grammar : ∀ role, isKey role key = true ↔ KeyOf role key
  /-- they can be spelled out, -/
  spelling : ∀ role, isKey role key = true ↔ SpelledOut role key
  /-- and they are told by their pieces. -/
  pieces : ∀ role, isKey role key = true ↔ FitsInPieces role key
  /-- There is one dash in a key that is accepted, -/
  oneDash : ∀ role, isKey role key = true → key.toList.count '-' = 1
  /-- so that no number of a node is negative. -/
  notNegative : ∀ role index, key = role.keyStart ++ "-" ++ index → isKey role key = false
  /-- There are letters, digits, and signs in it, -/
  chars : ∀ role, isKey role key = true →
    ∀ c ∈ key.toList, (c.isAlphanum || c = '-' || c = '+') = true
  /-- hence no quote, no blank and no line break. -/
  tame : ∀ role, isKey role key = true →
    '"' ∉ key.toList ∧ ' ' ∉ key.toList ∧ '\n' ∉ key.toList ∧ '\r' ∉ key.toList
  /-- It is accepted for one role only. -/
  oneRole : ¬ (isKey .controller key = true ∧ isKey .worker key = true)

/-- **THE KEYS** of reserved machines are those of their grammar: the word of the role, a dash, a
    plus sign or none, and at least one digit, where the number is one that a signed word can
    hold. -/
theorem keys_are_those_of_their_grammar (key : String) : KeyRule key := by
  have hdash (role : NodeRole) (h : isKey role key = true) : key.toList.count '-' = 1 :=
    count_dash_of_keyOf (isKey_iff.mp h)
  exact {
    grammar := fun _ => isKey_iff
    spelling := fun _ => isKey_iff.trans keyOf_iff_spelledOut
    pieces := fun _ => isKey_iff_fitsInPieces
    oneDash := hdash
    notNegative := by
      intro role index hkey
      rw [← Bool.not_eq_true]
      intro h
      have hone := hdash role h
      have hminus : "-".toList.count '-' = 1 := rfl
      rw [hkey, String.toList_append, String.toList_append, List.count_append, List.count_append,
        count_dash_keyStart, hminus] at hone
      omega
    chars := fun _ h => chars_of_keyOf (isKey_iff.mp h)
    tame := fun _ h => ⟨not_mem_of_isKey h (by decide), not_mem_of_isKey h (by decide),
      not_mem_of_isKey h (by decide), not_mem_of_isKey h (by decide)⟩
    oneRole := fun h => nomatch role_of_keyOf (isKey_iff.mp h.1) (isKey_iff.mp h.2) }

example : isKey .worker "worker-+007" = true := by decide +kernel

example : isKey .controller "controller-9223372036854775808" = false := by decide +kernel

end Reservations

end Clusterwright
