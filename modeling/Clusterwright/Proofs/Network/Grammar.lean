import Clusterwright.Network.Address
import Clusterwright.Proofs.Text.Numerals

/-! # Grammar — which texts are addresses, and of what

    A reader of addresses tries, goes back and stops where it cannot go on.  The grammar here knows
    nothing of that: it says what a word is, how words stand between separators and which groups a
    text with a gap stands for.  The route:

    * `readNumber_eq_some_iff`, `readOctets_eq_some_iff`: numbers and dotted bytes are read where
      they stand, and only if no digit follows;
    * `run_of_readGroups`: whatever groups are read, they stood there;
    * `readGroups_of_run`: groups that stand before the end or before two colons are read, since
      a word before a colon is never the start of dotted bytes (`readOctets_eq_none`);
    * **`parse?_eq_some_iff`**: a text is read as an address if and only if it denotes it. -/

namespace Clusterwright.Address

open Text (digit? IsNumeral numeral?_eq_some_iff_isNumeral)

/-! ## Texts -/

/-- A byte in decimal: at most three digits, of which the first is no zero unless it is alone. -/
def IsOctet (w : List Char) (octet : UInt8) : Prop :=
  IsNumeral 10 w octet.toNat ∧ w.length ≤ 3 ∧ (w.head? = some '0' → w = ['0'])

/-- A group in hexadecimal: at most four digits. -/
def IsGroup (w : List Char) (group : UInt16) : Prop :=
  IsNumeral 16 w group.toNat ∧ w.length ≤ 4

/-- Four bytes with points between them. -/
def IsDotted (s : List Char) (octets : List UInt8) : Prop :=
  octets.length = 4 ∧ ∃ words, List.Forall₂ IsOctet words octets ∧ s = joinWith '.' words

/-- What stands before an item: a separator, unless it is the first. -/
def lead (separator : Char) (first : Bool) : List Char := if first then [] else [separator]

/-- Groups with colons between them, of which dotted bytes may take the last two places; the second
flag says whether they do. -/
inductive Run : Bool → List Char → Bool → List UInt16 → Prop
  | done (first : Bool) : Run first [] false []
  | dotted {first : Bool} {s : List Char} {octets : List UInt8} :
      IsDotted s octets → Run first (lead ':' first ++ s) true (pairs octets)
  | group {first ended : Bool} {w s : List Char} {group : UInt16} {groups : List UInt16} :
      IsGroup w group → Run false s ended groups →
      Run first (lead ':' first ++ (w ++ s)) ended (group :: groups)

/-- Eight groups, or fewer around two colons that stand for at least one group of zeros. -/
inductive IsColons : List Char → List UInt16 → Prop
  | full {ended : Bool} {s : List Char} {groups : List UInt16} :
      Run true s ended groups → groups.length = 8 → IsColons s groups
  | short {ended : Bool} {front back : List Char} {before after : List UInt16} :
      Run true front false before → Run true back ended after →
      before.length + after.length ≤ 7 →
      IsColons (front ++ ':' :: ':' :: back)
        (before ++ List.replicate (8 - before.length - after.length) 0 ++ after)

/-- Whether a text is a text of an address. -/
def Denotes (s : List Char) : Address → Prop
  | .v4 a => IsDotted s a.octets
  | .v6 a => IsColons s a.groups

/-! ## Words between separators -/

section

variable {separator : Char} {first : Bool} {words : List (List Char)} {w s rest : List Char}

/-- Words with separators, the first word with or without one. -/
def separated (separator : Char) (first : Bool) (words : List (List Char)) : List Char :=
  if first then joinWith separator words else words.flatMap (separator :: ·)

theorem joinWith_cons (separator : Char) (w : List Char) (words : List (List Char)) :
    joinWith separator (w :: words) = w ++ words.flatMap (separator :: ·) := by
  induction words generalizing w with
  | nil => simp [joinWith]
  | cons next words ih =>
      rw [joinWith, ih, List.flatMap_cons, List.cons_append]
      exact List.cons_ne_nil next words

@[simp] theorem separated_nil : separated separator first [] = [] := by cases first <;> rfl

theorem separated_cons : separated separator first (w :: words) =
    lead separator first ++ (w ++ separated separator false words) := by
  cases first with
  | true => exact joinWith_cons separator w words
  | false => rfl

theorem afterSeparator_eq_some_iff :
    afterSeparator separator first s = some rest ↔ s = lead separator first ++ rest := by
  cases first with
  | true => exact Option.some_inj
  | false =>
      cases s with
      | nil => simp [afterSeparator, lead]
      | cons c s =>
          simp only [afterSeparator, lead, Bool.false_eq_true, if_false, List.singleton_append,
            List.cons.injEq]
          split <;> simp_all

end

/-! ## Numbers -/

section

variable {base : Nat} {w w' s rest rest' : List Char}

/-- No digit stands at the front. -/
def Halts (base : Nat) (s : List Char) : Prop :=
  s.takeWhile (fun c => (digit? base c).isSome) = []

theorem halts_cons {c : Char} (h : digit? base c = none) : Halts base (c :: s) := by
  unfold Halts
  rw [List.takeWhile_cons_of_neg (by simp [h])]

theorem halts_dropWhile (base : Nat) (s : List Char) :
    Halts base (s.dropWhile fun c => (digit? base c).isSome) := by
  have hhead := List.head?_dropWhile_not (fun c => (digit? base c).isSome) s
  cases hrest : s.dropWhile fun c => (digit? base c).isSome with
  | nil => rfl
  | cons c rest =>
      rw [hrest] at hhead
      exact halts_cons (by simpa using hhead)

theorem takeWhile_digits (hw : ∀ c ∈ w, (digit? base c).isSome = true) (hrest : Halts base rest) :
    (w ++ rest).takeWhile (fun c => (digit? base c).isSome) = w := by
  rw [List.takeWhile_append_of_pos hw, hrest, List.append_nil]

/-- A run of digits is cut off from what follows it in one way only. -/
theorem digits_unique (hw : ∀ c ∈ w, (digit? base c).isSome = true)
    (hw' : ∀ c ∈ w', (digit? base c).isSome = true) (hrest : Halts base rest)
    (hrest' : Halts base rest') (h : w ++ rest = w' ++ rest') : w = w' ∧ rest = rest' := by
  have hwords : w = w' := by
    rw [← takeWhile_digits hw hrest, h, takeWhile_digits hw' hrest']
  subst hwords
  exact ⟨rfl, List.append_cancel_left h⟩

/-- **A NUMBER IS READ** where its digits stand, if they are all the digits there. -/
theorem readNumber_eq_some_iff (hbase : base ≤ 16) {maxDigits bound n : Nat}
    {leadingZeros : Bool} :
    readNumber base maxDigits bound leadingZeros s = some (n, rest) ↔
      ∃ w, s = w ++ rest ∧ Halts base rest ∧ IsNumeral base w n ∧ w.length ≤ maxDigits ∧
        (leadingZeros = false → w.head? = some '0' → w.length ≤ 1) ∧ n < bound := by
  constructor
  · intro h
    rw [readNumber] at h
    split at h
    case isTrue => exact nomatch h
    case isFalse hshape =>
      simp only [not_or, Nat.not_lt, not_and, Bool.not_eq_true'] at hshape
      split at h
      case h_2 => exact nomatch h
      case h_1 m hvalue =>
        split at h
        case isFalse => exact nomatch h
        case isTrue hbound =>
          obtain ⟨rfl, rfl⟩ := Prod.mk.inj (Option.some.inj h)
          have hcut := List.prefix_iff_eq_append.mp
            (List.takeWhile_prefix (l := s) fun c => (digit? base c).isSome)
          refine ⟨_, hcut.symm, ?_, (numeral?_eq_some_iff_isNumeral hbase).mp hvalue, hshape.1,
            hshape.2, hbound⟩
          rw [List.append_cancel_left (hcut.trans List.takeWhile_append_dropWhile.symm)]
          exact halts_dropWhile base s
  · rintro ⟨w, rfl, hrest, hw, hlength, hzero, hbound⟩
    have hrun := takeWhile_digits (hw.isSome_digit? hbase) hrest
    rw [readNumber, hrun, if_neg]
    · rw [(numeral?_eq_some_iff_isNumeral hbase).mpr hw, List.drop_left]
      exact if_pos hbound
    · simp only [not_or, Nat.not_lt, not_and, Bool.not_eq_true']
      exact ⟨hlength, hzero⟩

theorem readNumber_eq_none {maxDigits bound : Nat} {leadingZeros : Bool} (h : Halts base s) :
    readNumber base maxDigits bound leadingZeros s = none := by
  rw [readNumber, h]
  split <;> rfl

end

/-! ## Dotted bytes -/

section

variable {first : Bool} {n : Nat} {octet : UInt8} {octets : List UInt8} {w s rest : List Char}

theorem readOctet_eq_some_iff {value : Nat} :
    readNumber 10 3 256 false s = some (value, rest) ↔
      ∃ w octet, s = w ++ rest ∧ Halts 10 rest ∧ IsOctet w octet ∧ octet.toNat = value := by
  rw [readNumber_eq_some_iff (by decide)]
  have hzero {w : List Char} :
      (w.head? = some '0' → w.length ≤ 1) ↔ (w.head? = some '0' → w = ['0']) := by
    cases w with
    | nil => simp
    | cons c w => simp +contextual
  constructor
  · rintro ⟨w, hs, hrest, hw, hlength, hw0, hbound⟩
    have hoctet : (UInt8.ofNat value).toNat = value := UInt8.toNat_ofNat_of_lt hbound
    exact ⟨w, UInt8.ofNat value, hs, hrest, ⟨hoctet.symm ▸ hw, hlength, hzero.mp (hw0 rfl)⟩, hoctet⟩
  · rintro ⟨w, octet, hs, hrest, ⟨hw, hlength, hw0⟩, rfl⟩
    exact ⟨w, hs, hrest, hw, hlength, fun _ => hzero.mpr hw0, octet.toNat_lt⟩

theorem halts_separated {words : List (List Char)} (h : words = [] → Halts 10 rest) :
    Halts 10 (separated '.' false words ++ rest) := by
  cases words with
  | nil => exact h rfl
  | cons w words =>
      rw [separated_cons]
      exact halts_cons (by decide)

/-- **BYTES ARE READ** where they stand with points between them, if no digit follows. -/
theorem readOctets_eq_some_iff :
    readOctets n first s = some (octets, rest) ↔
      octets.length = n ∧ ∃ words, List.Forall₂ IsOctet words octets ∧
        s = separated '.' first words ++ rest ∧ (words = [] ∨ Halts 10 rest) := by
  induction n generalizing first s octets with
  | zero =>
      rw [readOctets, Option.some_inj, Prod.mk.injEq]
      constructor
      · rintro ⟨rfl, rfl⟩
        exact ⟨rfl, [], .nil, by simp, Or.inl rfl⟩
      · rintro ⟨hlength, words, hwords, rfl, -⟩
        obtain rfl := List.length_eq_zero_iff.mp hlength
        cases hwords
        simp
  | succ n ih =>
      simp only [readOctets, bind, Option.bind_eq_some_iff, afterSeparator_eq_some_iff, Prod.exists,
        readOctet_eq_some_iff, pure, Option.some_inj, Prod.mk.injEq]
      -- a byte that is followed by another one ends at a point, which is no digit
      constructor
      · rintro ⟨t, rfl, value, u, ⟨w, octet, rfl, hhalt, hw, rfl⟩, octets, rest, hmore, rfl, rfl⟩
        obtain ⟨rfl, words, hwords, rfl, hend⟩ := ih.mp hmore
        refine ⟨rfl, w :: words, .cons (by rwa [UInt8.ofNat_toNat]) hwords, ?_, Or.inr ?_⟩
        · rw [separated_cons, List.append_assoc, List.append_assoc]
        · rcases hend with rfl | hend
          · simpa using hhalt
          · exact hend
      · rintro ⟨hlength, words, hwords, rfl, hend⟩
        cases hwords with
        | nil => exact nomatch hlength
        | @cons w octet words octets hw hwords =>
            have hrest : Halts 10 rest := hend.resolve_left (List.cons_ne_nil w words)
            refine ⟨_, by rw [separated_cons, List.append_assoc], _, _,
              ⟨w, octet, List.append_assoc _ _ _, halts_separated fun _ => hrest, hw, rfl⟩, octets,
              rest, ih.mpr ⟨Nat.succ.inj hlength, words, hwords, rfl, Or.inr hrest⟩, ?_, rfl⟩
            rw [UInt8.ofNat_toNat]

/-- Four bytes at the front are a dotted text. -/
theorem readOctets_four_iff :
    readOctets 4 true s = some (octets, rest) ↔
      ∃ t, s = t ++ rest ∧ IsDotted t octets ∧ Halts 10 rest := by
  rw [readOctets_eq_some_iff]
  constructor
  · rintro ⟨hlength, words, hwords, rfl, hend⟩
    have hne : words ≠ [] := by
      rintro rfl
      cases hwords
      exact nomatch hlength
    exact ⟨_, rfl, ⟨hlength, words, hwords, rfl⟩, hend.resolve_left hne⟩
  · rintro ⟨t, rfl, ⟨hlength, words, hwords, rfl⟩, hend⟩
    exact ⟨hlength, words, hwords, rfl, Or.inr hend⟩

theorem isSome_digit?_sixteen {c : Char} (h : (digit? 10 c).isSome = true) :
    (digit? 16 c).isSome = true := by
  obtain ⟨d, hd⟩ := Option.isSome_iff_exists.mp h
  obtain ⟨hsmall, hc⟩ := (Text.digit?_eq_some_iff (by decide)).mp hd
  rw [(Text.digit?_eq_some_iff (d := d) (by decide)).mpr ⟨by omega, hc⟩]
  rfl

/-- A colon or the end comes next. -/
def AtColon (s : List Char) : Prop := s = [] ∨ ∃ rest, s = ':' :: rest

theorem AtColon.halts {base : Nat} (h : AtColon s) : Halts base s := by
  have hcolon : Text.digitValue? ':' = none := by decide
  rcases h with rfl | ⟨rest, rfl⟩
  · rfl
  · exact halts_cons (by rw [digit?, hcolon]; rfl)

/-- A word before a colon, or at the end, is not the start of dotted bytes. -/
theorem readOctets_eq_none (hw : ∀ c ∈ w, (digit? 16 c).isSome = true) (h : AtColon rest) :
    readOctets 4 true (w ++ rest) = none := by
  rw [Option.eq_none_iff_forall_ne_some]
  rintro ⟨octets, rest'⟩ hread
  obtain ⟨t, ht, ⟨hlength, words, hwords, rfl⟩, -⟩ := readOctets_four_iff.mp hread
  match words, octets, hwords with
  | [], [], _ => exact nomatch hlength
  | [_], [_], _ => exact nomatch hlength
  | first :: next :: words, octet :: octets, .cons hfirst _ =>
      -- the first byte would be all of the word, and then a point would stand where the colon is
      rw [joinWith_cons, List.flatMap_cons, List.append_assoc] at ht
      have hdigits := hfirst.1.isSome_digit? (by decide)
      obtain ⟨-, rfl⟩ := digits_unique hw (fun c hc => isSome_digit?_sixteen (hdigits c hc))
        h.halts (halts_cons (c := '.') (by decide)) ht
      rcases h with hpoint | ⟨more, hpoint⟩
      · exact nomatch hpoint
      · exact nomatch (List.cons.inj hpoint).1

end

/-! ## Groups -/

section

variable {first ended : Bool} {limit : Nat} {groups : List UInt16} {s rest : List Char}

theorem readGroup_eq_some_iff {value : Nat} :
    readNumber 16 4 65536 true s = some (value, rest) ↔
      ∃ w group, s = w ++ rest ∧ Halts 16 rest ∧ IsGroup w group ∧ group.toNat = value := by
  rw [readNumber_eq_some_iff (by decide)]
  constructor
  · rintro ⟨w, hs, hrest, hw, hlength, -, hbound⟩
    have hgroup : (UInt16.ofNat value).toNat = value := UInt16.toNat_ofNat_of_lt hbound
    exact ⟨w, UInt16.ofNat value, hs, hrest, ⟨hgroup.symm ▸ hw, hlength⟩, hgroup⟩
  · rintro ⟨w, group, hs, hrest, ⟨hw, hlength⟩, rfl⟩
    exact ⟨w, hs, hrest, hw, hlength, nofun, group.toNat_lt⟩

theorem length_pairs {octets : List UInt8} (h : octets.length = 4) : (pairs octets).length = 2 := by
  match octets, h with
  | [_, _, _, _], _ => rfl

/-- **WHAT IS READ** as groups stood there as a run. -/
theorem run_of_readGroups (h : readGroups limit first s = (groups, ended, rest)) :
    groups.length ≤ limit ∧ ∃ t, s = t ++ rest ∧ Run first t ended groups := by
  induction limit generalizing first s groups with
  | zero =>
      obtain ⟨rfl, hrest⟩ := Prod.mk.inj h
      obtain ⟨rfl, rfl⟩ := Prod.mk.inj hrest
      exact ⟨Nat.le_refl 0, [], rfl, .done first⟩
  | succ limit ih =>
      rw [readGroups] at h
      split at h
      case h_1 octets rest' hembedded =>
        obtain ⟨rfl, hrest⟩ := Prod.mk.inj h
        obtain ⟨rfl, rfl⟩ := Prod.mk.inj hrest
        split at hembedded
        case isFalse => exact nomatch hembedded
        case isTrue hlimit =>
          obtain ⟨u, hu, hread⟩ := Option.bind_eq_some_iff.mp hembedded
          obtain rfl := afterSeparator_eq_some_iff.mp hu
          obtain ⟨t, rfl, hdotted, -⟩ := readOctets_four_iff.mp hread
          refine ⟨?_, _, (List.append_assoc _ _ _).symm, .dotted hdotted⟩
          rw [length_pairs hdotted.1]
          omega
      case h_2 =>
        split at h
        case h_1 =>
          obtain ⟨rfl, hrest⟩ := Prod.mk.inj h
          obtain ⟨rfl, rfl⟩ := Prod.mk.inj hrest
          exact ⟨Nat.zero_le _, [], rfl, .done first⟩
        case h_2 value rest' hgroup =>
          obtain ⟨u, hu, hread⟩ := Option.bind_eq_some_iff.mp hgroup
          obtain rfl := afterSeparator_eq_some_iff.mp hu
          obtain ⟨w, group, rfl, -, hw, rfl⟩ := readGroup_eq_some_iff.mp hread
          rcases hmore : readGroups limit false rest' with ⟨more, ended', last⟩
          rw [hmore] at h
          obtain ⟨rfl, hrest⟩ := Prod.mk.inj h
          obtain ⟨rfl, rfl⟩ := Prod.mk.inj hrest
          obtain ⟨hlength, t, rfl, hrun⟩ := ih hmore
          refine ⟨Nat.succ_le_succ hlength, lead ':' first ++ (w ++ t), ?_, ?_⟩
          · rw [List.append_assoc, List.append_assoc]
          · rw [UInt16.ofNat_toNat]
            exact .group hw hrun

/-- Where no group can follow: at the end, or before two colons. -/
def Stops (s : List Char) : Prop := s = [] ∨ ∃ rest, s = ':' :: ':' :: rest

theorem Stops.atColon (h : Stops s) : AtColon s := by
  rcases h with rfl | ⟨rest, rfl⟩
  · exact Or.inl rfl
  · exact Or.inr ⟨_, rfl⟩

/-- After an item comes a separator, or what follows the run. -/
theorem Run.atColon (h : Run false s ended groups) (hrest : Stops rest) : AtColon (s ++ rest) := by
  cases h with
  | done => exact hrest.atColon
  | dotted => exact Or.inr ⟨_, rfl⟩
  | group => exact Or.inr ⟨_, rfl⟩

theorem afterSeparator_lead (separator : Char) (first : Bool) (s : List Char) :
    afterSeparator separator first (lead separator first ++ s) = some s :=
  afterSeparator_eq_some_iff.mpr rfl

/-- No group is read where none can follow. -/
theorem readGroups_of_stops (h : Stops s) : readGroups limit first s = ([], false, s) := by
  cases limit with
  | zero => rfl
  | succ limit =>
      -- what is left after the separator, if there is one, is the end or one more colon
      have hstuck : ∀ t, afterSeparator ':' first s = some t → AtColon t := by
        intro t ht
        obtain rfl := afterSeparator_eq_some_iff.mp ht
        cases first with
        | true => exact h.atColon
        | false =>
            rcases h with h | ⟨more, h⟩
            · exact nomatch h
            · exact Or.inr ⟨more, (List.cons.inj h).2⟩
      have hdotted : (afterSeparator ':' first s).bind (readOctets 4 true) = none :=
        Option.bind_eq_none_iff.mpr fun t ht =>
          readOctets_eq_none (List.forall_mem_nil _) (hstuck t ht)
      have hgroup : (afterSeparator ':' first s).bind (readNumber 16 4 65536 true) = none :=
        Option.bind_eq_none_iff.mpr fun t ht => readNumber_eq_none (hstuck t ht).halts
      rw [readGroups, hdotted, hgroup, ite_self]

/-- **GROUPS ARE READ** where they stand, before the end or before two colons. -/
theorem readGroups_of_run (h : Run first s ended groups) (hlimit : groups.length ≤ limit)
    (hrest : Stops rest) : readGroups limit first (s ++ rest) = (groups, ended, rest) := by
  induction h generalizing limit with
  | done first => exact readGroups_of_stops hrest
  | @dotted first s octets hs =>
      rw [length_pairs hs.1] at hlimit
      obtain ⟨limit, rfl⟩ := Nat.exists_eq_add_of_le' hlimit
      have hread : readOctets 4 true (s ++ rest) = some (octets, rest) :=
        readOctets_four_iff.mpr ⟨s, rfl, hs, hrest.atColon.halts⟩
      rw [List.append_assoc, readGroups, afterSeparator_lead, Option.bind_some, hread,
        if_pos (Nat.succ_pos limit)]
  | @group first ended w s group groups hw hrun ih =>
      obtain ⟨limit, rfl⟩ := Nat.exists_eq_add_of_le' (Nat.le_of_add_left_le hlimit)
      -- dotted bytes are tried first, and only when that fails is the word read as a group
      have hcolon := hrun.atColon hrest
      have hdotted := readOctets_eq_none (hw.1.isSome_digit? (by decide)) hcolon
      have hread : readNumber 16 4 65536 true (w ++ (s ++ rest)) = some (group.toNat, s ++ rest) :=
        readGroup_eq_some_iff.mpr ⟨w, group, rfl, hcolon.halts, hw, rfl⟩
      rw [List.append_assoc, List.append_assoc, readGroups, afterSeparator_lead, Option.bind_some,
        Option.bind_some, hdotted, ite_self, hread]
      simp [ih (Nat.le_of_succ_le_succ hlimit)]

end

/-! ## Addresses -/

section

variable {s : List Char} {groups : List UInt16} {a : Address}

/-- **COLONS AND GROUPS** are read to the end if and only if they are a text of eight groups. -/
theorem readV6_eq_some_iff : readV6 s = some (groups, []) ↔ IsColons s groups := by
  constructor
  · intro h
    rcases hfront : readGroups 8 true s with ⟨before, ended, rest⟩
    obtain ⟨hlength, front, rfl, hrun⟩ := run_of_readGroups hfront
    rw [readV6, hfront] at h
    dsimp only at h
    split at h
    case isTrue height =>
      obtain ⟨rfl, rfl⟩ := Prod.mk.inj (Option.some.inj h)
      rw [List.append_nil]
      exact .full hrun height
    case isFalse hshort =>
      split at h
      case isTrue => exact nomatch h
      case isFalse hended =>
        rw [Bool.not_eq_true] at hended
        subst hended
        split at h
        case h_2 => exact nomatch h
        case h_1 rest =>
          rcases hback : readGroups (7 - before.length) true rest with ⟨after, ended, last⟩
          rw [hback] at h
          obtain ⟨rfl, rfl⟩ := Prod.mk.inj (Option.some.inj h)
          obtain ⟨hafter, back, rfl, hmore⟩ := run_of_readGroups hback
          have htotal : before.length + after.length ≤ 7 := by omega
          rw [List.append_nil]
          exact .short hrun hmore htotal
  · intro h
    cases h with
    | full hrun hlength =>
        have hread := readGroups_of_run hrun (Nat.le_of_eq hlength) (Or.inl rfl)
        rw [List.append_nil] at hread
        rw [readV6, hread]
        exact if_pos hlength
    | @short ended front back before after hfront hback hlength =>
        have hread : readGroups 8 true (front ++ ':' :: ':' :: back) =
            (before, false, ':' :: ':' :: back) :=
          readGroups_of_run hfront (by omega) (Or.inr ⟨back, rfl⟩)
        have hmore : readGroups (7 - before.length) true (back ++ []) = (after, ended, []) :=
          readGroups_of_run hback (by omega) (Or.inl rfl)
        rw [List.append_nil] at hmore
        rw [readV6, hread]
        dsimp only
        rw [if_neg (by omega), if_neg (by simp)]
        simp only [hmore]

/-- What has colons does not start with dotted bytes. -/
theorem IsColons.readOctets_eq_none (h : IsColons s groups) : readOctets 4 true s = none := by
  cases h with
  | full hrun hlength =>
      cases hrun with
      -- eight groups are neither none nor the two that dotted bytes stand for
      | done => exact nomatch hlength
      | dotted hs => exact absurd ((length_pairs hs.1).symm.trans hlength) (by decide)
      | @group _ _ w s group groups hw hrun =>
          have hcolon := hrun.atColon (Or.inl rfl)
          rw [List.append_nil] at hcolon
          show readOctets 4 true (w ++ s) = none
          exact Address.readOctets_eq_none (hw.1.isSome_digit? (by decide)) hcolon
  | short hfront hback hlength =>
      cases hfront with
      | done => exact Address.readOctets_eq_none (List.forall_mem_nil _) (Or.inr ⟨_, rfl⟩)
      | @group _ _ w s group groups hw hrun =>
          show readOctets 4 true ((w ++ s) ++ _) = none
          rw [List.append_assoc]
          exact Address.readOctets_eq_none (hw.1.isSome_digit? (by decide))
            (hrun.atColon (Or.inr ⟨_, rfl⟩))

/-- **A TEXT IS READ** as an address if and only if it is a text of that address. -/
theorem parse?_eq_some_iff : parse? s = some a ↔ Denotes s a := by
  constructor
  · intro h
    rw [parse?] at h
    split at h
    case h_1 octets rest hread =>
      split at h
      case isFalse => exact nomatch h
      case isTrue hall =>
        obtain rfl := Option.some.inj h
        obtain ⟨t, rfl, hdotted, -⟩ := readOctets_four_iff.mp hread
        obtain rfl := List.isEmpty_iff.mp hall.1
        rw [List.append_nil]
        exact hdotted
    case h_2 =>
      split at h
      case h_2 => exact nomatch h
      case h_1 groups rest hread =>
        split at h
        case isFalse => exact nomatch h
        case isTrue hall =>
          obtain rfl := Option.some.inj h
          obtain rfl := List.isEmpty_iff.mp hall.1
          exact readV6_eq_some_iff.mp hread
  · intro h
    cases a with
    | v4 a =>
        have hread := readOctets_four_iff.mpr ⟨s, (List.append_nil s).symm, h, rfl⟩
        rw [parse?, hread]
        exact dif_pos ⟨rfl, a.length_octets⟩
    | v6 a =>
        have h : IsColons s a.groups := h
        rw [parse?, h.readOctets_eq_none, readV6_eq_some_iff.mpr h]
        exact dif_pos ⟨rfl, a.length_groups⟩

instance (s : List Char) (a : Address) : Decidable (Denotes s a) :=
  decidable_of_iff _ parse?_eq_some_iff

example : Denotes "1::0F:10.0.0.1".toList (.v6 ⟨[1, 0, 0, 0, 0, 15, 0xA00, 1], rfl⟩) := by
  decide +kernel

/-! ## Slashes -/

theorem slash_not_mem_numeral {base n : Nat} {w : List Char} (hbase : base ≤ 16)
    (h : IsNumeral base w n) : '/' ∉ w := by
  have hvalue : Text.digitValue? '/' = none := by decide
  intro hslash
  have hdigit := h.isSome_digit? hbase '/' hslash
  rw [digit?, hvalue] at hdigit
  exact Bool.false_ne_true hdigit

theorem mem_joinWith {separator c : Char} {words : List (List Char)}
    (h : c ∈ joinWith separator words) : c = separator ∨ ∃ w ∈ words, c ∈ w := by
  cases words with
  | nil => exact nomatch h
  | cons w words =>
      rw [joinWith_cons, List.mem_append, List.mem_flatMap] at h
      rcases h with h | ⟨w', hw', h⟩
      · exact Or.inr ⟨w, List.mem_cons_self, h⟩
      · rcases List.mem_cons.mp h with h | h
        · exact Or.inl h
        · exact Or.inr ⟨w', List.mem_cons_of_mem w hw', h⟩

theorem IsDotted.slash_not_mem {octets : List UInt8} (h : IsDotted s octets) : '/' ∉ s := by
  obtain ⟨-, words, hwords, rfl⟩ := h
  have hclean : ∀ w ∈ words, '/' ∉ w :=
    ((List.forall₂_and_left _ _).mp (hwords.imp fun w octet hw =>
      ⟨slash_not_mem_numeral (by decide) hw.1, hw⟩)).1
  intro hslash
  rcases mem_joinWith hslash with hpoint | ⟨w, hw, hslash⟩
  · exact nomatch hpoint
  · exact hclean w hw hslash

theorem Run.slash_not_mem {first ended : Bool} (h : Run first s ended groups) : '/' ∉ s := by
  have hlead (first : Bool) : '/' ∉ lead ':' first := by cases first <;> decide
  induction h with
  | done => exact List.not_mem_nil
  | dotted hs => simp [hlead, hs.slash_not_mem]
  | group hw _ ih => simp [hlead, slash_not_mem_numeral (by decide) hw.1, ih]

theorem IsColons.slash_not_mem (h : IsColons s groups) : '/' ∉ s := by
  cases h with
  | full hrun => exact hrun.slash_not_mem
  | short hfront hback => simp [hfront.slash_not_mem, hback.slash_not_mem]

/-- There is no slash in a text of an address. -/
theorem Denotes.slash_not_mem (h : Denotes s a) : '/' ∉ s := by
  cases a with
  | v4 a => exact IsDotted.slash_not_mem h
  | v6 a => exact IsColons.slash_not_mem h

end

end Clusterwright.Address
