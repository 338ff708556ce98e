import Clusterwright.Proofs.Network.Grammar
import Mathlib.Data.List.TakeWhile

/-! # Canonical texts — what is written for an address denotes it

    The canonical text of an address is one of its texts, and so it is read as the address again.
    For the sixth version there are three forms: a mapped address ends in dotted bytes, the longest
    run of zeros is left out if it is long enough (`longestZeros_split` says that it is a run of
    zeros between what stands before and after it), and otherwise all groups are written. -/

namespace Clusterwright

open Address

/-! ## Numbers -/

theorem isOctet_toDigits (octet : UInt8) : IsOctet (Nat.toDigits 10 octet.toNat) octet := by
  have hzero : ∀ n < 256, (Nat.toDigits 10 n).head? = some '0' → Nat.toDigits 10 n = ['0'] := by
    decide +kernel
  have hbound : octet.toNat < 256 := octet.toNat_lt
  refine ⟨Text.isNumeral_toDigits (by decide) (by decide) _, ?_, hzero _ hbound⟩
  exact (Nat.length_toDigits_le_iff (by decide) (by decide)).mpr (by omega)

theorem isGroup_hexChars (group : UInt16) : IsGroup (Text.hexChars group.toNat) group := by
  have hbound : group.toNat < 65536 := group.toNat_lt
  refine ⟨Text.isNumeral_toDigits (by decide) (by decide) _, ?_⟩
  exact (Nat.length_toDigits_le_iff (by decide) (by decide)).mpr (by omega)

/-- Bytes that are written with points between them are a dotted text. -/
theorem isDotted_toDigits {octets : List UInt8} (h : octets.length = 4) :
    IsDotted (joinWith '.' (octets.map fun o => Nat.toDigits 10 o.toNat)) octets :=
  ⟨h, _, List.forall₂_map_left_iff.mpr (List.forall₂_same.mpr fun o _ => isOctet_toDigits o), rfl⟩

namespace Ipv6

/-! ## Groups -/

theorem run_groups (first : Bool) (groups : List UInt16) :
    Run first (separated ':' first (groups.map fun g => Text.hexChars g.toNat)) false groups := by
  induction groups generalizing first with
  | nil =>
      rw [List.map_nil, separated_nil]
      exact .done first
  | cons group groups ih =>
      rw [List.map_cons, separated_cons]
      exact .group (isGroup_hexChars group) (ih false)

theorem run_groupsText (groups : List UInt16) : Run true (groupsText groups) false groups :=
  run_groups true groups

theorem takeWhile_zero (groups : List UInt16) :
    groups.takeWhile (· = 0) = List.replicate (zeroRun groups) 0 := by
  refine List.eq_replicate_of_mem fun g hg => ?_
  simpa using List.mem_takeWhile_imp hg

/-- The longest run of zeros stands between two parts of the groups. -/
theorem longestZeros_split (start : Nat) (groups : List UInt16) :
    ∃ before after, (longestZeros start groups).1 = start + before.length ∧
      groups = before ++ (List.replicate (longestZeros start groups).2 0 ++ after) := by
  induction groups generalizing start with
  | nil => exact ⟨[], [], rfl, rfl⟩
  | cons group groups ih =>
      rw [longestZeros]
      split
      case isTrue =>
        refine ⟨[], (group :: groups).dropWhile (· = 0), rfl, ?_⟩
        rw [← takeWhile_zero, List.nil_append, List.takeWhile_append_dropWhile]
      case isFalse =>
        obtain ⟨before, after, hstart, hgroups⟩ := ih (start + 1)
        refine ⟨group :: before, after, ?_, congrArg (group :: ·) hgroups⟩
        rw [hstart, List.length_cons]
        omega

/-! ## Mapped addresses -/

/-- The high and the low byte of a group. -/
def bytesOf (group : UInt16) : List UInt8 :=
  [UInt8.ofNat (group.toNat / 256), UInt8.ofNat (group.toNat % 256)]

theorem toNat_bytesOf (group : UInt16) :
    (UInt8.ofNat (group.toNat / 256)).toNat = group.toNat / 256 ∧
      (UInt8.ofNat (group.toNat % 256)).toNat = group.toNat % 256 := by
  have hbound : group.toNat < 65536 := group.toNat_lt
  have hhigh : group.toNat / 256 < 256 := by omega
  have hlow : group.toNat % 256 < 256 := by omega
  exact ⟨UInt8.toNat_ofNat_of_lt hhigh, UInt8.toNat_ofNat_of_lt hlow⟩

theorem pairs_bytesOf (group : UInt16) (octets : List UInt8) :
    pairs (bytesOf group ++ octets) = group :: pairs octets := by
  obtain ⟨hhigh, hlow⟩ := toNat_bytesOf group
  have hpair :
      pair (UInt8.ofNat (group.toNat / 256)) (UInt8.ofNat (group.toNat % 256)) = group := by
    rw [pair, hhigh, hlow, Nat.div_add_mod', UInt16.ofNat_toNat]
  exact congrArg (· :: pairs octets) hpair

/-- Two groups as dotted bytes. -/
theorem isDotted_bytesText (high low : UInt16) :
    IsDotted (bytesText high ++ '.' :: bytesText low) (bytesOf high ++ bytesOf low) := by
  have hdotted : IsDotted _ (bytesOf high ++ bytesOf low) := isDotted_toDigits rfl
  obtain ⟨hhigh, hhigh'⟩ := toNat_bytesOf high
  obtain ⟨hlow, hlow'⟩ := toNat_bytesOf low
  simpa [bytesOf, bytesText, joinWith, hhigh, hhigh', hlow, hlow'] using hdotted

theorem groups_of_mapped {a : Ipv6} {high low : UInt16} (h : a.mapped? = some (high, low)) :
    a.groups = List.replicate 5 0 ++ [0xFFFF, high, low] := by
  unfold mapped? at h
  split at h
  case h_1 hgroups =>
    obtain ⟨rfl, rfl⟩ := Prod.mk.inj (Option.some.inj h)
    exact hgroups
  case h_2 => exact nomatch h

/-! ## Addresses -/

theorem isColons_text (a : Ipv6) : IsColons a.text a.groups := by
  unfold text
  split
  case h_1 high low hmapped =>
    have hpairs : pairs (bytesOf high ++ bytesOf low) = [high, low] := by
      rw [pairs_bytesOf, ← List.append_nil (bytesOf low), pairs_bytesOf]
      rfl
    have hdotted : Run false (':' :: (bytesText high ++ '.' :: bytesText low)) true [high, low] :=
      hpairs ▸ Run.dotted (isDotted_bytesText high low)
    have hback : Run true ("ffff".toList ++ ':' :: (bytesText high ++ '.' :: bytesText low)) true
        [0xFFFF, high, low] := Run.group (isGroup_hexChars 0xFFFF) hdotted
    rw [groups_of_mapped hmapped]
    exact .short (.done true) hback (by simp)
  case h_2 =>
    obtain ⟨before, after, hstart, hgroups⟩ := longestZeros_split 0 a.groups
    have htotal := a.length_groups
    rcases hplace : longestZeros 0 a.groups with ⟨start, length⟩
    rw [hplace, Nat.zero_add] at hstart
    rw [hplace] at hgroups
    have hstart : start = before.length := hstart
    have hgroups : a.groups = before ++ (List.replicate length 0 ++ after) := hgroups
    dsimp only
    split
    case isFalse => exact .full (run_groupsText a.groups) a.length_groups
    case isTrue hlong =>
      -- what is left out is all that is missing from the groups around it
      rw [hgroups, List.length_append, List.length_append, List.length_replicate] at htotal
      have hlength : length = 8 - before.length - after.length := by omega
      have hfront : a.groups.take start = before := by rw [hgroups, List.take_left' hstart.symm]
      have hback : a.groups.drop (start + length) = after := by
        rw [hgroups, ← List.append_assoc, List.drop_left']
        rw [List.length_append, List.length_replicate, hstart]
      rw [hfront, hback, hgroups, ← List.append_assoc, hlength]
      exact .short (run_groupsText before) (run_groupsText after) (by omega)

end Ipv6

/-- **THE CANONICAL TEXT** of an address is one of its texts. -/
theorem Address.denotes_text (a : Address) : Denotes a.text a := by
  cases a with
  | v4 a => exact isDotted_toDigits a.length_octets
  | v6 a => exact a.isColons_text

end Clusterwright
