import Mathlib.Data.List.Basic
import Mathlib.Tactic.Lemma
import CitationNotes.Bibliography.Order

/-!
The order of the alphabet.

Texts are compared as the lists of their code points, which is a linear order. So entries are in a
linear order but for those that have the same letters, which are of one rank.
-/

namespace CitationNotes.Bibliography

lemma compareText_eq_compare (s t : Text) :
    compareText s t = compare (s.map Char.toNat) (t.map Char.toNat) := by
  induction s generalizing t with
  | nil => cases t <;> rfl
  | cons c s ih =>
    cases t with
    | nil => rfl
    | cons d t =>
      rw [compareText, List.map_cons, List.map_cons, List.compare_cons_cons, ← ih]
      rcases Nat.lt_trichotomy c.toNat d.toNat with h | h | h
      · rw [if_pos h, Nat.compare_eq_lt.2 h, Ordering.lt_then]
      · rw [h, if_neg (Nat.lt_irrefl _), if_neg (Nat.lt_irrefl _), Nat.compare_eq_eq.2 rfl,
          Ordering.eq_then]
      · rw [if_neg (Nat.lt_asymm h), if_pos h, Nat.compare_eq_gt.2 h, Ordering.gt_then]

/-- Only texts that are the same compare as equal. -/
lemma compareText_eq_iff {s t : Text} : compareText s t = .eq ↔ s = t := by
  rw [compareText_eq_compare, Std.compare_eq_iff_eq]
  exact (List.map_injective_iff.2 fun _ _ => Char.toNat_inj.1).eq_iff

variable {a b c : Text}

lemma compareEntries_eq_iff : compareEntries a b = .eq ↔ sortKey a = sortKey b :=
  compareText_eq_iff

lemma compareEntries_swap : compareEntries a b = (compareEntries b a).swap := by
  rw [compareEntries, compareEntries, compareText_eq_compare, compareText_eq_compare]
  exact Std.OrientedOrd.eq_swap

lemma compareEntries_trans (hab : compareEntries a b ≠ .gt) (hbc : compareEntries b c ≠ .gt) :
    compareEntries a c ≠ .gt := by
  rw [compareEntries, compareText_eq_compare, ne_eq, ← Ordering.isLE_iff_ne_gt] at *
  exact Std.TransOrd.isLE_trans hab hbc

end CitationNotes.Bibliography
