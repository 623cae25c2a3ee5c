import Mathlib.Tactic.ByContra
import Mathlib.Tactic.Lemma
import CitationNotes.Footnote.Marker

/-!
The numbers of footnotes.

The next number is above all in use, and is then the highest itself.
-/

namespace CitationNotes

lemma max_id_le_iff {a b n : FootnoteId} : max a b ≤ n ↔ a ≤ n ∧ b ≤ n := by
  have hmax : max a b = if a ≤ b then b else a := rfl
  rw [hmax]
  split <;> simp only [UInt32.le_iff_toNat_le] at * <;> omega

lemma foldl_max_le_iff {ids : List FootnoteId} {a n : FootnoteId} :
    ids.foldl max a ≤ n ↔ a ≤ n ∧ ∀ id ∈ ids, id ≤ n := by
  induction ids generalizing a with
  | nil => simp
  | cons id ids ih => rw [List.foldl_cons, ih, max_id_le_iff, List.forall_mem_cons, and_assoc]

lemma highestId_le_iff {ids : List FootnoteId} {n : FootnoteId} :
    highestId ids ≤ n ↔ ∀ id ∈ ids, id ≤ n := by
  rw [highestId, foldl_max_le_iff]
  exact ⟨And.right, fun h => ⟨UInt32.le_iff_toNat_le.2 (Nat.zero_le _), h⟩⟩

lemma le_highestId {ids : List FootnoteId} {id : FootnoteId} (h : id ∈ ids) :
    id ≤ highestId ids :=
  highestId_le_iff.1 UInt32.le_rfl id h

lemma highestId_eq {ids : List FootnoteId} {n : FootnoteId} (hn : n ∈ ids)
    (h : ∀ id ∈ ids, id ≤ n) : highestId ids = n :=
  UInt32.le_antisymm (highestId_le_iff.2 h) (le_highestId hn)

/-- Below the last number there is a next one. -/
lemma exists_nextId? {ids : List FootnoteId} (h : (highestId ids).toNat + 1 < UInt32.size) :
    ∃ id, nextId? ids = some id ∧ id.toNat = (highestId ids).toNat + 1 := by
  refine ⟨highestId ids + 1, ?_, ?_⟩
  · rw [nextId?, if_neg]
    intro he
    rw [he] at h
    exact absurd h (by decide)
  · rw [UInt32.toNat_add]
    exact Nat.mod_eq_of_lt h

lemma toNat_highestId_add_one_lt {ids : List FootnoteId} (h : ∀ id ∈ ids, id < 4294967295) :
    (highestId ids).toNat + 1 < UInt32.size := by
  have hle : highestId ids ≤ 4294967294 := by
    refine highestId_le_iff.2 fun id hid => UInt32.le_iff_toNat_le.2 ?_
    exact Nat.le_of_lt_succ (UInt32.lt_iff_toNat_lt.1 (h id hid))
  exact Nat.lt_of_le_of_lt (Nat.succ_le_succ (UInt32.le_iff_toNat_le.1 hle)) (by decide)

lemma le_lastId (id : FootnoteId) : id ≤ 4294967295 :=
  UInt32.le_iff_toNat_le.2 (Nat.le_of_lt_succ id.toNat_lt)

/-- There is no number behind the last one, and one behind any other. -/
lemma nextId?_eq_none_iff {ids : List FootnoteId} : nextId? ids = none ↔ 4294967295 ∈ ids := by
  constructor
  · intro h
    by_contra hlast
    have hlt : ∀ id ∈ ids, id < 4294967295 := fun id hid =>
      UInt32.lt_of_le_of_ne (le_lastId id) fun he => hlast (he ▸ hid)
    obtain ⟨id, hid, -⟩ := exists_nextId? (toNat_highestId_add_one_lt hlt)
    rw [h] at hid
    cases hid
  · intro h
    rw [nextId?, if_pos (highestId_eq h fun id _ => le_lastId id)]

lemma toNat_of_nextId?_eq_some {ids : List FootnoteId} {id : FootnoteId}
    (h : nextId? ids = some id) : id.toNat = (highestId ids).toNat + 1 := by
  rw [nextId?] at h
  split at h
  · cases h
  · next hne =>
    obtain rfl := Option.some.inj h
    have hlt := (highestId ids).toNat_lt
    have hne' : (highestId ids).toNat ≠ 4294967295 := fun he => hne (UInt32.toNat_inj.1 he)
    rw [UInt32.toNat_add]
    exact Nat.mod_eq_of_lt (by simp; omega)

lemma lt_of_toNat_eq_succ {ids : List FootnoteId} {n : FootnoteId}
    (hn : n.toNat = (highestId ids).toNat + 1) {id : FootnoteId} (h : id ∈ ids) : id < n := by
  have := UInt32.le_iff_toNat_le.1 (le_highestId h)
  rw [UInt32.lt_iff_toNat_lt]
  omega

end CitationNotes
