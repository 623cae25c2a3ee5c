import Mathlib.Algebra.GroupWithZero.Nat
import Mathlib.Data.Nat.PSub
import CitationNotes.Proofs.Footnote.Reach

/-!
The slots of a position.

A slot is a fragment, or a paragraph that has none, with as many characters in front of it as come
in earlier paragraphs, in the line ends behind these, and in earlier fragments of its own. Where two
slots meet, one position fits both. It is given to the first slot that it fits.

Counting the characters from the start of the text finds the same slot, and the count never goes
beyond the position.
-/

namespace CitationNotes

/-- In an earlier paragraph, or in an earlier fragment of the same one. -/
def Location.Before (k l : Location) : Prop :=
  k.paragraph < l.paragraph ∨ k.paragraph = l.paragraph ∧ k.fragment < l.fragment

/-- There is a fragment of that number, with no less characters than the offset. A paragraph
without fragments has its start only. -/
def Runs.HasPlace (r : Runs) (fragment offset : Nat) : Prop :=
  (r = [] ∧ fragment = 0 ∧ offset = 0) ∨ ∃ f, r[fragment]? = some f ∧ offset ≤ f.length

namespace Paragraphs

/-- The characters in front of a slot, a line end for each earlier paragraph included. -/
def before (ps : Paragraphs) (l : Location) : Nat :=
  ((ps.take l.paragraph).map fun r => r.textLength + 1).sum +
    Runs.textLength ((ps[l.paragraph]?.getD []).take l.fragment)

/-- The place is in the text, and the characters in front of it are as many as the position
says. -/
structure Fits (ps : Paragraphs) (position : Nat) (l : Location) : Prop where
  place : ∃ r, ps[l.paragraph]? = some r ∧ r.HasPlace l.fragment l.offset
  sum : ps.before l + l.offset = position

end Paragraphs

/-! ### One paragraph -/

namespace Runs

variable {r : Runs} {position i o : Nat}

lemma HasPlace.le_textLength (h : r.HasPlace i o) : textLength (r.take i) + o ≤ r.textLength := by
  obtain ⟨rfl, rfl, rfl⟩ | ⟨f, hf, hle⟩ := h
  · exact Nat.le_refl 0
  · obtain ⟨hi, rfl⟩ := List.getElem?_eq_some_iff.1 hf
    have hsplit := congrArg textLength (List.take_append_drop i r)
    rw [List.drop_eq_getElem_cons hi, textLength_append, textLength_cons] at hsplit
    omega

/-- The fragment found reaches the position, and those in front of it end before. -/
lemma exists_of_fragmentAt? (h : r.fragmentAt? position = some (i, o)) :
    r.HasPlace i o ∧ textLength (r.take i) + o = position ∧
      ∀ j p, j < i → r.HasPlace j p → textLength (r.take j) + p < position := by
  induction r generalizing position i with
  | nil => cases h
  | cons f r ih =>
    rw [fragmentAt?] at h
    by_cases hp : position ≤ f.length
    · rw [if_pos hp] at h
      obtain ⟨rfl, rfl⟩ : 0 = i ∧ position = o := by simpa using h
      refine ⟨.inr ⟨f, rfl, hp⟩, Nat.zero_add position, fun j _ hj => ?_⟩
      exact absurd hj (Nat.not_lt_zero j)
    · rw [if_neg hp] at h
      obtain ⟨⟨i, o⟩, hi, he⟩ := Option.map_eq_some_iff.1 h
      obtain ⟨rfl, rfl⟩ := Prod.mk.inj he
      obtain ⟨hplace, hsum, hearlier⟩ := ih hi
      have hr : r ≠ [] := by
        rintro rfl
        cases hi
      refine ⟨.inr ?_, ?_, fun j p hj hplace => ?_⟩
      · exact (hplace.resolve_left fun h => hr h.1)
      · simp only [List.take_succ_cons, textLength_cons]
        omega
      · obtain ⟨g, hg, hle⟩ := hplace.resolve_left fun h => List.cons_ne_nil f r h.1
        rcases j with _ | j
        · obtain rfl := Option.some.inj hg
          simp only [List.take_zero, textLength_nil]
          omega
        · have := hearlier j p (Nat.lt_of_succ_lt_succ hj) (.inr ⟨g, hg, hle⟩)
          simp only [List.take_succ_cons, textLength_cons]
          omega

lemma exists_of_placeAt? (h : r.placeAt? position = some (i, o)) :
    r.HasPlace i o ∧ textLength (r.take i) + o = position ∧
      ∀ j p, j < i → r.HasPlace j p → textLength (r.take j) + p < position := by
  rw [placeAt?] at h
  split at h
  · next hempty =>
    rw [Bool.and_eq_true, List.isEmpty_iff, beq_iff_eq] at hempty
    obtain ⟨rfl, rfl⟩ := hempty
    obtain ⟨rfl, rfl⟩ : 0 = i ∧ 0 = o := by simpa using h
    exact ⟨.inl ⟨rfl, rfl, rfl⟩, rfl, fun j _ hj => absurd hj (Nat.not_lt_zero j)⟩
  · exact exists_of_fragmentAt? h

/-- The first fragment that reaches up to `position`, and how far `position` is ahead of the count
when it is found. The first of all has the number `i` and comes behind `length` characters. -/
def scan? (position i length : Nat) : Runs → Option (Nat × Option Nat)
  | [] => none
  | f :: r =>
    if position ≤ length + f.length then some (i, position.psub length)
    else scan? position (i + 1) (length + f.length) r

lemma scan?_eq {length : Nat} (h : length ≤ position) (i : Nat) (r : Runs) :
    r.scan? position i length =
      (r.fragmentAt? (position - length)).map fun q => (i + q.1, some q.2) := by
  induction r generalizing i length with
  | nil => rfl
  | cons f r ih =>
    rw [scan?, fragmentAt?]
    by_cases hp : position ≤ length + f.length
    · rw [if_pos hp, if_pos (by omega), Nat.psub_eq_sub h]
      rfl
    · rw [if_neg hp, if_neg (by omega), ih (by omega), Nat.sub_add_eq, Option.map_map]
      simp only [Function.comp_def, Nat.add_assoc, Nat.add_comm 1]

end Runs

/-! ### All paragraphs -/

namespace Paragraphs

variable {r : Runs} {ps : Paragraphs} {position i o : Nat} {k l : Location}

lemma fits_cons_zero :
    Fits (r :: ps) position ⟨0, i, o⟩ ↔
      r.HasPlace i o ∧ Runs.textLength (r.take i) + o = position := by
  have hbefore : before (r :: ps) ⟨0, i, o⟩ = Runs.textLength (r.take i) := Nat.zero_add _
  constructor
  · rintro ⟨⟨s, hs, hplace⟩, hsum⟩
    obtain rfl := Option.some.inj hs
    exact ⟨hplace, hbefore ▸ hsum⟩
  · rintro ⟨hplace, hsum⟩
    exact ⟨⟨r, rfl, hplace⟩, hbefore ▸ hsum⟩

lemma fits_cons_succ {p : Nat} :
    Fits (r :: ps) position ⟨p + 1, i, o⟩ ↔
      r.textLength + 1 ≤ position ∧ Fits ps (position - (r.textLength + 1)) ⟨p, i, o⟩ := by
  have hbefore : before (r :: ps) ⟨p + 1, i, o⟩ = r.textLength + 1 + ps.before ⟨p, i, o⟩ := by
    simp only [before, List.take_succ_cons, List.map_cons, List.sum_cons, List.getElem?_cons_succ]
    omega
  constructor
  · rintro ⟨hplace, hsum⟩
    rw [hbefore] at hsum
    simp only at hsum
    exact ⟨by omega, hplace, by simp only; omega⟩
  · rintro ⟨hle, hplace, hsum⟩
    refine ⟨hplace, ?_⟩
    rw [hbefore]
    simp only at hsum ⊢
    omega

lemma Fits.le_textLength (h : Fits ps position l) : ps ≠ [] ∧ position ≤ ps.textLength := by
  obtain ⟨p, i, o⟩ := l
  induction ps generalizing position p with
  | nil =>
    obtain ⟨⟨r, hr, -⟩, -⟩ := h
    cases hr
  | cons r ps ih =>
    refine ⟨List.cons_ne_nil r ps, ?_⟩
    rcases p with _ | p
    · obtain ⟨hplace, rfl⟩ := fits_cons_zero.1 h
      have := hplace.le_textLength
      rcases ps with _ | ⟨s, ps⟩ <;> simp only [textLength] <;> omega
    · obtain ⟨hle, hfits⟩ := fits_cons_succ.1 h
      obtain ⟨hne, hlen⟩ := ih p hfits
      rcases ps with _ | ⟨s, ps⟩
      · exact absurd rfl hne
      · simp only [textLength] at hlen ⊢
        omega

/-- The place found fits, and none in front of it does. -/
lemma fits_of_locate? (h : ps.locate? position = some l) :
    Fits ps position l ∧ ∀ k, k.Before l → ¬ Fits ps position k := by
  induction ps generalizing position l with
  | nil => cases h
  | cons r ps ih =>
    rw [locate?] at h
    rcases hr : r.placeAt? position with _ | ⟨i, o⟩
    · -- behind this paragraph, whose places all come before the position
      rw [hr] at h
      obtain ⟨l, hl, rfl⟩ := Option.map_eq_some_iff.1 h
      have hlt := Runs.placeAt?_eq_none_iff.1 hr
      obtain ⟨hfits, hfirst⟩ := ih hl
      refine ⟨fits_cons_succ.2 ⟨hlt, hfits⟩, ?_⟩
      rintro ⟨_ | p, j, q⟩ hk hkfits
      · obtain ⟨hplace, rfl⟩ := fits_cons_zero.1 hkfits
        exact absurd hplace.le_textLength (Nat.not_le_of_lt hlt)
      · refine hfirst ⟨p, j, q⟩ ?_ (fits_cons_succ.1 hkfits).2
        simp only [Location.Before] at hk ⊢
        omega
    · -- in this paragraph
      rw [hr] at h
      obtain rfl := Option.some.inj h
      obtain ⟨hplace, hsum, hearlier⟩ := Runs.exists_of_placeAt? hr
      refine ⟨fits_cons_zero.2 ⟨hplace, hsum⟩, ?_⟩
      rintro ⟨p, j, q⟩ hk hkfits
      simp only [Location.Before] at hk
      obtain ⟨rfl, hj⟩ : p = 0 ∧ j < i := by omega
      obtain ⟨hkplace, hksum⟩ := fits_cons_zero.1 hkfits
      exact absurd hksum (Nat.ne_of_lt (hearlier j q hj hkplace))

/-- Two places fit one position in different slots only. -/
lemma Fits.before_or_eq (hk : Fits ps position k) (hl : Fits ps position l) :
    k.Before l ∨ l.Before k ∨ k = l := by
  obtain ⟨p, i, o⟩ := k
  obtain ⟨q, j, u⟩ := l
  by_cases hslot : p = q ∧ i = j
  · obtain ⟨rfl, rfl⟩ := hslot
    have hsum : before ps ⟨p, i, o⟩ + o = before ps ⟨p, i, u⟩ + u := hk.sum.trans hl.sum.symm
    obtain rfl := Nat.add_left_cancel hsum
    exact .inr (.inr rfl)
  · simp only [Location.Before]
    omega

lemma locate_eq_ok_iff_fits :
    ps.locate position = .ok l ↔ Fits ps position l ∧ ∀ k, k.Before l → ¬ Fits ps position k := by
  constructor
  · exact fun h => fits_of_locate? (locate_eq_ok_iff.1 h)
  rintro ⟨hfits, hfirst⟩
  obtain ⟨k, hk⟩ := exists_locate_eq_ok_iff.2 hfits.le_textLength
  obtain ⟨hkfits, hkfirst⟩ := fits_of_locate? (locate_eq_ok_iff.1 hk)
  obtain h | h | rfl := hkfits.before_or_eq hfits
  · exact absurd hkfits (hfirst k h)
  · exact absurd hfits (hkfirst l h)
  · exact hk

lemma locate_eq_error_iff {e : OutOfRange} :
    ps.locate position = .error e ↔
      e = ⟨position, ps.textLength⟩ ∧ ¬ (ps ≠ [] ∧ position ≤ ps.textLength) := by
  rw [← exists_locate_eq_ok_iff, locate]
  rcases ps.locate? position with _ | l <;> simp [eq_comm]

/-- The length of the text from those of the paragraphs. -/
lemma textLength_eq_sum (ps : Paragraphs) :
    ps.textLength = (ps.map Runs.textLength).sum + (ps.length - 1) := by
  induction ps with
  | nil => rfl
  | cons r ps ih =>
    rcases ps with _ | ⟨s, ps⟩
    · simp [textLength]
    · simp only [textLength, ih, List.map_cons, List.sum_cons, List.length_cons]
      omega

/-! ### Counting from the start -/

/-- The search as a loop over all fragments with one count. The location is missing where the count
is beyond the position. -/
def scan? (position p length : Nat) : Paragraphs → Option (Option Location)
  | [] => none
  | r :: ps =>
    match r.scan? position 0 length with
    | some (i, offset) => some (offset.map fun o => ⟨p, i, o⟩)
    | none =>
      if r.isEmpty ∧ position ≤ length then some (some ⟨p, 0, 0⟩)
      else scan? position (p + 1) (length + r.textLength + 1) ps

/-- A count that is not beyond the position at the start of a paragraph is not beyond it at the
start of the next, since a paragraph is left only if the position is behind its end. -/
lemma scan?_eq {length : Nat} (h : length ≤ position) (p : Nat) (ps : Paragraphs) :
    ps.scan? position p length =
      (ps.locate? (position - length)).map fun l => some ⟨p + l.paragraph, l.fragment, l.offset⟩ := by
  induction ps generalizing p length with
  | nil => rfl
  | cons r ps ih =>
    rw [scan?, Runs.scan?_eq h, locate?]
    rcases hr : r.placeAt? (position - length) with _ | ⟨i, o⟩
    · have hlt := Runs.placeAt?_eq_none_iff.1 hr
      have hfragment : r.fragmentAt? (position - length) = none :=
        Runs.fragmentAt?_eq_none_iff.2 (.inr hlt)
      rw [hfragment, Option.map_none]
      dsimp only
      rw [if_neg (by omega), ih (by omega), Option.map_map, Nat.add_assoc, Nat.sub_add_eq]
      simp only [Function.comp_def, Nat.add_assoc, Nat.add_comm 1]
    · rw [Runs.placeAt?] at hr
      split at hr
      · next hempty =>
        rw [Bool.and_eq_true, List.isEmpty_iff, beq_iff_eq] at hempty
        obtain ⟨rfl, hzero⟩ := hempty
        obtain ⟨rfl, rfl⟩ : 0 = i ∧ 0 = o := by simpa using hr
        simp only [Runs.fragmentAt?, Option.map_none]
        rw [if_pos ⟨rfl, by omega⟩]
        rfl
      · rw [hr]
        simp

lemma scan?_zero_eq (ps : Paragraphs) :
    ps.scan? position 0 0 = (ps.locate position).toOption.map some := by
  rw [scan?_eq (Nat.zero_le position), locate]
  simp only [Nat.sub_zero, Nat.zero_add]
  cases ps.locate? position <;> rfl

/-- **A position is located** exactly if the text has it, in the first slot that it fits. What
comes in front of that slot can be taken off it, which is what the count from the start does. -/
theorem locate_exact (ps : Paragraphs) (position : Nat) :
    ps.textLength = ps.text.length ∧
    ps.textLength = (ps.map Runs.textLength).sum + (ps.length - 1) ∧
    ((∃ l, ps.locate position = .ok l) ↔ ps ≠ [] ∧ position ≤ ps.textLength) ∧
    (∀ l, ps.locate position = .ok l ↔
      ps.Fits position l ∧ ∀ k, k.Before l → ¬ ps.Fits position k) ∧
    (∀ l, ps.locate position = .ok l →
      ps.before l ≤ position ∧ l.offset = position - ps.before l) ∧
    ps.scan? position 0 0 = (ps.locate position).toOption.map some ∧
    ∀ e, ps.locate position = .error e ↔
      e = ⟨position, ps.textLength⟩ ∧ ¬ (ps ≠ [] ∧ position ≤ ps.textLength) := by
  refine ⟨(length_text ps).symm, textLength_eq_sum ps, exists_locate_eq_ok_iff,
    fun l => locate_eq_ok_iff_fits, fun l h => ?_, scan?_zero_eq ps,
    fun e => locate_eq_error_iff⟩
  have hsum := (locate_eq_ok_iff_fits.1 h).1.sum
  omega

/-- `a[7][8]é`, an empty paragraph, and `[9]b`: at 2 the end of a fragment, at 3 the empty
paragraph, at 4 an empty fragment in front of a marker. -/
theorem locate_exact_crowded :
    crowded.locate 2 = .ok ⟨0, 3, 1⟩ ∧ crowded.locate 3 = .ok ⟨1, 0, 0⟩ ∧
    (crowded.Fits 4 ⟨2, 0, 0⟩ ∧ ∀ k, k.Before ⟨2, 0, 0⟩ → ¬ crowded.Fits 4 k) ∧
    (crowded.before ⟨2, 2, 1⟩ ≤ 5 ∧ 1 = 5 - crowded.before ⟨2, 2, 1⟩) ∧
    crowded.scan? 5 0 0 = some (some ⟨2, 2, 1⟩) ∧
    crowded.locate 6 = .error ⟨6, crowded.textLength⟩ :=
  ⟨rfl, rfl, ((locate_exact crowded 4).2.2.2.1 _).1 rfl, (locate_exact crowded 5).2.2.2.2.1 _ rfl,
    rfl, ((locate_exact crowded 6).2.2.2.2.2.2 _).2 ⟨rfl, by decide⟩⟩

end Paragraphs

end CitationNotes
