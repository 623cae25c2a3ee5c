import Mathlib.Data.List.Chain
import CitationNotes.Proofs.Runs.Cells

/-!
The normal form as the only one.

Among the run lists with the same cells there is one without empty fragments and without neighbours
that could be one fragment. Whatever keeps the cells and ends in such a list has therefore found
the normal form, whether it starts at the last fragment or, like `sweep`, at the first.
-/

namespace CitationNotes

namespace Fragment

lemma isVisible_iff {f : Fragment} : f.isVisible = true ↔ (f.isMarker = false → f.text ≠ []) := by
  rw [isVisible]
  cases f.isMarker <;> simp

lemma joins_iff {f g : Fragment} :
    f.joins g = true ↔
      f.isMarker = false ∧ g.isMarker = false ∧ f.bold = g.bold ∧ f.italic = g.italic := by
  simp [joins, and_assoc]

lemma joins_eq_false_iff {f g : Fragment} :
    f.joins g = false ↔
      f.isMarker = true ∨ g.isMarker = true ∨ f.bold ≠ g.bold ∨ f.italic ≠ g.italic := by
  rw [← Bool.not_eq_true, joins_iff]
  cases f.isMarker <;> cases g.isMarker <;> simp [imp_iff_not_or]

lemma isVisible_withText_append {f : Fragment} (h : f.isVisible = true) (t : Text) :
    (f.withText (f.text ++ t)).isVisible = true := by
  rw [isVisible_iff] at h ⊢
  exact fun hm => List.append_ne_nil_of_left_ne_nil (h hm) t

/-- Two fragments that join hold the cells of the fragment they become. -/
lemma cells_append_of_joins {f g : Fragment} (h : f.joins g = true) :
    f.cells ++ g.cells = (f.withText (f.text ++ g.text)).cells := by
  obtain ⟨hf, hg, hb, hi⟩ := joins_iff.1 h
  rw [cells_withText_append hf]
  congr 1
  rw [cells_of_not_isMarker hg, cells_of_not_isMarker (f := f.withText g.text) hf]
  simp only [withText, hb, hi]

end Fragment

namespace Runs

open Fragment

/-- Markers apart, no fragment is without text and no two neighbours have one style. -/
structure IsNormal (r : Runs) : Prop where
  visible : ∀ f ∈ r, f.isMarker = false → f.text ≠ []
  apart : r.IsChain fun f g =>
    f.isMarker = true ∨ g.isMarker = true ∨ f.bold ≠ g.bold ∨ f.italic ≠ g.italic

lemma isNormal_cons_cons {f g : Fragment} {r : Runs} :
    IsNormal (f :: g :: r) ↔ f.isVisible = true ∧ f.joins g = false ∧ IsNormal (g :: r) := by
  rw [isVisible_iff, joins_eq_false_iff]
  constructor
  · rintro ⟨hv, ha⟩
    rw [List.forall_mem_cons] at hv
    rw [List.isChain_cons_cons] at ha
    exact ⟨hv.1, ha.1, hv.2, ha.2⟩
  · rintro ⟨hf, hj, hv, ha⟩
    exact ⟨List.forall_mem_cons.2 ⟨hf, hv⟩, List.isChain_cons_cons.2 ⟨hj, ha⟩⟩

lemma isNormal_singleton {f : Fragment} : IsNormal [f] ↔ f.isVisible = true := by
  rw [isVisible_iff]
  exact ⟨fun h => h.visible f List.mem_cons_self,
    fun h => ⟨List.forall_mem_singleton.2 h, .singleton f⟩⟩

lemma IsNormal.tail {f : Fragment} {r : Runs} (h : IsNormal (f :: r)) : IsNormal r :=
  ⟨(List.forall_mem_cons.1 h.visible).2, h.apart.tail⟩

/-! ### One fragment put in front -/

lemma cells_push (f : Fragment) (r : Runs) : cells (push f r) = f.cells ++ cells r := by
  cases r with
  | nil => rfl
  | cons g r =>
    rw [push]
    split
    · next h => rw [cells_cons, cells_cons, ← List.append_assoc, cells_append_of_joins h]
    · rfl

lemma IsNormal.push {f : Fragment} {r : Runs} (hf : f.isVisible = true) (h : IsNormal r) :
    IsNormal (Runs.push f r) := by
  cases r with
  | nil => exact isNormal_singleton.2 hf
  | cons g r =>
    rw [Runs.push]
    split
    · next hj =>
      -- the joined fragment has the style of both, so it joins what `g` joins
      have hw := isVisible_withText_append hf g.text
      cases r with
      | nil => exact isNormal_singleton.2 hw
      | cons k r =>
        obtain ⟨-, hk, hr⟩ := isNormal_cons_cons.1 h
        exact isNormal_cons_cons.2 ⟨hw, (joins_congr hj k).trans hk, hr⟩
    · next hj => exact isNormal_cons_cons.2 ⟨hf, by simpa using hj, h⟩

lemma push_of_isNormal {f : Fragment} {r : Runs} (h : IsNormal (f :: r)) : push f r = f :: r := by
  cases r with
  | nil => rfl
  | cons g r =>
    obtain ⟨-, hj, -⟩ := isNormal_cons_cons.1 h
    rw [push, hj]
    rfl

/-! ### The whole list -/

lemma cells_merge (r : Runs) : cells (merge r) = cells r := by
  induction r with
  | nil => rfl
  | cons f r ih => rw [merge_cons, cells_push, ih, cells_cons]

lemma cells_normalize (r : Runs) : cells (normalize r) = cells r := by
  rw [normalize, cells_merge, cells_filter_isVisible]

lemma isNormal_merge {r : Runs} (h : ∀ f ∈ r, f.isVisible = true) : IsNormal (merge r) := by
  induction r with
  | nil => exact ⟨List.forall_mem_nil _, .nil⟩
  | cons f r ih =>
    obtain ⟨hf, hr⟩ := List.forall_mem_cons.1 h
    exact (ih hr).push hf

lemma isNormal_normalize (r : Runs) : IsNormal (normalize r) :=
  isNormal_merge fun _ hf => (List.mem_filter.1 hf).2

lemma merge_of_isNormal {r : Runs} (h : IsNormal r) : merge r = r := by
  induction r with
  | nil => rfl
  | cons f r ih => rw [merge_cons, ih h.tail, push_of_isNormal h]

lemma normalize_of_isNormal {r : Runs} (h : IsNormal r) : normalize r = r := by
  have hvisible : r.filter isVisible = r :=
    List.filter_eq_self.2 fun f hf => isVisible_iff.2 (h.visible f hf)
  rw [normalize, hvisible, merge_of_isNormal h]

/-- A normal run list is all that its cells leave room for. -/
lemma eq_normalize_of_isNormal {r s : Runs} (h : IsNormal s) (hc : cells s = cells r) :
    s = normalize r := by
  rw [← normalize_congr hc, normalize_of_isNormal h]

/-! ### From the first fragment on -/

/-- Neighbours joined from the front. What two of them have become is looked at again, together
with the next one. -/
def sweep : Runs → Runs
  | [] => []
  | [f] => [f]
  | f :: g :: r =>
    if f.joins g then sweep (f.withText (f.text ++ g.text) :: r) else f :: sweep (g :: r)
termination_by r => r.length

lemma cells_sweep (r : Runs) : cells (sweep r) = cells r := by
  fun_induction sweep r with
  | case1 => rfl
  | case2 f => rfl
  | case3 f g r h ih =>
    rw [ih, cells_cons, cells_cons, cells_cons, ← List.append_assoc, cells_append_of_joins h]
  | case4 f g r h ih => rw [cells_cons, ih, cells_cons f]

/-- The head of a swept list has the style of the first fragment. -/
lemma joins_head_sweep (k f : Fragment) (r : Runs) :
    ∃ g s, sweep (f :: r) = g :: s ∧ k.joins g = k.joins f := by
  induction r generalizing f with
  | nil => exact ⟨f, [], by rw [sweep], rfl⟩
  | cons g r ih =>
    rw [sweep]
    split
    · exact ih (f.withText (f.text ++ g.text))
    · exact ⟨f, sweep (g :: r), rfl, rfl⟩

lemma isNormal_sweep {r : Runs} (h : ∀ f ∈ r, f.isVisible = true) : IsNormal (sweep r) := by
  fun_induction sweep r with
  | case1 => exact ⟨List.forall_mem_nil _, .nil⟩
  | case2 f => exact isNormal_singleton.2 (h f List.mem_cons_self)
  | case3 f g r hj ih =>
    rw [List.forall_mem_cons, List.forall_mem_cons] at h
    exact ih (List.forall_mem_cons.2 ⟨isVisible_withText_append h.1 g.text, h.2.2⟩)
  | case4 f g r hj ih =>
    obtain ⟨hf, hr⟩ := List.forall_mem_cons.1 h
    obtain ⟨k, s, hs, hk⟩ := joins_head_sweep f g r
    rw [hs] at ih ⊢
    exact isNormal_cons_cons.2 ⟨hf, hk.trans (by simpa using hj), ih hr⟩

/-- Both directions of joining end in the normal form. -/
lemma sweep_filter_isVisible (r : Runs) : sweep (r.filter isVisible) = normalize r := by
  refine eq_normalize_of_isNormal (isNormal_sweep fun _ hf => (List.mem_filter.1 hf).2) ?_
  rw [cells_sweep, cells_filter_isVisible]

/-- **The normal form** keeps the cells, is normal, is reached by one sweep from the front, and is
the same for two run lists exactly if their cells are. -/
theorem normalize_eq_normalize_iff (r s : Runs) :
    cells (normalize r) = cells r ∧
    IsNormal (normalize r) ∧
    normalize (normalize r) = normalize r ∧
    sweep (r.filter isVisible) = normalize r ∧
    (normalize r = normalize s ↔ cells r = cells s) := by
  refine ⟨cells_normalize r, isNormal_normalize r, ?_, sweep_filter_isVisible r, ?_⟩
  · exact normalize_of_isNormal (isNormal_normalize r)
  · refine ⟨fun h => ?_, normalize_congr⟩
    rw [← cells_normalize r, h, cells_normalize]

end Runs

end CitationNotes
