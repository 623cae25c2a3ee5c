import Mathlib.Tactic.Lemma
import CitationNotes.Runs.Normal

/-!
What a run list holds, cell by cell.

A cell is one styled character or one whole marker. How the text is cut into fragments leaves
the cells as they are, and the normal form depends on nothing else: it is what comes out when
the cells are put down again one by one, the last of them first.
-/

namespace CitationNotes

inductive Cell where
  | char (c : Char) (bold italic : Bool)
  | marker (f : Fragment)
deriving DecidableEq, Repr

/-- The least fragment that holds the cell. -/
def Cell.fragment : Cell → Fragment
  | char c bold italic => .styled [c] bold italic
  | marker f => f

namespace Fragment

@[simp] lemma text_styled (t : Text) (bold italic : Bool) : (styled t bold italic).text = t := rfl
@[simp] lemma text_plain (t : Text) : (plain t).text = t := rfl

def cells (f : Fragment) : List Cell :=
  if f.isMarker then [.marker f] else f.text.map fun c => .char c f.bold f.italic

@[simp] lemma cells_plain (t : Text) : (plain t).cells = t.map fun c => .char c false false := rfl
@[simp] lemma cells_footnote (id : FootnoteId) :
    (footnote id).cells = [.marker (footnote id)] := rfl

lemma cells_of_isMarker {f : Fragment} (h : f.isMarker = true) : f.cells = [.marker f] := by
  rw [cells, if_pos h]

lemma cells_of_not_isMarker {f : Fragment} (h : f.isMarker = false) :
    f.cells = f.text.map fun c => .char c f.bold f.italic := by
  rw [cells, h]
  rfl

lemma cells_of_not_isVisible {f : Fragment} (h : f.isVisible = false) : f.cells = [] := by
  rw [isVisible, Bool.or_eq_false_iff] at h
  obtain ⟨hm, ht⟩ := h
  have ht : f.text = [] := by simpa using ht
  simp [cells_of_not_isMarker hm, ht]

/-- Both parts of a fragment that is cut. -/
lemma cells_withText_append {f : Fragment} (h : f.isMarker = false) (t u : Text) :
    (f.withText (t ++ u)).cells = (f.withText t).cells ++ (f.withText u).cells := by
  rw [cells_of_not_isMarker (f := f.withText (t ++ u)) h,
    cells_of_not_isMarker (f := f.withText t) h, cells_of_not_isMarker (f := f.withText u) h]
  simp [withText]

lemma joins_congr {f g : Fragment} (h : f.joins g = true) (k : Fragment) :
    f.joins k = g.joins k := by
  simp only [joins, Bool.and_eq_true, Bool.not_eq_true', beq_iff_eq] at h
  obtain ⟨⟨⟨hf, hg⟩, hb⟩, hi⟩ := h
  simp only [joins, hf, hg, hb, hi]

end Fragment

namespace Runs

open Fragment

def cells (r : Runs) : List Cell := r.flatMap Fragment.cells

@[simp] lemma cells_nil : cells [] = [] := rfl
@[simp] lemma cells_cons (f : Fragment) (r : Runs) : cells (f :: r) = f.cells ++ cells r := rfl
@[simp] lemma cells_append (r s : Runs) : cells (r ++ s) = cells r ++ cells s := by
  simp [cells]

lemma cells_filter_isVisible (r : Runs) : cells (r.filter isVisible) = cells r := by
  induction r with
  | nil => rfl
  | cons f r ih =>
    by_cases h : f.isVisible = true
    · rw [List.filter_cons_of_pos h, cells_cons, cells_cons, ih]
    · rw [List.filter_cons_of_neg h, cells_cons, ih,
        cells_of_not_isVisible (by simpa using h), List.nil_append]

/-! ### What the cells determine -/

/-- The text of a run list is that of its cells. -/
lemma text_eq_cells (r : Runs) : text r = r.cells.flatMap fun c => c.fragment.text := by
  induction r with
  | nil => rfl
  | cons f r ih =>
    have hf : f.cells.flatMap (fun c => c.fragment.text) = f.text := by
      by_cases hm : f.isMarker = true
      · rw [cells_of_isMarker hm]
        simp [Cell.fragment]
      · rw [cells_of_not_isMarker (by simpa using hm), List.flatMap_map]
        simp [Cell.fragment, styled]
    rw [text_cons, cells_cons, List.flatMap_append, hf, ih]

lemma text_congr {r s : Runs} (h : cells r = cells s) : text r = text s := by
  rw [text_eq_cells, text_eq_cells, h]

lemma textLength_congr {r s : Runs} (h : cells r = cells s) : textLength r = textLength s := by
  rw [← length_text, ← length_text, text_congr h]

/-! ### The normal form -/

/-- The cells put down in front of one another, each joined to what follows it. -/
def ofCells : List Cell → Runs
  | [] => []
  | c :: cs => push c.fragment (ofCells cs)

/-- Two fragments that join may be joined before they are pushed. -/
lemma push_push {f g : Fragment} (h : f.joins g = true) (r : Runs) :
    push f (push g r) = push (f.withText (f.text ++ g.text)) r := by
  cases r with
  | nil => simp [push, h]
  | cons k r =>
    have hk := joins_congr h k
    have hw : (f.withText (f.text ++ g.text)).joins k = f.joins k := rfl
    by_cases hg : g.joins k = true
    · have hj : f.joins (g.withText (g.text ++ k.text)) = true := h
      rw [push, if_pos hg, push, if_pos hj, push, if_pos (by rw [hw, hk, hg])]
      simp [withText]
    · rw [push, if_neg hg, push, if_pos h, push, if_neg (by rw [hw, hk]; exact hg)]

lemma ofCells_append {f : Fragment} (h : f.isVisible = true) (cs : List Cell) :
    ofCells (f.cells ++ cs) = push f (ofCells cs) := by
  by_cases hm : f.isMarker = true
  · rw [cells_of_isMarker hm]
    rfl
  obtain ⟨t, b, i, m⟩ := f
  obtain rfl : m = none := by simpa [isMarker] using hm
  have ht : t ≠ [] := by simpa [isVisible, isMarker] using h
  clear h hm
  -- The first character is pushed last, onto the fragment of all the others.
  induction t with
  | nil => exact absurd rfl ht
  | cons c t ih =>
    rcases t with _ | ⟨d, t⟩
    · rfl
    · have hj : (Fragment.mk [c] b i none).joins ⟨d :: t, b, i, none⟩ = true := by
        simp [joins, isMarker]
      exact (congrArg (push ⟨[c], b, i, none⟩) (ih (by simp))).trans (push_push hj _)

/-- **The normal form is a function of the cells.** -/
lemma normalize_eq_ofCells (r : Runs) : normalize r = ofCells (cells r) := by
  induction r with
  | nil => rfl
  | cons f r ih =>
    rw [normalize] at ih ⊢
    by_cases h : f.isVisible = true
    · rw [List.filter_cons_of_pos h, merge_cons, ih, cells_cons, ofCells_append h]
    · rw [List.filter_cons_of_neg h, ih, cells_cons,
        cells_of_not_isVisible (by simpa using h), List.nil_append]

lemma normalize_congr {r s : Runs} (h : cells r = cells s) : normalize r = normalize s := by
  rw [normalize_eq_ofCells, normalize_eq_ofCells, h]

end Runs

end CitationNotes
