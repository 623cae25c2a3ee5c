import Mathlib.Tactic.Lemma
import CitationNotes.Footnote.Location
import CitationNotes.Proofs.Runs.Cells

/-!
The anchors of markers.

The anchor of a marker is the number of characters of the document in front of it. It depends
on the cells of the paragraphs alone, and so do the text and the numbers in use.
-/

namespace CitationNotes

namespace Cell

def isMarker : Cell → Bool
  | char .. => false
  | marker _ => true

/-- The number of characters that the cell takes up. -/
def width : Cell → Nat
  | char .. => 1
  | marker _ => 0

end Cell

def widthOf : List Cell → Nat
  | [] => 0
  | c :: cs => c.width + widthOf cs

@[simp] lemma widthOf_nil : widthOf [] = 0 := rfl
@[simp] lemma widthOf_cons (c : Cell) (cs : List Cell) :
    widthOf (c :: cs) = c.width + widthOf cs := rfl
@[simp] lemma widthOf_append (cs ds : List Cell) :
    widthOf (cs ++ ds) = widthOf cs + widthOf ds := by
  induction cs with
  | nil => simp
  | cons c cs ih => simp [ih, Nat.add_assoc]

lemma widthOf_chars (t : Text) (bold italic : Bool) :
    widthOf (t.map fun c => .char c bold italic) = t.length := by
  induction t with
  | nil => rfl
  | cons c t ih => rw [List.map_cons, widthOf_cons, ih, Cell.width, List.length_cons, Nat.add_comm]

/-- The markers among the cells with their anchors, `n` characters coming in front of all. -/
def anchorsFrom (n : Nat) : List Cell → List (Fragment × Nat)
  | [] => []
  | .char .. :: cs => anchorsFrom (n + 1) cs
  | .marker f :: cs => (f, n) :: anchorsFrom n cs

lemma anchorsFrom_append (n : Nat) (cs ds : List Cell) :
    anchorsFrom n (cs ++ ds) = anchorsFrom n cs ++ anchorsFrom (n + widthOf cs) ds := by
  induction cs generalizing n with
  | nil => rfl
  | cons c cs ih => cases c <;> simp [anchorsFrom, ih, Cell.width, Nat.add_assoc]

lemma anchorsFrom_chars (n : Nat) (t : Text) (bold italic : Bool) :
    anchorsFrom n (t.map fun c => .char c bold italic) = [] := by
  induction t generalizing n with
  | nil => rfl
  | cons c t ih => exact ih (n + 1)

lemma bounds_of_mem_anchorsFrom {n : Nat} {cs : List Cell} {m : Fragment × Nat}
    (h : m ∈ anchorsFrom n cs) : n ≤ m.2 ∧ m.2 ≤ n + widthOf cs := by
  induction cs generalizing n with
  | nil => simp [anchorsFrom] at h
  | cons c cs ih =>
    cases c with
    | char c b i =>
      have := ih h
      simp only [widthOf_cons, Cell.width]
      omega
    | marker f =>
      simp only [widthOf_cons, Cell.width]
      rcases List.mem_cons.1 h with rfl | h
      · simp
      · have := ih h
        omega

/-! ### One paragraph -/

namespace Runs

/-- No marker carries text. -/
def Textless (r : Runs) : Prop := ∀ f ∈ r, f.isMarker = true → f.text = []

instance (r : Runs) : Decidable r.Textless :=
  inferInstanceAs (Decidable (∀ f ∈ r, f.isMarker = true → f.text = []))

/-- The characters of a paragraph with their styles. -/
def chars (r : Runs) : List Cell := r.cells.filter fun c => !c.isMarker

lemma chars_append (r s : Runs) : chars (r ++ s) = chars r ++ chars s := by
  simp [chars]

lemma chars_cons (f : Fragment) (r : Runs) : chars (f :: r) = chars [f] ++ chars r :=
  chars_append [f] r

lemma chars_footnote (id : FootnoteId) : chars [.footnote id] = [] := rfl

lemma widthOf_cells_fragment {f : Fragment} (h : f.isMarker = true → f.text = []) :
    widthOf f.cells = f.length := by
  by_cases hm : f.isMarker = true
  · rw [Fragment.cells_of_isMarker hm, Fragment.length, h hm]
    rfl
  · rw [Fragment.cells_of_not_isMarker (by simpa using hm), widthOf_chars, Fragment.length]

lemma widthOf_cells {r : Runs} (h : Textless r) : widthOf r.cells = r.textLength := by
  induction r with
  | nil => rfl
  | cons f r ih =>
    rw [Textless, List.forall_mem_cons] at h
    rw [cells_cons, widthOf_append, widthOf_cells_fragment h.1, ih h.2, textLength_cons]

/-- The markers are those that have anchors. -/
lemma markers_eq_anchorsFrom (r : Runs) (n : Nat) :
    r.markers = (CitationNotes.anchorsFrom n r.cells).filterMap fun m => m.1.marker := by
  induction r generalizing n with
  | nil => rfl
  | cons f r ih =>
    rw [cells_cons, anchorsFrom_append, List.filterMap_append, ← ih]
    by_cases hm : f.isMarker = true
    · obtain ⟨id, hid⟩ := Option.isSome_iff_exists.1 hm
      rw [Fragment.cells_of_isMarker hm]
      simp [markers, anchorsFrom, hid]
    · have hf : f.marker = none := by simpa [Fragment.isMarker] using hm
      rw [Fragment.cells_of_not_isMarker (by simpa using hm), anchorsFrom_chars]
      simp [markers, hf]

lemma exists_split_of_mem_anchorsFrom {n k : Nat} {r : Runs} (ht : Textless r) {f : Fragment}
    (h : (f, k) ∈ CitationNotes.anchorsFrom n r.cells) :
    ∃ a b, r = a ++ f :: b ∧ k = n + textLength a := by
  induction r generalizing n with
  | nil => cases h
  | cons g r ih =>
    rw [Textless, List.forall_mem_cons] at ht
    rw [cells_cons, anchorsFrom_append, widthOf_cells_fragment ht.1] at h
    rcases List.mem_append.1 h with h | h
    · by_cases hm : g.isMarker = true
      · rw [Fragment.cells_of_isMarker hm] at h
        obtain ⟨rfl, rfl⟩ : f = g ∧ k = n := by simpa [CitationNotes.anchorsFrom] using h
        exact ⟨[], r, rfl, rfl⟩
      · rw [Fragment.cells_of_not_isMarker (by simpa using hm), anchorsFrom_chars] at h
        cases h
    · obtain ⟨a, b, rfl, hk⟩ := ih ht.2 h
      refine ⟨g :: a, b, rfl, ?_⟩
      rw [hk, textLength_cons, Nat.add_assoc]

lemma anchorsFrom_cells_of_markers_eq_nil {r : Runs} (h : r.markers = []) (n : Nat) :
    CitationNotes.anchorsFrom n r.cells = [] := by
  induction r generalizing n with
  | nil => rfl
  | cons f r ih =>
    obtain ⟨hf, hr⟩ : f.marker = none ∧ markers r = [] := by
      simpa [markers] using h
    have hm : f.isMarker = false := by simp [Fragment.isMarker, hf]
    rw [cells_cons, anchorsFrom_append, Fragment.cells_of_not_isMarker hm, anchorsFrom_chars,
      ih hr, List.nil_append]

end Runs

/-! ### All paragraphs -/

namespace Paragraphs

def Textless (ps : Paragraphs) : Prop := ∀ r ∈ ps, r.Textless

instance (ps : Paragraphs) : Decidable ps.Textless :=
  inferInstanceAs (Decidable (∀ r ∈ ps, r.Textless))

/-- The anchors in paragraphs with `n` characters in front of them. -/
def anchorsFrom (n : Nat) : Paragraphs → List (Fragment × Nat)
  | [] => []
  | r :: ps => CitationNotes.anchorsFrom n r.cells ++ anchorsFrom (n + r.textLength + 1) ps

/-- The markers in reading order, each with the number of characters of the text in front of
it. -/
def anchors (ps : Paragraphs) : List (Fragment × Nat) := ps.anchorsFrom 0

/-- What depends on the cells of a paragraph alone. -/
lemma map_congr {β : Type} {g : Runs → β} (hg : ∀ r s : Runs, r.cells = s.cells → g r = g s)
    {ps qs : Paragraphs} (h : ps.map Runs.cells = qs.map Runs.cells) : ps.map g = qs.map g := by
  induction ps generalizing qs with
  | nil =>
    obtain rfl := List.map_eq_nil_iff.1 h.symm
    rfl
  | cons r ps ih =>
    obtain ⟨s, qs, rfl, hs, hqs⟩ := List.map_eq_cons_iff.1 h.symm
    rw [List.map_cons, List.map_cons, hg r s hs.symm, ih hqs.symm]

lemma text_congr {ps qs : Paragraphs} (h : ps.map Runs.cells = qs.map Runs.cells) :
    ps.text = qs.text := by
  rw [text, text, map_congr (fun _ _ => Runs.text_congr) h]

lemma text_concat {ps : Paragraphs} (h : ps ≠ []) (r : Runs) :
    text (ps ++ [r]) = ps.text ++ '\n' :: r.text := by
  induction ps with
  | nil => exact absurd rfl h
  | cons p ps ih =>
    rcases ps with _ | ⟨q, ps⟩
    · simp [text]
    · have := ih (by simp)
      simp only [text, List.map_append, List.map_cons, List.cons_append, Text.join_cons_cons]
        at this ⊢
      rw [this]
      simp

lemma textLength_cons_append (r : Runs) (ps : Paragraphs) (s : Runs) :
    textLength (r :: (ps ++ [s])) = r.textLength + 1 + textLength (ps ++ [s]) := by
  rcases ps with _ | ⟨q, ps⟩ <;> rfl

/-- An anchor is the length of the text in front of its marker. -/
lemma exists_split_of_mem_anchorsFrom {n k : Nat} {ps : Paragraphs} (ht : ps.Textless)
    {f : Fragment} (h : (f, k) ∈ ps.anchorsFrom n) :
    ∃ qs r s rs, ps = qs ++ (r ++ f :: s) :: rs ∧ k = n + (text (qs ++ [r])).length := by
  induction ps generalizing n with
  | nil => cases h
  | cons p ps ih =>
    rw [Textless, List.forall_mem_cons] at ht
    rcases List.mem_append.1 h with h | h
    · obtain ⟨r, s, rfl, hk⟩ := Runs.exists_split_of_mem_anchorsFrom ht.1 h
      refine ⟨[], r, s, ps, rfl, ?_⟩
      rw [hk, List.nil_append, length_text]
      rfl
    · obtain ⟨qs, r, s, rs, rfl, hk⟩ := ih ht.2 h
      refine ⟨p :: qs, r, s, rs, rfl, ?_⟩
      rw [hk, List.cons_append, length_text, length_text, textLength_cons_append]
      omega

/-- Anchors depend on the cells alone. -/
lemma anchorsFrom_congr {ps qs : Paragraphs} (h : ps.map Runs.cells = qs.map Runs.cells)
    (n : Nat) : ps.anchorsFrom n = qs.anchorsFrom n := by
  induction ps generalizing qs n with
  | nil =>
    obtain rfl := List.map_eq_nil_iff.1 h.symm
    rfl
  | cons r ps ih =>
    obtain ⟨s, qs, rfl, hs, hqs⟩ := List.map_eq_cons_iff.1 h.symm
    rw [anchorsFrom, anchorsFrom, hs, Runs.textLength_congr hs, ih hqs.symm]

/-- The markers are those that have anchors. -/
lemma markers_eq_anchorsFrom (ps : Paragraphs) (n : Nat) :
    ps.markers = (ps.anchorsFrom n).filterMap fun m => m.1.marker := by
  induction ps generalizing n with
  | nil => rfl
  | cons r ps ih =>
    have := ih (n + r.textLength + 1)
    rw [markers] at this ⊢
    rw [List.flatMap_cons, this, anchorsFrom, List.filterMap_append,
      ← Runs.markers_eq_anchorsFrom]

/-- A paragraph without markers at the end changes no anchor. -/
lemma anchorsFrom_concat (ps : Paragraphs) {r : Runs} (h : r.markers = []) (n : Nat) :
    anchorsFrom n (ps ++ [r]) = ps.anchorsFrom n := by
  induction ps generalizing n with
  | nil =>
    have := Runs.anchorsFrom_cells_of_markers_eq_nil h n
    simp [anchorsFrom, this]
  | cons p ps ih => rw [List.cons_append, anchorsFrom, anchorsFrom, ih]

lemma le_of_mem_anchorsFrom {n : Nat} {ps : Paragraphs} {m : Fragment × Nat}
    (h : m ∈ ps.anchorsFrom n) : n ≤ m.2 := by
  induction ps generalizing n with
  | nil => simp [anchorsFrom] at h
  | cons r ps ih =>
    rcases List.mem_append.1 h with h | h
    · exact (bounds_of_mem_anchorsFrom h).1
    · have := ih h
      omega

/-- The anchors of the markers that have the number `id`. -/
def anchorsOf (ps : Paragraphs) (id : FootnoteId) : List Nat :=
  ps.anchors.filterMap fun m => if m.1.marker = some id then some m.2 else none

lemma mem_markers_iff {ps : Paragraphs} {id : FootnoteId} :
    id ∈ ps.markers ↔ ps.anchorsOf id ≠ [] := by
  rw [markers_eq_anchorsFrom ps 0, anchorsOf, anchors, ne_eq, List.filterMap_eq_nil_iff,
    List.mem_filterMap]
  simp

end Paragraphs

end CitationNotes
