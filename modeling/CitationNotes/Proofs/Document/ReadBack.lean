import Mathlib.Tactic.Lemma
import CitationNotes.Document.Span
import CitationNotes.Proofs.Footnote.Placement

/-!
Runs read back from a document.

A document has no empty fragments, and its markers have neither text nor style. Apart from that,
what is written is what is read.
-/

namespace CitationNotes

/-- The fragment as a document holds it. -/
def Fragment.bare (f : Fragment) : Fragment :=
  match f.marker with
  | some id => .footnote id
  | none => f

lemma Fragment.bare_of_marker_eq_none {f : Fragment} (h : f.marker = none) : f.bare = f := by
  rw [bare, h]

namespace Span

lemma footnote?_marker (id : FootnoteId) : (marker id).footnote? = some id :=
  footnoteOf?_target id

lemma runs_marker (bold italic : Bool) (id : FootnoteId) :
    (marker id).runs bold italic = [.footnote id] := by
  have h : footnote? ⟨.link, glyph id, some (target id), []⟩ = some id := footnote?_marker id
  rw [marker, runs, h]

/-- What shows of a fragment is read back from its span. -/
lemma runs_ofFragment {f : Fragment} (hv : f.isVisible = true) :
    (ofFragment f).runs false false = [f.bare] := by
  obtain ⟨t, bold, italic, _ | id⟩ := f
  · have ht : t.isEmpty = false := by simpa [Fragment.isVisible, Fragment.isMarker] using hv
    cases bold <;> cases italic <;>
      simp [ofFragment, plain, styled, runs, runsList, footnote?, ht, Fragment.bare,
        Fragment.styled]
  · exact runs_marker false false id

end Span

namespace Runs

/-- No marker has any text or style. -/
def Bare (r : Runs) : Prop := ∀ f ∈ r, f.bare = f

lemma Bare.append {r s : Runs} (hr : Bare r) (hs : Bare s) : Bare (r ++ s) :=
  List.forall_mem_append.2 ⟨hr, hs⟩

lemma bare_of_markers_eq_nil {r : Runs} (h : markers r = []) : Bare r := by
  intro f hf
  rw [markers, List.filterMap_eq_nil_iff] at h
  exact Fragment.bare_of_marker_eq_none (h f hf)

lemma runsList_map_ofFragment {r : Runs} (h : ∀ f ∈ r, f.isVisible = true) :
    Span.runsList false false (r.map Span.ofFragment) = r.map Fragment.bare := by
  induction r with
  | nil => rfl
  | cons f r ih =>
    rw [List.forall_mem_cons] at h
    rw [List.map_cons, Span.runsList, Span.runs_ofFragment h.1, ih h.2]
    rfl

lemma ofSpans_spans (r : Runs) :
    ofSpans r.spans = (r.filter Fragment.isVisible).map Fragment.bare :=
  runsList_map_ofFragment fun _ hf => (List.mem_filter.1 hf).2

lemma Bare.map_bare {r : Runs} (h : Bare r) : r.map Fragment.bare = r :=
  (List.map_congr_left h).trans (List.map_id r)

/-- Bare runs come back with the same cells. -/
lemma cells_ofSpans_spans {r : Runs} (h : Bare r) : (ofSpans r.spans).cells = r.cells := by
  have hbare : Bare (r.filter Fragment.isVisible) := fun f hf => h f (List.mem_filter.1 hf).1
  rw [ofSpans_spans, hbare.map_bare, cells_filter_isVisible]

/-! ### What is read is bare -/

lemma bare_footnote (id : FootnoteId) : Bare [.footnote id] := by
  simp [Bare, Fragment.bare, Fragment.footnote]

lemma bare_styled (t : Text) (bold italic : Bool) : Bare [.styled t bold italic] :=
  bare_of_markers_eq_nil rfl

mutual

lemma bare_runs (bold italic : Bool) : ∀ s : Span, Bare (s.runs bold italic)
  | ⟨style, text, target, children⟩ => by
    rw [Span.runs]
    split
    · exact bare_footnote _
    · refine Bare.append ?_ (bare_runsList _ _ children)
      split
      · simp [Bare]
      · exact bare_styled _ _ _

lemma bare_runsList (bold italic : Bool) : ∀ ss : List Span, Bare (Span.runsList bold italic ss)
  | [] => by simp [Bare, Span.runsList]
  | s :: ss => by
    rw [Span.runsList]
    exact (bare_runs bold italic s).append (bare_runsList bold italic ss)

end

lemma bare_ofSpans (ss : List Span) : Bare (ofSpans ss) := bare_runsList false false ss

lemma Bare.textless {r : Runs} (h : Bare r) : Textless r := by
  intro f hf hm
  obtain ⟨id, hid⟩ := Option.isSome_iff_exists.1 hm
  rw [← h f hf, Fragment.bare, hid]
  rfl

lemma Bare.splitInsert {r : Runs} (h : Bare r) (i o : Nat) (id : FootnoteId) :
    Bare (r.splitInsert i o (.footnote id)) := by
  intro f hf
  rcases mem_splitInsert hf with rfl | hf | ⟨g, -, hg, t, rfl⟩
  · rfl
  · exact h f hf
  · refine Fragment.bare_of_marker_eq_none ?_
    simpa [Fragment.isMarker, Fragment.withText] using hg

end Runs

end CitationNotes
