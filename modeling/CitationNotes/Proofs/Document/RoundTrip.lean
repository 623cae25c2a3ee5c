import Mathlib.Tactic.Lemma
import CitationNotes.Proofs.Document.ReadBack

/-!
Reading and writing, one after the other.

Runs that have been read are settled: every fragment shows, and the markers are bare. Writing and
reading undo each other on settled runs and on no others. Spans are written from the settled part
of runs alone, so that a second round changes nothing, whichever of the two comes first.
-/

namespace CitationNotes

namespace Fragment

lemma isVisible_bare (f : Fragment) : f.bare.isVisible = f.isVisible := by
  obtain ⟨t, bold, italic, _ | id⟩ := f <;> rfl

lemma bare_bare (f : Fragment) : f.bare.bare = f.bare := by
  obtain ⟨t, bold, italic, _ | id⟩ := f <;> rfl

lemma isVisible_styled {t : Text} (h : t ≠ []) (bold italic : Bool) :
    (styled t bold italic).isVisible = true := by
  rw [isVisible, isMarker_styled, Bool.false_or, Bool.not_eq_true', List.isEmpty_eq_false_iff]
  exact h

end Fragment

/-- A marker is written from its number alone. -/
lemma Span.ofFragment_bare (f : Fragment) : ofFragment f.bare = ofFragment f := by
  obtain ⟨t, bold, italic, _ | id⟩ := f <;> rfl

namespace Runs

/-- The runs as a document holds them: what does not show is gone, and markers are bare. -/
def settle (r : Runs) : Runs := (r.filter Fragment.isVisible).map Fragment.bare

/-- Whether a document can hold the runs as they are. -/
def Settled (r : Runs) : Prop := ∀ f ∈ r, f.isVisible = true ∧ f.bare = f

lemma settled_settle (r : Runs) : r.settle.Settled := by
  intro f hf
  obtain ⟨g, hg, rfl⟩ := List.mem_map.1 hf
  exact ⟨(Fragment.isVisible_bare g).trans (List.mem_filter.1 hg).2, Fragment.bare_bare g⟩

lemma Settled.settle_eq {r : Runs} (h : r.Settled) : r.settle = r := by
  have hvisible : r.filter Fragment.isVisible = r := List.filter_eq_self.2 fun f hf => (h f hf).1
  have hbare : r.Bare := fun f hf => (h f hf).2
  rw [settle, hvisible, hbare.map_bare]

/-! ### Reading -/

mutual

lemma isVisible_of_mem_runs (bold italic : Bool) :
    ∀ s : Span, ∀ f ∈ s.runs bold italic, f.isVisible = true
  | ⟨style, text, target, children⟩ => by
    rw [Span.runs]
    split
    · exact List.forall_mem_singleton.2 rfl
    · refine List.forall_mem_append.2 ⟨?_, isVisible_of_mem_runsList _ _ children⟩
      split
      · exact List.forall_mem_nil _
      · next ht =>
        exact List.forall_mem_singleton.2 (Fragment.isVisible_styled (by simpa using ht) _ _)

lemma isVisible_of_mem_runsList (bold italic : Bool) :
    ∀ ss : List Span, ∀ f ∈ Span.runsList bold italic ss, f.isVisible = true
  | [] => by
    rw [Span.runsList]
    exact List.forall_mem_nil _
  | s :: ss => by
    rw [Span.runsList]
    exact List.forall_mem_append.2
      ⟨isVisible_of_mem_runs bold italic s, isVisible_of_mem_runsList bold italic ss⟩

end

lemma settled_ofSpans (ss : List Span) : (ofSpans ss).Settled := fun f hf =>
  ⟨isVisible_of_mem_runsList false false ss f hf, bare_ofSpans ss f hf⟩

lemma ofSpans_spans_eq_settle (r : Runs) : ofSpans r.spans = r.settle := ofSpans_spans r

/-- Settled runs are those that spans can be read as. -/
theorem exists_ofSpans_eq_iff {r : Runs} : (∃ ss, ofSpans ss = r) ↔ r.Settled := by
  constructor
  · rintro ⟨ss, rfl⟩
    exact settled_ofSpans ss
  · intro h
    exact ⟨r.spans, (ofSpans_spans_eq_settle r).trans h.settle_eq⟩

/-! ### Writing -/

/-- Only the settled part of runs is written. -/
lemma spans_settle (r : Runs) : r.settle.spans = r.spans := by
  have hvisible : r.settle.filter Fragment.isVisible = r.settle :=
    List.filter_eq_self.2 fun f hf => (settled_settle r f hf).1
  calc r.settle.spans
      = r.settle.map Span.ofFragment := by rw [spans, hvisible]
    _ = (r.filter Fragment.isVisible).map fun f => Span.ofFragment f.bare := List.map_map
    _ = r.spans := List.map_congr_left fun f _ => Span.ofFragment_bare f

/-- Runs are written alike exactly if their settled parts are the same. -/
theorem spans_eq_spans_iff {r s : Runs} : r.spans = s.spans ↔ r.settle = s.settle := by
  constructor
  · intro h
    rw [← ofSpans_spans_eq_settle, h, ofSpans_spans_eq_settle]
  · intro h
    rw [← spans_settle, h, spans_settle]

/-- **One round settles everything.** Reading what was written gives the runs without the fragments
that do not show and with bare markers; after that, and after any reading, nothing changes any
more. -/
theorem ofSpans_spans_ofSpans :
    (∀ r : Runs, ofSpans r.spans = (r.filter Fragment.isVisible).map Fragment.bare) ∧
    (∀ ss : List Span, ofSpans (ofSpans ss).spans = ofSpans ss) ∧
    ∀ r : Runs, (ofSpans r.spans).spans = r.spans := by
  refine ⟨ofSpans_spans_eq_settle, fun ss => ?_, fun r => ?_⟩
  · rw [ofSpans_spans_eq_settle, (settled_ofSpans ss).settle_eq]
  · rw [ofSpans_spans_eq_settle, spans_settle]

/-- A marker with text and style, an empty fragment, and all styles; the highest number. -/
example :
    ofSpans (spans [⟨['x'], true, false, some 4294967295⟩, .empty, .styled ['a'] true true,
      .styled ['b'] true true, .styled ['c'] false true]) =
    [.footnote 4294967295, .styled ['a'] true true, .styled ['b'] true true,
      .styled ['c'] false true] := by decide

end Runs

end CitationNotes
