import Mathlib.Tactic.Lemma
import CitationNotes.Proofs.Document.RoundTrip

/-!
What a reader sees of a paragraph that is written again.

All text of the spans comes back, with one exception: a link to a footnote is read as a marker,
which has no text, and is written with the glyph of its number. So text is lost exactly where such
a link showed something else.
-/

namespace CitationNotes

namespace Span

/-! ### The text with glyphs -/

mutual

/-- The literal text of a span, with the glyph of its footnote for the text of each link to one. -/
def shown : Span → Text
  | ⟨style, text, target, children⟩ =>
    match footnote? ⟨style, text, target, []⟩ with
    | some id => glyph id
    | none => text ++ shownList children

def shownList : List Span → Text
  | [] => []
  | s :: ss => s.shown ++ shownList ss

end

mutual

/-- Whether each link to a footnote, unless it is inside another, shows the glyph of its
footnote. -/
def labelled : Span → Bool
  | ⟨style, text, target, children⟩ =>
    match footnote? ⟨style, text, target, []⟩ with
    | some id => text ++ literalList children == glyph id
    | none => labelledList children

def labelledList : List Span → Bool
  | [] => true
  | s :: ss => s.labelled && labelledList ss

end

mutual

lemma shown_eq_literal : ∀ {s : Span}, s.labelled = true → s.shown = s.literal
  | ⟨style, text, target, children⟩, h => by
    rw [labelled] at h
    rw [shown, literal]
    split
    · next id hid =>
      rw [hid] at h
      exact (eq_of_beq h).symm
    · next hid =>
      rw [hid] at h
      exact congrArg (text ++ ·) (shownList_eq_literalList h)

lemma shownList_eq_literalList :
    ∀ {ss : List Span}, labelledList ss = true → shownList ss = literalList ss
  | [], _ => rfl
  | s :: ss, h => by
    rw [labelledList, Bool.and_eq_true] at h
    rw [shownList, literalList, shown_eq_literal h.1, shownList_eq_literalList h.2]

end

end Span

/-- What a reader sees of a fragment. -/
def Fragment.shown (f : Fragment) : Text :=
  match f.marker with
  | some id => Span.glyph id
  | none => f.text

lemma Fragment.shown_of_not_isVisible {f : Fragment} (h : f.isVisible = false) : f.shown = [] := by
  obtain ⟨t, bold, italic, _ | id⟩ := f
  · simpa [isVisible, isMarker, shown] using h
  · cases h

lemma Span.literal_ofFragment (f : Fragment) : (ofFragment f).literal = f.shown := by
  obtain ⟨t, bold, italic, _ | id⟩ := f
  · cases bold <;> cases italic <;>
      simp [ofFragment, plain, styled, literal, literalList, Fragment.shown]
  · simp [ofFragment, marker, literal, literalList, Fragment.shown]

namespace Runs

def shown (r : Runs) : Text := r.flatMap Fragment.shown

@[simp] lemma shown_cons (f : Fragment) (r : Runs) : shown (f :: r) = f.shown ++ shown r := rfl
@[simp] lemma shown_append (r s : Runs) : shown (r ++ s) = shown r ++ shown s := by simp [shown]

/-- What is written of runs is what they show. -/
lemma literalList_spans (r : Runs) : Span.literalList r.spans = r.shown := by
  induction r with
  | nil => rfl
  | cons f r ih =>
    rw [spans] at ih ⊢
    rcases hf : f.isVisible
    · rw [List.filter_cons_of_neg (by simp [hf]), ih, shown_cons,
        Fragment.shown_of_not_isVisible hf, List.nil_append]
    · rw [List.filter_cons_of_pos hf, List.map_cons, Span.literalList, Span.literal_ofFragment, ih,
        shown_cons]

mutual

lemma shown_runs (bold italic : Bool) : ∀ s : Span, shown (s.runs bold italic) = s.shown
  | ⟨style, text, target, children⟩ => by
    rw [Span.runs, Span.shown]
    rcases Span.footnote? ⟨style, text, target, []⟩ with _ | id
    · have h := shown_runsList (bold || style == .bold) (italic || style == .italic) children
      dsimp only
      rw [shown_append, h]
      rcases text with _ | ⟨c, t⟩
      · rfl
      · simp [shown, Fragment.shown, Fragment.styled]
    · simp [shown, Fragment.shown, Fragment.footnote]

lemma shown_runsList (bold italic : Bool) :
    ∀ ss : List Span, shown (Span.runsList bold italic ss) = Span.shownList ss
  | [] => rfl
  | s :: ss => by
    rw [Span.runsList, shown_append, Span.shownList, shown_runs bold italic s,
      shown_runsList bold italic ss]

end

lemma shown_ofSpans (ss : List Span) : shown (ofSpans ss) = Span.shownList ss :=
  shown_runsList false false ss

/-- A marker adds its glyph at one place. -/
lemma exists_shown_splitInsert (r : Runs) (i o : Nat) (id : FootnoteId) :
    ∃ a b, r.shown = a ++ b ∧
      (r.splitInsert i o (.footnote id)).shown = a ++ Span.glyph id ++ b := by
  have hglyph : (Fragment.footnote id).shown = Span.glyph id := rfl
  induction r generalizing i with
  | nil => exact ⟨[], [], rfl, by simp [splitInsert, hglyph, shown]⟩
  | cons f r ih =>
    cases i with
    | zero =>
      rw [splitInsert]
      split
      · exact ⟨[], shown (f :: r), rfl, by rw [shown_cons, hglyph, List.nil_append]⟩
      · next hm =>
        have hpart (t : Text) : (f.withText t).shown = t := by
          have hf : f.marker = none := by simpa [Fragment.isMarker] using hm
          simp [Fragment.shown, Fragment.withText, hf]
        have hwhole : f.shown = f.text.take o ++ f.text.drop o := by
          rw [List.take_append_drop]
          exact hpart f.text
        refine ⟨f.text.take o, f.text.drop o ++ shown r, ?_, ?_⟩
        · rw [shown_cons, hwhole, List.append_assoc]
        · simp [around, hpart, hglyph]
    | succ i =>
      obtain ⟨a, b, hr, hs⟩ := ih i
      refine ⟨f.shown ++ a, b, ?_, ?_⟩
      · rw [shown_cons, hr, List.append_assoc]
      · rw [splitInsert, shown_cons, hs]
        simp

/-- **A paragraph that is written again** shows the text that it had, with glyphs in the links to
footnotes, and a marker put into it adds its glyph. So it shows the same text as before if these
links showed their glyphs. -/
theorem literalList_spans_ofSpans (ss : List Span) :
    Span.literalList (ofSpans ss).spans = Span.shownList ss ∧
    (Span.labelledList ss = true →
      Span.literalList (ofSpans ss).spans = Span.literalList ss) ∧
    ∀ (i o : Nat) (id : FootnoteId), ∃ a b, Span.shownList ss = a ++ b ∧
      Span.literalList (spans ((ofSpans ss).splitInsert i o (.footnote id))) =
        a ++ Span.glyph id ++ b := by
  have hshown : Span.literalList (ofSpans ss).spans = Span.shownList ss := by
    rw [literalList_spans, shown_ofSpans]
  refine ⟨hshown, fun h => hshown.trans (Span.shownList_eq_literalList h), fun i o id => ?_⟩
  rw [literalList_spans, ← shown_ofSpans]
  exact exists_shown_splitInsert (ofSpans ss) i o id

/-- A marker inside other styles, a link to another place, and a link whose glyph is in a child and
whose number is not in the form that is written. -/
def linked : List Span :=
  [⟨.bold, ['a'], none, [⟨.underline, ['b'], none, [.marker 3]⟩]⟩,
    ⟨.link, ['c'], some ['#', 'c'], [.plain ['d']]⟩,
    ⟨.link, ['['], some (Span.footnoteTarget ++ ['+', '0', '7']), [.plain ['7', ']']]⟩]

theorem literalList_spans_ofSpans_linked :
    Span.labelledList linked = true ∧
    Span.literalList (ofSpans linked).spans = Span.literalList linked ∧
    (∃ a b, Span.shownList linked = a ++ b ∧
      Span.literalList (spans ((ofSpans linked).splitInsert 1 1 (.footnote 8))) =
        a ++ Span.glyph 8 ++ b) ∧
    Span.literalList linked = "ab[3]cd[7]".toList ∧
    Span.literalList (spans ((ofSpans linked).splitInsert 1 1 (.footnote 8))) =
      "ab[8][3]cd[7]".toList :=
  have hlabelled : Span.labelledList linked = true := by decide
  ⟨hlabelled, (literalList_spans_ofSpans linked).2.1 hlabelled,
    (literalList_spans_ofSpans linked).2.2 1 1 8, by decide, by decide⟩

/-- A link that names its footnote in words shows the number instead. -/
theorem literalList_spans_ofSpans_ne :
    ∃ ss : List Span,
      ss = [.plain "see ".toList, ⟨.link, "note 3".toList, some (Span.target 3), []⟩] ∧
      Span.literalList ss = "see note 3".toList ∧
      Span.literalList (ofSpans ss).spans = "see [3]".toList ∧
      Span.literalList (ofSpans ss).spans ≠ Span.literalList ss :=
  ⟨_, rfl, by decide, by decide, by decide⟩

end Runs

end CitationNotes
