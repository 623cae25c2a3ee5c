import Mathlib.Tactic.Lemma
import CitationNotes.Document.Basic
import CitationNotes.Proofs.Document.ReadBack
import CitationNotes.Proofs.Footnote.Reach

/-!
A footnote put into a document.

The paragraphs are those that were read, with the marker in its place, cell by cell. All blocks
but the one with the marker are the same.
-/

namespace CitationNotes

namespace Document

lemma exists_write? {b : Block} (hb : b.isLeaf = true) (r : Runs) :
    ∃ b', b.write? r = some b' ∧ b'.content = r.spans ∧ b'.isLeaf = true := by
  cases b with
  | leaf kind content => exact ⟨_, rfl, rfl, rfl⟩
  | list | checklist | quote => cases hb

lemma write_eq_ok {d : Document} {i : Nat} {b b' : Block} {r : Runs} (hd : d[i]? = some b)
    (hb : b.write? r = some b') : d.write i r = .ok (d.set i b') := by
  induction d generalizing i with
  | nil => cases hd
  | cons c d ih =>
    cases i with
    | zero =>
      obtain rfl : c = b := by simpa using hd
      rw [write, hb]
      rfl
    | succ i =>
      rw [write, ih (by simpa using hd)]
      rfl

lemma write_eq_error {d : Document} {i : Nat} {b : Block} {r : Runs} (hd : d[i]? = some b)
    (hb : b.isLeaf = false) : d.write i r = .error .notLeaf := by
  induction d generalizing i with
  | nil => cases hd
  | cons c d ih =>
    cases i with
    | zero =>
      obtain rfl : c = b := by simpa using hd
      cases c with
      | leaf kind ss => cases hb
      | list | checklist | quote => rfl
    | succ i =>
      rw [write, ih (by simpa using hd)]
      rfl

lemma bare_paragraphs (d : Document) : ∀ r ∈ d.paragraphs, r.Bare := by
  intro r hr
  obtain ⟨b, -, rfl⟩ := List.mem_map.1 hr
  exact Runs.bare_ofSpans b.content

lemma textless_paragraphs (d : Document) : d.paragraphs.Textless :=
  fun r hr => (bare_paragraphs d r hr).textless

lemma paragraphs_set (d : Document) (i : Nat) (b : Block) :
    paragraphs (d.set i b) = d.paragraphs.set i (Runs.ofSpans b.content) :=
  List.map_set ..

lemma map_cells_paragraphs_append (d : Document) {r : Runs} (hr : r.Bare) :
    (d.append [r]).paragraphs.map Runs.cells = d.paragraphs.map Runs.cells ++ [r.cells] := by
  simp [append, paragraphs, Block.content, Runs.cells_ofSpans_spans hr]

/-- A paragraph written with a marker in it is read with the marker in it. -/
lemma map_cells_set_mark {ps : Paragraphs} (hps : ∀ r ∈ ps, r.Bare) (l : Location)
    (id : FootnoteId) :
    (ps.set l.paragraph (Runs.ofSpans ((ps.mark l id).getD l.paragraph []).spans)).map Runs.cells =
      (ps.mark l id).map Runs.cells := by
  apply List.ext_getElem?
  intro j
  rw [List.getElem?_map, List.getElem?_map]
  by_cases hj : j = l.paragraph
  · subst hj
    rcases hr : ps[l.paragraph]? with _ | r
    · have hle := List.getElem?_eq_none_iff.1 hr
      rw [List.getElem?_eq_none (by rwa [List.length_set]), List.getElem?_eq_none (by
        rwa [Paragraphs.mark, List.length_modify])]
    · have hbare := (hps r (List.mem_of_getElem? hr)).splitInsert l.fragment l.offset id
      have hmark : (ps.mark l id)[l.paragraph]? =
          some (r.splitInsert l.fragment l.offset (.footnote id)) := by
        simp [Paragraphs.mark, hr]
      have hlt := (List.getElem?_eq_some_iff.1 hr).1
      rw [List.getD_eq_getElem?_getD, hmark, List.getElem?_set_self hlt]
      exact congrArg some (Runs.cells_ofSpans_spans hbare)
  · rw [List.getElem?_set_ne (Ne.symm hj), Paragraphs.getElem?_mark_of_ne ps hj]

/-- Where a footnote can go: to a position that is in a block with spans. -/
def Accepts (d : Document) (position : Nat) : Prop :=
  ∃ l b, d.paragraphs.locate position = .ok l ∧ d[l.paragraph]? = some b ∧ b.isLeaf = true

lemma Accepts.le_length {d : Document} {position : Nat} (h : d.Accepts position) :
    position ≤ d.paragraphs.text.length := by
  obtain ⟨l, -, hl, -⟩ := h
  rw [Paragraphs.length_text]
  refine Nat.le_of_not_lt fun hlt => ?_
  rw [Paragraphs.locate_eq_ok_iff, Paragraphs.locate?_eq_none_iff.2 (.inr hlt)] at hl
  cases hl

/-- A footnote goes where it can go, as long as there are numbers left. -/
lemma exists_addFootnote {d : Document} {position : Nat} (hd : d.Accepts position)
    (hid : (highestId d.paragraphs.markers).toNat + 1 < UInt32.size) (content : Runs) :
    ∃ n b, d.addFootnote position content = .ok (n, d.set n.location.paragraph b) ∧
      n.content = content ∧ n.id.toNat = (highestId d.paragraphs.markers).toNat + 1 ∧
      d.paragraphs.locate? position = some n.location ∧
      (paragraphs (d.set n.location.paragraph b)).map Runs.cells =
        (d.paragraphs.mark n.location n.id).map Runs.cells ∧
      b.isLeaf = true ∧ ∃ c, d[n.location.paragraph]? = some c ∧ c.isLeaf = true := by
  obtain ⟨l, c, hl, hc, hleaf⟩ := hd
  rw [Paragraphs.locate_eq_ok_iff] at hl
  obtain ⟨id, hid, hadd⟩ := Paragraphs.addFootnote_eq_ok hl hid content
  obtain ⟨b, hwrite, hcontent, hb⟩ :=
    exists_write? hleaf ((d.paragraphs.mark l id).getD l.paragraph [])
  refine ⟨⟨id, content, l⟩, b, ?_, rfl, hid, hl, ?_, hb, c, hc, hleaf⟩
  · have hset : d.write l.paragraph ((d.paragraphs.mark l id).getD l.paragraph []) =
        .ok (d.set l.paragraph b) := write_eq_ok hc hwrite
    simp only [addFootnote, hadd, hset]
  · rw [paragraphs_set, hcontent]
    exact map_cells_set_mark (bare_paragraphs d) l id

end Document

end CitationNotes
