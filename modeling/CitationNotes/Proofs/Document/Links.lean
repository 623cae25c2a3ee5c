import Mathlib.Data.List.Nodup
import Mathlib.Data.List.Perm.Basic
import CitationNotes.Proofs.Document.Annotation
import CitationNotes.Proofs.Runs.Holes

/-!
The links to footnotes in a whole document.

A footnote gets a number above all that are read, and what is read are the paragraphs at the top of
the document without what is inside a link. So a number is given twice exactly if some other block
hides a link with it, in a list, a checklist, a quote or another link. In a document that hides no
links the numbers stay apart, and putting in footnotes hides none.
-/

namespace CitationNotes

/-! ### All links -/

namespace Span

mutual

/-- The footnotes that a span links to, at any depth. -/
def linkIds : Span → List FootnoteId
  | ⟨style, text, target, children⟩ =>
    (footnote? ⟨style, text, target, []⟩).toList ++ linkIdsList children

def linkIdsList : List Span → List FootnoteId
  | [] => []
  | s :: ss => s.linkIds ++ linkIdsList ss

end

mutual

/-- What is read of a span is part of what is there. -/
lemma markers_runs_sublist (bold italic : Bool) :
    ∀ s : Span, (Runs.markers (s.runs bold italic)).Sublist s.linkIds
  | ⟨style, text, target, children⟩ => by
    rw [runs, linkIds]
    rcases footnote? ⟨style, text, target, []⟩ with _ | id
    · have h := markers_runsList_sublist (bold || style == .bold) (italic || style == .italic)
        children
      rw [Runs.markers_append]
      split
      · exact h
      · exact h
    · exact (List.Sublist.refl [id]).trans (List.sublist_append_left ..)

lemma markers_runsList_sublist (bold italic : Bool) :
    ∀ ss : List Span, (Runs.markers (runsList bold italic ss)).Sublist (linkIdsList ss)
  | [] => .slnil
  | s :: ss => by
    rw [runsList, linkIdsList, Runs.markers_append]
    exact (markers_runs_sublist bold italic s).append (markers_runsList_sublist bold italic ss)

end

lemma linkIds_ofFragment (f : Fragment) : (ofFragment f).linkIds = f.marker.toList := by
  obtain ⟨t, bold, italic, _ | id⟩ := f
  · cases bold <;> cases italic <;>
      simp [ofFragment, plain, styled, linkIds, linkIdsList, footnote?]
  · have h : footnote? ⟨.link, glyph id, some (target id), []⟩ = some id := footnote?_marker id
    simp [ofFragment, marker, linkIds, linkIdsList, h]

end Span

mutual

def CheckItem.linkIds : CheckItem → List FootnoteId
  | .mk _ content children => Span.linkIdsList content ++ CheckItem.linkIdsList children

def CheckItem.linkIdsList : List CheckItem → List FootnoteId
  | [] => []
  | c :: cs => c.linkIds ++ CheckItem.linkIdsList cs

end

mutual

def Block.linkIds : Block → List FootnoteId
  | .leaf _ content => Span.linkIdsList content
  | .list _ entries => Block.linkIdsEntries entries
  | .checklist items => CheckItem.linkIdsList items
  | .quote children => Block.linkIdsList children

def Block.linkIdsList : List Block → List FootnoteId
  | [] => []
  | b :: bs => b.linkIds ++ Block.linkIdsList bs

def Block.linkIdsEntries : List (List Block) → List FootnoteId
  | [] => []
  | bs :: entries => Block.linkIdsList bs ++ Block.linkIdsEntries entries

end

/-- The footnotes that a document links to, anywhere in it. -/
def Document.linkIds (d : Document) : List FootnoteId := d.flatMap Block.linkIds

/-! ### Runs -/

namespace Runs

lemma marker_of_not_isVisible {f : Fragment} (h : f.isVisible = false) : f.marker = none := by
  rw [Fragment.isVisible, Bool.or_eq_false_iff] at h
  simpa [Fragment.isMarker] using h.1

lemma marker_bare (f : Fragment) : f.bare.marker = f.marker := by
  rw [Fragment.bare]
  split
  · next id h => rw [h]; rfl
  · rfl

/-- Runs that are written have no other links than their markers. -/
lemma linkIdsList_spans (r : Runs) : Span.linkIdsList r.spans = r.markers := by
  induction r with
  | nil => rfl
  | cons f r ih =>
    rw [spans] at ih ⊢
    rcases hf : f.isVisible
    · rw [List.filter_cons_of_neg (by simp [hf]), ih, markers_cons, marker_of_not_isVisible hf]
      rfl
    · rw [List.filter_cons_of_pos hf, List.map_cons, Span.linkIdsList, Span.linkIds_ofFragment, ih,
        markers_cons]

lemma markers_ofSpans_spans (r : Runs) : markers (ofSpans r.spans) = r.markers := by
  rw [ofSpans_spans]
  induction r with
  | nil => rfl
  | cons f r ih =>
    rcases hf : f.isVisible
    · rw [List.filter_cons_of_neg (by simp [hf]), ih, markers_cons, marker_of_not_isVisible hf]
      rfl
    · rw [List.filter_cons_of_pos hf, List.map_cons, markers_cons, markers_cons, ih, marker_bare]

end Runs

/-! ### One footnote -/

lemma perm_cons_eraseIdx {α : Type} {l : List α} {i : ℕ} {a : α} (h : l[i]? = some a) :
    l.Perm (a :: l.eraseIdx i) := by
  obtain ⟨hi, rfl⟩ := List.getElem?_eq_some_iff.1 h
  exact (List.getElem_cons_eraseIdx_perm hi).symm

lemma set_perm_cons_eraseIdx {α : Type} {l : List α} {i : ℕ} (hi : i < l.length) (a : α) :
    (l.set i a).Perm (a :: l.eraseIdx i) := by
  have h := perm_cons_eraseIdx (List.getElem?_set_self hi : (l.set i a)[i]? = some a)
  rwa [List.eraseIdx_set_eq] at h

namespace Document

variable {d d' : Document} {n : Footnote} {position : ℕ} {content : Runs}

lemma exists_of_write_eq_ok {i : ℕ} {r : Runs} (h : write d i r = .ok d') :
    ∃ kind ss, d[i]? = some (.leaf kind ss) ∧ d' = d.set i (.leaf kind r.spans) := by
  induction d generalizing i d' with
  | nil => cases h
  | cons b d ih =>
    cases i with
    | zero =>
      cases b with
      | leaf kind ss => exact ⟨kind, ss, rfl, (Except.ok.inj h).symm⟩
      | list | checklist | quote => cases h
    | succ i =>
      rw [write] at h
      rcases hw : write d i r with e | e
      · rw [hw] at h
        cases h
      · rw [hw] at h
        obtain rfl := Except.ok.inj h
        obtain ⟨kind, ss, hget, rfl⟩ := ih hw
        exact ⟨kind, ss, hget, rfl⟩

lemma exists_of_addFootnote_eq_ok (h : d.addFootnote position content = .ok (n, d')) :
    n.content = content ∧ n.id.toNat = (highestId d.paragraphs.markers).toNat + 1 ∧
    ∃ kind ss, d[n.location.paragraph]? = some (.leaf kind ss) ∧
      d' = d.set n.location.paragraph (.leaf kind (Runs.spans ((Runs.ofSpans ss).splitInsert
        n.location.fragment n.location.offset (.footnote n.id)))) := by
  rw [addFootnote, Paragraphs.addFootnote] at h
  rcases hid : nextId? d.paragraphs.markers with _ | id
  · rw [hid] at h
    cases h
  rcases hl : d.paragraphs.locate position with e | l
  · simp [hid, Paragraphs.insertMarker, hl, Except.map] at h
  have hmark : d.paragraphs.insertMarker position id = .ok (l, d.paragraphs.mark l id) := by
    rw [Paragraphs.insertMarker, hl]
    rfl
  rcases hw : write d l.paragraph ((d.paragraphs.mark l id).getD l.paragraph []) with e | e
  · simp only [hid, hmark, hw] at h
    cases h
  · simp only [hid, hmark, hw, Except.ok.injEq, Prod.mk.injEq] at h
    obtain ⟨rfl, rfl⟩ := h
    obtain ⟨kind, ss, hget, he⟩ := exists_of_write_eq_ok hw
    have hread : d.paragraphs[l.paragraph]? = some (Runs.ofSpans ss) := by
      rw [paragraphs, List.getElem?_map, hget]
      rfl
    refine ⟨rfl, toNat_of_nextId?_eq_some hid, kind, ss, hget, ?_⟩
    rw [he, List.getD_eq_getElem?_getD, Paragraphs.mark, List.getElem?_modify_eq, hread]
    rfl

lemma markers_paragraphs (d : Document) :
    d.paragraphs.markers = d.flatMap fun b => Runs.markers (Runs.ofSpans b.content) := by
  rw [Paragraphs.markers, paragraphs, List.flatMap_map]

/-- All links and those that are read, before and after. What the paragraph with the new marker
may have hidden is gone. -/
lemma exists_perm_of_addFootnote_eq_ok (h : d.addFootnote position content = .ok (n, d')) :
    ∃ kept, kept ⊆ d.paragraphs.markers ∧
      (kept ++ linkIds (d.eraseIdx n.location.paragraph)).Subperm d.linkIds ∧
      d'.linkIds.Perm (n.id :: (kept ++ linkIds (d.eraseIdx n.location.paragraph))) ∧
      d'.paragraphs.markers.Perm (n.id :: d.paragraphs.markers) := by
  obtain ⟨-, -, kind, ss, hget, hd'⟩ := exists_of_addFootnote_eq_ok h
  have hmarked := Runs.markers_splitInsert_perm (Runs.ofSpans ss) n.location.fragment
    n.location.offset n.id
  generalize (Runs.ofSpans ss).splitInsert n.location.fragment n.location.offset
    (.footnote n.id) = r at hd' hmarked
  have hbefore : d.Perm (.leaf kind ss :: d.eraseIdx n.location.paragraph) :=
    perm_cons_eraseIdx hget
  have hafter : d'.Perm (.leaf kind r.spans :: d.eraseIdx n.location.paragraph) :=
    hd' ▸ set_perm_cons_eraseIdx (List.getElem?_eq_some_iff.1 hget).1 _
  have hread : d.paragraphs.markers.Perm ((Runs.ofSpans ss).markers ++
      Paragraphs.markers (paragraphs (d.eraseIdx n.location.paragraph))) := by
    rw [markers_paragraphs, markers_paragraphs]
    exact hbefore.flatMap_right _
  refine ⟨(Runs.ofSpans ss).markers, ?_, ?_, ?_, ?_⟩
  · exact fun id hid => hread.mem_iff.2 (List.mem_append_left _ hid)
  · have hsub := Span.markers_runsList_sublist false false ss
    exact (hsub.append_right _).subperm.trans (hbefore.flatMap_right Block.linkIds).symm.subperm
  · have hlinks := hafter.flatMap_right Block.linkIds
    rw [List.flatMap_cons, Block.linkIds, Runs.linkIdsList_spans] at hlinks
    exact hlinks.trans (hmarked.append_right _)
  · have hmarkers : d'.paragraphs.markers.Perm (r.markers ++
        Paragraphs.markers (paragraphs (d.eraseIdx n.location.paragraph))) := by
      rw [markers_paragraphs, markers_paragraphs, ← Runs.markers_ofSpans_spans r]
      exact hafter.flatMap_right _
    exact (hmarkers.trans (hmarked.append_right _)).trans (hread.symm.cons n.id)

/-- **A number is given twice** exactly if a block other than the one with the new marker links to
it already. -/
theorem nodup_linkIds_addFootnote_iff (hd : d.linkIds.Nodup)
    (h : d.addFootnote position content = .ok (n, d')) :
    d'.linkIds.Nodup ↔ n.id ∉ linkIds (d.eraseIdx n.location.paragraph) := by
  obtain ⟨-, hid, -⟩ := exists_of_addFootnote_eq_ok h
  obtain ⟨kept, hkept, hsub, hperm, -⟩ := exists_perm_of_addFootnote_eq_ok h
  have hfresh : n.id ∉ kept := fun hmem =>
    UInt32.lt_irrefl _ (lt_of_toNat_eq_succ hid (hkept hmem))
  have hrest : (kept ++ linkIds (d.eraseIdx n.location.paragraph)).Nodup := by
    obtain ⟨l, hl, hls⟩ := hsub
    exact hl.nodup_iff.1 (hd.sublist hls)
  rw [hperm.nodup_iff, List.nodup_cons, List.mem_append, not_or]
  exact ⟨fun hn => hn.1.2, fun hn => ⟨⟨hfresh, hn⟩, hrest⟩⟩

/-- A paragraph of text in front of a list whose entry has a footnote, and a quote with one. -/
def layered : Document :=
  [.leaf .text [.plain ['a'], .marker 4], .list false [[.leaf .text [.marker 1]]],
    .quote [.leaf .text [.marker 3]]]

theorem nodup_linkIds_addFootnote_iff_layered :
    layered.linkIds.Nodup ∧
    ∃ d', layered.addFootnote 1 [] = .ok (⟨5, [], ⟨0, 0, 1⟩⟩, d') ∧
      (d'.linkIds.Nodup ↔ 5 ∉ linkIds (layered.eraseIdx 0)) ∧ d'.linkIds = [5, 4, 1, 3] := by
  have hd : layered.linkIds.Nodup := by decide
  have h : layered.addFootnote 1 [] = .ok (⟨5, [], ⟨0, 0, 1⟩⟩,
      [.leaf .text [.plain ['a'], .marker 5, .marker 4], .list false [[.leaf .text [.marker 1]]],
        .quote [.leaf .text [.marker 3]]]) := rfl
  exact ⟨hd, _, h, nodup_linkIds_addFootnote_iff hd h, by decide⟩

/-- The first footnote of the text gets the number of one in a list. -/
theorem not_nodup_linkIds_addFootnote :
    ∃ d : Document, d = [.leaf .text [.plain ['a']], .list false [[.leaf .text [.marker 1]]]] ∧
      d.linkIds.Nodup ∧ (∀ id ∈ d.linkIds, id < 4294967295) ∧
      ∃ n d', d.addFootnote 1 [] = .ok (n, d') ∧ ¬ d'.linkIds.Nodup := by
  refine ⟨_, rfl, by decide, fun id hid => ?_, _, _, rfl, by decide⟩
  obtain rfl : id = 1 := List.mem_singleton.1 hid
  decide

/-! ### Many footnotes -/

/-- No number is there twice, and every link is read. -/
structure Legible (d : Document) : Prop where
  nodup : d.linkIds.Nodup
  read : d.linkIds ⊆ d.paragraphs.markers

lemma Legible.addFootnote (hd : Legible d) (h : d.addFootnote position content = .ok (n, d')) :
    Legible d' := by
  obtain ⟨-, hid, -⟩ := exists_of_addFootnote_eq_ok h
  obtain ⟨kept, hkept, hsub, hperm, hmarkers⟩ := exists_perm_of_addFootnote_eq_ok h
  constructor
  · rw [nodup_linkIds_addFootnote_iff hd.nodup h]
    intro hmem
    have hold := hd.read (hsub.subset (List.mem_append_right _ hmem))
    exact UInt32.lt_irrefl _ (lt_of_toNat_eq_succ hid hold)
  · intro id hmem
    rcases List.mem_cons.1 (hperm.mem_iff.1 hmem) with rfl | hmem
    · exact hmarkers.mem_iff.2 (List.mem_cons_self ..)
    · exact hmarkers.mem_iff.2 (List.mem_cons_of_mem _ (hd.read (hsub.subset hmem)))

lemma Legible.append {r : Runs} (hd : Legible d) (hr : r.markers = []) :
    Legible (d.append [r]) := by
  have hlinks : (d.append [r]).linkIds = d.linkIds := by
    rw [Document.append, linkIds, List.flatMap_append, List.map_singleton, List.flatMap_singleton,
      Block.linkIds, Runs.linkIdsList_spans, hr, List.append_nil, linkIds]
  have hmarkers : d.paragraphs.markers ⊆ (d.append [r]).paragraphs.markers := by
    rw [markers_paragraphs, markers_paragraphs, Document.append, List.flatMap_append]
    exact List.subset_append_left ..
  exact ⟨hlinks ▸ hd.nodup, hlinks ▸ List.Subset.trans hd.read hmarkers⟩

lemma Legible.annotate {q : Request} (hd : Legible d) (h : d.annotate q = .ok (n, d')) :
    Legible d' := by
  rw [Document.annotate] at h
  rcases ha : d.addFootnote q.position q.source.footnoteRuns with e | ⟨m, e⟩
  · rw [ha] at h
    cases h
  · rw [ha] at h
    obtain ⟨rfl, rfl⟩ := Prod.mk.inj (Except.ok.inj h)
    obtain ⟨hcontent, -⟩ := exists_of_addFootnote_eq_ok ha
    exact (hd.addFootnote ha).append (markers_footnoteBody hcontent)

/-- **Footnotes put in one after the other** get numbers of their own in a document that hides no
links. -/
theorem Legible.annotateAll {qs : List Request} {steps : List Step} (hd : Legible d)
    (h : annotateAll d qs = .ok (steps, d')) : Legible d' := by
  induction qs generalizing d steps with
  | nil =>
    obtain ⟨-, rfl⟩ := Prod.mk.inj (Except.ok.inj h)
    exact hd
  | cons q qs ih =>
    rw [Document.annotateAll] at h
    rcases hq : d.annotate q with e | ⟨m, e⟩
    · rw [hq] at h
      cases h
    · simp only [hq] at h
      rcases hrest : Document.annotateAll e qs with f | ⟨ss, f⟩
      · rw [hrest] at h
        cases h
      · rw [hrest] at h
        obtain ⟨-, rfl⟩ := Prod.mk.inj (Except.ok.inj h)
        exact ih (hd.annotate hq) hrest

end Document

end CitationNotes
