import Mathlib.Tactic.Lemma
import CitationNotes.Command.Program
import CitationNotes.Proofs.Document.Writing
import CitationNotes.Proofs.Template.Markers

/-!
Footnotes put into a document one after the other.

Each step reads the document that the one before has written. A step leaves the lengths of the
paragraphs that it read and their kinds, so that all positions of the first document stay where
they are; and it leaves the anchors of all markers but its own.
-/

namespace CitationNotes

namespace Document

/-- A footnote that is wanted. -/
structure Request where
  source : Source
  position : Nat

/-- The footnote of a request put into a document, and its body at the end. -/
def annotate (d : Document) (q : Request) : Except FootnoteFault (Footnote × Document) :=
  (d.addFootnote q.position q.source.footnoteRuns).map fun s =>
    (s.1, s.2.append [footnoteBody s.1])

/-- The command does this step. -/
lemma placeFootnote_of_annotate {d d' : Document} {q : Request} {n : Footnote}
    (h : d.annotate q = .ok (n, d')) (path : Text) :
    Command.placeFootnote q.source path q.position d = .ok d' := by
  rw [annotate] at h
  rcases ha : d.addFootnote q.position q.source.footnoteRuns with e | ⟨m, e⟩
  · rw [ha] at h
    cases h
  · rw [ha] at h
    obtain ⟨rfl, rfl⟩ := Prod.mk.inj (Except.ok.inj h)
    simp only [Command.placeFootnote, ha]

/-- What a step has read, and the footnote that it made of a request. -/
structure Step where
  request : Request
  read : Document
  note : Footnote

/-- What a step adds to the text. -/
def Step.line (s : Step) : Text :=
  '\n' :: (Span.glyph s.note.id ++ ' ' :: s.request.source.footnotePreview)

/-- The requests in turn, up to the first that fails. -/
def annotateAll : Document → List Request → Except FootnoteFault (List Step × Document)
  | d, [] => .ok ([], d)
  | d, q :: qs =>
    match d.annotate q with
    | .error e => .error e
    | .ok (n, d') => (annotateAll d' qs).map fun s => (⟨q, d, n⟩ :: s.1, s.2)

/-! ### One step -/

/-- What a step does to the paragraphs that it reads and to the blocks that they are in. -/
structure Writes (d : Document) (q : Request) (n : Footnote) (d' : Document) : Prop where
  content : n.content = q.source.footnoteRuns
  id : n.id.toNat = (highestId d.paragraphs.markers).toNat + 1
  location : d.paragraphs.locate? q.position = some n.location
  cells : d'.paragraphs.map Runs.cells =
    (d.paragraphs.mark n.location n.id ++ [footnoteBody n]).map Runs.cells
  others : ∀ i < d.length, i ≠ n.location.paragraph → d'[i]? = d[i]?
  isLeaf : ∀ i < d.length, d'[i]?.map Block.isLeaf = d[i]?.map Block.isLeaf

variable {d d' d'' : Document} {q : Request} {n : Footnote}

lemma markers_footnoteBody (h : n.content = q.source.footnoteRuns) :
    Runs.markers (footnoteBody n) = [] := by
  rw [footnoteBody, h, Runs.markers_cons_of_marker_eq_none rfl]
  exact Template.markers_expand _ _

lemma exists_annotate (hd : d.Accepts q.position)
    (hid : (highestId d.paragraphs.markers).toNat + 1 < UInt32.size) :
    ∃ n d', d.annotate q = .ok (n, d') ∧ Writes d q n d' := by
  obtain ⟨n, b, hadd, hcontent, hid, hloc, hcells, hb, c, hc, hleaf⟩ :=
    exists_addFootnote hd hid q.source.footnoteRuns
  have hbody := Runs.bare_of_markers_eq_nil (markers_footnoteBody hcontent)
  have hget (i : Nat) (hi : i < d.length) :
      (append (d.set n.location.paragraph b) [footnoteBody n])[i]? =
        (d.set n.location.paragraph b)[i]? :=
    List.getElem?_append_left (by rwa [List.length_set])
  refine ⟨n, _, by rw [annotate, hadd]; rfl, hcontent, hid, hloc, ?_, ?_, ?_⟩
  · rw [map_cells_paragraphs_append _ hbody, hcells, List.map_append]
    rfl
  · intro i hi hne
    rw [hget i hi, List.getElem?_set_ne hne.symm]
  · intro i hi
    rw [hget i hi]
    by_cases hne : i = n.location.paragraph
    · subst hne
      rw [List.getElem?_set_self hi, hc, Option.map_some, Option.map_some, hb, hleaf]
    · rw [List.getElem?_set_ne (Ne.symm hne)]

namespace Writes

lemma paragraphs_ne_nil (h : Writes d q n d') : d.paragraphs ≠ [] := by
  intro hnil
  have := h.location
  rw [hnil] at this
  cases this

lemma text (h : Writes d q n d') :
    d'.paragraphs.text = d.paragraphs.text ++ Step.line ⟨q, d, n⟩ := by
  have hne : d.paragraphs.mark n.location n.id ≠ [] := by
    rw [Paragraphs.mark, ← List.length_pos_iff, List.length_modify, List.length_pos_iff]
    exact h.paragraphs_ne_nil
  rw [Paragraphs.text_congr h.cells, Paragraphs.text_concat hne, Paragraphs.text_mark,
    footnoteBody, h.content]
  simp [Step.line, Source.footnotePreview, Fragment.plain, Fragment.styled]

lemma lt_id (h : Writes d q n d') {id : FootnoteId} (hid : id ∈ d.paragraphs.markers) :
    id < n.id :=
  lt_of_toNat_eq_succ h.id hid

/-- The new marker is at its position, and the others keep their anchors. -/
lemma anchors (h : Writes d q n d') :
    ∃ before after, d.paragraphs.anchors = before ++ after ∧
      d'.paragraphs.anchors = before ++ (.footnote n.id, q.position) :: after := by
  obtain ⟨before, after, hd, hmark, -, -⟩ :=
    (Paragraphs.Placed.mark (textless_paragraphs d) h.location n.id).anchors
  refine ⟨before, after, hd, ?_⟩
  rw [← hmark, Paragraphs.anchors, Paragraphs.anchorsFrom_congr h.cells,
    Paragraphs.anchorsFrom_concat _ (markers_footnoteBody h.content)]
  rfl

lemma anchorsOf_of_ne (h : Writes d q n d') {id : FootnoteId} (hne : id ≠ n.id) :
    d'.paragraphs.anchorsOf id = d.paragraphs.anchorsOf id := by
  obtain ⟨before, after, hd, hd'⟩ := h.anchors
  have hnew : (Fragment.footnote n.id).marker ≠ some id := fun he => hne (Option.some.inj he).symm
  rw [Paragraphs.anchorsOf, Paragraphs.anchorsOf, hd, hd', List.filterMap_append,
    List.filterMap_append, List.filterMap_cons, if_neg hnew]

lemma anchorsOf_id (h : Writes d q n d') : d'.paragraphs.anchorsOf n.id = [q.position] := by
  obtain ⟨before, after, hd, hd'⟩ := h.anchors
  have hfresh : d.paragraphs.anchorsOf n.id = [] := by
    refine Decidable.of_not_not fun hmem => ?_
    exact UInt32.lt_irrefl _ (h.lt_id (Paragraphs.mem_markers_iff.2 hmem))
  rw [Paragraphs.anchorsOf, hd, List.filterMap_append, List.append_eq_nil_iff] at hfresh
  rw [Paragraphs.anchorsOf, hd', List.filterMap_append, hfresh.1,
    List.nil_append, List.filterMap_cons, hfresh.2]
  simp [Fragment.footnote]

lemma mem_markers_iff (h : Writes d q n d') {id : FootnoteId} :
    id ∈ d'.paragraphs.markers ↔ id = n.id ∨ id ∈ d.paragraphs.markers := by
  rw [Paragraphs.mem_markers_iff, Paragraphs.mem_markers_iff]
  by_cases hid : id = n.id
  · subst hid
    simp [h.anchorsOf_id]
  · simp [h.anchorsOf_of_ne hid, hid]

lemma highestId_eq (h : Writes d q n d') : highestId d'.paragraphs.markers = n.id := by
  refine CitationNotes.highestId_eq (h.mem_markers_iff.2 (.inl rfl)) fun id hid => ?_
  rcases h.mem_markers_iff.1 hid with rfl | hid
  · exact UInt32.le_rfl
  · exact UInt32.le_of_lt (h.lt_id hid)

/-- What a position of the document that was read is good for, it stays good for. -/
lemma accepts (h : Writes d q n d') {position : Nat} (hd : d.Accepts position) :
    d'.Accepts position := by
  obtain ⟨l, b, hl, hb, hleaf⟩ := hd
  have hlengths : d.paragraphs.map Runs.textLength <+: d'.paragraphs.map Runs.textLength := by
    have hmark := Paragraphs.map_mark n.id (fun r i o => Runs.textLength_splitInsert r i o n.id)
      d.paragraphs n.location
    rw [Paragraphs.map_congr (fun _ _ => Runs.textLength_congr) h.cells, List.map_append, hmark]
    exact List.prefix_append ..
  obtain ⟨l', hl', hp⟩ :=
    Paragraphs.exists_locate?_of_prefix hlengths (Paragraphs.locate_eq_ok_iff.1 hl)
  have hi := h.isLeaf l.paragraph (List.getElem?_eq_some_iff.1 hb).1
  rw [hb, Option.map_some, hleaf] at hi
  obtain ⟨b', hb', hleaf'⟩ := Option.map_eq_some_iff.1 hi
  exact ⟨l', b', Paragraphs.locate_eq_ok_iff.2 hl', hp ▸ hb', hleaf'⟩

end Writes

/-! ### All steps -/

/-- What a run of steps makes of a document. -/
structure Run (d : Document) (steps : List Step) (d' : Document) : Prop where
  text : d'.paragraphs.text = d.paragraphs.text ++ steps.flatMap Step.line
  located : ∀ s ∈ steps, s.read.paragraphs.locate? s.request.position = some s.note.location
  above : ∀ s ∈ steps, ∀ id ∈ d.paragraphs.markers, id < s.note.id
  fresh : ∀ s ∈ steps, ∀ id ∈ s.read.paragraphs.markers, id < s.note.id
  /-- A number is also above those that were read before its own step. -/
  increasing : steps.Pairwise fun s t =>
    s.note.id < t.note.id ∧ ∀ id ∈ s.read.paragraphs.markers, id < t.note.id
  anchored : ∀ s ∈ steps, d'.paragraphs.anchorsOf s.note.id = [s.request.position]
  older : ∀ id ∈ d.paragraphs.markers, d'.paragraphs.anchorsOf id = d.paragraphs.anchorsOf id
  others : ∀ i < d.length, (∀ s ∈ steps, i ≠ s.note.location.paragraph) → d'[i]? = d[i]?

namespace Run

lemma nil (d : Document) : Run d [] d where
  text := by simp
  located := by simp
  above := by simp
  fresh := by simp
  increasing := .nil
  anchored := by simp
  older _ _ := rfl
  others _ _ _ := rfl

lemma cons {steps : List Step} (h : Writes d q n d') (hrun : Run d' steps d'') :
    Run d (⟨q, d, n⟩ :: steps) d'' where
  text := by rw [hrun.text, h.text, List.flatMap_cons, List.append_assoc]
  located := List.forall_mem_cons.2 ⟨h.location, hrun.located⟩
  above s hs id hid := by
    rcases List.mem_cons.1 hs with rfl | hs
    · exact h.lt_id hid
    · exact hrun.above s hs id (h.mem_markers_iff.2 (.inr hid))
  fresh := List.forall_mem_cons.2 ⟨fun _ => h.lt_id, hrun.fresh⟩
  increasing := List.pairwise_cons.2 ⟨fun t ht =>
    ⟨hrun.above t ht _ (h.mem_markers_iff.2 (.inl rfl)),
      fun id hid => hrun.above t ht id (h.mem_markers_iff.2 (.inr hid))⟩, hrun.increasing⟩
  anchored := List.forall_mem_cons.2 ⟨by
    rw [hrun.older n.id (h.mem_markers_iff.2 (.inl rfl)), h.anchorsOf_id], hrun.anchored⟩
  older id hid := by
    rw [hrun.older id (h.mem_markers_iff.2 (.inr hid)),
      h.anchorsOf_of_ne (UInt32.ne_of_lt (h.lt_id hid))]
  others i hi hs := by
    obtain ⟨hne, hs⟩ := List.forall_mem_cons.1 hs
    have hi' := h.others i hi hne
    rw [hrun.others i ?_ hs, hi']
    rw [List.getElem?_eq_getElem hi] at hi'
    exact (List.getElem?_eq_some_iff.1 hi').1

end Run

/-- As long as there are numbers left, requests at positions of the first document do not
fail. -/
lemma exists_run {qs : List Request} (hqs : ∀ q ∈ qs, d.Accepts q.position)
    (hids : (highestId d.paragraphs.markers).toNat + qs.length < UInt32.size) :
    ∃ steps d', annotateAll d qs = .ok (steps, d') ∧ steps.map Step.request = qs ∧
      Run d steps d' ∧
      ∀ path, qs.foldlM (fun d q => Command.placeFootnote q.source path q.position d) d =
        .ok d' := by
  induction qs generalizing d with
  | nil => exact ⟨[], d, rfl, rfl, .nil d, fun _ => rfl⟩
  | cons q qs ih =>
    obtain ⟨hq, hqs⟩ := List.forall_mem_cons.1 hqs
    rw [List.length_cons] at hids
    obtain ⟨n, d', hstep, h⟩ := exists_annotate hq (by omega)
    obtain ⟨steps, d'', hall, hmap, hrun, hfold⟩ := ih (fun q hq => h.accepts (hqs q hq)) (by
      rw [h.highestId_eq, h.id]
      omega)
    refine ⟨⟨q, d, n⟩ :: steps, d'', ?_, by rw [List.map_cons, hmap], .cons h hrun, fun path => ?_⟩
    · rw [annotateAll, hstep]
      simp only [hall]
      rfl
    · rw [List.foldlM_cons, placeFootnote_of_annotate hstep path]
      exact hfold path

/-- **Footnotes may be put in at any positions of the text, in any order.** All of them get numbers
that nothing read so far has, and stand where they were wanted; the bodies come behind the text,
and blocks without a new marker stay as they are. -/
theorem annotateAll_run {qs : List Request} (hqs : ∀ q ∈ qs, d.Accepts q.position)
    (hids : (highestId d.paragraphs.markers).toNat + qs.length < UInt32.size) :
    ∃ steps d', annotateAll d qs = .ok (steps, d') ∧ steps.map Step.request = qs ∧
      Run d steps d' ∧ (∀ s ∈ steps, s.request.position ≤ d.paragraphs.text.length) ∧
      ∀ path, qs.foldlM (fun d q => Command.placeFootnote q.source path q.position d) d =
        .ok d' := by
  obtain ⟨steps, d', hall, hmap, hrun, hfold⟩ := exists_run hqs hids
  refine ⟨steps, d', hall, hmap, hrun, fun s hs => ?_, hfold⟩
  exact (hqs s.request (hmap ▸ List.mem_map_of_mem hs)).le_length

/-- A heading, a list, and a paragraph that starts with a marker. -/
def draft : Document :=
  [.leaf .header1 [.plain ['a', 'b']], .list false [],
    .leaf .text [.marker 7, .styled .bold ['c']]]

def draftRequests : List Request :=
  let source : Source :=
    ⟨[], [], "see \x7b@t\x7d".toList, [⟨.text, ['t'], [], ['x'], true, false⟩]⟩
  [⟨source, 4⟩, ⟨source, 1⟩, ⟨source, 4⟩]

theorem annotateAll_run_draft :
    (∀ q ∈ draftRequests, draft.Accepts q.position) ∧
    (highestId draft.paragraphs.markers).toNat + draftRequests.length < UInt32.size ∧
    (∃ steps d', annotateAll draft draftRequests = .ok (steps, d') ∧
      steps.map Step.request = draftRequests ∧ Run draft steps d' ∧
      (∀ s ∈ steps, s.request.position ≤ draft.paragraphs.text.length) ∧
      ∀ path, draftRequests.foldlM
        (fun d q => Command.placeFootnote q.source path q.position d) draft = .ok d') ∧
    (annotateAll draft draftRequests).toOption.map (fun s => s.2.paragraphs.text) =
      some "ab\n\nc\n[8] see x\n[9] see x\n[10] see x".toList :=
  have hqs : ∀ q ∈ draftRequests, draft.Accepts q.position := by
    simp only [draftRequests, List.forall_mem_cons]
    exact ⟨⟨_, _, rfl, rfl, rfl⟩, ⟨_, _, rfl, rfl, rfl⟩, ⟨_, _, rfl, rfl, rfl⟩, by simp⟩
  ⟨hqs, by decide, annotateAll_run hqs (by decide), by decide +kernel⟩

end Document

end CitationNotes
