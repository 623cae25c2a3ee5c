import CitationNotes.Proofs.Footnote.Interchange
import CitationNotes.Proofs.Runs.Canonical

/-!
A marker in text that is cut another way.

The same cells can be cut into fragments in many ways, and a position then falls into other
fragments. In front of the new marker there are the same cells nevertheless: those that take up as
many characters as the position says and do not end in a marker. Cells can be parted in this way at
one place only.
-/

namespace CitationNotes

/-- A part that ends in a character is longer than what comes in front of it. -/
lemma Ends.eq_nil {cs ds : List Cell} (h : Ends (cs ++ ds)) (hw : widthOf (cs ++ ds) = widthOf cs) :
    ds = [] := by
  rcases List.eq_nil_or_concat ds with rfl | ⟨ds, d, rfl⟩
  · rfl
  have hd : d.isMarker = false := h d (by simp)
  cases d with
  | char c b i =>
    simp only [List.concat_eq_append, widthOf_append, widthOf_cons, widthOf_nil, Cell.width] at hw
    omega
  | marker f => cases hd

/-- Cells are parted in one way only at a position behind a character. -/
lemma Ends.append_inj {cs ds cs' ds' : List Cell} (h : cs ++ ds = cs' ++ ds') (hc : Ends cs)
    (hc' : Ends cs') (hw : widthOf cs = widthOf cs') : cs = cs' ∧ ds = ds' := by
  rcases List.append_eq_append_iff.1 h with ⟨as, rfl, rfl⟩ | ⟨as, rfl, rfl⟩
  · obtain rfl := hc'.eq_nil hw.symm
    simp
  · obtain rfl := hc.eq_nil hw
    simp

/-! ### One paragraph -/

namespace Runs

lemma marker_mem_cells {r : Runs} {f : Fragment} :
    .marker f ∈ r.cells ↔ f ∈ r ∧ f.isMarker = true := by
  induction r with
  | nil => simp
  | cons g r ih =>
    have hg : .marker f ∈ g.cells ↔ f = g ∧ f.isMarker = true := by
      by_cases hm : g.isMarker = true
      · rw [Fragment.cells_of_isMarker hm, List.mem_singleton, Cell.marker.injEq]
        exact ⟨fun h => ⟨h, h ▸ hm⟩, fun h => h.1⟩
      · rw [Fragment.cells_of_not_isMarker (by simpa using hm)]
        refine ⟨fun h => ?_, fun ⟨h, hf⟩ => absurd (h ▸ hf) hm⟩
        obtain ⟨c, -, hc⟩ := List.mem_map.1 h
        cases hc
    rw [cells_cons, List.mem_append, hg, ih, List.mem_cons, or_and_right]

lemma Textless.congr {r s : Runs} (hr : Textless r) (h : r.cells = s.cells) : Textless s := by
  intro f hf hm
  have hmem := marker_mem_cells.2 ⟨hf, hm⟩
  rw [← h] at hmem
  exact hr f (marker_mem_cells.1 hmem).1 hm

/-- A marker goes to the same place among the cells, whatever the cuts are. -/
lemma cells_markAt_congr {r s : Runs} (hr : Textless r) (h : r.cells = s.cells) {position : Nat}
    (hp : position ≤ r.textLength) (id : FootnoteId) :
    (r.markAt id position).cells = (s.markAt id position).cells := by
  have hplace {t : Runs} (ht : position ≤ t.textLength) : ∃ q, t.placeAt? position = some q := by
    refine Option.ne_none_iff_exists'.1 fun hn => ?_
    exact absurd (placeAt?_eq_none_iff.1 hn) (Nat.not_lt.2 ht)
  obtain ⟨⟨i, o⟩, hi⟩ := hplace hp
  obtain ⟨⟨j, u⟩, hj⟩ := hplace (textLength_congr h ▸ hp)
  obtain ⟨cs, ds, hcut, hmark, hw, hends⟩ := exists_cells_splitInsert_placeAt? hr hi id
  obtain ⟨cs', ds', hcut', hmark', hw', hends'⟩ :=
    exists_cells_splitInsert_placeAt? (hr.congr h) hj id
  rw [h, hcut'] at hcut
  obtain ⟨rfl, rfl⟩ := hends'.append_inj hcut hends (hw'.trans hw.symm)
  rw [← splitInsert_eq_markAt hi, ← splitInsert_eq_markAt hj, hmark, hmark']

end Runs

/-! ### All paragraphs -/

namespace Paragraphs

variable {ps qs : Paragraphs}

lemma map_cells_markAt_congr (ht : ps.Textless) (h : ps.map Runs.cells = qs.map Runs.cells)
    (position : Nat) (id : FootnoteId) :
    (ps.markAt id position).map Runs.cells = (qs.markAt id position).map Runs.cells := by
  induction ps generalizing qs position with
  | nil =>
    obtain rfl := List.map_eq_nil_iff.1 h.symm
    rfl
  | cons r ps ih =>
    obtain ⟨s, qs, rfl, hs, hqs⟩ := List.map_eq_cons_iff.1 h.symm
    rw [Textless, List.forall_mem_cons] at ht
    rw [markAt, markAt, Runs.textLength_congr hs]
    split
    · next hp =>
      rw [List.map_cons, List.map_cons, Runs.cells_markAt_congr ht.1 hs.symm hp, hqs]
    · rw [List.map_cons, List.map_cons, hs, ih ht.2 hqs.symm]

/-- The paragraph that a position is in depends on the cells alone, and so does the answer for a
position that is in none. -/
lemma map_paragraph_locate_congr (h : ps.map Runs.cells = qs.map Runs.cells) (position : Nat) :
    (ps.locate position).map Location.paragraph = (qs.locate position).map Location.paragraph := by
  have hlen : ps.map Runs.textLength = qs.map Runs.textLength :=
    map_congr (fun _ _ => Runs.textLength_congr) h
  have hle : ps.map Runs.textLength <+: qs.map Runs.textLength := hlen ▸ List.prefix_rfl
  have hge : qs.map Runs.textLength <+: ps.map Runs.textLength := hlen ▸ List.prefix_rfl
  have hall : ps.textLength = qs.textLength := by
    rw [← length_text, ← length_text, text_congr h]
  rw [locate, locate, hall]
  rcases hp : ps.locate? position with _ | l
  · rcases hq : qs.locate? position with _ | k
    · rfl
    · obtain ⟨l, hl, -⟩ := exists_locate?_of_prefix hge hq
      rw [hp] at hl
      cases hl
  · obtain ⟨k, hk, hparagraph⟩ := exists_locate?_of_prefix hle hp
    rw [hk]
    exact congrArg Except.ok hparagraph.symm

/-- Each paragraph in its normal form. -/
def normalize (ps : Paragraphs) : Paragraphs := ps.map Runs.normalize

lemma map_cells_normalize (ps : Paragraphs) :
    ps.normalize.map Runs.cells = ps.map Runs.cells := by
  rw [normalize, List.map_map]
  exact List.map_congr_left fun r _ => Runs.cells_normalize r

lemma normalize_congr (h : ps.map Runs.cells = qs.map Runs.cells) : ps.normalize = qs.normalize :=
  map_congr (fun _ _ => Runs.normalize_congr) h

lemma map_insertMarker (ps : Paragraphs) (position : Nat) (id : FootnoteId) :
    (ps.insertMarker position id).map (fun q => (q.1.paragraph, q.2.normalize)) =
      ((ps.locate position).map Location.paragraph).map fun p =>
        (p, (ps.markAt id position).normalize) := by
  rcases hl : ps.locate position with e | l
  · rw [insertMarker, hl]
    rfl
  · rw [insertMarker, hl, ← mark_eq_markAt (locate_eq_ok_iff.1 hl) id]
    rfl

/-- Insertions into paragraphs with the same cells do the same. -/
lemma insertMarker_congr (ht : ps.Textless) (h : ps.map Runs.cells = qs.map Runs.cells)
    (position : Nat) (id : FootnoteId) :
    (ps.insertMarker position id).map (fun q => (q.1.paragraph, q.2.normalize)) =
      (qs.insertMarker position id).map fun q => (q.1.paragraph, q.2.normalize) := by
  rw [map_insertMarker, map_insertMarker, map_paragraph_locate_congr h,
    normalize_congr (map_cells_markAt_congr ht h position id)]

/-- **How the text is cut does not matter** to an insertion: the normal form of the paragraphs, and
any other paragraphs with that normal form, take a marker where they do, refuse it with the same
error where they do, and get it in the same paragraph, with one normal form afterwards. -/
theorem insertMarker_recut (ht : ps.Textless) (position : Nat) (id : FootnoteId) :
    (ps.normalize.insertMarker position id).map (fun q => (q.1.paragraph, q.2.normalize)) =
      (ps.insertMarker position id).map (fun q => (q.1.paragraph, q.2.normalize)) ∧
    ∀ qs : Paragraphs, qs.normalize = ps.normalize →
      (qs.insertMarker position id).map (fun q => (q.1.paragraph, q.2.normalize)) =
        (ps.insertMarker position id).map fun q => (q.1.paragraph, q.2.normalize) := by
  refine ⟨(insertMarker_congr ht (map_cells_normalize ps).symm position id).symm, fun qs hqs => ?_⟩
  have h := map_cells_normalize qs
  rw [hqs, map_cells_normalize ps] at h
  exact (insertMarker_congr ht h position id).symm

/-- `a[7][8]é`, an empty paragraph, and `[9]b`, with empty fragments on both sides of the markers
and one in the empty paragraph. -/
def recut : Paragraphs :=
  [[.plain [], .plain ['a'], .plain [], .footnote 7, .plain [], .footnote 8,
      .styled ['é'] true false, .styled [] false true],
    [.styled [] true true], [.footnote 9, .plain [], .plain ['b'], .plain []]]

theorem insertMarker_recut_crowded :
    crowded.Textless ∧ recut.normalize = crowded.normalize ∧
    crowded.locate 1 = .ok ⟨0, 0, 1⟩ ∧ recut.locate 1 = .ok ⟨0, 1, 1⟩ ∧
    ((crowded.normalize.insertMarker 3 8).map (fun q => (q.1.paragraph, q.2.normalize)) =
      (crowded.insertMarker 3 8).map fun q => (q.1.paragraph, q.2.normalize)) ∧
    ((recut.insertMarker 1 8).map (fun q => (q.1.paragraph, q.2.normalize)) =
      (crowded.insertMarker 1 8).map fun q => (q.1.paragraph, q.2.normalize)) ∧
    (recut.insertMarker 1 8).map (fun q => (q.1.paragraph, q.2.normalize)) =
      .ok (0, [[.plain ['a'], .footnote 8, .footnote 7, .footnote 8, .styled ['é'] true false], [],
        [.footnote 9, .plain ['b']]]) := by
  have ht : crowded.Textless := by decide
  have hqs : recut.normalize = crowded.normalize := by decide
  exact ⟨ht, hqs, rfl, rfl, (insertMarker_recut ht 3 8).1, (insertMarker_recut ht 1 8).2 recut hqs,
    rfl⟩

end Paragraphs

end CitationNotes
