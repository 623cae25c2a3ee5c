import CitationNotes.Footnote.Marker
import CitationNotes.Proofs.Footnote.Anchors

/-!
Where a marker goes.

A marker is put behind as many cells as it takes to have its position in characters, and no
further: so it stands in front of the markers that have the same anchor.
-/

namespace CitationNotes

/-- Behind the last marker comes another character. -/
def Ends (cs : List Cell) : Prop := ∀ c ∈ cs.getLast?, c.isMarker = false

lemma lt_of_mem_anchorsFrom {n : Nat} {cs : List Cell} (hc : Ends cs) {m : Fragment × Nat}
    (h : m ∈ anchorsFrom n cs) : m.2 < n + widthOf cs := by
  rcases List.eq_nil_or_concat cs with rfl | ⟨cs, c, rfl⟩
  · simp [anchorsFrom] at h
  cases c with
  | char c b i =>
    rw [List.concat_eq_append, anchorsFrom_append] at h
    have hm : m ∈ anchorsFrom n cs := by simpa [anchorsFrom] using h
    have := (bounds_of_mem_anchorsFrom hm).2
    simp only [List.concat_eq_append, widthOf_append, widthOf_cons, widthOf_nil, Cell.width]
    omega
  | marker f =>
    have := hc (.marker f) (by simp)
    cases this

/-! ### One paragraph -/

namespace Runs

/-- A fragment of the result is the new one, an old one, or a part of one that was cut. -/
lemma mem_splitInsert {r : Runs} {i o : Nat} {new f : Fragment} (h : f ∈ r.splitInsert i o new) :
    f = new ∨ f ∈ r ∨ ∃ g ∈ r, g.isMarker = false ∧ ∃ t, f = g.withText t := by
  induction r generalizing i with
  | nil => exact .inl (List.mem_singleton.1 h)
  | cons g r ih =>
    cases i with
    | zero =>
      rw [splitInsert] at h
      split at h
      · rcases List.mem_cons.1 h with rfl | h
        · exact .inl rfl
        · exact .inr (.inl h)
      · next hm =>
        have hpart (t : Text) :
            ∃ k ∈ g :: r, k.isMarker = false ∧ ∃ u, g.withText t = k.withText u :=
          ⟨g, List.mem_cons_self, by simpa using hm, t, rfl⟩
        simp only [around, List.cons_append, List.nil_append, List.mem_cons] at h
        rcases h with rfl | rfl | rfl | h
        · exact .inr (.inr (hpart _))
        · exact .inl rfl
        · exact .inr (.inr (hpart _))
        · exact .inr (.inl (List.mem_cons_of_mem _ h))
    | succ i =>
      rcases List.mem_cons.1 h with rfl | h
      · exact .inr (.inl List.mem_cons_self)
      rcases ih h with rfl | h | ⟨k, hk, hcut⟩
      · exact .inl rfl
      · exact .inr (.inl (List.mem_cons_of_mem _ h))
      · exact .inr (.inr ⟨k, List.mem_cons_of_mem _ hk, hcut⟩)

lemma Textless.splitInsert {r : Runs} (h : Textless r) (i o : Nat) (id : FootnoteId) :
    Textless (r.splitInsert i o (.footnote id)) := by
  intro f hf hm
  rcases mem_splitInsert hf with rfl | hf | ⟨g, -, hg, t, rfl⟩
  · rfl
  · exact h f hf hm
  · rw [Fragment.isMarker_withText, hg] at hm
    cases hm

/-- A marker put into a paragraph leaves its text. -/
lemma text_splitInsert (r : Runs) (i o : Nat) (id : FootnoteId) :
    text (r.splitInsert i o (.footnote id)) = text r := by
  induction r generalizing i with
  | nil => rfl
  | cons f r ih =>
    cases i with
    | zero =>
      rw [splitInsert]
      split
      · rfl
      · rw [text_append, text_around, text_cons]
        simp [Fragment.footnote]
    | succ i => rw [splitInsert, text_cons, ih, text_cons]

lemma textLength_splitInsert (r : Runs) (i o : Nat) (id : FootnoteId) :
    textLength (r.splitInsert i o (.footnote id)) = textLength r := by
  rw [← length_text, text_splitInsert, length_text]

lemma chars_splitInsert (r : Runs) (i o : Nat) (id : FootnoteId) :
    chars (r.splitInsert i o (.footnote id)) = chars r := by
  induction r generalizing i with
  | nil => rfl
  | cons f r ih =>
    cases i with
    | zero =>
      rw [splitInsert]
      split
      · rw [chars_cons, chars_footnote, List.nil_append]
      · next hm =>
        have hf := Fragment.cells_withText_append (by simpa using hm) (f.text.take o)
          (f.text.drop o)
        rw [List.take_append_drop] at hf
        have hcells : f.cells = (f.withText f.text).cells := rfl
        rw [chars_append, around, chars_cons, chars_cons (.footnote id), chars_footnote,
          chars_cons f, chars, chars, chars, chars, cells_cons f, hcells, hf]
        simp
    | succ i => rw [splitInsert, chars_cons, ih, ← chars_cons]

/-- A marker put into runs joins those that are there. -/
lemma markers_splitInsert_perm (r : Runs) (i o : Nat) (id : FootnoteId) :
    (r.splitInsert i o (.footnote id)).markers.Perm (id :: r.markers) := by
  induction r generalizing i with
  | nil => exact .refl _
  | cons f r ih =>
    cases i with
    | zero =>
      rw [splitInsert]
      split
      · exact .refl _
      · next hf =>
        have hm : f.marker = none := by simpa [Fragment.isMarker] using hf
        simp [around, markers_cons, Fragment.withText, Fragment.footnote, hm]
    | succ i =>
      rw [splitInsert, markers_cons, markers_cons]
      exact ((ih i).append_left _).trans List.perm_middle

/-- The marker goes behind the last character in front of its position, as far in front as it
can. -/
lemma exists_cells_splitInsert {r : Runs} (ht : Textless r) {position i o : Nat}
    (h : r.fragmentAt? position = some (i, o)) (id : FootnoteId) :
    ∃ cs ds, r.cells = cs ++ ds ∧
      (r.splitInsert i o (.footnote id)).cells = cs ++ .marker (.footnote id) :: ds ∧
      widthOf cs = position ∧ Ends cs := by
  induction r generalizing position i with
  | nil => cases h
  | cons f r ih =>
    rw [Textless, List.forall_mem_cons] at ht
    rw [fragmentAt?] at h
    by_cases hp : position ≤ f.length
    · rw [if_pos hp] at h
      obtain ⟨rfl, rfl⟩ : 0 = i ∧ position = o := by simpa using h
      by_cases hm : f.isMarker = true
      · -- in front of a marker
        have hzero : position = 0 := by
          have : f.length = 0 := by rw [Fragment.length, ht.1 hm]; rfl
          omega
        refine ⟨[], cells (f :: r), rfl, ?_, hzero.symm, by simp [Ends]⟩
        rw [splitInsert, if_pos hm]
        rfl
      · -- between two characters
        have hm : f.isMarker = false := by simpa using hm
        have hleft := Fragment.cells_of_not_isMarker (f := f.withText (f.text.take position)) hm
        refine ⟨(f.withText (f.text.take position)).cells,
          (f.withText (f.text.drop position)).cells ++ cells r, ?_, ?_, ?_, ?_⟩
        · rw [← List.append_assoc, ← Fragment.cells_withText_append hm, List.take_append_drop]
          rfl
        · rw [splitInsert, hm]
          simp [around]
        · rw [hleft, widthOf_chars, Fragment.text_withText, List.length_take]
          exact Nat.min_eq_left hp
        · rw [hleft]
          intro c hc
          obtain ⟨d, -, rfl⟩ := List.mem_map.1 (List.mem_of_getLast? hc)
          rfl
    · rw [if_neg hp] at h
      obtain ⟨⟨j, o⟩, hj, he⟩ := Option.map_eq_some_iff.1 h
      obtain ⟨rfl, rfl⟩ : j + 1 = i ∧ o = _ := by simpa using he
      obtain ⟨cs, ds, hr, hs, hw, hl⟩ := ih ht.2 hj
      have hf := widthOf_cells_fragment ht.1
      refine ⟨f.cells ++ cs, ds, ?_, ?_, ?_, ?_⟩
      · rw [cells_cons, hr, List.append_assoc]
      · rw [splitInsert, cells_cons, hs, List.append_assoc]
      · rw [widthOf_append, hf, hw]
        omega
      · have hne : cs ≠ [] := by
          rintro rfl
          rw [widthOf_nil] at hw
          omega
        rw [Ends, List.getLast?_append]
        rcases hlast : cs.getLast? with _ | c
        · exact absurd (List.getLast?_eq_none_iff.1 hlast) hne
        · rw [Ends, hlast] at hl
          exact hl

lemma exists_cells_splitInsert_placeAt? {r : Runs} (ht : Textless r) {position i o : Nat}
    (h : r.placeAt? position = some (i, o)) (id : FootnoteId) :
    ∃ cs ds, r.cells = cs ++ ds ∧
      (r.splitInsert i o (.footnote id)).cells = cs ++ .marker (.footnote id) :: ds ∧
      widthOf cs = position ∧ Ends cs := by
  rw [placeAt?] at h
  split at h
  · next hempty =>
    rw [Bool.and_eq_true, List.isEmpty_iff, beq_iff_eq] at hempty
    obtain ⟨rfl, rfl⟩ := hempty
    exact ⟨[], [], rfl, rfl, rfl, by simp [Ends]⟩
  · exact exists_cells_splitInsert ht h id

end Runs

/-! ### All paragraphs -/

namespace Paragraphs

/-- A position is located unless it lies behind the end, or there is no paragraph at all. -/
lemma locate?_eq_none_iff {ps : Paragraphs} {position : Nat} :
    ps.locate? position = none ↔ ps = [] ∨ ps.textLength < position := by
  induction ps generalizing position with
  | nil => simp [locate?]
  | cons r ps ih =>
    rcases hr : r.placeAt? position with _ | ⟨i, o⟩
    · have hlt := Runs.placeAt?_eq_none_iff.1 hr
      rw [locate?, hr]
      simp only [Option.map_eq_none_iff, ih, reduceCtorEq, false_or]
      rcases ps with _ | ⟨s, ps⟩
      · simp [textLength, hlt]
      · simp only [textLength, reduceCtorEq, false_or]
        omega
    · have hle : position ≤ r.textLength := by
        refine Nat.le_of_not_lt fun hlt => ?_
        rw [Runs.placeAt?_eq_none_iff.2 hlt] at hr
        cases hr
      rw [locate?, hr]
      rcases ps with _ | ⟨s, ps⟩
      · simpa [textLength] using hle
      · simp only [textLength, reduceCtorEq, false_or, false_iff]
        omega

/-- Which paragraph a position is in depends on the lengths of the paragraphs alone, and not on
what follows them. -/
lemma exists_locate?_of_prefix {ps qs : Paragraphs}
    (h : ps.map Runs.textLength <+: qs.map Runs.textLength) {position : Nat} {l : Location}
    (hl : ps.locate? position = some l) :
    ∃ l', qs.locate? position = some l' ∧ l'.paragraph = l.paragraph := by
  induction ps generalizing qs position l with
  | nil => cases hl
  | cons r ps ih =>
    rcases qs with _ | ⟨s, qs⟩
    · simp at h
    obtain ⟨hlen, htail⟩ := List.cons_prefix_cons.1 h
    rw [locate?] at hl
    rw [locate?]
    rcases hr : r.placeAt? position with _ | p
    · have hs : s.placeAt? position = none := by
        rw [Runs.placeAt?_eq_none_iff, ← hlen]
        exact Runs.placeAt?_eq_none_iff.1 hr
      rw [hr] at hl
      obtain ⟨k, hk, rfl⟩ := Option.map_eq_some_iff.1 hl
      obtain ⟨l', hl', hp⟩ := ih htail hk
      rw [hs, ← hlen, hl']
      exact ⟨_, rfl, congrArg (· + 1) hp⟩
    · rw [hr] at hl
      obtain rfl := Option.some.inj hl
      rcases hs : s.placeAt? position with _ | q
      · rw [Runs.placeAt?_eq_none_iff, ← hlen, ← Runs.placeAt?_eq_none_iff, hr] at hs
        cases hs
      · exact ⟨_, rfl, rfl⟩

lemma map_mark {β : Type} {g : Runs → β} (id : FootnoteId)
    (hg : ∀ (r : Runs) (i o : Nat), g (r.splitInsert i o (.footnote id)) = g r) (ps : Paragraphs)
    (l : Location) : (ps.mark l id).map g = ps.map g := by
  apply List.ext_getElem?
  intro j
  rw [mark, List.getElem?_map, List.getElem?_map, List.getElem?_modify]
  rcases ps[j]? with _ | r
  · rfl
  · by_cases hj : l.paragraph = j
    · simp [hj, hg]
    · simp [hj]

lemma Textless.mark {ps : Paragraphs} (h : ps.Textless) (l : Location) (id : FootnoteId) :
    (ps.mark l id).Textless := by
  intro r hr
  obtain ⟨j, hj⟩ := List.mem_iff_getElem?.1 hr
  rw [Paragraphs.mark, List.getElem?_modify] at hj
  obtain ⟨s, hs, rfl⟩ := Option.map_eq_some_iff.1 hj
  have hs := h s (List.mem_of_getElem? hs)
  split
  · exact hs.splitInsert l.fragment l.offset id
  · exact hs

lemma text_mark (ps : Paragraphs) (l : Location) (id : FootnoteId) :
    (ps.mark l id).text = ps.text := by
  rw [text, map_mark id fun r i o => Runs.text_splitInsert r i o id, text]

lemma getElem?_mark_of_ne (ps : Paragraphs) {l : Location} {i : Nat} (h : i ≠ l.paragraph)
    (id : FootnoteId) : (ps.mark l id)[i]? = ps[i]? := by
  rw [mark, List.getElem?_modify]
  simp [h.symm]

/-- The new marker comes behind the markers that have less text in front of them, and in front of
all the others. -/
lemma anchorsFrom_mark {ps : Paragraphs} (ht : ps.Textless) {position : Nat} {l : Location}
    (h : ps.locate? position = some l) (id : FootnoteId) (n : Nat) :
    ∃ before after, ps.anchorsFrom n = before ++ after ∧
      (ps.mark l id).anchorsFrom n = before ++ (.footnote id, n + position) :: after ∧
      (∀ m ∈ before, m.2 < n + position) ∧ ∀ m ∈ after, n + position ≤ m.2 := by
  induction ps generalizing position l n with
  | nil => cases h
  | cons r ps ih =>
    rw [Textless, List.forall_mem_cons] at ht
    have hw := Runs.widthOf_cells ht.1
    rw [locate?] at h
    rcases hr : r.placeAt? position with _ | ⟨i, o⟩
    · -- behind this paragraph
      rw [hr] at h
      obtain ⟨l, hl, rfl⟩ := Option.map_eq_some_iff.1 h
      have hlt := Runs.placeAt?_eq_none_iff.1 hr
      obtain ⟨before, after, hps, hmark, hb, ha⟩ := ih ht.2 hl (n + r.textLength + 1)
      have hpos : n + r.textLength + 1 + (position - (r.textLength + 1)) = n + position := by
        omega
      rw [hpos] at hmark hb ha
      refine ⟨CitationNotes.anchorsFrom n r.cells ++ before, after, ?_, ?_, ?_, ha⟩
      · rw [anchorsFrom, hps, List.append_assoc]
      · rw [mark, List.modify_succ_cons, anchorsFrom, List.append_assoc, ← hmark]
        rfl
      · intro m hm
        rcases List.mem_append.1 hm with hm | hm
        · have := (bounds_of_mem_anchorsFrom hm).2
          omega
        · exact hb m hm
    · -- in this paragraph
      rw [hr] at h
      obtain rfl := Option.some.inj h
      obtain ⟨cs, ds, hcells, hsplit, hwidth, hends⟩ :=
        Runs.exists_cells_splitInsert_placeAt? ht.1 hr id
      have hlen := Runs.textLength_splitInsert r i o id
      have hle : position ≤ r.textLength := by
        rw [← hw, hcells, widthOf_append]
        omega
      refine ⟨CitationNotes.anchorsFrom n cs, CitationNotes.anchorsFrom (n + position) ds ++
        anchorsFrom (n + r.textLength + 1) ps, ?_, ?_, ?_, ?_⟩
      · rw [anchorsFrom, hcells, anchorsFrom_append, hwidth, List.append_assoc]
      · rw [mark, List.modify_zero_cons, anchorsFrom, hsplit, anchorsFrom_append, hwidth, hlen,
          CitationNotes.anchorsFrom, List.append_assoc, List.cons_append]
      · intro m hm
        rw [← hwidth]
        exact lt_of_mem_anchorsFrom hends hm
      · intro m hm
        rcases List.mem_append.1 hm with hm | hm
        · exact (bounds_of_mem_anchorsFrom hm).1
        · have := le_of_mem_anchorsFrom hm
          omega

/-- The paragraphs as they are after a call, which leaves them alone when it fails. -/
def withMarker (ps : Paragraphs) (position : Nat) (id : FootnoteId) : Paragraphs :=
  match ps.insertMarker position id with
  | .ok (_, ps') => ps'
  | .error _ => ps

/-- That `ps'` is `ps` with one more marker, put in the paragraph of `l`. -/
structure Placed (ps : Paragraphs) (position : Nat) (id : FootnoteId) (l : Location)
    (ps' : Paragraphs) : Prop where
  text : ps'.text = ps.text
  chars : ps'.map Runs.chars = ps.map Runs.chars
  /-- The text in front of the new marker is as long as its position. -/
  put : ∃ qs r s rs, ps' = qs ++ (r ++ .footnote id :: s) :: rs ∧
    (Paragraphs.text (qs ++ [r])).length = position
  /-- The other markers keep their anchors and their order, and those that have the same anchor
  come behind the new one. -/
  anchors : ∃ before after, ps.anchors = before ++ after ∧
    ps'.anchors = before ++ (.footnote id, position) :: after ∧
    (∀ m ∈ before, m.2 < position) ∧ ∀ m ∈ after, position ≤ m.2
  others : ∀ i, i ≠ l.paragraph → ps'[i]? = ps[i]?

lemma Placed.mark {ps : Paragraphs} (ht : ps.Textless) {position : Nat} {l : Location}
    (h : ps.locate? position = some l) (id : FootnoteId) :
    Placed ps position id l (ps.mark l id) where
  text := text_mark ps l id
  chars := map_mark id (fun r i o => Runs.chars_splitInsert r i o id) ps l
  put := by
    obtain ⟨before, after, -, hmark, -, -⟩ := anchorsFrom_mark ht h id 0
    have hmem : (.footnote id, 0 + position) ∈ (ps.mark l id).anchorsFrom 0 := by simp [hmark]
    obtain ⟨qs, r, s, rs, hps, hlen⟩ := exists_split_of_mem_anchorsFrom (ht.mark l id) hmem
    exact ⟨qs, r, s, rs, hps, by omega⟩
  anchors := by
    have := anchorsFrom_mark ht h id 0
    rwa [Nat.zero_add] at this
  others _ hi := getElem?_mark_of_ne ps hi id

/-- **A marker goes exactly where it is wanted**, or else nowhere. -/
theorem insertMarker_placed {ps : Paragraphs} (ht : ps.Textless) (position : Nat)
    (id : FootnoteId) :
    (∀ l ps', ps.insertMarker position id = .ok (l, ps') →
      ps.withMarker position id = ps' ∧ Placed ps position id l ps') ∧
    (∀ e, ps.insertMarker position id = .error e →
      ps.withMarker position id = ps ∧ e = ⟨position, ps.textLength⟩ ∧
        (ps = [] ∨ ps.textLength < position)) := by
  rcases hl : ps.locate? position with _ | l
  · have hrun : ps.insertMarker position id = .error ⟨position, ps.textLength⟩ := by
      rw [insertMarker, locate, hl]
      rfl
    refine ⟨fun l ps' h => ?_, fun e h => ?_⟩
    · rw [hrun] at h
      cases h
    · obtain rfl := Except.error.inj (hrun.symm.trans h)
      refine ⟨?_, rfl, locate?_eq_none_iff.1 hl⟩
      rw [withMarker, hrun]
  · have hrun : ps.insertMarker position id = .ok (l, ps.mark l id) := by
      rw [insertMarker, locate, hl]
      rfl
    refine ⟨fun l' ps' h => ?_, fun e h => ?_⟩
    · obtain ⟨rfl, rfl⟩ := Prod.mk.inj (Except.ok.inj (hrun.symm.trans h))
      refine ⟨?_, .mark ht hl id⟩
      rw [withMarker, hrun]
    · rw [hrun] at h
      cases h

/-- `a[7][8]é`, an empty paragraph, and `[9]b` with an empty fragment in front. -/
def crowded : Paragraphs :=
  [[.plain ['a'], .footnote 7, .footnote 8, .styled ['é'] true false], [],
    [.plain [], .footnote 9, .plain ['b']]]

theorem insertMarker_placed_crowded :
    crowded.Textless ∧
    (crowded.insertMarker 2 8).map (·.1) = .ok ⟨0, 3, 1⟩ ∧
    (∀ l ps', crowded.insertMarker 1 8 = .ok (l, ps') →
      crowded.withMarker 1 8 = ps' ∧ Placed crowded 1 8 l ps') ∧
    crowded.anchors = [(.footnote 7, 1), (.footnote 8, 1), (.footnote 9, 4)] ∧
    (crowded.withMarker 1 8).anchors =
      [(.footnote 8, 1), (.footnote 7, 1), (.footnote 8, 1), (.footnote 9, 4)] ∧
    (∀ e, crowded.insertMarker 6 8 = .error e → crowded.withMarker 6 8 = crowded ∧
      e = ⟨6, 5⟩ ∧ (crowded = [] ∨ 5 < 6)) ∧
    (crowded.insertMarker 6 8).map (·.1) = .error ⟨6, 5⟩ :=
  have ht : crowded.Textless := by decide
  ⟨ht, rfl, (insertMarker_placed ht 1 8).1, by decide, by decide,
    (insertMarker_placed ht 6 8).2, rfl⟩

end Paragraphs

end CitationNotes
