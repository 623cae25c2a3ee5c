import CitationNotes.Proofs.Footnote.Attempts

/-!
What can be answered to a call for a footnote.

The next number is worked out before the position is looked at. So a text that holds the last of
all numbers gets no answer at any position, not even behind its end; every other text either takes
the footnote, with a number that it has not had, or refuses it behind its end.
-/

namespace CitationNotes

namespace Paragraphs

variable {ps : Paragraphs} {position : Nat}

/-- All that can be answered to a call. -/
lemma addFootnote_cases (ps : Paragraphs) (position : Nat) (content : Runs) :
    (4294967295 ∈ ps.markers ∧ ps.addFootnote position content = .error .idsExhausted) ∨
    (4294967295 ∉ ps.markers ∧ (ps = [] ∨ ps.textLength < position) ∧
      ps.addFootnote position content = .error (.outOfRange ⟨position, ps.textLength⟩)) ∨
    (4294967295 ∉ ps.markers ∧ ¬ (ps = [] ∨ ps.textLength < position) ∧
      ∃ l id, ps.locate? position = some l ∧ id.toNat = (highestId ps.markers).toNat + 1 ∧
        ps.addFootnote position content = .ok (⟨id, content, l⟩, ps.mark l id)) := by
  rcases hid : nextId? ps.markers with _ | id
  · refine .inl ⟨nextId?_eq_none_iff.1 hid, ?_⟩
    rw [addFootnote, hid]
  · have hlast : 4294967295 ∉ ps.markers := by
      rw [← nextId?_eq_none_iff, hid]
      exact Option.some_ne_none id
    have hnext := toNat_of_nextId?_eq_some hid
    have hlt : (highestId ps.markers).toNat + 1 < UInt32.size := hnext ▸ id.toNat_lt
    rcases hl : ps.locate? position with _ | l
    · exact .inr (.inl ⟨hlast, locate?_eq_none_iff.1 hl, addFootnote_eq_error hl hlt content⟩)
    · refine .inr (.inr ⟨hlast, fun hout => ?_, ?_⟩)
      · rw [locate?_eq_none_iff.2 hout] at hl
        cases hl
      · obtain ⟨id, hid, hadd⟩ := addFootnote_eq_ok hl hlt content
        exact ⟨l, id, rfl, hid, hadd⟩

/-- **Every call is answered** with a new number in its place, or with the end that its position is
behind, unless the last number is in use. -/
theorem addFootnote_answers (ps : Paragraphs) (position : Nat) (content : Runs) :
    (ps.addFootnote position content = .error .idsExhausted ↔ 4294967295 ∈ ps.markers) ∧
    (∀ e, ps.addFootnote position content = .error (.outOfRange e) ↔
      4294967295 ∉ ps.markers ∧ e = ⟨position, ps.text.length⟩ ∧
        (ps = [] ∨ ps.text.length < position)) ∧
    ((∃ n ps', ps.addFootnote position content = .ok (n, ps')) ↔
      4294967295 ∉ ps.markers ∧ ¬ (ps = [] ∨ ps.text.length < position)) ∧
    (∀ n ps', ps.addFootnote position content = .ok (n, ps') →
      n.id ∉ ps.markers ∧ n.id.toNat = (highestId ps.markers).toNat + 1 ∧ n.content = content ∧
      ps.locate position = .ok n.location ∧ ps' = ps.mark n.location n.id ∧
      ps'.text = ps.text ∧ ps'.markers.Perm (n.id :: ps.markers)) ∧
    ∀ e, ps.addFootnote position content = .error e →
      (ps.attempt ⟨position, content⟩).left = ps := by
  rw [length_text]
  have hfailed (e : FootnoteFault) (he : ps.addFootnote position content = .error e) :
      (ps.attempt ⟨position, content⟩).left = ps := by
    rw [attempt, he]
  obtain ⟨hlast, hadd⟩ | ⟨hlast, hout, hadd⟩ | ⟨hlast, hin, l, id, hl, hid, hadd⟩ :=
    addFootnote_cases ps position content
  · refine ⟨by simp [hadd, hlast], fun e => by simp [hadd, hlast], by simp [hadd, hlast],
      fun n ps' h => ?_, hfailed⟩
    rw [hadd] at h
    cases h
  · refine ⟨by simp [hadd, hlast], fun e => by simp [hadd, hlast, hout, eq_comm],
      by simp [hadd, hlast, hout], fun n ps' h => ?_, hfailed⟩
    rw [hadd] at h
    cases h
  · refine ⟨by simp [hadd, hlast], fun e => by simp [hadd, hin], by simp [hadd, hlast, hin],
      fun n ps' h => ?_, hfailed⟩
    obtain ⟨rfl, rfl⟩ := Prod.mk.inj (Except.ok.inj (hadd.symm.trans h))
    refine ⟨fun hmem => ?_, hid, rfl, locate_eq_ok_iff.2 hl, rfl, text_mark ps l id,
      markers_mark_perm hl id⟩
    exact UInt32.lt_irrefl id (lt_of_toNat_eq_succ hid hmem)

/-- One position in the text and one behind it, with numbers left and without. -/
theorem addFootnote_answers_crowded :
    (∃ n ps', crowded.addFootnote 5 [] = .ok (n, ps')) ∧
    (crowded.addFootnote 5 []).toOption.map (fun s => (s.1.id, s.2.markers)) =
      some (10, [7, 8, 9, 10]) ∧
    crowded.addFootnote 6 [] = .error (.outOfRange ⟨6, crowded.text.length⟩) ∧
    (crowded.attempt ⟨6, []⟩).left = crowded ∧
    addFootnote (crowded ++ [[.footnote 4294967295]]) 5 [] = .error .idsExhausted :=
  have hrefused : crowded.addFootnote 6 [] = .error (.outOfRange ⟨6, crowded.text.length⟩) :=
    ((addFootnote_answers crowded 6 []).2.1 _).2 ⟨by decide, rfl, by decide⟩
  ⟨(addFootnote_answers crowded 5 []).2.2.1.2 ⟨by decide, by decide⟩, by decide, hrefused,
    (addFootnote_answers crowded 6 []).2.2.2.2 _ hrefused,
    (addFootnote_answers (crowded ++ [[.footnote 4294967295]]) 5 []).1.2 (by decide)⟩

/-- Behind the end of a text that has the last number, a footnote is neither refused nor added. -/
theorem not_outOfRange_or_ok_of_lastId :
    ∃ ps : Paragraphs, ps = [[.footnote 4294967295]] ∧ ps.text.length < 9 ∧
      ps.addFootnote 9 [] = .error .idsExhausted ∧
      ¬ ((∃ e, ps.addFootnote 9 [] = .error (.outOfRange e)) ∨
        ∃ n ps', ps.addFootnote 9 [] = .ok (n, ps')) := by
  refine ⟨_, rfl, by decide, rfl, ?_⟩
  rintro (⟨e, h⟩ | ⟨n, ps', h⟩) <;> cases h

end Paragraphs

end CitationNotes
