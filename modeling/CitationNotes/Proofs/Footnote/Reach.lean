import Mathlib.Tactic.Lemma
import CitationNotes.Proofs.Footnote.Numbering
import CitationNotes.Proofs.Footnote.Placement

/-!
How far a paragraph reaches.

The positions of a paragraph run from the length of the text in front of it to that of the text up
to its end. These stretches do not meet, and together they have all positions of the text, so that
a footnote is refused exactly behind the end, as long as there are numbers left.
-/

namespace CitationNotes

namespace Paragraphs

/-- A position that is located lies between the two ends of its paragraph. -/
lemma exists_split_of_locate? {ps : Paragraphs} {position : Nat} {l : Location}
    (h : ps.locate? position = some l) :
    ∃ qs r rs, ps = qs ++ r :: rs ∧ qs.length = l.paragraph ∧
      (text (qs ++ [[]])).length ≤ position ∧ position ≤ (text (qs ++ [r])).length := by
  induction ps generalizing position l with
  | nil => cases h
  | cons r ps ih =>
    rw [locate?] at h
    rcases hr : r.placeAt? position with _ | p
    · have hlt := Runs.placeAt?_eq_none_iff.1 hr
      rw [hr] at h
      obtain ⟨k, hk, rfl⟩ := Option.map_eq_some_iff.1 h
      obtain ⟨qs, s, rs, rfl, hlen, hle, hge⟩ := ih hk
      refine ⟨r :: qs, s, rs, rfl, congrArg (· + 1) hlen, ?_, ?_⟩
      · rw [length_text] at hle ⊢
        rw [List.cons_append, textLength_cons_append]
        omega
      · rw [length_text] at hge ⊢
        rw [List.cons_append, textLength_cons_append]
        omega
    · have hle : position ≤ r.textLength := by
        refine Nat.le_of_not_lt fun hlt => ?_
        rw [Runs.placeAt?_eq_none_iff.2 hlt] at hr
        cases hr
      rw [hr] at h
      obtain rfl := Option.some.inj h
      refine ⟨[], r, ps, rfl, rfl, Nat.zero_le _, ?_⟩
      rw [length_text]
      exact hle

/-- A position between the two ends of a paragraph is located in it. -/
lemma exists_locate?_append {qs : Paragraphs} {r : Runs} {position : Nat} (rs : Paragraphs)
    (hle : (text (qs ++ [[]])).length ≤ position) (hge : position ≤ (text (qs ++ [r])).length) :
    ∃ l, (qs ++ r :: rs).locate? position = some l ∧ l.paragraph = qs.length := by
  rw [length_text] at hle hge
  induction qs generalizing position with
  | nil =>
    rcases hr : r.placeAt? position with _ | p
    · have hlt := Runs.placeAt?_eq_none_iff.1 hr
      exact absurd hge (Nat.not_le_of_lt hlt)
    · refine ⟨⟨0, p.1, p.2⟩, ?_, rfl⟩
      rw [List.nil_append, locate?, hr]
  | cons q qs ih =>
    rw [List.cons_append, textLength_cons_append] at hle hge
    obtain ⟨l, hl, hp⟩ := @ih (position - (q.textLength + 1)) (by omega) (by omega)
    have hq : q.placeAt? position = none := Runs.placeAt?_eq_none_iff.2 (by omega)
    refine ⟨⟨l.paragraph + 1, l.fragment, l.offset⟩, ?_, congrArg (· + 1) hp⟩
    rw [List.cons_append, locate?, hq, hl]
    rfl

variable {ps : Paragraphs} {position : Nat}

lemma locate_eq_ok_iff {l : Location} :
    ps.locate position = .ok l ↔ ps.locate? position = some l := by
  rw [locate]
  rcases ps.locate? position with _ | k <;> simp

lemma exists_locate_eq_ok_iff :
    (∃ l, ps.locate position = .ok l) ↔ ps ≠ [] ∧ position ≤ ps.textLength := by
  rw [← Nat.not_lt, ← not_or, ← locate?_eq_none_iff, locate]
  rcases ps.locate? position with _ | l <;> simp

lemma addFootnote_eq_ok {l : Location} (hl : ps.locate? position = some l)
    (hid : (highestId ps.markers).toNat + 1 < UInt32.size) (content : Runs) :
    ∃ id, id.toNat = (highestId ps.markers).toNat + 1 ∧
      ps.addFootnote position content = .ok (⟨id, content, l⟩, ps.mark l id) := by
  obtain ⟨id, hnext, hid⟩ := exists_nextId? hid
  refine ⟨id, hid, ?_⟩
  rw [addFootnote, hnext]
  simp [insertMarker, locate, hl, Except.map]

lemma addFootnote_eq_error (hl : ps.locate? position = none)
    (hid : (highestId ps.markers).toNat + 1 < UInt32.size) (content : Runs) :
    ps.addFootnote position content = .error (.outOfRange ⟨position, ps.textLength⟩) := by
  obtain ⟨id, hnext, -⟩ := exists_nextId? hid
  rw [addFootnote, hnext]
  simp [insertMarker, locate, hl, Except.map]

end Paragraphs

end CitationNotes
