import Mathlib.Tactic.Lemma
import CitationNotes.Proofs.Document.Links
import CitationNotes.Proofs.Footnote.Reach

/-!
What becomes of a footnote at a position of a document.

Every block reads as a paragraph, and a block without spans as an empty one, which has a position
of its own. So a footnote can be wanted where no span can hold its marker. This is the only failure
besides a position behind the end; all other footnotes are written, and are read back where they
were wanted.
-/

namespace CitationNotes

namespace Paragraphs

/-- Where a marker was put can be seen from the cells. -/
lemma Placed.of_cells {ps qs qs' : Paragraphs} {position : Nat} {id : FootnoteId} {l : Location}
    (h : Placed ps position id l qs) (hcells : qs'.map Runs.cells = qs.map Runs.cells)
    (ht : qs'.Textless) (hothers : ∀ i, i ≠ l.paragraph → qs'[i]? = ps[i]?) :
    Placed ps position id l qs' := by
  have hanchors : qs'.anchors = qs.anchors := anchorsFrom_congr hcells 0
  refine ⟨(text_congr hcells).trans h.text, ?_, ?_, hanchors ▸ h.anchors, hothers⟩
  · rw [← h.chars]
    exact map_congr (fun r s hrs => by rw [Runs.chars, Runs.chars, hrs]) hcells
  · obtain ⟨before, after, -, hmark, -, -⟩ := h.anchors
    have hmem : (.footnote id, position) ∈ qs'.anchors := by
      rw [hanchors, hmark]
      simp
    obtain ⟨as, r, s, bs, hsplit, hlen⟩ := exists_split_of_mem_anchorsFrom ht hmem
    exact ⟨as, r, s, bs, hsplit, by omega⟩

end Paragraphs

namespace Document

/-- The position is in the block `b`: behind all text in front of it, line end included, and not
behind its own. -/
def Within (d : Document) (position : Nat) (b : Block) : Prop :=
  ∃ before after, d = before ++ b :: after ∧
    (Paragraphs.text (before.paragraphs ++ [[]])).length ≤ position ∧
    position ≤ (paragraphs (before ++ [b])).text.length

/-- What a footnote that is put in makes of a document. -/
structure Noted (d : Document) (position : Nat) (content : Runs) (n : Footnote) (d' : Document) :
    Prop where
  content : n.content = content
  fresh : ∀ id ∈ d.paragraphs.markers, id < n.id
  /-- The document is read with the marker in its place. -/
  placed : Paragraphs.Placed d.paragraphs position n.id n.location d'.paragraphs
  kept : ∃ kind ss ss', d[n.location.paragraph]? = some (.leaf kind ss) ∧
    d'[n.location.paragraph]? = some (.leaf kind ss')
  others : ∀ i, i ≠ n.location.paragraph → d'[i]? = d[i]?

/-- The document as it is after a call, which leaves it alone when it fails. -/
def withFootnote (d : Document) (position : Nat) (content : Runs) : Document :=
  match d.addFootnote position content with
  | .ok (_, d') => d'
  | .error _ => d

variable {d : Document} {position : Nat} {b : Block} {l : Location}

/-! ### Positions in blocks -/

lemma within_of_locate? (hl : d.paragraphs.locate? position = some l) :
    ∃ b, d[l.paragraph]? = some b ∧ d.Within position b := by
  obtain ⟨qs, r, rs, hd, hlen, hle, hge⟩ := Paragraphs.exists_split_of_locate? hl
  obtain ⟨before, rest, rfl, rfl, hrest⟩ := List.map_eq_append_iff.1 hd
  obtain ⟨b, after, rfl, rfl, rfl⟩ := List.map_eq_cons_iff.1 hrest
  refine ⟨b, ?_, before, after, rfl, hle, ?_⟩
  · rw [← hlen, List.length_map]
    simp
  · rw [paragraphs, List.map_append]
    exact hge

lemma exists_locate?_of_within (h : d.Within position b) :
    ∃ l, d.paragraphs.locate? position = some l ∧ d[l.paragraph]? = some b := by
  obtain ⟨before, after, rfl, hle, hge⟩ := h
  rw [paragraphs, List.map_append] at hge
  obtain ⟨l, hl, hp⟩ := Paragraphs.exists_locate?_append (paragraphs after) hle hge
  refine ⟨l, ?_, ?_⟩
  · rw [paragraphs, List.map_append]
    exact hl
  · rw [hp, paragraphs, List.length_map]
    simp

/-- A position is in one block at most. -/
lemma Within.eq {c : Block} (h : d.Within position b) (h' : d.Within position c) : b = c := by
  obtain ⟨l, hl, hb⟩ := exists_locate?_of_within h
  obtain ⟨l', hl', hc⟩ := exists_locate?_of_within h'
  obtain rfl : l = l' := Option.some.inj (hl.symm.trans hl')
  exact Option.some.inj (hb.symm.trans hc)

/-! ### The three outcomes -/

/-- No block without spans takes a marker. -/
lemma addFootnote_of_not_isLeaf (hb : d.Within position b) (hleaf : b.isLeaf = false)
    (hid : (highestId d.paragraphs.markers).toNat + 1 < UInt32.size) (content : Runs) :
    d.addFootnote position content = .error .notLeaf := by
  obtain ⟨l, hl, hget⟩ := exists_locate?_of_within hb
  obtain ⟨id, -, hadd⟩ := Paragraphs.addFootnote_eq_ok hl hid content
  simp only [addFootnote, hadd, write_eq_error hget hleaf]

/-- Any block with spans does. -/
lemma exists_noted (hb : d.Within position b) (hleaf : b.isLeaf = true)
    (hid : (highestId d.paragraphs.markers).toNat + 1 < UInt32.size) (content : Runs) :
    ∃ n d', d.addFootnote position content = .ok (n, d') ∧ Noted d position content n d' := by
  obtain ⟨l, hl, hget⟩ := exists_locate?_of_within hb
  obtain ⟨n, c, hadd, hcontent, hnid, hloc, hcells, -⟩ :=
    exists_addFootnote ⟨l, b, Paragraphs.locate_eq_ok_iff.2 hl, hget, hleaf⟩ hid content
  have hothers (i : Nat) (hi : i ≠ n.location.paragraph) :
      (d.set n.location.paragraph c)[i]? = d[i]? := List.getElem?_set_ne hi.symm
  refine ⟨n, _, hadd, hcontent, fun _ => lt_of_toNat_eq_succ hnid, ?_, ?_, hothers⟩
  · refine (Paragraphs.Placed.mark (textless_paragraphs d) hloc n.id).of_cells hcells
      (textless_paragraphs _) fun i hi => ?_
    rw [paragraphs, paragraphs, List.getElem?_map, List.getElem?_map, hothers i hi]
  · obtain ⟨-, -, kind, ss, hold, hset⟩ := exists_of_addFootnote_eq_ok hadd
    rw [hset]
    exact ⟨kind, ss, _, hold, List.getElem?_set_self (List.getElem?_eq_some_iff.1 hold).1⟩

/-- The positions of the text are those that are in some block. -/
lemma exists_within_iff :
    (∃ b, d.Within position b) ↔ ¬ (d = [] ∨ d.paragraphs.text.length < position) := by
  have hnone : d.paragraphs.locate? position = none ↔
      d = [] ∨ d.paragraphs.text.length < position := by
    rw [Paragraphs.locate?_eq_none_iff, ← Paragraphs.length_text, paragraphs, List.map_eq_nil_iff]
  rw [← hnone]
  constructor
  · rintro ⟨b, hb⟩ h
    obtain ⟨l, hl, -⟩ := exists_locate?_of_within hb
    rw [h] at hl
    cases hl
  · intro h
    obtain ⟨l, hl⟩ := Option.ne_none_iff_exists'.1 h
    obtain ⟨b, -, hb⟩ := within_of_locate? hl
    exact ⟨b, hb⟩

lemma addFootnote_of_outOfRange (h : d = [] ∨ d.paragraphs.text.length < position)
    (hid : (highestId d.paragraphs.markers).toNat + 1 < UInt32.size) (content : Runs) :
    d.addFootnote position content =
      .error (.outOfRange ⟨position, d.paragraphs.text.length⟩) := by
  have hl : d.paragraphs.locate? position = none := by
    rw [Paragraphs.locate?_eq_none_iff, ← Paragraphs.length_text]
    exact h.imp_left List.map_eq_nil_iff.2
  rw [addFootnote, Paragraphs.addFootnote_eq_error hl hid, Paragraphs.length_text]

/-- All that can become of a footnote. -/
lemma addFootnote_cases (hid : (highestId d.paragraphs.markers).toNat + 1 < UInt32.size)
    (position : Nat) (content : Runs) :
    ((d = [] ∨ d.paragraphs.text.length < position) ∧
      d.addFootnote position content =
        .error (.outOfRange ⟨position, d.paragraphs.text.length⟩)) ∨
    ((∃ b, d.Within position b ∧ b.isLeaf = false) ∧
      d.addFootnote position content = .error .notLeaf) ∨
    ((∃ b, d.Within position b ∧ b.isLeaf = true) ∧
      ∃ n d', d.addFootnote position content = .ok (n, d') ∧ Noted d position content n d') := by
  by_cases hout : d = [] ∨ d.paragraphs.text.length < position
  · exact .inl ⟨hout, addFootnote_of_outOfRange hout hid content⟩
  · obtain ⟨b, hb⟩ := exists_within_iff.2 hout
    rcases hleaf : b.isLeaf
    · exact .inr (.inl ⟨⟨b, hb, hleaf⟩, addFootnote_of_not_isLeaf hb hleaf hid content⟩)
    · exact .inr (.inr ⟨⟨b, hb, hleaf⟩, exists_noted hb hleaf hid content⟩)

/-- **A footnote is refused behind the end of the text, and stopped at a block without spans.** All
others are written, and the document is read with the marker where it was wanted. -/
theorem addFootnote_outcome (hids : ∀ id ∈ d.paragraphs.markers, id < 4294967295)
    (position : Nat) (content : Runs) :
    (d.addFootnote position content =
        .error (.outOfRange ⟨position, d.paragraphs.text.length⟩) ↔
      d = [] ∨ d.paragraphs.text.length < position) ∧
    (d.addFootnote position content = .error .notLeaf ↔
      ∃ b, d.Within position b ∧ b.isLeaf = false) ∧
    ((∃ n d', d.addFootnote position content = .ok (n, d') ∧ Noted d position content n d') ↔
      ∃ b, d.Within position b ∧ b.isLeaf = true) ∧
    ((d = [] ∨ d.paragraphs.text.length < position) ∨ ∃! b, d.Within position b) ∧
    ∀ e, d.addFootnote position content = .error e → d.withFootnote position content = d := by
  have hid := toNat_highestId_add_one_lt hids
  have hcases := addFootnote_cases hid position content
  -- The three answers differ, and so each of them tells which case it is.
  refine ⟨⟨fun h => ?_, fun hout => addFootnote_of_outOfRange hout hid content⟩,
    ⟨fun h => ?_, ?_⟩, ⟨?_, ?_⟩, ?_, ?_⟩
  · obtain ⟨hout, -⟩ | ⟨-, hstopped⟩ | ⟨-, n, d', hok, -⟩ := hcases
    · exact hout
    · cases hstopped.symm.trans h
    · cases hok.symm.trans h
  · obtain ⟨-, hrefused⟩ | ⟨hleaf, -⟩ | ⟨-, n, d', hok, -⟩ := hcases
    · cases hrefused.symm.trans h
    · exact hleaf
    · cases hok.symm.trans h
  · rintro ⟨b, hb, hleaf⟩
    exact addFootnote_of_not_isLeaf hb hleaf hid content
  · rintro ⟨n, d', hok, -⟩
    obtain ⟨-, hrefused⟩ | ⟨-, hstopped⟩ | ⟨hleaf, -⟩ := hcases
    · cases hrefused.symm.trans hok
    · cases hstopped.symm.trans hok
    · exact hleaf
  · rintro ⟨b, hb, hleaf⟩
    exact exists_noted hb hleaf hid content
  · refine or_iff_not_imp_left.2 fun hout => ?_
    obtain ⟨b, hb⟩ := exists_within_iff.2 hout
    exact ⟨b, hb, fun c hc => hc.eq hb⟩
  · intro e he
    rw [withFootnote, he]

/-- A heading, a quote whose footnote is not read, and a paragraph that starts with a marker. -/
def gated : Document :=
  [.leaf .header1 [.plain ['a', 'b']], .quote [.leaf .text [.marker 9]],
    .leaf .text [.marker 7, .styled .bold ['c']]]

theorem addFootnote_outcome_gated :
    (∀ id ∈ gated.paragraphs.markers, id < 4294967295) ∧
    gated.paragraphs.text = ['a', 'b', '\n', '\n', 'c'] ∧
    gated.addFootnote 3 [] = .error .notLeaf ∧
    (∃ n d', gated.addFootnote 4 [] = .ok (n, d') ∧ Noted gated 4 [] n d') ∧
    gated.addFootnote 6 [] = .error (.outOfRange ⟨6, 5⟩) ∧
    (gated.addFootnote 4 []).toOption.map (fun s => (s.1.id, s.2.paragraphs.anchors)) =
      some (8, [(.footnote 8, 4), (.footnote 7, 4)]) :=
  have hids : ∀ id ∈ gated.paragraphs.markers, id < 4294967295 :=
    List.forall_mem_singleton.2 (UInt32.lt_iff_toNat_lt.2 (by decide))
  ⟨hids, by decide,
    (addFootnote_outcome hids 3 []).2.1.2
      ⟨_, ⟨[_], [_], rfl, by decide, by decide⟩, rfl⟩,
    (addFootnote_outcome hids 4 []).2.2.1.2
      ⟨_, ⟨[_, _], [], rfl, by decide, by decide⟩, rfl⟩,
    (addFootnote_outcome hids 6 []).1.2 (.inr (by decide)), by decide⟩

/-- A footnote between the text and a quote is neither refused nor written. -/
theorem not_outOfRange_or_ok_of_quote :
    ∃ d : Document, d = [.leaf .text [.plain ['a']], .quote [.leaf .text [.plain ['b']]]] ∧
      (∀ id ∈ d.paragraphs.markers, id < 4294967295) ∧
      d.addFootnote 2 [] = .error .notLeaf ∧
      ¬ ((∃ e, d.addFootnote 2 [] = .error (.outOfRange e)) ∨
        ∃ n d', d.addFootnote 2 [] = .ok (n, d')) := by
  refine ⟨_, rfl, fun id hid => ?_, rfl, ?_⟩
  · cases hid
  rintro (⟨e, h⟩ | ⟨n, d', h⟩) <;> cases h

end Document

end CitationNotes
