import Mathlib.Data.List.Basic
import Mathlib.Data.List.Pairwise
import CitationNotes.Bibliography.Layout
import CitationNotes.Proofs.Bibliography.Alphabet

/-!
The bibliography as it is laid out.

Each hand has a part with an entry for each of its citations, in alphabetical order; entries of one
rank are in the order in which they are cited. This leaves one bibliography and no choice. Where no
two citations of a hand are of one rank, the order in which they are cited makes no difference.
-/

namespace CitationNotes

/-! ### Sorting -/

section Sorting

variable {α : Type} {le : α → α → Bool} {l l' : List α}

/-- The element is of the same rank as `a`. -/
def ties (le : α → α → Bool) (a b : α) : Bool := le a b && le b a

lemma stableSort_eq_self (h : l.Pairwise fun a b => le a b = true) : stableSort le l = l := by
  induction l with
  | nil => rfl
  | cons a l ih =>
    rw [List.pairwise_cons] at h
    rw [stableSort_cons, ih h.2, insertSorted_eq_cons h.1]

/-- Sorting leaves those of one rank as they are among themselves. -/
lemma filter_ties_stableSort (trans : ∀ a b c, le a b → le b c → le a c)
    (total : ∀ a b, le a b || le b a) (a : α) (l : List α) :
    (stableSort le l).filter (ties le a) = l.filter (ties le a) := by
  rw [filter_stableSort trans total]
  refine stableSort_eq_self (List.pairwise_of_forall_mem_list fun b hb c hc => ?_)
  have hba := (List.mem_filter.1 hb).2
  have hac := (List.mem_filter.1 hc).2
  rw [ties, Bool.and_eq_true] at hba hac
  exact trans b a c hba.2 hac.1

/-- A sorted list is known from its elements and the order of those of one rank. -/
lemma eq_of_filter_ties_eq (total : ∀ a b, le a b || le b a)
    (h : l.Pairwise fun a b => le a b = true) (h' : l'.Pairwise fun a b => le a b = true)
    (hperm : l.Perm l') (hties : ∀ a, l.filter (ties le a) = l'.filter (ties le a)) : l = l' := by
  have hrefl (a : α) : le a a = true := by simpa using total a a
  induction l generalizing l' with
  | nil => exact hperm.nil_eq
  | cons a l ih =>
    rcases l' with _ | ⟨b, l'⟩
    · exact absurd hperm.eq_nil (List.cons_ne_nil a l)
    rw [List.pairwise_cons] at h h'
    -- each of the two heads comes first of its rank, and so they are of the same one
    have hab : le a b = true := by
      rcases List.mem_cons.1 (hperm.mem_iff.2 List.mem_cons_self) with rfl | hb
      · exact hrefl b
      · exact h.1 b hb
    have hba : le b a = true := by
      rcases List.mem_cons.1 (hperm.mem_iff.1 List.mem_cons_self) with rfl | ha
      · exact hrefl a
      · exact h'.1 a ha
    have hheads := hties a
    rw [List.filter_cons_of_pos (by simp [ties, hrefl]),
      List.filter_cons_of_pos (by simp [ties, hab, hba])] at hheads
    obtain rfl := (List.cons.inj hheads).1
    refine congrArg (a :: ·) (ih h.2 h'.2 hperm.cons_inv fun c => ?_)
    have hc := hties c
    rw [List.filter_cons, List.filter_cons] at hc
    split at hc
    · exact (List.cons.inj hc).2
    · exact hc

/-- Where no two elements are of one rank, sorting forgets the order. -/
lemma stableSort_eq_of_perm (trans : ∀ a b c, le a b → le b c → le a c)
    (total : ∀ a b, le a b || le b a) (hperm : l.Perm l')
    (hties : l.Pairwise fun a b => ties le a b = false) : stableSort le l = stableSort le l' := by
  have : Std.Symm fun a b => ties le a b = false :=
    ⟨fun a b h => by rwa [ties, Bool.and_comm]⟩
  refine List.Perm.eq_of_pairwise (fun a b ha hb hab hba => ?_) (pairwise_stableSort trans total l)
    (pairwise_stableSort trans total l')
    (((stableSort_perm le l).trans hperm).trans (stableSort_perm le l').symm)
  by_contra hne
  have ha := (stableSort_perm le l).mem_iff.1 ha
  have hb := hperm.mem_iff.2 ((stableSort_perm le l').mem_iff.1 hb)
  have hno := hties.forall ha hb hne
  rw [ties, hab, hba] at hno
  cases hno

end Sorting

/-! ### What a bibliography is -/

/-- How the entries of two citations are ordered. -/
def Citation.compareTo (c d : Citation) : Ordering :=
  Bibliography.compareEntries c.source.bibliographyPreview d.source.bibliographyPreview

namespace Bibliography

/-- The citations `ds` are those of one hand among `cs`, none lost and none added, in alphabetical
order, and those of one rank as they are in `cs`. -/
structure Arranged (hand : Hand) (cs ds : List Citation) : Prop where
  perm : ds.Perm (cs.filter fun c => c.hand == hand)
  sorted : ds.Pairwise fun c d => c.compareTo d ≠ .gt
  ties : ∀ c : Citation, ds.filter (fun d => c.compareTo d == .eq) =
    cs.filter fun d => d.hand == hand && c.compareTo d == .eq

/-- The paragraphs `rs` with one empty paragraph between neighbours, and none at the ends. -/
structure Spread (rs ps : List Runs) : Prop where
  length : ps.length = 2 * rs.length - 1
  entries : ∀ k < rs.length, ps[2 * k]? = rs[k]?
  gaps : ∀ k, k + 1 < rs.length → ps[2 * k + 1]? = some []

/-- The part of one hand, which it has if it is cited. -/
inductive IsPart (hand : Hand) (title : Text) (cs : List Citation) : List Runs → Prop where
  | none (h : ∀ c ∈ cs, c.hand ≠ hand) : IsPart hand title cs []
  | entries {ds : List Citation} {ps : List Runs} (hds : Arranged hand cs ds) (hne : ds ≠ [])
    (hps : Spread (ds.map fun d => d.source.bibliographyRuns) ps) :
    IsPart hand title cs ([.styled title true false] :: [] :: ps)

/-- A bold heading, the primary sources and the secondary ones. -/
def LaidOut (cs : List Citation) (ps : List Runs) : Prop :=
  ∃ primary secondary,
    IsPart .primary "Primary Sources".toList cs primary ∧
    IsPart .secondary "Secondary Sources".toList cs secondary ∧
    ps = [.styled "Bibliography".toList true false] :: [] :: (primary ++ secondary)

/-! ### The citations of one hand -/

/-- Whether the entry of `c` may come before that of `d`. -/
def mayPrecede (c d : Citation) : Bool := c.compareTo d != .gt

lemma mayPrecede_iff {c d : Citation} : mayPrecede c d = true ↔ c.compareTo d ≠ .gt := by
  simp [mayPrecede]

lemma mayPrecede_trans (c d e : Citation) (hcd : mayPrecede c d = true)
    (hde : mayPrecede d e = true) : mayPrecede c e = true :=
  mayPrecede_iff.2 (compareEntries_trans (mayPrecede_iff.1 hcd) (mayPrecede_iff.1 hde))

lemma compareTo_swap (c d : Citation) : d.compareTo c = (c.compareTo d).swap := compareEntries_swap

lemma mayPrecede_total (c d : Citation) : (mayPrecede c d || mayPrecede d c) = true := by
  rw [mayPrecede, mayPrecede, compareTo_swap c d]
  cases c.compareTo d <;> rfl

lemma ties_mayPrecede (c d : Citation) : ties mayPrecede c d = (c.compareTo d == .eq) := by
  rw [ties, mayPrecede, mayPrecede, compareTo_swap c d]
  cases c.compareTo d <;> rfl

/-- The citations of one hand in the order of their entries. -/
def ranked (hand : Hand) (cs : List Citation) : List Citation :=
  stableSort mayPrecede (cs.filter fun c => c.hand == hand)

lemma arranged_ranked (hand : Hand) (cs : List Citation) : Arranged hand cs (ranked hand cs) where
  perm := stableSort_perm _ _
  sorted := (pairwise_stableSort mayPrecede_trans mayPrecede_total _).imp mayPrecede_iff.1
  ties c := by
    have h := filter_ties_stableSort mayPrecede_trans mayPrecede_total c
      (cs.filter fun d => d.hand == hand)
    simpa only [ranked, funext (ties_mayPrecede c), List.filter_filter, Bool.and_comm] using h

lemma Arranged.eq_ranked {hand : Hand} {cs ds : List Citation} (h : Arranged hand cs ds) :
    ds = ranked hand cs := by
  have hranked := arranged_ranked hand cs
  refine eq_of_filter_ties_eq mayPrecede_total (h.sorted.imp mayPrecede_iff.2)
    (hranked.sorted.imp mayPrecede_iff.2) (h.perm.trans hranked.perm.symm) fun c => ?_
  rw [funext (ties_mayPrecede c)]
  exact (h.ties c).trans (hranked.ties c).symm

lemma entries_eq_map_ranked (hand : Hand) (cs : List Citation) :
    entries hand cs = (ranked hand cs).map fun c => .ofSource c.source := by
  rw [entries, ofHand, List.map_map, map_stableSort]
  rfl

lemma ranked_eq_nil_iff {hand : Hand} {cs : List Citation} :
    ranked hand cs = [] ↔ ∀ c ∈ cs, c.hand ≠ hand := by
  have hnil : ranked hand cs = [] ↔ cs.filter (fun c => c.hand == hand) = [] :=
    ⟨fun h => ((stableSort_perm _ _).symm.trans (.of_eq h)).eq_nil, fun h => by rw [ranked, h]; rfl⟩
  simp [hnil]

/-! ### Paragraphs -/

lemma spread_spaced (rs : List Runs) : Spread rs (spaced rs) where
  length := List.length_intersperse
  entries _ _ := List.getElem?_intersperse_two_mul
  gaps _ hk := List.getElem?_intersperse_two_mul_add_one hk

/-- Each of the paragraphs is either an entry or one between two entries. -/
lemma Spread.eq_spaced {rs ps : List Runs} (h : Spread rs ps) : ps = spaced rs := by
  have hspaced := spread_spaced rs
  refine List.ext_getElem? fun i => ?_
  by_cases hi : i < 2 * rs.length - 1
  · obtain ⟨k, rfl | rfl⟩ : ∃ k, i = 2 * k ∨ i = 2 * k + 1 := ⟨i / 2, by omega⟩
    · rw [h.entries k (by omega), hspaced.entries k (by omega)]
    · rw [h.gaps k (by omega), hspaced.gaps k (by omega)]
  · have hps := h.length
    have hrs := hspaced.length
    rw [List.getElem?_eq_none (by omega), List.getElem?_eq_none (by omega)]

lemma part_eq (hand : Hand) (title : String) (cs : List Citation) :
    part hand title cs =
      if ranked hand cs = [] then []
      else [.styled title.toList true false] :: [] ::
        spaced ((ranked hand cs).map fun c => c.source.bibliographyRuns) := by
  rw [part, entries_eq_map_ranked]
  rcases ranked hand cs with _ | ⟨c, ds⟩
  · rfl
  · have hruns : ((c :: ds).map fun c => Entry.ofSource c.source).map Entry.runs =
        (c :: ds).map fun c => c.source.bibliographyRuns := List.map_map
    rw [if_neg (List.cons_ne_nil c ds), ← hruns]
    rfl

/-- There is one part for each hand, and it is the one that is made. -/
lemma isPart_iff {hand : Hand} {title : String} {cs : List Citation} {ps : List Runs} :
    IsPart hand title.toList cs ps ↔ ps = part hand title cs := by
  rw [part_eq]
  constructor
  · rintro (h | ⟨hds, hne, hps⟩)
    · rw [if_pos (ranked_eq_nil_iff.2 h)]
    · obtain rfl := hds.eq_ranked
      rw [if_neg hne, hps.eq_spaced]
  · rintro rfl
    split
    · next h => exact .none (ranked_eq_nil_iff.1 h)
    · next h => exact .entries (arranged_ranked hand cs) h (spread_spaced _)

lemma laidOut_iff {cs : List Citation} {ps : List Runs} :
    LaidOut cs ps ↔ ps = bibliography cs := by
  simp only [LaidOut, isPart_iff]
  constructor
  · rintro ⟨_, _, rfl, rfl, rfl⟩
    rfl
  · rintro rfl
    exact ⟨_, _, rfl, rfl, rfl⟩

lemma part_eq_of_perm {hand : Hand} {cs cs' : List Citation} (hperm : cs'.Perm cs)
    (hties : (cs.filter fun c => c.hand == hand).Pairwise fun c d => c.compareTo d ≠ .eq)
    (title : String) : part hand title cs' = part hand title cs := by
  have hranked : ranked hand cs = ranked hand cs' := by
    refine stableSort_eq_of_perm mayPrecede_trans mayPrecede_total (hperm.symm.filter _)
      (hties.imp fun h => ?_)
    rwa [ties_mayPrecede, beq_eq_false_iff_ne]
  rw [part_eq, part_eq, hranked]

end Bibliography

open Bibliography

/-- **A bibliography has every citation once**, in its part and in its place there, and is laid out
in one way only. The order of the citations counts for nothing but entries of one rank. -/
theorem bibliography_arranged (cs : List Citation) :
    (∀ ps, LaidOut cs ps ↔ ps = bibliography cs) ∧
    ∀ cs', cs'.Perm cs →
      (∀ hand, (cs.filter fun c => c.hand == hand).Pairwise fun c d => c.compareTo d ≠ .eq) →
      bibliography cs' = bibliography cs := by
  refine ⟨fun ps => laidOut_iff, fun cs' hperm hties => ?_⟩
  rw [bibliography, bibliography, part_eq_of_perm hperm (hties .primary),
    part_eq_of_perm hperm (hties .secondary)]

/-- A citation whose entry is a fixed text. -/
def cited (hand : Hand) (entry : String) : Citation := ⟨[], hand, ⟨[], entry.toList, [], []⟩⟩

def shelf : List Citation :=
  [cited .secondary "Carr", cited .primary "The Zinn", cited .secondary "Bro.",
    cited .primary "Adams"]

/-- The two `Bro`, with and without its full stop, are of one rank and stay as they are cited; all
others are sorted, whatever the order. -/
theorem bibliography_arranged_shelf :
    shelf.reverse.Perm shelf ∧
    (∀ hand, (shelf.filter fun c => c.hand == hand).Pairwise fun c d => c.compareTo d ≠ .eq) ∧
    bibliography shelf.reverse = bibliography shelf ∧
    LaidOut (cited .secondary "bro" :: shelf) (bibliography (cited .secondary "bro" :: shelf)) ∧
    (bibliography (cited .secondary "bro" :: shelf)).map Runs.text =
      ["Bibliography", "", "Primary Sources", "", "Adams", "", "The Zinn", "Secondary Sources", "",
        "bro", "", "Bro.", "", "Carr"].map String.toList ∧
    bibliography (shelf ++ [cited .secondary "bro"]) ≠
      bibliography (cited .secondary "bro" :: shelf) := by
  have hperm : shelf.reverse.Perm shelf := shelf.reverse_perm
  have hties (hand : Hand) :
      (shelf.filter fun c => c.hand == hand).Pairwise fun c d => c.compareTo d ≠ .eq := by
    cases hand <;> decide +kernel
  exact ⟨hperm, hties, (bibliography_arranged shelf).2 _ hperm hties,
    ((bibliography_arranged _).1 _).2 rfl, by decide +kernel, by decide +kernel⟩

end CitationNotes
