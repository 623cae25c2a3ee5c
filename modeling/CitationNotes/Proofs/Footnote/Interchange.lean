import Mathlib.Tactic.Lemma
import CitationNotes.Proofs.Footnote.Attempts

/-!
Markers put in one after the other, in any order.

Finding the place of a position and cutting the fragment there are put together into one recursion
over the runs. It says which fragment a position falls into by the characters alone, and these stay
where they are when a marker goes to another position. So two insertions may be interchanged, and
with them any two orders of all of them: even the cuts are the same.
-/

namespace CitationNotes

/-! ### One paragraph -/

namespace Runs

/-- The runs with a marker at `position`, which is in the first fragment that reaches up to it. -/
def markAt (id : FootnoteId) : Runs → Nat → Runs
  | [], _ => [.footnote id]
  | f :: r, position =>
    if position ≤ f.length then
      if f.isMarker then .footnote id :: f :: r
      else around f (f.text.take position) (.footnote id) (f.text.drop position) ++ r
    else f :: markAt id r (position - f.length)

lemma splitInsert_eq_markAt {r : Runs} {position i o : Nat}
    (h : r.placeAt? position = some (i, o)) (id : FootnoteId) :
    r.splitInsert i o (.footnote id) = r.markAt id position := by
  have hfragment {r : Runs} {position i o : Nat} (h : r.fragmentAt? position = some (i, o)) :
      r.splitInsert i o (.footnote id) = r.markAt id position := by
    induction r generalizing position i with
    | nil => cases h
    | cons f r ih =>
      rw [fragmentAt?] at h
      rw [markAt]
      split at h
      · next hp =>
        obtain ⟨rfl, rfl⟩ : 0 = i ∧ position = o := by simpa using h
        rw [if_pos hp, splitInsert]
      · next hp =>
        obtain ⟨⟨j, o⟩, hj, he⟩ := Option.map_eq_some_iff.1 h
        obtain ⟨rfl, rfl⟩ : j + 1 = i ∧ o = _ := by simpa using he
        rw [if_neg hp, splitInsert, ih hj]
  rw [placeAt?] at h
  split at h
  · next hempty =>
    rw [Bool.and_eq_true, List.isEmpty_iff] at hempty
    obtain ⟨rfl, -⟩ := hempty
    rfl
  · exact hfragment h

variable {id k : FootnoteId}

lemma markAt_cons_of_le {f : Fragment} {r : Runs} {position : Nat} (hp : position ≤ f.length)
    (hf : f.isMarker = false) :
    markAt id (f :: r) position =
      f.withText (f.text.take position) :: .footnote id ::
        f.withText (f.text.drop position) :: r := by
  rw [markAt, if_pos hp, hf]
  rfl

lemma markAt_cons_of_lt {f : Fragment} {r : Runs} {position : Nat} (hp : f.length < position) :
    markAt id (f :: r) position = f :: markAt id r (position - f.length) := by
  rw [markAt, if_neg (Nat.not_le_of_lt hp)]

/-- A marker in front of the position is passed over. -/
lemma markAt_footnote_cons {r : Runs} {position : Nat} (hp : 0 < position) :
    markAt id (.footnote k :: r) position = .footnote k :: markAt id r position :=
  markAt_cons_of_lt hp

lemma textLength_markAt (r : Runs) (position : Nat) :
    textLength (markAt id r position) = textLength r := by
  induction r generalizing position with
  | nil => rfl
  | cons f r ih =>
    rw [markAt]
    split
    · next hp =>
      split
      · simp
      · simp only [around, List.cons_append, List.nil_append, textLength_cons,
          Fragment.length_footnote]
        simp only [Fragment.length, Fragment.text_withText, List.length_take,
          List.length_drop] at hp ⊢
        omega
    · rw [textLength_cons, ih, textLength_cons]

lemma Textless.markAt {r : Runs} (ht : Textless r) (position : Nat) :
    Textless (r.markAt id position) := by
  induction r generalizing position with
  | nil =>
    intro f hf _
    rw [List.mem_singleton.1 hf]
    rfl
  | cons f r ih =>
    rw [Textless, List.forall_mem_cons] at ht
    rw [Runs.markAt]
    split
    · split
      · exact List.forall_mem_cons.2 ⟨fun _ => rfl, List.forall_mem_cons.2 ht⟩
      · next hm =>
        have hpart (t : Text) : (f.withText t).isMarker = true → (f.withText t).text = [] :=
          fun h => absurd h hm
        exact List.forall_mem_cons.2 ⟨hpart _, List.forall_mem_cons.2 ⟨fun _ => rfl,
          List.forall_mem_cons.2 ⟨hpart _, ht.2⟩⟩⟩
    · exact List.forall_mem_cons.2 ⟨ht.1, ih ht.2 _⟩

/-- Two cuts in one fragment, the first of them in front of the second. -/
lemma markAt_comm_of_lt_of_le {f : Fragment} (hf : f.isMarker = false) (r : Runs) {p q : Nat}
    (hpq : p < q) (hq : q ≤ f.length) :
    markAt id (markAt k (f :: r) q) p = markAt k (markAt id (f :: r) p) q := by
  have hlen : (f.withText (f.text.take q)).length = q := by
    rw [Fragment.length, Fragment.text_withText, List.length_take]
    exact Nat.min_eq_left hq
  have hlen' : (f.withText (f.text.take p)).length = p := by
    rw [Fragment.length, Fragment.text_withText, List.length_take]
    exact Nat.min_eq_left (by rw [Fragment.length] at hq; omega)
  have hrest : q - p ≤ (f.withText (f.text.drop p)).length := by
    rw [Fragment.length, Fragment.text_withText, List.length_drop]
    rw [Fragment.length] at hq
    omega
  calc markAt id (markAt k (f :: r) q) p
      = f.withText ((f.text.take q).take p) :: .footnote id ::
          f.withText ((f.text.take q).drop p) :: .footnote k ::
            f.withText (f.text.drop q) :: r := by
        rw [markAt_cons_of_le hq hf,
          markAt_cons_of_le (f := f.withText (f.text.take q)) (by omega) hf]
        rfl
    _ = f.withText (f.text.take p) :: .footnote id ::
          f.withText ((f.text.drop p).take (q - p)) :: .footnote k ::
            f.withText ((f.text.drop p).drop (q - p)) :: r := by
        rw [List.take_take, Nat.min_eq_left (Nat.le_of_lt hpq), List.drop_take, List.drop_drop,
          Nat.add_sub_of_le (Nat.le_of_lt hpq)]
    _ = markAt k (markAt id (f :: r) p) q := by
        rw [markAt_cons_of_le (by omega) hf, markAt_cons_of_lt (by omega), hlen',
          markAt_footnote_cons (by omega),
          markAt_cons_of_le (f := f.withText (f.text.drop p)) hrest hf]
        rfl

/-- One marker in the first fragment, and the other behind it. -/
lemma markAt_comm_of_le_of_lt {f : Fragment} (r : Runs) {p q : Nat} (hp : p ≤ f.length)
    (hq : f.length < q) :
    markAt id (markAt k (f :: r) q) p = markAt k (markAt id (f :: r) p) q := by
  rcases hf : f.isMarker
  · have hlen : (f.withText (f.text.take p)).length = p := by
      rw [Fragment.length, Fragment.text_withText, List.length_take]
      exact Nat.min_eq_left hp
    have hlen' : (f.withText (f.text.drop p)).length = f.length - p := by
      rw [Fragment.length, Fragment.text_withText, List.length_drop]
      rfl
    have hrest : q - p - (f.length - p) = q - f.length := by omega
    rw [markAt_cons_of_lt hq, markAt_cons_of_le hp hf, markAt_cons_of_le hp hf,
      markAt_cons_of_lt (by omega), hlen, markAt_footnote_cons (by omega),
      markAt_cons_of_lt (by omega), hlen', hrest]
  · have hfirst (s : Runs) : markAt id (f :: s) p = .footnote id :: f :: s := by
      rw [markAt, if_pos hp, if_pos hf]
    rw [markAt_cons_of_lt hq, hfirst, hfirst, markAt_footnote_cons (by omega),
      markAt_cons_of_lt hq]

/-- **Two markers in one paragraph** may be put in the one before the other. -/
lemma markAt_comm {r : Runs} (ht : Textless r) {p q : Nat} (hne : p ≠ q)
    (hp : p ≤ r.textLength) (hq : q ≤ r.textLength) :
    markAt id (markAt k r q) p = markAt k (markAt id r p) q := by
  induction r generalizing p q with
  | nil =>
    rw [textLength_nil] at hp hq
    omega
  | cons f r ih =>
    rw [Textless, List.forall_mem_cons] at ht
    rw [textLength_cons] at hp hq
    rcases Nat.lt_or_ge f.length p with hfp | hfp <;> rcases Nat.lt_or_ge f.length q with hfq | hfq
    · -- both behind the fragment
      rw [markAt_cons_of_lt hfq, markAt_cons_of_lt hfp, markAt_cons_of_lt hfp,
        markAt_cons_of_lt hfq, ih ht.2 (by omega) (by omega) (by omega)]
    · exact (markAt_comm_of_le_of_lt r hfq hfp).symm
    · exact markAt_comm_of_le_of_lt r hfp hfq
    · -- a marker has no room for two positions
      have hf : f.isMarker = false := Bool.eq_false_iff.2 fun hm => by
        have hnil : f.length = 0 := by
          rw [Fragment.length, ht.1 hm]
          rfl
        omega
      rcases Nat.lt_or_gt_of_ne hne with hlt | hlt
      · exact markAt_comm_of_lt_of_le hf r hlt hfq
      · exact (markAt_comm_of_lt_of_le hf r hlt hfp).symm

end Runs

/-! ### All paragraphs -/

namespace Paragraphs

/-- The paragraphs with a marker at `position`, and no marker if that is behind the end. -/
def markAt (id : FootnoteId) : Paragraphs → Nat → Paragraphs
  | [], _ => []
  | r :: ps, position =>
    if position ≤ r.textLength then r.markAt id position :: ps
    else r :: markAt id ps (position - (r.textLength + 1))

variable {ps : Paragraphs} {id k : FootnoteId}

lemma mark_eq_markAt {position : Nat} {l : Location} (h : ps.locate? position = some l)
    (id : FootnoteId) : ps.mark l id = ps.markAt id position := by
  induction ps generalizing position l with
  | nil => cases h
  | cons r ps ih =>
    rw [locate?] at h
    rcases hr : r.placeAt? position with _ | ⟨i, o⟩
    · have hlt := Runs.placeAt?_eq_none_iff.1 hr
      rw [hr] at h
      obtain ⟨l, hl, rfl⟩ := Option.map_eq_some_iff.1 h
      rw [markAt, if_neg (Nat.not_le_of_lt hlt), ← ih hl]
      rfl
    · have hle : position ≤ r.textLength := by
        refine Nat.le_of_not_lt fun hlt => ?_
        rw [Runs.placeAt?_eq_none_iff.2 hlt] at hr
        cases hr
      rw [hr] at h
      obtain rfl := Option.some.inj h
      rw [markAt, if_pos hle, ← Runs.splitInsert_eq_markAt hr]
      rfl

lemma Textless.markAt (ht : ps.Textless) (position : Nat) : (ps.markAt id position).Textless := by
  induction ps generalizing position with
  | nil => exact ht
  | cons r ps ih =>
    rw [Textless, List.forall_mem_cons] at ht
    rw [Paragraphs.markAt]
    split
    · exact List.forall_mem_cons.2 ⟨ht.1.markAt position, ht.2⟩
    · exact List.forall_mem_cons.2 ⟨ht.1, ih ht.2 _⟩

/-- **Two markers at different positions** may be put in the one before the other. -/
lemma markAt_comm (ht : ps.Textless) {p q : Nat} (hne : p ≠ q) :
    markAt id (markAt k ps q) p = markAt k (markAt id ps p) q := by
  induction ps generalizing p q with
  | nil => rfl
  | cons r ps ih =>
    rw [Textless, List.forall_mem_cons] at ht
    by_cases hp : p ≤ r.textLength <;> by_cases hq : q ≤ r.textLength
    · -- both in this paragraph
      simp only [markAt, hp, hq, if_true, Runs.textLength_markAt]
      rw [Runs.markAt_comm ht.1 hne hp hq]
    · simp [markAt, hp, hq, Runs.textLength_markAt]
    · simp [markAt, hp, hq, Runs.textLength_markAt]
    · -- both behind it
      simp only [markAt, hp, hq, if_false]
      rw [ih ht.2 (by omega)]

/-! ### All insertions -/

/-- A marker for each position and number in turn, put into what the one before has left. The first
that finds no place ends it. -/
def insertMarkers (ps : Paragraphs) (ms : List (Nat × FootnoteId)) :
    Except OutOfRange Paragraphs :=
  ms.foldlM (fun ps m => (ps.insertMarker m.1 m.2).map Prod.snd) ps

@[simp] lemma insertMarkers_nil (ps : Paragraphs) : ps.insertMarkers [] = .ok ps := rfl
@[simp] lemma insertMarkers_cons (ps : Paragraphs) (m : Nat × FootnoteId)
    (ms : List (Nat × FootnoteId)) :
    ps.insertMarkers (m :: ms) =
      ((ps.insertMarker m.1 m.2).map Prod.snd).bind fun ps => ps.insertMarkers ms := rfl

/-- The marker that a position and a number ask for, with its anchor. -/
def wanted (m : Nat × FootnoteId) : Fragment × Nat := (.footnote m.2, m.1)

lemma anchors_mark_perm (ht : ps.Textless) {position : Nat} {l : Location}
    (h : ps.locate? position = some l) (id : FootnoteId) :
    (ps.mark l id).anchors.Perm (wanted (position, id) :: ps.anchors) := by
  obtain ⟨before, after, hps, hmark, -, -⟩ := anchorsFrom_mark ht h id 0
  rw [Nat.zero_add] at hmark
  rw [anchors, anchors, hps, hmark]
  exact List.perm_middle

/-- Every insertion succeeds if its position is one of the text at the start. -/
lemma insertMarkers_eq_ok (ht : ps.Textless) {ms : List (Nat × FootnoteId)}
    (hms : ∀ m ∈ ms, ∃ l, ps.locate m.1 = .ok l) :
    ps.insertMarkers ms = .ok (ms.foldl (fun ps m => ps.markAt m.2 m.1) ps) ∧
      (ms.foldl (fun ps m => ps.markAt m.2 m.1) ps).anchors.Perm
        (ms.map wanted ++ ps.anchors) := by
  induction ms generalizing ps with
  | nil => exact ⟨rfl, .refl _⟩
  | cons m ms ih =>
    obtain ⟨⟨l, hl⟩, hrest⟩ := List.forall_mem_cons.1 hms
    have hplace : ps.locate? m.1 = some l := by
      rw [locate] at hl
      split at hl
      · next l' hl' => rw [hl', Except.ok.inj hl]
      · cases hl
    have hmark := mark_eq_markAt hplace m.2
    have hstep : (ps.insertMarker m.1 m.2).map Prod.snd = .ok (ps.markAt m.2 m.1) := by
      rw [insertMarker, hl, ← hmark]
      rfl
    -- the positions of the text stay what they are
    have hsame : ∀ k ∈ ms, ∃ l', (ps.mark l m.2).locate k.1 = .ok l' := fun k hk =>
      ((alike_mark ps l m.2).accepts k.1).2 (hrest k hk)
    obtain ⟨hall, hanchors⟩ := ih (ht.mark l m.2) hsame
    rw [hmark] at hall hanchors
    refine ⟨?_, ?_⟩
    · rw [insertMarkers_cons, hstep]
      exact hall
    · have hnew := (anchors_mark_perm ht hplace m.2).append_left (ms.map wanted)
      rw [hmark] at hnew
      exact (hanchors.trans hnew).trans List.perm_middle

lemma foldl_markAt_perm {ms ms' : List (Nat × FootnoteId)} (h : ms.Perm ms')
    (ht : ps.Textless) (hdistinct : (ms.map Prod.fst).Nodup) :
    ms.foldl (fun ps m => ps.markAt m.2 m.1) ps =
      ms'.foldl (fun ps m => ps.markAt m.2 m.1) ps := by
  induction h generalizing ps with
  | nil => rfl
  | cons m h ih =>
    rw [List.map_cons, List.nodup_cons] at hdistinct
    exact ih (ht.markAt m.1) hdistinct.2
  | swap m k ms =>
    have hne : m.1 ≠ k.1 := by
      rintro he
      rw [List.map_cons, List.map_cons, he, List.nodup_cons] at hdistinct
      exact hdistinct.1 List.mem_cons_self
    rw [List.foldl_cons, List.foldl_cons, List.foldl_cons, List.foldl_cons, markAt_comm ht hne]
  | trans h h' ih ih' =>
    exact (ih ht hdistinct).trans (ih' ht ((h.map Prod.fst).nodup_iff.1 hdistinct))

/-- **The order of insertions does not matter**: markers for different positions of the text all get
to where they are wanted, and in any two orders they leave the same paragraphs, which is more than
the same normal form. -/
theorem insertMarkers_perm (ht : ps.Textless) {ms ms' : List (Nat × FootnoteId)}
    (hdistinct : (ms.map Prod.fst).Nodup) (hms : ∀ m ∈ ms, ∃ l, ps.locate m.1 = .ok l)
    (hperm : ms.Perm ms') :
    ∃ qs, ps.insertMarkers ms = .ok qs ∧ ps.insertMarkers ms' = .ok qs ∧
      qs.anchors.Perm (ms.map wanted ++ ps.anchors) := by
  obtain ⟨hall, hanchors⟩ := insertMarkers_eq_ok ht hms
  obtain ⟨hall', -⟩ := insertMarkers_eq_ok ht fun m hm => hms m (hperm.mem_iff.2 hm)
  rw [← foldl_markAt_perm hperm ht hdistinct] at hall'
  exact ⟨_, hall, hall', hanchors⟩

/-- Both sides of old markers, the empty paragraph, and both ends of the text. -/
def crowdedMarkers : List (Nat × FootnoteId) := [(2, 3), (0, 1), (3, 7), (5, 4), (1, 2), (4, 2)]

theorem insertMarkers_perm_crowded :
    crowded.Textless ∧ (crowdedMarkers.map Prod.fst).Nodup ∧
    (∀ m ∈ crowdedMarkers, ∃ l, crowded.locate m.1 = .ok l) ∧
    crowdedMarkers.Perm crowdedMarkers.reverse ∧
    (∃ qs, crowded.insertMarkers crowdedMarkers = .ok qs ∧
      crowded.insertMarkers crowdedMarkers.reverse = .ok qs ∧
      qs.anchors.Perm (crowdedMarkers.map wanted ++ crowded.anchors)) ∧
    (crowded.insertMarkers crowdedMarkers).map markers = .ok [1, 2, 7, 8, 3, 7, 2, 9, 4] := by
  have ht : crowded.Textless := by decide
  have hdistinct : (crowdedMarkers.map Prod.fst).Nodup := by decide
  have hms : ∀ m ∈ crowdedMarkers, ∃ l, crowded.locate m.1 = .ok l := by
    intro m hm
    rw [exists_locate_eq_ok_iff]
    revert m hm
    decide
  have hperm : crowdedMarkers.Perm crowdedMarkers.reverse := (List.reverse_perm _).symm
  exact ⟨ht, hdistinct, hms, hperm, insertMarkers_perm ht hdistinct hms hperm, rfl⟩

end Paragraphs

end CitationNotes
