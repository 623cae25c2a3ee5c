import CitationNotes.Proofs.Runs.Holes

/-!
What a replacement does to a run list.

A search goes through the fragments in order, passes over markers and looks at the text of each
other fragment by itself. What it finds is the first occurrence in the first fragment that has one.
There the fragment gives way to three, and nothing else changes.
-/

namespace CitationNotes.Runs

/-- The answer of a replacement, and the runs that it leaves. -/
def replaceFirst (r : Runs) (pattern : Text) (new : Fragment) : Bool × Runs :=
  match r.replaceFirst? pattern new with
  | some s => (true, s)
  | none => (false, r)

/-- The first occurrence of the pattern in the runs: it stands between `a` and `b` in the fragment
between `front` and `rest`. -/
structure FirstAt (r : Runs) (pattern : Text) (front : Runs) (f : Fragment) (rest : Runs)
    (a b : Text) : Prop where
  runs : r = front ++ f :: rest
  passed : ∀ g ∈ front, g.isMarker = true ∨ ¬ pattern <:+: g.text
  isMarker : f.isMarker = false
  text : f.text = a ++ pattern ++ b
  first : ∀ a' b', f.text = a' ++ pattern ++ b' → a.length ≤ a'.length

variable {r s : Runs} {pattern : Text} {new : Fragment}

lemma exists_firstAt (h : replaceIn? pattern new r = some s) :
    ∃ front f rest a b, FirstAt r pattern front f rest a b ∧
      s = front ++ around f a new b ++ rest := by
  induction r generalizing s with
  | nil => cases h
  | cons f r ih =>
    have hskip (hf : f.isMarker = true ∨ ¬ pattern <:+: f.text)
        (h : (replaceIn? pattern new r).map (f :: ·) = some s) :
        ∃ front g rest a b, FirstAt (f :: r) pattern front g rest a b ∧
          s = front ++ around g a new b ++ rest := by
      obtain ⟨s, hs, rfl⟩ := Option.map_eq_some_iff.1 h
      obtain ⟨front, g, rest, a, b, hg, rfl⟩ := ih hs
      refine ⟨f :: front, g, rest, a, b, ⟨?_, ?_, hg.isMarker, hg.text, hg.first⟩, rfl⟩
      · rw [List.cons_append, ← hg.runs]
      · exact List.forall_mem_cons.2 ⟨hf, hg.passed⟩
    rcases hf : f.isMarker
    · rw [replaceIn?_cons_of_not_isMarker hf] at h
      split at h
      · next a b hcut =>
        obtain rfl := Option.some.inj h
        exact ⟨[], f, r, a, b, ⟨rfl, List.forall_mem_nil _, hf, Text.eq_of_cut? hcut,
          fun a' b' => Text.length_le_of_cut? hcut⟩, rfl⟩
      · next hcut => exact hskip (.inr (Text.cut?_eq_none_iff.1 hcut)) h
    · exact hskip (.inl hf) (replaceIn?_cons_of_isMarker hf r ▸ h)

lemma replaceIn?_eq_none_iff :
    replaceIn? pattern new r = none ↔ ∀ f ∈ r, f.isMarker = true ∨ ¬ pattern <:+: f.text := by
  induction r with
  | nil => simp [replaceIn?]
  | cons f r ih =>
    rw [List.forall_mem_cons, ← ih]
    rcases hf : f.isMarker
    · rw [replaceIn?_cons_of_not_isMarker hf, ← Text.cut?_eq_none_iff]
      cases Text.cut? pattern f.text <;> simp
    · rw [replaceIn?_cons_of_isMarker hf, Option.map_eq_none_iff]
      simp

/-- All that a replacement can do. -/
lemma replaceFirst_cases (r : Runs) (pattern : Text) (new : Fragment) :
    (pattern ≠ [] ∧ ∃ front f rest a b, FirstAt r pattern front f rest a b ∧
      r.replaceFirst pattern new = (true, front ++ around f a new b ++ rest)) ∨
    ((pattern = [] ∨ ∀ f ∈ r, f.isMarker = true ∨ ¬ pattern <:+: f.text) ∧
      r.replaceFirst pattern new = (false, r)) := by
  rw [replaceFirst, replaceFirst?]
  by_cases hp : pattern = []
  · exact .inr ⟨.inl hp, by simp [hp]⟩
  · rw [if_neg (by simpa using hp)]
    rcases hs : replaceIn? pattern new r with _ | s
    · exact .inr ⟨.inr (replaceIn?_eq_none_iff.1 hs), rfl⟩
    · obtain ⟨front, f, rest, a, b, hf, rfl⟩ := exists_firstAt hs
      exact .inl ⟨hp, front, f, rest, a, b, hf, rfl⟩

lemma FirstAt.text_runs {front rest : Runs} {f : Fragment} {a b : Text}
    (h : FirstAt r pattern front f rest a b) :
    r.text = (front.text ++ a) ++ pattern ++ (b ++ rest.text) := by
  rw [h.runs, text_append, text_cons, h.text]
  simp

lemma FirstAt.mem {front rest : Runs} {f : Fragment} {a b : Text}
    (h : FirstAt r pattern front f rest a b) : f ∈ r := by
  rw [h.runs]
  exact List.mem_append_right _ List.mem_cons_self

/-- **A replacement is exact**: it answers yes exactly if the pattern occurs in a fragment that is no
marker. Then the first occurrence in the first such fragment gives way, the parts in front of it and
behind it keep their style, and no other text and no other fragment changes. Otherwise the runs stay
as they are. -/
theorem replaceFirst_exact (r : Runs) (pattern : Text) (new : Fragment) :
    ((r.replaceFirst pattern new).1 = true ↔
      pattern ≠ [] ∧ ∃ f ∈ r, f.isMarker = false ∧ pattern <:+: f.text) ∧
    ((r.replaceFirst pattern new).1 = true →
      ∃ front f rest a b, FirstAt r pattern front f rest a b ∧
        (r.replaceFirst pattern new).2 = front ++ [f.withText a, new, f.withText b] ++ rest ∧
        r.text = (front.text ++ a) ++ pattern ++ (b ++ rest.text) ∧
        (r.replaceFirst pattern new).2.text =
          (front.text ++ a) ++ new.text ++ (b ++ rest.text) ∧
        (r.replaceFirst pattern new).2.length = r.length + 2) ∧
    ((r.replaceFirst pattern new).1 = false → (r.replaceFirst pattern new).2 = r) := by
  obtain ⟨hp, front, f, rest, a, b, hf, hs⟩ | ⟨hnot, hs⟩ := replaceFirst_cases r pattern new
  · rw [hs]
    have hoccurs : pattern <:+: f.text := ⟨a, b, hf.text.symm⟩
    refine ⟨iff_of_true rfl ⟨hp, f, hf.mem, hf.isMarker, hoccurs⟩, fun _ => ?_, by simp⟩
    refine ⟨front, f, rest, a, b, hf, rfl, hf.text_runs, ?_, ?_⟩
    · simp [text_around]
    · rw [hf.runs]
      simp [around]
      omega
  · rw [hs]
    refine ⟨iff_of_false (by simp) ?_, by simp, fun _ => rfl⟩
    rintro ⟨hp, f, hf, hm, hoccurs⟩
    rcases hnot.resolve_left hp f hf with hm' | hno
    · rw [hm] at hm'
      cases hm'
    · exact hno hoccurs

/-- A marker with text, a fragment without the pattern, and one with two occurrences that overlap,
behind characters of one, three and four bytes. -/
def mixedWidths : Runs :=
  [⟨"aba".toList, false, false, some 1⟩, .plain "ab".toList,
    ⟨"z€𝄞ababa".toList, true, false, none⟩, .plain "aba".toList]

theorem replaceFirst_exact_mixedWidths :
    let s := mixedWidths.replaceFirst "aba".toList (.styled ['n'] false true)
    s.1 = true ∧
    (∃ front f rest a b, FirstAt mixedWidths "aba".toList front f rest a b ∧
      s.2 = front ++ [f.withText a, .styled ['n'] false true, f.withText b] ++ rest ∧
      mixedWidths.text = (front.text ++ a) ++ "aba".toList ++ (b ++ rest.text) ∧
      s.2.text = (front.text ++ a) ++ ['n'] ++ (b ++ rest.text) ∧
      s.2.length = mixedWidths.length + 2) ∧
    s.2 =
      [⟨"aba".toList, false, false, some 1⟩, .plain "ab".toList,
        ⟨"z€𝄞".toList, true, false, none⟩, .styled ['n'] false true,
        ⟨"ba".toList, true, false, none⟩, .plain "aba".toList] ∧
    (mixedWidths.replaceFirst [] .empty).2 = mixedWidths := by
  have hfound : (mixedWidths.replaceFirst "aba".toList (.styled ['n'] false true)).1 = true := by
    decide
  exact ⟨hfound, (replaceFirst_exact mixedWidths _ _).2.1 hfound, by decide,
    (replaceFirst_exact mixedWidths [] .empty).2.2 rfl⟩

end CitationNotes.Runs
