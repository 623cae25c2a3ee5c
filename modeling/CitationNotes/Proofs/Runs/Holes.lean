import CitationNotes.Proofs.Text.Occurrence
import CitationNotes.Runs.Splice

/-!
Runs with holes.

A marker is passed over by every search, and so it can keep the place of a fragment that no search
stops at. What is done to the runs around it is the same as if the fragment were there.
-/

namespace CitationNotes

/-- A fragment, and `v` instead of a marker. -/
def Fragment.fill (v f : Fragment) : Fragment := if f.isMarker then v else f

lemma Fragment.fill_of_isMarker {f : Fragment} (hf : f.isMarker = true) (v : Fragment) :
    v.fill f = v := if_pos hf

lemma Fragment.fill_of_not_isMarker {f : Fragment} (hf : f.isMarker = false) (v : Fragment) :
    v.fill f = f := if_neg (by simp [hf])

namespace Runs

/-- The runs with `v` in every hole. -/
def fill (v : Fragment) (r : Runs) : Runs := r.map v.fill

/-- The text in front of the first hole, between any two, and behind the last. -/
def pieces : Runs → List Text
  | [] => [[]]
  | f :: r => if f.isMarker then [] :: pieces r else (pieces r).modifyHead (f.text ++ ·)

@[simp] lemma fill_cons (v f : Fragment) (r : Runs) : fill v (f :: r) = v.fill f :: fill v r := rfl
@[simp] lemma fill_append (v : Fragment) (r s : Runs) :
    fill v (r ++ s) = fill v r ++ fill v s := List.map_append

lemma length_pieces (r : Runs) : (pieces r).length = r.markers.length + 1 := by
  induction r with
  | nil => rfl
  | cons f r ih =>
    rw [pieces, markers_cons]
    cases hf : f.marker <;> simp [Fragment.isMarker, hf, ih]

lemma text_fill (v : Fragment) (r : Runs) : (fill v r).text = Text.join v.text (pieces r) := by
  induction r with
  | nil => rfl
  | cons f r ih =>
    have hlen := length_pieces r
    rw [fill_cons, text_cons, ih, pieces]
    rcases hp : pieces r with _ | ⟨t, ts⟩
    · simp [hp] at hlen
    · by_cases hf : f.isMarker
      · simp [Fragment.fill, hf]
      · rw [Fragment.fill, if_neg hf, if_neg hf, List.modifyHead_cons]
        cases ts <;> simp

/-! ### Replacing -/

section Replace

variable {pattern : Text} {new : Fragment}

lemma replaceIn?_cons_of_isMarker {f : Fragment} (hf : f.isMarker = true) (r : Runs) :
    replaceIn? pattern new (f :: r) = (replaceIn? pattern new r).map (f :: ·) := by
  rw [replaceIn?, if_pos hf]

lemma replaceIn?_cons_of_not_isMarker {f : Fragment} (hf : f.isMarker = false) (r : Runs) :
    replaceIn? pattern new (f :: r) =
      match Text.cut? pattern f.text with
      | some (a, b) => some (around f a new b ++ r)
      | none => (replaceIn? pattern new r).map (f :: ·) := by
  rcases hcut : Text.cut? pattern f.text with _ | ⟨a, b⟩ <;> simp [replaceIn?, hf, hcut]

lemma length_markers_replaceIn? {r s : Runs} (h : replaceIn? pattern new r = some s) :
    s.markers.length = (markers [new]).length + r.markers.length := by
  induction r generalizing s with
  | nil => cases h
  | cons f r ih =>
    have hskip {s : Runs} (h : (replaceIn? pattern new r).map (f :: ·) = some s) :
        s.markers.length = (markers [new]).length + (markers (f :: r)).length := by
      obtain ⟨s, hs, rfl⟩ := Option.map_eq_some_iff.1 h
      rw [markers_cons f s, markers_cons f r, List.length_append, List.length_append, ih hs]
      omega
    rcases hf : f.isMarker
    · rw [replaceIn?_cons_of_not_isMarker hf] at h
      split at h
      · obtain rfl := Option.some.inj h
        have hnone : f.marker = none := by simpa [Fragment.isMarker] using hf
        simp [around, markers_cons, Fragment.withText, hnone]
      · exact hskip h
    · exact hskip (replaceIn?_cons_of_isMarker hf r ▸ h)

variable {v : Fragment} (hv : v.isMarker = false)

include hv

/-- A hole is as good as a fragment that the pattern is not in. -/
lemma replaceIn?_fill {r : Runs} (h : r.markers ≠ [] → ¬ pattern <:+: v.text) :
    replaceIn? pattern (v.fill new) (fill v r) = (replaceIn? pattern new r).map (fill v) := by
  induction r with
  | nil => rfl
  | cons f r ih =>
    rw [markers_cons] at h
    rw [fill_cons]
    rcases hf : f.isMarker
    · have hnone : f.marker = none := by simpa [Fragment.isMarker] using hf
      have hrest := ih (by simpa [hnone] using h)
      rw [Fragment.fill_of_not_isMarker hf, replaceIn?_cons_of_not_isMarker hf,
        replaceIn?_cons_of_not_isMarker hf]
      rcases Text.cut? pattern f.text with _ | ⟨a, b⟩
      · simp [hrest, Function.comp_def, Fragment.fill_of_not_isMarker hf]
      · simp [around, Fragment.fill_of_not_isMarker, hf]
    · -- the search passes over the hole, and over `v`
      obtain ⟨id, hid⟩ := Option.isSome_iff_exists.1 hf
      have hnot : ¬ pattern <:+: v.text := h (by simp [hid])
      rw [Fragment.fill_of_isMarker hf, replaceIn?_cons_of_isMarker hf,
        replaceIn?_cons_of_not_isMarker hv, Text.cut?_eq_none_iff.2 hnot]
      simp [ih fun _ => hnot, Function.comp_def, Fragment.fill_of_isMarker hf]

end Replace

end Runs

end CitationNotes
