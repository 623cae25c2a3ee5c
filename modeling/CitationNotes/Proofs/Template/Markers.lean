import Mathlib.Tactic.Lemma
import CitationNotes.Template.Expansion

/-!
Templates write no markers.

What is put into a run list stands in for text, and the markers stay as they were.
-/

namespace CitationNotes

namespace Runs

lemma markers_cons_of_marker_eq_none {f : Fragment} (h : f.marker = none) (r : Runs) :
    markers (f :: r) = markers r := by
  rw [markers_cons, h]
  rfl

lemma markers_around {f new : Fragment} (hf : f.marker = none) (hnew : new.marker = none)
    (t u : Text) : markers (around f t new u) = [] := by
  simp [markers, around, Fragment.withText, hf, hnew]

lemma markers_replaceIn? {pattern : Text} {new : Fragment} (hnew : new.marker = none)
    {r s : Runs} (h : replaceIn? pattern new r = some s) : markers s = markers r := by
  induction r generalizing s with
  | nil => cases h
  | cons f r ih =>
    rw [replaceIn?] at h
    split at h
    · next t u hcut =>
      obtain rfl := Option.some.inj h
      have hf : f.marker = none := by
        split at hcut
        · cases hcut
        · next hm => simpa [Fragment.isMarker] using hm
      rw [markers_append, markers_around hf hnew, markers_cons_of_marker_eq_none hf]
      rfl
    · obtain ⟨s, hs, rfl⟩ := Option.map_eq_some_iff.1 h
      have := ih hs
      simp only [markers, List.filterMap_cons] at this ⊢
      rw [this]

lemma markers_replaceFirst? {pattern : Text} {new : Fragment} (hnew : new.marker = none)
    {r s : Runs} (h : r.replaceFirst? pattern new = some s) : markers s = markers r := by
  rw [replaceFirst?] at h
  split at h
  · cases h
  · exact markers_replaceIn? hnew h

end Runs

namespace Template

variable {fields : List Field}

lemma markers_put (p : Placeholder) {new : Fragment} (hnew : new.marker = none) (r : Runs) :
    (put p new r).markers = r.markers := by
  rw [put]
  rcases h : r.replaceFirst? p.text new with _ | s
  · rfl
  · exact Runs.markers_replaceFirst? hnew h

lemma marker_referenced (name : Text) : (referenced fields name).marker = none := by
  rw [referenced]
  split <;> rfl

lemma marker_of_decided? {p : Placeholder} {new : Fragment} (h : decided? fields p = some new) :
    new.marker = none := by
  obtain ⟨c, -, rfl⟩ := Option.map_eq_some_iff.1 h
  rw [output]
  split <;> rfl

lemma markers_resolveReferences (template : Text) (r : Runs) :
    (resolveReferences template fields r).markers = r.markers := by
  rw [resolveReferences]
  induction references template generalizing r with
  | nil => rfl
  | cons p ps ih => rw [List.foldl_cons, ih, markers_put p (marker_referenced _)]

lemma markers_resolveConditionals (template : Text) (r : Runs) :
    (resolveConditionals template fields r).markers = r.markers := by
  rw [resolveConditionals]
  induction conditionals template generalizing r with
  | nil => rfl
  | cons p ps ih =>
    rw [List.foldl_cons, ih]
    split
    · next new h => exact markers_put p (marker_of_decided? h) r
    · rfl

lemma markers_expand (template : Text) (fields : List Field) :
    (expand template fields).markers = [] := by
  rw [expand, markers_resolveConditionals, markers_resolveReferences]
  rfl

end Template

end CitationNotes
