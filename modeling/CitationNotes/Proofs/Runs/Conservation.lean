import CitationNotes.Proofs.Runs.Canonical
import CitationNotes.Proofs.Runs.Replacement
import CitationNotes.Proofs.Template.Markers

/-!
Markers are neither lost nor made.

Whatever is done to a run list, its markers stay whole and in order, with the text that they may
have. The markers that an edit brings along stand next to each other among them, and these are all
that come in addition: so a run of edits leaves as many markers as there were and were brought.
-/

namespace CitationNotes

namespace Runs

/-- The markers of the runs, with all that they carry. -/
def signs (r : Runs) : Runs := r.filter Fragment.isMarker

@[simp] lemma signs_nil : signs [] = [] := rfl
@[simp] lemma signs_append (r s : Runs) : signs (r ++ s) = signs r ++ signs s :=
  List.filter_append r s

lemma signs_cons (f : Fragment) (r : Runs) : signs (f :: r) = signs [f] ++ signs r :=
  signs_append [f] r

lemma signs_singleton_of_not_isMarker {f : Fragment} (hf : f.isMarker = false) : signs [f] = [] :=
  List.filter_cons_of_neg (by simp [hf])

lemma signs_cons_of_not_isMarker {f : Fragment} (hf : f.isMarker = false) (r : Runs) :
    signs (f :: r) = signs r := by
  rw [signs_cons, signs_singleton_of_not_isMarker hf, List.nil_append]

lemma signs_around {f : Fragment} (hf : f.isMarker = false) (a : Text) (new : Fragment) (b : Text) :
    signs (around f a new b) = signs [new] := by
  have hpart (t : Text) : (f.withText t).isMarker = false := hf
  rw [around, signs_cons_of_not_isMarker (hpart a), signs_cons,
    signs_singleton_of_not_isMarker (hpart b), List.append_nil]

/-- The markers of `s` are those of `r`, with `new` in one place among them. -/
def Gained (r new s : Runs) : Prop := ∃ a b, r.signs = a ++ b ∧ s.signs = a ++ new ++ b

namespace Gained

variable {r new s : Runs}

lemma of_eq (h : s.signs = r.signs) : Gained r [] s := ⟨r.signs, [], by simp, by simp [h]⟩

lemma sublist (h : Gained r new s) : r.signs.Sublist s.signs := by
  obtain ⟨a, b, hr, hs⟩ := h
  rw [hr, hs]
  exact (List.sublist_append_left a new).append_right b

lemma perm (h : Gained r new s) : s.signs.Perm (r.signs ++ new) := by
  obtain ⟨a, b, hr, hs⟩ := h
  rw [hr, hs, List.append_assoc, List.append_assoc]
  exact List.perm_append_comm.append_left a

end Gained

/-! ### What each of them does -/

lemma gained_insert (r fs : Runs) (index : Nat) : Gained r fs.signs (r.insert fs index) := by
  refine ⟨signs (r.take index), signs (r.drop index), ?_, ?_⟩
  · rw [← signs_append, List.take_append_drop]
  · rw [insert, signs_append, signs_append]

lemma gained_replaceFirst (r : Runs) (pattern : Text) (new : Fragment) :
    Gained r (if (r.replaceFirst pattern new).1 then signs [new] else [])
      (r.replaceFirst pattern new).2 := by
  obtain ⟨-, front, f, rest, a, b, hf, hs⟩ | ⟨-, hs⟩ := replaceFirst_cases r pattern new
  · rw [hs]
    refine ⟨front.signs, rest.signs, ?_, ?_⟩
    · rw [hf.runs, signs_append, signs_cons_of_not_isMarker hf.isMarker]
    · rw [signs_append, signs_append, signs_around hf.isMarker]
      rfl
  · rw [hs]
    exact .of_eq rfl

lemma gained_splitInsert (r : Runs) (index offset : Nat) (new : Fragment) :
    Gained r (signs [new]) (r.splitInsert index offset new) := by
  induction r generalizing index with
  | nil => exact ⟨[], [], rfl, by simp [splitInsert]⟩
  | cons f r ih =>
    cases index with
    | zero =>
      refine ⟨[], signs (f :: r), rfl, ?_⟩
      rw [splitInsert]
      split
      -- a marker is not split: what is new comes in front of it
      · exact signs_cons new (f :: r)
      · next hm =>
        have hf : f.isMarker = false := by simpa using hm
        rw [signs_append, signs_around hf, signs_cons_of_not_isMarker hf]
        rfl
    | succ index =>
      obtain ⟨a, b, hr, hs⟩ := ih index
      refine ⟨signs [f] ++ a, b, ?_, ?_⟩
      · rw [signs_cons, hr, List.append_assoc]
      · rw [splitInsert, signs_cons, hs, List.append_assoc, List.append_assoc, List.append_assoc]

lemma signs_push (f : Fragment) (r : Runs) : signs (push f r) = signs (f :: r) := by
  cases r with
  | nil => rfl
  | cons g r =>
    rw [push]
    split
    · next h =>
      obtain ⟨hf, hg, -⟩ := Fragment.joins_iff.1 h
      have hjoined : (f.withText (f.text ++ g.text)).isMarker = false := hf
      rw [signs_cons_of_not_isMarker hjoined, signs_cons_of_not_isMarker hf,
        signs_cons_of_not_isMarker hg]
    · rfl

lemma signs_merge (r : Runs) : r.merge.signs = r.signs := by
  induction r with
  | nil => rfl
  | cons f r ih => rw [merge_cons, signs_push, signs_cons, ih, ← signs_cons]

/-- Markers are always visible. -/
lemma signs_normalize (r : Runs) : r.normalize.signs = r.signs := by
  rw [normalize, signs_merge, signs, signs, List.filter_filter]
  refine List.filter_congr fun f _ => ?_
  cases hf : f.isMarker <;> simp [Fragment.isVisible, hf]

end Runs

lemma Template.signs_put (p : Placeholder) {new : Fragment} (hnew : new.isMarker = false)
    (r : Runs) : (put p new r).signs = r.signs := by
  have hput : put p new r = (r.replaceFirst p.text new).2 := by
    rw [put, Runs.replaceFirst]
    cases r.replaceFirst? p.text new <;> rfl
  obtain ⟨a, b, hr, hs⟩ := r.gained_replaceFirst p.text new
  rw [Runs.signs_singleton_of_not_isMarker hnew, ite_self, List.append_nil] at hs
  rw [hput, hs, hr]

lemma Template.signs_resolveReferences (template : Text) (fields : List Field) (r : Runs) :
    (resolveReferences template fields r).signs = r.signs := by
  rw [resolveReferences]
  induction references template generalizing r with
  | nil => rfl
  | cons p ps ih =>
    have hnew : (referenced fields p.body).isMarker = false := by
      rw [Fragment.isMarker, marker_referenced]
      rfl
    rw [List.foldl_cons, ih, signs_put p hnew]

/-! ### Runs of edits -/

/-- What can be done to a run list. -/
inductive Edit where
  | insert (fs : Runs) (index : Nat)
  | insertReversed (fs : Runs) (index : Nat)
  | insertTriple (before new after : Fragment) (index : Nat)
  | replaceFirst (pattern : Text) (new : Fragment)
  | splitInsert (index offset : Nat) (new : Fragment)
  | normalize
  | resolveReferences (template : Text) (fields : List Field)

namespace Runs

def edit (r : Runs) : Edit → Runs
  | .insert fs index => r.insert fs index
  | .insertReversed fs index => r.insertReversed fs index
  | .insertTriple before new after index => r.insertReversed [after, new, before] index
  | .replaceFirst pattern new => (r.replaceFirst pattern new).2
  | .splitInsert index offset new => r.splitInsert index offset new
  | .normalize => r.normalize
  | .resolveReferences template fields => Template.resolveReferences template fields r

/-- The markers among the fragments that an edit puts into the runs, from left to right. What takes
the place of a reference is never one. -/
def brought (r : Runs) : Edit → Runs
  | .insert fs _ => fs.signs
  | .insertReversed fs _ => signs fs.reverse
  | .insertTriple before new after _ => signs [before, new, after]
  | .replaceFirst pattern new => if (r.replaceFirst pattern new).1 then signs [new] else []
  | .splitInsert _ _ new => signs [new]
  | .normalize => []
  | .resolveReferences _ _ => []

/-- One edit keeps the markers. -/
lemma gained_edit (r : Runs) (e : Edit) : Gained r (r.brought e) (r.edit e) := by
  cases e with
  | insert fs index => exact r.gained_insert fs index
  | insertReversed fs index => exact r.gained_insert fs.reverse index
  | insertTriple before new after index => exact r.gained_insert [before, new, after] index
  | replaceFirst pattern new => exact r.gained_replaceFirst pattern new
  | splitInsert index offset new => exact r.gained_splitInsert index offset new
  | normalize => exact .of_eq r.signs_normalize
  | resolveReferences template fields =>
    exact .of_eq (Template.signs_resolveReferences template fields r)

/-- The edits one after the other. -/
def edits (r : Runs) (es : List Edit) : Runs := es.foldl edit r

/-- The markers that the edits bring, one edit after the other. -/
def broughtAll : Runs → List Edit → Runs
  | _, [] => []
  | r, e :: es => r.brought e ++ broughtAll (r.edit e) es

lemma signs_sublist_edits (r : Runs) (es : List Edit) : r.signs.Sublist (r.edits es).signs := by
  induction es generalizing r with
  | nil => exact .refl _
  | cons e es ih => exact (r.gained_edit e).sublist.trans (ih (r.edit e))

lemma signs_edits_perm (r : Runs) (es : List Edit) :
    (r.edits es).signs.Perm (r.signs ++ r.broughtAll es) := by
  induction es generalizing r with
  | nil => rw [broughtAll, List.append_nil]; rfl
  | cons e es ih =>
    rw [broughtAll, ← List.append_assoc]
    exact (ih (r.edit e)).trans ((r.gained_edit e).perm.append_right _)

/-- **Markers are conserved**: after any run of edits the markers that were there are still there,
as they were and in their order, and with those that the edits brought they are all. At any time
of the run, a further edit puts what it brings in one place among the markers and leaves them as
they are. -/
theorem signs_edits (r : Runs) (es : List Edit) :
    r.signs.Sublist (r.edits es).signs ∧
    (r.edits es).signs.Perm (r.signs ++ r.broughtAll es) ∧
    (r.edits es).signs.length = r.signs.length + (r.broughtAll es).length ∧
    ∀ e, ∃ a b, (r.edits es).signs = a ++ b ∧
      ((r.edits es).edit e).signs = a ++ (r.edits es).brought e ++ b := by
  have hperm := r.signs_edits_perm es
  refine ⟨r.signs_sublist_edits es, hperm, ?_, (r.edits es).gained_edit⟩
  rw [hperm.length_eq, List.length_append]

end Runs

end CitationNotes
