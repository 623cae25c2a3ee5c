import CitationNotes.Runs.Basic
import CitationNotes.Text.Search

/-!
Putting fragments into a run list.

An index past the end stands for the end. Where a fragment is cut in two, both parts keep its
style.
-/

namespace CitationNotes.Runs

/-- The fragments in front of the one numbered `index`, in the order given. -/
def insert (r fs : Runs) (index : Nat) : Runs := r.take index ++ fs ++ r.drop index

/-- The fragments one by one at `index`, so that the last of them comes first. -/
def insertReversed (r fs : Runs) (index : Nat) : Runs := insert r fs.reverse index

/-- The fragment around a replacement of the part between `before` and `after`. -/
def around (f : Fragment) (before : Text) (new : Fragment) (after : Text) : Runs :=
  [f.withText before, new, f.withText after]

/-- The replacement at the first fragment, markers apart, whose own text holds the pattern. -/
def replaceIn? (pattern : Text) (new : Fragment) : Runs → Option Runs
  | [] => none
  | f :: r =>
    match if f.isMarker then none else Text.cut? pattern f.text with
    | some (a, b) => some (around f a new b ++ r)
    | none => (replaceIn? pattern new r).map (f :: ·)

/-- The first occurrence of the pattern replaced, if there is one. An empty pattern occurs
nowhere, and none reaches from one fragment into the next. -/
def replaceFirst? (r : Runs) (pattern : Text) (new : Fragment) : Option Runs :=
  if pattern.isEmpty then none else replaceIn? pattern new r

/-- `new` between the two parts of the fragment numbered `index`, cut behind `offset`
characters. A marker is not cut: `new` goes in front of it. -/
def splitInsert : Runs → (index offset : Nat) → Fragment → Runs
  | [], _, _, new => [new]
  | f :: r, 0, offset, new =>
    if f.isMarker then new :: f :: r
    else around f (f.text.take offset) new (f.text.drop offset) ++ r
  | f :: r, index + 1, offset, new => f :: splitInsert r index offset new

theorem text_around (f : Fragment) (a : Text) (new : Fragment) (b : Text) :
    text (around f a new b) = a ++ new.text ++ b := by
  simp [around]

theorem text_insert (r fs : Runs) (i : Nat) :
    text (insert r fs i) = text (r.take i) ++ text fs ++ text (r.drop i) := by
  simp [insert]

end CitationNotes.Runs
