import CitationNotes.Runs.Basic

/-!
The normal form of a run list.

Fragments without text go, neighbours of one style become one fragment, and markers stay as
they are: neither dropped nor joined with anything.
-/

namespace CitationNotes

namespace Fragment

/-- Whether the fragment has anything to show. -/
def isVisible (f : Fragment) : Bool := f.isMarker || !f.text.isEmpty

/-- Whether `g`, coming right behind `f`, continues it. -/
def joins (f g : Fragment) : Bool :=
  !f.isMarker && !g.isMarker && f.bold == g.bold && f.italic == g.italic

end Fragment

namespace Runs

/-- `f` in front of runs that are merged already. -/
def push (f : Fragment) : Runs → Runs
  | [] => [f]
  | g :: r => if f.joins g then f.withText (f.text ++ g.text) :: r else f :: g :: r

/-- Neighbours of one style become one fragment. -/
def merge : Runs → Runs
  | [] => []
  | f :: r => push f (merge r)

def normalize (r : Runs) : Runs := merge (r.filter Fragment.isVisible)

@[simp] theorem merge_nil : merge [] = [] := rfl
@[simp] theorem merge_cons (f : Fragment) (r : Runs) : merge (f :: r) = push f (merge r) := rfl

theorem text_push (f : Fragment) (r : Runs) : text (push f r) = f.text ++ text r := by
  cases r with
  | nil => simp [push]
  | cons g r => by_cases h : f.joins g <;> simp [push, h]

theorem text_merge (r : Runs) : text (merge r) = text r := by
  induction r with
  | nil => rfl
  | cons f r ih => simp [text_push, ih]

end Runs

end CitationNotes
