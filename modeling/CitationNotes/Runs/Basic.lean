import CitationNotes.Text.Basic

/-!
Runs of styled text.

A paragraph is a list of fragments in reading order, each with one style. A fragment with a
footnote id is a marker: it stands for the reference sign, normally without text of its own.
-/

namespace CitationNotes

abbrev FootnoteId := UInt32

structure Fragment where
  text : Text
  bold : Bool
  italic : Bool
  marker : Option FootnoteId
deriving DecidableEq, Repr

namespace Fragment

def styled (t : Text) (bold italic : Bool) : Fragment := ⟨t, bold, italic, none⟩

def plain (t : Text) : Fragment := styled t false false

def empty : Fragment := plain []

def footnote (id : FootnoteId) : Fragment := ⟨[], false, false, some id⟩

def isMarker (f : Fragment) : Bool := f.marker.isSome

def length (f : Fragment) : Nat := f.text.length

/-- The same style around another text, as for the parts of a fragment that is cut. -/
def withText (f : Fragment) (t : Text) : Fragment := { f with text := t }

@[simp] theorem isMarker_footnote (id : FootnoteId) : (footnote id).isMarker = true := rfl
@[simp] theorem isMarker_styled (t : Text) (b i : Bool) : (styled t b i).isMarker = false := rfl
@[simp] theorem isMarker_withText (f : Fragment) (t : Text) :
    (f.withText t).isMarker = f.isMarker := rfl
@[simp] theorem text_withText (f : Fragment) (t : Text) : (f.withText t).text = t := rfl
@[simp] theorem length_footnote (id : FootnoteId) : (footnote id).length = 0 := rfl

end Fragment

abbrev Runs := List Fragment

namespace Runs

/-- What a reader sees, without the styles. -/
def text (r : Runs) : Text := r.flatMap Fragment.text

def textLength : Runs → Nat
  | [] => 0
  | f :: r => f.length + textLength r

def markers (r : Runs) : List FootnoteId := r.filterMap Fragment.marker

@[simp] theorem text_nil : text [] = [] := rfl
@[simp] theorem text_cons (f : Fragment) (r : Runs) : text (f :: r) = f.text ++ text r := rfl
@[simp] theorem text_append (r s : Runs) : text (r ++ s) = text r ++ text s := by simp [text]

@[simp] theorem textLength_nil : textLength [] = 0 := rfl
@[simp] theorem textLength_cons (f : Fragment) (r : Runs) :
    textLength (f :: r) = f.length + textLength r := rfl

@[simp] theorem textLength_append (r s : Runs) :
    textLength (r ++ s) = textLength r + textLength s := by
  induction r with
  | nil => simp
  | cons f r ih => simp [ih, Nat.add_assoc]

theorem length_text (r : Runs) : (text r).length = textLength r := by
  induction r with
  | nil => rfl
  | cons f r ih => simp [ih, Fragment.length]

@[simp] theorem markers_nil : markers [] = [] := rfl
theorem markers_cons (f : Fragment) (r : Runs) :
    markers (f :: r) = f.marker.toList ++ markers r := by
  rw [markers, List.filterMap_cons]
  cases f.marker <;> rfl
@[simp] theorem markers_append (r s : Runs) : markers (r ++ s) = markers r ++ markers s := by
  simp [markers]

end Runs

end CitationNotes
