import CitationNotes.Footnote.Location
import CitationNotes.Log
import CitationNotes.Runs.Splice

/-!
Footnotes and the markers that refer to them.

A marker goes to a position of the text and a new footnote gets the number after the highest
one in use. Numbers end at 4294967295. What follows a text whose highest number is that one hangs
on the build: one that checks its sums, as here, stops, and one that does not goes on at zero.
-/

namespace CitationNotes

/-- A position behind the end of a text of the given length. -/
structure OutOfRange where
  position : Nat
  length : Nat
deriving DecidableEq, Repr

def OutOfRange.message (e : OutOfRange) : Text :=
  "position ".toList ++ Text.decimal e.position ++
    " is beyond the end of the document (length ".toList ++ Text.decimal e.length ++ [')']

/-- Why a footnote cannot be added. That the numbers are exhausted is a fault of a debug build
only. -/
inductive FootnoteFault where
  | outOfRange (e : OutOfRange)
  | idsExhausted
  | notLeaf
deriving DecidableEq, Repr

def FootnoteFault.message : FootnoteFault → Text
  | .outOfRange e => e.message
  | .idsExhausted => "attempt to add with overflow".toList
  | .notLeaf => "only leaf paragraphs contain inline content".toList

/-- The content of a footnote, the id of its marker, and where the marker went. -/
structure Footnote where
  id : FootnoteId
  content : Runs
  location : Location
deriving DecidableEq, Repr

namespace Paragraphs

def locate (ps : Paragraphs) (position : Nat) : Except OutOfRange Location :=
  match ps.locate? position with
  | some l => .ok l
  | none => .error ⟨position, ps.textLength⟩

/-- The paragraphs with a marker at a place that lies in them. -/
def mark (ps : Paragraphs) (l : Location) (id : FootnoteId) : Paragraphs :=
  ps.modify l.paragraph fun r => r.splitInsert l.fragment l.offset (.footnote id)

def insertMarker (ps : Paragraphs) (position : Nat) (id : FootnoteId) :
    Except OutOfRange (Location × Paragraphs) :=
  (ps.locate position).map fun l => (l, ps.mark l id)

end Paragraphs

/-- The highest id in use, or zero. -/
def highestId (ids : List FootnoteId) : FootnoteId := ids.foldl max 0

/-- The id after the highest one in use. There is none after the last id: in a debug build the sum
overflows. A release build takes zero for it. -/
def nextId? (ids : List FootnoteId) : Option FootnoteId :=
  if highestId ids = 4294967295 then none else some (highestId ids + 1)

namespace Paragraphs

def addFootnote (ps : Paragraphs) (position : Nat) (content : Runs) :
    Except FootnoteFault (Footnote × Paragraphs) :=
  match nextId? ps.markers with
  | none => .error .idsExhausted
  | some id =>
    match ps.insertMarker position id with
    | .error e => .error (.outOfRange e)
    | .ok (l, ps) => .ok (⟨id, content, l⟩, ps)

/-! ### What is told -/

def markEvents (id : FootnoteId) (l : Location) : List Log.Event :=
  [Log.debug "inserted footnote marker"
    [("id", Text.decimal id.toNat), ("paragraph", Text.decimal l.paragraph),
      ("fragment", Text.decimal l.fragment), ("offset", Text.decimal l.offset)]]

def insertMarkerEvents (ps : Paragraphs) (position : Nat) (id : FootnoteId) : List Log.Event :=
  match ps.insertMarker position id with
  | .ok (l, _) => markEvents id l
  | .error _ => []

def addFootnoteEvents (ps : Paragraphs) (position : Nat) : List Log.Event :=
  match ps.addFootnote position [] with
  | .ok (n, _) => markEvents n.id n.location
  | .error _ => []

end Paragraphs

end CitationNotes
