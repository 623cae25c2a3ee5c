import CitationNotes.Bibliography.Order
import CitationNotes.Library.Source
import CitationNotes.Stable

/-!
The bibliography of a text.

Primary sources come before secondary ones, each part under a heading of its own and sorted,
with an empty paragraph behind each heading and between neighbouring entries.
-/

namespace CitationNotes

inductive Hand where
  | primary
  | secondary
deriving DecidableEq, Repr

/-- A source that is cited, under a name of its own. -/
structure Citation where
  name : Text
  hand : Hand
  source : Source
deriving DecidableEq, Repr

namespace Bibliography

/-- An entry and the text that it is sorted by. -/
structure Entry where
  preview : Text
  runs : Runs
deriving DecidableEq, Repr

def Entry.ofSource (s : Source) : Entry := ⟨s.bibliographyPreview, s.bibliographyRuns⟩

def Entry.le (a b : Entry) : Bool := compareEntries a.preview b.preview != .gt

def heading (title : String) : Runs := [.styled title.toList true false]

/-- The paragraphs with an empty one between neighbours. -/
def spaced (rs : List Runs) : List Runs := rs.intersperse []

/-- The sources of one hand in the order in which they are cited. -/
def ofHand (hand : Hand) (cs : List Citation) : List Source :=
  (cs.filter fun c => c.hand == hand).map Citation.source

def entries (hand : Hand) (cs : List Citation) : List Entry :=
  stableSort Entry.le ((ofHand hand cs).map .ofSource)

/-- The sources of one hand under their heading, and nothing if there are none. -/
def part (hand : Hand) (title : String) (cs : List Citation) : List Runs :=
  match entries hand cs with
  | [] => []
  | es => heading title :: [] :: spaced (es.map Entry.runs)

end Bibliography

def bibliography (cs : List Citation) : List Runs :=
  Bibliography.heading "Bibliography" :: [] ::
    (Bibliography.part .primary "Primary Sources" cs ++
      Bibliography.part .secondary "Secondary Sources" cs)

/-! ### What is told -/

/-- Each source is filled in twice, for its preview and for its runs. -/
def bibliographyEvents (cs : List Citation) : List Log.Event :=
  (Bibliography.ofHand .primary cs ++ Bibliography.ofHand .secondary cs).flatMap fun s =>
    s.bibliographyEvents ++ s.bibliographyEvents

end CitationNotes
