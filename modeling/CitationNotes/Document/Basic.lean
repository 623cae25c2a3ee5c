import CitationNotes.Document.Span
import CitationNotes.Footnote.Marker

/-!
Documents and their top-level paragraphs.

Headings, code and paragraphs of text hold spans. Lists, checklists and quotes hold further
paragraphs instead: they read as empty, and nothing can be written into them.
-/

namespace CitationNotes

/-- The kinds of paragraph that hold spans. -/
inductive LeafKind where
  | text
  | header1
  | header2
  | header3
  | code
deriving DecidableEq, Repr

inductive CheckItem where
  | mk (checked : Bool) (content : List Span) (children : List CheckItem)
deriving Repr

instance : Inhabited CheckItem := ⟨.mk false [] []⟩

inductive Block where
  | leaf (kind : LeafKind) (content : List Span)
  | list (ordered : Bool) (entries : List (List Block))
  | checklist (items : List CheckItem)
  | quote (children : List Block)
deriving Repr

instance : Inhabited Block := ⟨.quote []⟩

abbrev Document := List Block

namespace Block

def content : Block → List Span
  | leaf _ content => content
  | _ => []

def isLeaf : Block → Bool
  | leaf .. => true
  | _ => false

/-- The block with other content, if it can have any. -/
def write? (r : Runs) : Block → Option Block
  | leaf kind _ => some (.leaf kind r.spans)
  | _ => none

end Block

/-- Why runs cannot be written into a document. -/
inductive WriteFault where
  | missing
  | notLeaf
deriving DecidableEq, Repr

namespace Document

def paragraphs (d : Document) : Paragraphs := d.map fun b => Runs.ofSpans b.content

/-- The document with new content in the paragraph numbered `index`, all others as they were. -/
def write : (d : Document) → (index : Nat) → Runs → Except WriteFault Document
  | [], _, _ => .error .missing
  | b :: d, 0, r =>
    match b.write? r with
    | some b => .ok (b :: d)
    | none => .error .notLeaf
  | b :: d, index + 1, r => (write d index r).map (b :: ·)

/-- New content for the first paragraphs in turn, up to the end of either list or to a paragraph
that takes none; and whether there was one. -/
def writeAll : Document → Paragraphs → Document × Bool
  | [], _ => ([], false)
  | d, [] => (d, false)
  | b :: d, r :: rs =>
    match b.write? r with
    | some b => let rest := writeAll d rs; (b :: rest.1, rest.2)
    | none => (b :: d, true)

def append (d : Document) (rs : Paragraphs) : Document :=
  d ++ rs.map fun r => .leaf .text r.spans

/-- A footnote put into a document: its marker is written, its content is not. -/
def addFootnote (d : Document) (position : Nat) (content : Runs) :
    Except FootnoteFault (Footnote × Document) :=
  match Paragraphs.addFootnote (paragraphs d) position content with
  | .error e => .error e
  | .ok (n, rs) =>
    match write d n.location.paragraph (rs.getD n.location.paragraph []) with
    | .error _ => .error .notLeaf
    | .ok d => .ok (n, d)

/-- The paragraph of a footnote at the end of a document. -/
def footnoteBody (n : Footnote) : Runs := .plain (Span.glyph n.id ++ [' ']) :: n.content

end Document

end CitationNotes
