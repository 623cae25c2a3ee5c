import CitationNotes.Text.Letter
import CitationNotes.Text.Lowercase
import CitationNotes.Text.Search

/-!
The alphabetical order of entries.

Entries are compared by their letters alone, in lower case, without an article at their very
start. Letters are compared by code point, and an entry comes before those that it begins.
-/

namespace CitationNotes.Bibliography

def articles : List Text := ["The ".toList, "A ".toList, "An ".toList]

/-- Without white space and then one article at the start. -/
def withoutArticle (entry : Text) : Text :=
  let t := Text.trimStart entry
  (articles.findSome? fun a => Text.after? a t).getD t

def sortKey (entry : Text) : Text :=
  ((withoutArticle entry).filter Text.isLetter).flatMap Text.lowercase

def compareText : Text → Text → Ordering
  | [], [] => .eq
  | [], _ :: _ => .lt
  | _ :: _, [] => .gt
  | c :: s, d :: t =>
    if c.toNat < d.toNat then .lt else if d.toNat < c.toNat then .gt else compareText s t

def compareEntries (a b : Text) : Ordering := compareText (sortKey a) (sortKey b)

end CitationNotes.Bibliography
