import CitationNotes.Text.Basic

/-!
Blanks in tagged text.

Readers take a stretch of white space for one blank and drop it at the ends of a paragraph. A
blank that would be lost in this way is written by its name.
-/

namespace CitationNotes.Markup

/-- Every stretch of white space as one blank, and as none where one has just been read. -/
def collapseBehind : (blank : Bool) → Text → Text
  | _, [] => []
  | blank, c :: t =>
    if Text.isBlank c then (if blank then [] else [' ']) ++ collapseBehind true t
    else c :: collapseBehind false t

def collapse (t : Text) : Text := collapseBehind false t

/-- A blank that is not lost. -/
def lastingBlank : Text := "&emsp14;".toList

/-- A text whose characters are written by `write`, with lasting blanks beside other blanks, at
the front if `lost`, and at the end if `atEnd`. -/
def keepBlanks (write : Char → Text) (atEnd : Bool) : (lost : Bool) → Text → Text
  | _, [] => []
  | lost, c :: t =>
    if c = ' ' then
      let lasts := lost || t.head? == some ' ' || (t.isEmpty && atEnd)
      (if lasts then lastingBlank else [c]) ++ keepBlanks write atEnd true t
    else write c ++ keepBlanks write atEnd false t

end CitationNotes.Markup
