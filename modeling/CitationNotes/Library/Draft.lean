import CitationNotes.Library.Source

/-!
A library as it is written down, before anything in it is checked.
-/

namespace CitationNotes

structure InputDraft where
  kind : InputKind
  name : Option Text
  title : Option Text
  bold : Bool
  italic : Bool
deriving DecidableEq, Repr

structure SourceDraft where
  title : Option Text
  bibliography : Option Text
  footnote : Option Text
  inputs : List InputDraft
deriving DecidableEq, Repr

structure CategoryDraft where
  title : Option Text
  sources : List SourceDraft
deriving DecidableEq, Repr

structure LibraryDraft where
  title : Option Text
  categories : List CategoryDraft
deriving DecidableEq, Repr

end CitationNotes
