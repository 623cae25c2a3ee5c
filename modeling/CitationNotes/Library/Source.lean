import CitationNotes.Template.Expansion

/-!
Types of sources and the forms to fill in for them.
-/

namespace CitationNotes

inductive InputKind where
  | text
  | link
  | date
deriving DecidableEq, Repr

/-- One line of a form: the value entered so far and the style that the value takes. -/
structure Input where
  kind : InputKind
  name : Text
  title : Text
  text : Text
  bold : Bool
  italic : Bool
deriving DecidableEq, Repr

namespace Input

def setText (i : Input) (t : Text) : Input := { i with text := t }

def clear (i : Input) : Input := i.setText []

def value (i : Input) : Field := ⟨i.name, i.text, i.bold, i.italic⟩

end Input

/-- A type of source, its two templates, and its form. -/
structure Source where
  title : Text
  bibliography : Text
  footnote : Text
  inputs : List Input
deriving DecidableEq, Repr

namespace Source

def fields (s : Source) : List Field := s.inputs.map Input.value

/-- The inputs with the text of the first that is called `name` set. -/
def setInput? (name text : Text) : List Input → Option (List Input)
  | [] => none
  | i :: is =>
    if i.name = name then some (i.setText text :: is) else (setInput? name text is).map (i :: ·)

/-- The source with the text of an input set, if it has one of that name. -/
def setField? (s : Source) (name text : Text) : Option Source :=
  (setInput? name text s.inputs).map fun is => { s with inputs := is }

def clearForm (s : Source) : Source := { s with inputs := s.inputs.map Input.clear }

def bibliographyRuns (s : Source) : Runs := Template.expand s.bibliography s.fields

def footnoteRuns (s : Source) : Runs := Template.expand s.footnote s.fields

def bibliographyPreview (s : Source) : Text := s.bibliographyRuns.text

def footnotePreview (s : Source) : Text := s.footnoteRuns.text

/-! ### What is told -/

def bibliographyEvents (s : Source) : List Log.Event :=
  Template.expandEvents s.bibliography s.fields

def footnoteEvents (s : Source) : List Log.Event := Template.expandEvents s.footnote s.fields

end Source

end CitationNotes
