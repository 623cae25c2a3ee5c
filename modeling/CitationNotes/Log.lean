import CitationNotes.Text.Decimal

/-!
Messages for whoever runs the library.

A computation is a plain function, and what it would tell is a second function beside it; an
event is the form that both can be compared in.
-/

namespace CitationNotes

inductive Log.Level where
  | debug
  | warn
deriving DecidableEq, Repr

/-- A message and the named details that belong to it. -/
structure Log.Event where
  level : Log.Level
  message : Text
  details : List (Text × Text)
deriving DecidableEq, Repr

namespace Log

def debug (message : String) (details : List (String × Text)) : Event :=
  ⟨.debug, message.toList, details.map fun d => (d.1.toList, d.2)⟩

def warn (message : String) (details : List (String × Text)) : Event :=
  ⟨.warn, message.toList, details.map fun d => (d.1.toList, d.2)⟩

end Log

end CitationNotes
