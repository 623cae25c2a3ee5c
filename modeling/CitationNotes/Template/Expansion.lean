import CitationNotes.Condition.Groups
import CitationNotes.Runs.Splice
import CitationNotes.Template.Placeholder

/-!
A template filled in.

The template starts as one plain fragment. The references of the template get their fields,
each at the first place where its text stands by then, and the conditionals their outputs
after them.
-/

namespace CitationNotes.Template

/-- The text and the style of the field that a reference names, and nothing if there is no
such field. -/
def referenced (fields : List Field) (name : Text) : Fragment :=
  match Field.named? fields name with
  | some f => .styled f.text f.bold f.italic
  | none => .empty

def output (fields : List Field) (condition text : Text) : Fragment :=
  if Condition.holds condition fields then .plain text else .empty

/-- What takes the place of a conditional. One without a colon stays as it is. -/
def decided? (fields : List Field) (p : Placeholder) : Option Fragment :=
  (Text.cutAt? ':' p.body).map fun c => output fields c.1 c.2

/-- The runs with a placeholder replaced, and unchanged where it does not stand. -/
def put (p : Placeholder) (new : Fragment) (r : Runs) : Runs :=
  (r.replaceFirst? p.text new).getD r

def resolveReferences (template : Text) (fields : List Field) (r : Runs) : Runs :=
  (references template).foldl (fun r p => put p (referenced fields p.body) r) r

def resolveConditionals (template : Text) (fields : List Field) (r : Runs) : Runs :=
  (conditionals template).foldl
    (fun r p => match decided? fields p with
      | some new => put p new r
      | none => r) r

def expand (template : Text) (fields : List Field) : Runs :=
  resolveConditionals template fields (resolveReferences template fields [.plain template])

/-! ### What is told -/

def referenceEvents (fields : List Field) (name : Text) : List Log.Event :=
  match Field.named? fields name with
  | some _ => []
  | none => [Log.debug "template references a field that was not supplied" [("field", name)]]

def conditionalEvents (fields : List Field) (p : Placeholder) : List Log.Event :=
  match Text.cutAt? ':' p.body with
  | some (condition, _) => Condition.holdsEvents condition fields
  | none =>
    [Log.warn "conditional has no separator, leaving it untouched" [("placeholder", p.text)]]

def resolveEvents (template : Text) (fields : List Field) : List Log.Event :=
  (references template).flatMap fun p => referenceEvents fields p.body

def expandEvents (template : Text) (fields : List Field) : List Log.Event :=
  resolveEvents template fields ++ (conditionals template).flatMap (conditionalEvents fields)

end CitationNotes.Template
