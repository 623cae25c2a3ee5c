import CitationNotes.Text.Basic

/-!
The placeholders of a template.

A placeholder is a brace, the sign of its kind, a body without closing braces, and the first
closing brace behind them. The scan stands outside, right behind an opening brace, or in the
body of a placeholder of the kind that it looks for; what an unclosed placeholder would have
held is lost.
-/

namespace CitationNotes

structure Placeholder where
  sign : Char
  body : Text
deriving DecidableEq, Repr

/-- The placeholder as it stands in the template. -/
def Placeholder.text (p : Placeholder) : Text := '{' :: p.sign :: (p.body ++ ['}'])

namespace Placeholder

inductive Scan where
  | outside
  | opened
  | inside (body : Text)

/-- The bodies of the placeholders that are closed from here on. -/
def Scan.bodies (sign : Char) : Scan → Text → List Text
  | _, [] => []
  | .outside, c :: t => if c = '{' then bodies sign .opened t else bodies sign .outside t
  | .opened, c :: t =>
    if c = sign then bodies sign (.inside []) t
    else if c = '{' then bodies sign .opened t
    else bodies sign .outside t
  | .inside b, c :: t =>
    if c = '}' then b :: bodies sign .outside t else bodies sign (.inside (b ++ [c])) t

@[simp] theorem bodies_nil (sign : Char) (s : Scan) : s.bodies sign [] = [] := by
  cases s <;> rfl

end Placeholder

namespace Template

def placeholders (sign : Char) (template : Text) : List Placeholder :=
  (Placeholder.Scan.outside.bodies sign template).map fun b => ⟨sign, b⟩

/-- The placeholders that name a field. -/
def references (template : Text) : List Placeholder := placeholders '@' template

/-- The placeholders with a condition and an output. -/
def conditionals (template : Text) : List Placeholder := placeholders '?' template

end Template

end CitationNotes
