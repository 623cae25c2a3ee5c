import CitationNotes.Log
import CitationNotes.Text.Search

/-!
One level of a condition, with no parenthesis left in it.

A plus sign anywhere makes the level a conjunction of the terms between plus signs; a level
without one is the disjunction of the terms between bars. Settled truth values stand as words in
it, and a term that is no truth word is a name that nobody supplied, which counts as an empty
field.
-/

namespace CitationNotes.Condition

/-- The words that stand for settled truth values. -/
def word : Bool → Text
  | true => "TRUESTATEMENT00000".toList
  | false => "FALSESTATEMENT99999".toList

/-- Whether the term is a name that was not supplied, as opposed to a truth word, the ruins of
one, or a term of the other operator. -/
def isAbsent (term : Text) : Bool :=
  !term.isEmpty && !Text.occurs (word true) term && !Text.occurs (word false) term &&
    !term.contains '+' && !term.contains '|'

/-- A term holds if it is the true word, blanks and all, or the negation of an absent name. -/
def termHolds (term : Text) : Bool :=
  if term = word true then true
  else isAbsent term &&
    match term with
    | '!' :: name => !name.isEmpty
    | _ => false

def isConjunction (line : Text) : Bool := line.contains '+'

/-- Whether both operators stand on the level. -/
def isMixed (line : Text) : Bool := line.contains '+' && line.contains '|'

def terms (line : Text) : List Text :=
  if isConjunction line then line.splitOn '+' else line.splitOn '|'

def lineHolds (line : Text) : Bool :=
  if isConjunction line then (terms line).all termHolds else (terms line).any termHolds

/-! ### What is told -/

/-- The terms that are looked at: those up to the first that settles the level. -/
def asked (settles : Text → Bool) : List Text → List Text
  | [] => []
  | t :: ts => t :: if settles t then [] else asked settles ts

def termEvents (term : Text) : List Log.Event :=
  if isAbsent term then
    [Log.warn "condition references a field that was not supplied" [("field", term)]]
  else []

def lineEvents (line : Text) : List Log.Event :=
  (if isMixed line then
    [Log.warn
      "'+' and '|' share one level of a condition, '|' is ignored; add parentheses"
      [("line", line)]]
  else []) ++
  (asked (fun t => if isConjunction line then !termHolds t else termHolds t) (terms line)).flatMap
    termEvents

end CitationNotes.Condition
