import CitationNotes.Text.Basic

/-!
What shows of a text that a terminal is meant for.

An escape starts a control sequence, which ends with a letter, or a control string, which ends
with a sign of its own or with the next escape. Neither shows, and of the other controls only
those show that are blank; in a sequence, such a one ends it.
-/

namespace CitationNotes.Text

/-- What the next character belongs to. -/
inductive Terminal where
  | text
  | escape
  | escapeTail
  | sequence
  | title
  | string
deriving DecidableEq, Repr

namespace Terminal

def isBetween (lo hi c : Char) : Bool := lo ≤ c && c ≤ hi

/-- What the character behind an escape starts. -/
def ofStart (c : Char) : Terminal :=
  if c = '[' then .sequence
  else if c = ']' then .title
  else if c = 'P' || c = 'X' || c = '^' || c = '_' then .string
  else if isBetween ' ' '/' c then .escapeTail
  else if isBetween '0' '~' c then .text
  else .escape

/-- Whether the code that ends strings is among the bytes of a character. -/
def hasStringEnd (c : Char) : Bool := (String.utf8EncodeChar c).contains 0x9C

def next (m : Terminal) (c : Char) : Terminal :=
  if c = '\x1b' then .escape
  else if c = '\x18' || c = '\x1a' then .text
  else
    match m with
    | .text => .text
    | .escape => ofStart c
    | .escapeTail => if isBetween '0' '~' c then .text else .escapeTail
    | .sequence => if isBetween '@' '~' c then .text else .sequence
    | .title => if c = '\x07' then .text else .title
    | .string => if hasStringEnd c then .text else .string

/-- Whether a character shows. A blank control does wherever it is no part of a string. -/
def shows (m : Terminal) (c : Char) : Bool :=
  if c = '\t' || c = '\n' || c = '\x0c' || c = '\r' then m != .title && m != .string
  else m == .text && ' ' ≤ c && c != '\x7f'

/-- What shows. Where something does, the sequence around it is over. -/
def run (m : Terminal) : Text → Text
  | [] => []
  | c :: t => if m.shows c then c :: run .text t else run (m.next c) t

end Terminal

/-- A text without what does not show of it. -/
def visible (t : Text) : Text := Terminal.run .text t

end CitationNotes.Text
