import CitationNotes.Text.Basic

/-!
What separates the parts of a TOML document: blanks, comments and line ends.
-/

namespace CitationNotes.Toml

/-- A reader takes a value from the start of a text, and hands back the rest. -/
abbrev Reader (α : Type) := Text → Option (α × Text)

/-- The characters of comments and strings: no controls except tabs. -/
def isPlain (c : Char) : Bool := c = '\t' || (0x20 ≤ c.toNat && c.toNat != 0x7F)

def isBlank (c : Char) : Bool := c = ' ' || c = '\t'

def skipBlanks (t : Text) : Text := t.dropWhile isBlank

/-- What follows a line end. -/
def newline? : Text → Option Text
  | '\n' :: t => some t
  | '\r' :: '\n' :: t => some t
  | _ => none

def skipComment : Text → Text
  | '#' :: t => t.dropWhile isPlain
  | t => t

/-- What follows the line, which holds nothing more than blanks and a comment. -/
def lineEnd? (t : Text) : Option Text :=
  match skipComment (skipBlanks t) with
  | [] => some []
  | t => newline? t

/-- Past blanks, line ends and comments that end with a line. -/
def skipSpace (inComment : Bool) : Text → Option Text
  | [] => if inComment then none else some []
  | '\n' :: t => skipSpace false t
  | '\r' :: '\n' :: t => skipSpace false t
  | c :: t =>
    if inComment then if isPlain c then skipSpace true t else none
    else if isBlank c then skipSpace false t
    else if c = '#' then skipSpace true t
    else if c = '\r' then none
    else some (c :: t)

/-- Past blanks and line ends. -/
def skipLines : Text → Text
  | '\n' :: t => skipLines t
  | '\r' :: '\n' :: t => skipLines t
  | c :: t => if isBlank c then skipLines t else c :: t
  | [] => []

end CitationNotes.Toml
