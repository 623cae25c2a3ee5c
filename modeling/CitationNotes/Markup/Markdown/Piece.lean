import CitationNotes.Markup.Entity
import CitationNotes.Text.Punctuation

/-!
What a line of Markdown is made of: text, code, links, and runs of stars or underscores.

Whether such a run can open or close something bold or italic hangs on the characters beside it.
A backslash in front of punctuation takes its meaning away.
-/

namespace CitationNotes.Markdown

open Markup

inductive Piece where
  | text (t : Text)
  | code (t : Text)
  | link (label target : Text)
  | signs (sign : Char) (count : Nat) (opens closes : Bool)
deriving DecidableEq, Repr

/-- A character of text in front of pieces. -/
def addChar (c : Char) : List Piece → List Piece
  | .text t :: ps => .text (c :: t) :: ps
  | ps => .text [c] :: ps

/-- Whether a run of signs leans on the character `near` it, `far` being the one on the other
side. -/
def leans (near far : Char) : Bool :=
  !Text.isBlank near &&
    (!Text.isPunctuation near || Text.isBlank far || Text.isPunctuation far)

/-- A run of signs between two characters. Inside a word, underscores are no signs. -/
def runOfSigns (sign : Char) (count : Nat) (before behind : Char) : Piece :=
  let opens := leans behind before
  let closes := leans before behind
  if sign = '_' then
    .signs sign count (opens && (!closes || Text.isPunctuation before))
      (closes && (!opens || Text.isPunctuation behind))
  else .signs sign count opens closes

/-- The text up to the bracket that closes what has been opened, and what follows. -/
def closing? (opener closer : Char) : (depth : Nat) → Text → Option (Text × Text)
  | _, [] => none
  | depth, '\\' :: c :: t =>
    (closing? opener closer depth t).map fun p => ('\\' :: c :: p.1, p.2)
  | depth, c :: t =>
    if c = closer then
      match depth with
      | 0 => some ([], t)
      | depth + 1 => (closing? opener closer depth t).map fun p => (c :: p.1, p.2)
    else
      let depth := if c = opener then depth + 1 else depth
      (closing? opener closer depth t).map fun p => (c :: p.1, p.2)

/-- Text without the backslashes in front of punctuation. -/
def unslash : Text → Text
  | [] => []
  | '\\' :: c :: t =>
    if Text.isPlainPunctuation c then c :: unslash t else '\\' :: c :: unslash t
  | c :: t => c :: unslash t

/-- The label and the target of the link behind a bracket, and what follows. -/
def link? (t : Text) : Option (Text × Text × Text) := do
  let (label, rest) ← closing? '[' ']' 0 t
  match rest with
  | '(' :: rest =>
    let (target, rest) ← closing? '(' ')' 0 rest
    let target := Text.trim target
    if target.any Text.isBlank then none else some (label, unescape (unslash target), rest)
  | _ => none

/-- The text up to a run of exactly `count` signs, and what follows; `run` signs have just been
read. -/
def codeEnd? (count : Nat) : (run : Nat) → Text → Option (Text × Text)
  | run, [] => if run = count then some ([], []) else none
  | run, c :: t =>
    if c = '\x60' then codeEnd? count (run + 1) t
    else if run = count then some ([], c :: t)
    else (codeEnd? count 0 t).map fun p => (List.replicate run '\x60' ++ c :: p.1, p.2)

/-- Code without the blanks that set it off from the signs around it. -/
def codeText (t : Text) : Text :=
  if t.head? = some ' ' && t.getLast? = some ' ' && !t.all (· == ' ') then (t.drop 1).dropLast
  else t

/-- The pieces of a text that stands between two characters, in at most `n` steps. -/
def piecesWithin (stop : Char) : (n : Nat) → (before : Char) → Text → List Piece
  | 0, _, _ => []
  | _, _, [] => []
  | n + 1, before, c :: t =>
    let plain (_ : Unit) := addChar c (piecesWithin stop n c t)
    if c = '\\' then
      match t with
      | d :: u =>
        if Text.isPlainPunctuation d then addChar d (piecesWithin stop n d u) else plain ()
      | [] => plain ()
    else if c = '&' then
      match entity? (c :: t) with
      | some (d, rest) => addChar d (piecesWithin stop n ';' rest)
      | none => plain ()
    else if c = '[' then
      match link? t with
      | some (label, target, rest) => .link label target :: piecesWithin stop n ')' rest
      | none => plain ()
    else if c = '\x60' then
      let count := (t.takeWhile (· == c)).length + 1
      let rest := t.dropWhile (· == c)
      match codeEnd? count 0 rest with
      | some (code, rest) => .code (codeText code) :: piecesWithin stop n c rest
      | none =>
        (List.replicate count c).foldr addChar (piecesWithin stop n c rest)
    else if c = '*' || c = '_' then
      let count := (t.takeWhile (· == c)).length + 1
      let rest := t.dropWhile (· == c)
      runOfSigns c count before (rest.headD stop) :: piecesWithin stop n c rest
    else plain ()

def pieces (before stop : Char) (t : Text) : List Piece := piecesWithin stop t.length before t

end CitationNotes.Markdown
