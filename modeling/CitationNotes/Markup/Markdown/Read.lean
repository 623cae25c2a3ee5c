import CitationNotes.Document.Basic
import CitationNotes.Markup.Markdown.Emphasis
import CitationNotes.Text.Search

/-!
Documents read from Markdown.

Headings, quotes and lists are known by how their lines start; any other lines are paragraphs,
which empty lines end. A line that opens nothing goes on with the paragraph above it, even if
that stands in a list or a quote and the line does not.
-/

namespace CitationNotes.Markdown

/-! ### Lines -/

def isSpace (c : Char) : Bool := c == ' ' || c == '\t'

def isEmptyLine (l : Text) : Bool := l.all isSpace

def trimSpaces (l : Text) : Text := ((l.dropWhile isSpace).reverse.dropWhile isSpace).reverse

def indentation (l : Text) : Nat := (l.takeWhile (· == ' ')).length

/-- What a line opens. The text of an item starts behind `width` characters. -/
inductive Opening where
  | heading (kind : LeafKind) (t : Text)
  | rule
  | quote (rest : Text)
  | item (sign : Char) (isFirst : Bool) (width : Nat) (rest : Text)
deriving DecidableEq, Repr

def headingKind (level : Nat) : LeafKind :=
  if level = 1 then .header1 else if level = 2 then .header2 else .header3

/-- The text of a heading, without the signs that close it. -/
def headingText (t : Text) : Text :=
  let t := trimSpaces t
  match t.reverse.dropWhile (· == '#') with
  | [] => []
  | c :: u => if isSpace c then trimSpaces u.reverse else t

def heading? (t : Text) : Option Opening :=
  let level := (t.takeWhile (· == '#')).length
  let rest := t.drop level
  if level = 0 || 6 < level then none
  else if rest.isEmpty || (rest.head?.any isSpace) then
    some (.heading (headingKind level) (headingText rest))
  else none

def rule? (t : Text) : Option Opening :=
  match t.filter (!isSpace ·) with
  | c :: u =>
    if (c = '-' || c = '*' || c = '_') && 2 ≤ u.length && u.all (· == c) then some .rule else none
  | [] => none

def quote? : Text → Option Opening
  | '>' :: ' ' :: t => some (.quote t)
  | '>' :: t => some (.quote t)
  | _ => none

/-- The item whose sign ends at column `column`, with `rest` behind it. -/
def itemAt? (sign : Char) (isFirst : Bool) (column : Nat) (rest : Text) : Option Opening :=
  let gap := indentation rest
  if isEmptyLine rest then some (.item sign isFirst (column + 1) [])
  else if gap = 0 then none
  else if 4 < gap then some (.item sign isFirst (column + 1) (rest.drop 1))
  else some (.item sign isFirst (column + gap) (rest.drop gap))

def item? (margin : Nat) : Text → Option Opening
  | [] => none
  | c :: t =>
    if c = '-' || c = '+' || c = '*' then itemAt? c true (margin + 1) t
    else
      let digits := (c :: t).takeWhile Char.isDigit
      match (c :: t).drop digits.length with
      | sign :: rest =>
        if digits.isEmpty || 9 < digits.length then none
        else if sign = '.' || sign = ')' then
          itemAt? sign (digits == ['1']) (margin + digits.length + 1) rest
        else none
      | [] => none

def opening? (l : Text) : Option Opening :=
  let margin := indentation l
  let t := l.drop margin
  if 3 < margin then none
  else heading? t <|> rule? t <|> quote? t <|> item? margin t

/-- Whether a line ends the paragraph in front of it. -/
def endsParagraph (l : Text) : Bool :=
  isEmptyLine l ||
    match opening? l with
    | none => false
    | some (.item _ isFirst _ rest) => isFirst && !rest.isEmpty
    | some _ => true

/-- Whether a paragraph is open behind a line. -/
def leavesParagraph (l : Text) : Bool :=
  match opening? l with
  | none => !isEmptyLine l
  | some (.heading ..) => false
  | some .rule => false
  | some (.quote rest) => !isEmptyLine rest
  | some (.item _ _ _ rest) => !isEmptyLine rest

/-! ### Blocks -/

/-- The kind of heading that a line makes of the paragraph above it. -/
def underline? (l : Text) : Option LeafKind :=
  match trimSpaces l with
  | '=' :: t => if t.all (· == '=') then some .header1 else none
  | '-' :: t => if t.all (· == '-') then some .header2 else none
  | _ => none

/-- The lines that go on with a paragraph, the kind it is of, and the lines behind it. -/
def restOfParagraph : List Text → List Text × LeafKind × List Text
  | [] => ([], .text, [])
  | l :: ls =>
    match underline? l with
    | some kind => ([], kind, ls)
    | none =>
      if endsParagraph l then ([], .text, l :: ls)
      else
        let p := restOfParagraph ls
        (l :: p.1, p.2)

/-- The lines that go on with a quote, without their signs, and the lines behind it. -/
def restOfQuote (paragraph : Bool) : List Text → List Text × List Text
  | [] => ([], [])
  | l :: ls =>
    match opening? l with
    | some (.quote t) => let p := restOfQuote (leavesParagraph t) ls; (t :: p.1, p.2)
    | some _ => ([], l :: ls)
    | none =>
      if paragraph && !isEmptyLine l then let p := restOfQuote true ls; (l :: p.1, p.2)
      else ([], l :: ls)

/-- The lines that go on with an item, without its margin, and the lines behind it. -/
def restOfItem (width : Nat) (paragraph : Bool) : List Text → List Text × List Text
  | [] => ([], [])
  | l :: ls =>
    if isEmptyLine l then let p := restOfItem width false ls; ([] :: p.1, p.2)
    else if width ≤ indentation l then
      let t := l.drop width
      let p := restOfItem width (leavesParagraph t) ls
      (t :: p.1, p.2)
    else if paragraph && (opening? l).isNone then
      let p := restOfItem width true ls
      (l :: p.1, p.2)
    else ([], l :: ls)

/-- The items with the same sign, at most `n`, and the lines behind them. -/
def items (sign : Char) : (n : Nat) → List Text → List (List Text) × List Text
  | 0, ls => ([], ls)
  | _, [] => ([], [])
  | n + 1, l :: ls =>
    match opening? l with
    | some (.item other _ width rest) =>
      if other = sign then
        let p := restOfItem width (!rest.isEmpty) ls
        let q := items sign n p.2
        ((rest :: p.1) :: q.1, q.2)
      else ([], l :: ls)
    | _ => ([], l :: ls)

/-- The blocks of lines, in at most `n` steps. -/
def blocksWithin : (n : Nat) → List Text → List Block
  | 0, _ => []
  | _, [] => []
  | n + 1, l :: ls =>
    if isEmptyLine l then blocksWithin n ls
    else
      match opening? l with
      | some (.heading kind t) => .leaf kind (readSpans t) :: blocksWithin n ls
      | some .rule => blocksWithin n ls
      | some (.quote t) =>
        let p := restOfQuote (leavesParagraph t) ls
        .quote (blocksWithin n (t :: p.1)) :: blocksWithin n p.2
      | some (.item sign ..) =>
        let p := items sign n (l :: ls)
        .list (sign == '.' || sign == ')') (p.1.map (blocksWithin n)) :: blocksWithin n p.2
      | none =>
        let p := restOfParagraph ls
        .leaf p.2.1 (readSpans (Text.join [' '] ((l :: p.1).map trimSpaces))) ::
          blocksWithin n p.2.2

def lines (t : Text) : List Text :=
  (t.splitOn '\n').map fun l => if l.getLast? = some '\r' then l.dropLast else l

def read (t : Text) : Document :=
  let ls := lines t
  blocksWithin (t.length + ls.length + 1) ls

end CitationNotes.Markdown
