import CitationNotes.Document.Basic
import CitationNotes.Markup.Entity
import CitationNotes.Markup.Space

/-!
Documents as tagged text.

Paragraphs, lists and quotes are elements, and text stands in paragraphs only. White space
between tags is no text, but in an inline element. Such an element is read as a span that has what
it encloses for its children; this span is written with its tags again, and one that holds its
text itself is written as that text, links apart.
-/

namespace CitationNotes.Ftml

open Markup

inductive Token where
  | opening (name : Text) (target : Option Text)
  | closing (name : Text)
  | text (t : Text)
deriving DecidableEq, Repr

/-- Why a text is no document. -/
inductive Fault where
  | unexpectedText (t : Text)
  | unexpectedTag (name : Text)
  | unclosed (name : Text)
deriving DecidableEq, Repr

def Fault.message : Fault → Text
  | .unexpectedText t => "Unexpected text content: ".toList ++ t
  | .unexpectedTag name => "Unexpected tag: ".toList ++ name
  | .unclosed name => "Unclosed tag: ".toList ++ name

/-! ### Tokens -/

/-- The value between the quotes behind `href=`. -/
def target? (tag : Text) : Option Text :=
  match Text.cut? "href=".toList tag with
  | some (_, quote :: t) => (Text.cutAt? quote t).map Prod.fst
  | _ => none

/-- The token of what stands between angle brackets. -/
def tagToken (tag : Text) : Token :=
  match tag with
  | '/' :: name => .closing (Text.trim name)
  | _ => .opening (tag.takeWhile Char.isAlphanum) (target? tag)

/-- At most `n` tokens. -/
def tokens : Nat → Text → List Token
  | 0, _ => []
  | _, [] => []
  | n + 1, c :: t =>
    match if c = '<' then Text.cutAt? '>' t else none with
    | some (tag, rest) => tagToken tag :: tokens n rest
    | none =>
      .text (c :: t.takeWhile (· != '<')) :: tokens n (t.dropWhile (· != '<'))

/-! ### Elements -/

def leafTags : List (Text × LeafKind) :=
  [("p".toList, .text), ("h1".toList, .header1), ("h2".toList, .header2),
    ("h3".toList, .header3), ("pre".toList, .code)]

def styleTags : List (Text × Style) :=
  [("b".toList, .bold), ("i".toList, .italic), ("mark".toList, .highlight),
    ("u".toList, .underline), ("s".toList, .strike), ("code".toList, .code),
    ("a".toList, .link)]

/-- The text of a span of a paragraph. It has no blanks at the ends of the paragraph, where names
of characters are still names. -/
def spanText (first last : Bool) (t : Text) : Text :=
  let t := collapse t
  let t := if first then Text.trimStart t else t
  unescape (if last then Text.trimEnd t else t)

def endsElement : List Token → Bool
  | .closing _ :: _ => true
  | _ => false

/-- The spans up to the closing tag `name`: of a paragraph if `outer`, with none in front if
`first`. The text of an inline element stands as it is. -/
def spans? (name : Text) (outer : Bool) :
    Nat → (first : Bool) → List Token → Except Fault (List Span × List Token)
  | 0, _, _ => .error (.unclosed name)
  | _, _, [] => .error (.unclosed name)
  | _ + 1, _, .closing other :: ts =>
    if other = name then .ok ([], ts) else .error (.unexpectedTag other)
  | n + 1, first, .text t :: ts =>
    if !outer then (spans? name outer n false ts).map fun p => (.plain (unescape t) :: p.1, p.2)
    else if t.all Text.isBlank then spans? name outer n first ts
    else
      (spans? name outer n false ts).map fun p =>
        (.plain (spanText first (endsElement ts) t) :: p.1, p.2)
  | n + 1, _, .opening tag target :: ts =>
    match styleTags.lookup tag with
    | none => .error (.unexpectedTag tag)
    | some style =>
      (spans? tag false n true ts).bind fun inner =>
        (spans? name outer n false inner.2).map fun p => (⟨style, [], target, inner.1⟩ :: p.1, p.2)

mutual

/-- The blocks up to the closing tag `name`, or to the end. -/
def blocks? (name : Option Text) : Nat → List Token → Except Fault (List Block × List Token)
  | 0, _ => .error (.unclosed (name.getD []))
  | _ + 1, [] =>
    match name with
    | none => .ok ([], [])
    | some name => .error (.unclosed name)
  | _ + 1, .closing other :: ts =>
    if name = some other then .ok ([], ts) else .error (.unexpectedTag other)
  | n + 1, .text t :: ts =>
    if t.all Text.isBlank then blocks? name n ts else .error (.unexpectedText (Text.trim t))
  | n + 1, .opening tag _ :: ts =>
    (block? tag n ts).bind fun b =>
      (blocks? name n b.2).map fun p => (b.1 :: p.1, p.2)

/-- The block of an opening tag. -/
def block? (tag : Text) : Nat → List Token → Except Fault (Block × List Token)
  | 0, _ => .error (.unclosed tag)
  | n + 1, ts =>
    match leafTags.lookup tag with
    | some kind => (spans? tag true n true ts).map fun p => (.leaf kind p.1, p.2)
    | none =>
      if tag = "ul".toList then (entries? tag n ts).map fun p => (.list false p.1, p.2)
      else if tag = "ol".toList then (entries? tag n ts).map fun p => (.list true p.1, p.2)
      else if tag = "blockquote".toList then
        (blocks? (some tag) n ts).map fun p => (.quote p.1, p.2)
      else .error (.unexpectedTag tag)

/-- The entries of a list up to the closing tag `name`. -/
def entries? (name : Text) : Nat → List Token → Except Fault (List (List Block) × List Token)
  | 0, _ => .error (.unclosed name)
  | _ + 1, [] => .error (.unclosed name)
  | _ + 1, .closing other :: ts =>
    if other = name then .ok ([], ts) else .error (.unexpectedTag other)
  | n + 1, .text t :: ts =>
    if t.all Text.isBlank then entries? name n ts else .error (.unexpectedText (Text.trim t))
  | n + 1, .opening tag _ :: ts =>
    if tag = "li".toList then
      (blocks? (some tag) n ts).bind fun e =>
        (entries? name n e.2).map fun p => (e.1 :: p.1, p.2)
    else .error (.unexpectedTag tag)

end

def read (t : Text) : Except Fault Document :=
  let ts := tokens t.length t
  (blocks? none (3 * ts.length + 3) ts).map Prod.fst

/-! ### Writing -/

def escapeChar (c : Char) : Text := if c = '<' then "&lt;".toList else [c]

def escapeTarget (t : Text) : Text := t.flatMap fun c => if c = '"' then "&quot;".toList else [c]

def openTag (name : Text) : Text := '<' :: name ++ ['>']

def closeTag (name : Text) : Text := '<' :: '/' :: name ++ ['>']

def enclose (name inner : Text) : Text := openTag name ++ inner ++ closeTag name

def linked (target inner : Text) : Text :=
  "<a href=\"".toList ++ escapeTarget target ++ "\">".toList ++ inner ++ closeTag ['a']

def styleTag? (s : Style) : Option Text := (styleTags.find? fun e => e.2 == s).map Prod.fst

mutual

/-- A span, which is the first of its paragraph, the last, neither or both. A link that shows
nothing shows its target. -/
def span (first last : Bool) : Span → Text
  | ⟨style, text, target, children⟩ =>
    let target := target.getD []
    let isBare := text.isEmpty && children.isEmpty
    let shown := if style == .link && isBare then target else text
    let inner :=
      keepBlanks escapeChar (last && children.isEmpty) first shown ++
        spans (first && text.isEmpty) last children
    match style, styleTag? style, children with
    | .link, _, _ => linked target inner
    | _, some name, _ :: _ => enclose name inner
    | _, _, _ => inner

def spans (first last : Bool) : List Span → Text
  | [] => []
  | s :: ss => span first (last && ss.isEmpty) s ++ spans false last ss

end

def content (ss : List Span) : Text := spans true true ss

def indent (lines : List Text) : List Text := lines.map fun l => ' ' :: ' ' :: l

/-- An element over several lines. -/
def tall (name : Text) (lines : List Text) : List Text :=
  openTag name :: indent lines ++ [closeTag name]

def leafTag : LeafKind → Text
  | .text => "p".toList
  | .header1 => "h1".toList
  | .header2 => "h2".toList
  | .header3 => "h3".toList
  | .code => "pre".toList

def checkbox (checked : Bool) : Text :=
  if checked then "<input type=\"checkbox\" checked />".toList
  else "<input type=\"checkbox\" />".toList

mutual

def itemLines : CheckItem → List Text
  | ⟨checked, content, children⟩ =>
    tall "li".toList ((checkbox checked ++ Ftml.content content) :: itemsLines children)

def itemsLines : List CheckItem → List Text
  | [] => []
  | i :: is => itemLines i ++ itemsLines is

end

mutual

def blockLines : Block → List Text
  | .leaf kind content => [enclose (leafTag kind) (Ftml.content content)]
  | .list ordered entries =>
    tall (if ordered then "ol".toList else "ul".toList) (entryLines entries)
  | .checklist items => tall "ul".toList (itemsLines items)
  | .quote children => tall "blockquote".toList (blocksLines children)

def blocksLines : List Block → List Text
  | [] => []
  | b :: bs => blockLines b ++ blocksLines bs

def entryLines : List (List Block) → List Text
  | [] => []
  | e :: es => tall "li".toList (blocksLines e) ++ entryLines es

end

/-- The blocks with an empty line between neighbours. -/
def write (d : Document) : Text :=
  Text.join "\n\n".toList (d.map fun b => Text.join ['\n'] (blockLines b)) ++ ['\n']

end CitationNotes.Ftml
