import CitationNotes.Document.Basic
import CitationNotes.Markup.Space

/-!
Documents written as Markdown.

Signs that could mean something get a backslash in front, also where they mean nothing, and
blanks that a reader would lose are written by name.
-/

namespace CitationNotes.Markdown

open Markup

/-- The characters that a backslash goes in front of. -/
def special : List Char :=
  ['\\', '\x60', '*', '_', '\x7b', '\x7d', '[', ']', '(', ')', '#', '+', '-', '!', '|']

def escapeChar (c : Char) : Text :=
  match c with
  | '&' => "&amp;".toList
  | '<' => "&lt;".toList
  | '>' => "&gt;".toList
  | c => if special.contains c then ['\\', c] else [c]

mutual

/-- A span, which is the first of its paragraph, the last, neither or both. A link that shows
nothing shows its target. -/
def span (first last : Bool) : Span → Text
  | ⟨style, text, target, children⟩ =>
    let target := target.getD []
    let isBare := text.isEmpty && children.isEmpty
    let shown := if style == .link && isBare then target else text
    let inner :=
      keepBlanks escapeChar (last && children.isEmpty) first shown ++
        spans (first && text.isEmpty) last children
    match style with
    | .bold => "**".toList ++ inner ++ "**".toList
    | .italic => "_".toList ++ inner ++ "_".toList
    | .strike => "~~".toList ++ inner ++ "~~".toList
    | .code => "`".toList ++ text ++ Span.literalList children ++ "`".toList
    | .link => '[' :: inner ++ "](".toList ++ target ++ [')']
    | _ => inner

def spans (first last : Bool) : List Span → Text
  | [] => []
  | s :: ss => span first (last && ss.isEmpty) s ++ spans false last ss

end

def content (ss : List Span) : Text := spans true true ss

/-- What the first line of a block starts with, and the others below it. -/
def hang (first rest : Text) : List Text → List Text
  | [] => [first]
  | l :: ls => (first ++ l) :: ls.map fun l => if l.isEmpty then [] else rest ++ l

def leafLines (kind : LeafKind) (content : List Span) : List Text :=
  let t := Markdown.content content
  match kind with
  | .text => [t]
  | .header1 => ["# ".toList ++ t]
  | .header2 => ["## ".toList ++ t]
  | .header3 => ["### ".toList ++ t]
  | .code => ["```".toList, t, "```".toList]

mutual

def itemLines : CheckItem → List Text
  | ⟨checked, content, children⟩ =>
    ((if checked then "- [x] ".toList else "- [ ] ".toList) ++ Markdown.content content) ::
      (itemsLines children).map fun l => "  ".toList ++ l

def itemsLines : List CheckItem → List Text
  | [] => []
  | i :: is => itemLines i ++ itemsLines is

end

mutual

def blockLines : Block → List Text
  | .leaf kind content => leafLines kind content
  | .list ordered entries => entryLines ordered 1 entries
  | .checklist items => itemsLines items
  | .quote children => (blocksLines children).map fun l => "> ".toList ++ l

def blocksLines : List Block → List Text
  | [] => []
  | b :: bs =>
    match blocksLines bs with
    | [] => blockLines b
    | ls => blockLines b ++ [] :: ls

def entryLines (ordered : Bool) (number : Nat) : List (List Block) → List Text
  | [] => []
  | e :: es =>
    let sign := if ordered then Text.decimal number ++ ". ".toList else "- ".toList
    hang sign (sign.map fun _ => ' ') (blocksLines e) ++ entryLines ordered (number + 1) es

end

def write (d : Document) : Text := Text.join ['\n'] (blocksLines d) ++ ['\n']

end CitationNotes.Markdown
