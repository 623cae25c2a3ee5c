import CitationNotes.Runs.Normal
import CitationNotes.Text.Decimal
import CitationNotes.Text.Search

/-!
Spans, the styled text of documents.

A span has a style, text of its own, and spans inside it that come after that text. A link to
a footnote is a marker, whatever it holds; of the other styles, runs know bold and italic.
-/

namespace CitationNotes

inductive Style where
  | none
  | bold
  | italic
  | highlight
  | underline
  | strike
  | link
  | code
deriving DecidableEq, Repr

inductive Span where
  | mk (style : Style) (text : Text) (target : Option Text) (children : List Span)
deriving Repr

instance : Inhabited Span := ⟨.mk .none [] none []⟩

namespace Span

def styled (style : Style) (t : Text) : Span := ⟨style, t, none, []⟩

def plain (t : Text) : Span := styled .none t

/-- What the target of a link to a footnote starts with. -/
def footnoteTarget : Text := "#footnote-".toList

/-- What a reader sees of a marker. -/
def glyph (id : FootnoteId) : Text := '[' :: Text.decimal id.toNat ++ [']']

def target (id : FootnoteId) : Text := footnoteTarget ++ Text.decimal id.toNat

def marker (id : FootnoteId) : Span := ⟨.link, glyph id, some (target id), []⟩

/-- The footnote that a target leads to. -/
def footnoteOf? (target : Text) : Option FootnoteId :=
  match Text.after? footnoteTarget target with
  | none => none
  | some digits =>
    match Text.readDecimal 4294967295 digits with
    | .ok n => some (UInt32.ofNat n)
    | .error _ => none

/-- The footnote that a span is the marker of. -/
def footnote? : Span → Option FootnoteId
  | ⟨.link, _, some target, _⟩ => footnoteOf? target
  | _ => none

mutual

/-- The runs of a span inside others, which are bold or italic or neither. -/
def runs (bold italic : Bool) (s : Span) : Runs :=
  match s with
  | ⟨style, text, target, children⟩ =>
    match footnote? ⟨style, text, target, []⟩ with
    | some id => [.footnote id]
    | none =>
      let bold := bold || style == .bold
      let italic := italic || style == .italic
      (if text.isEmpty then [] else [.styled text bold italic]) ++ runsList bold italic children

def runsList (bold italic : Bool) : List Span → Runs
  | [] => []
  | s :: ss => s.runs bold italic ++ runsList bold italic ss

end

/-- The span of a fragment. Bold italic is italic inside bold. -/
def ofFragment (f : Fragment) : Span :=
  match f.marker, f.bold, f.italic with
  | some id, _, _ => marker id
  | none, false, false => plain f.text
  | none, true, false => styled .bold f.text
  | none, false, true => styled .italic f.text
  | none, true, true => ⟨.bold, [], none, [styled .italic f.text]⟩

mutual

/-- All text of a span in reading order, markers and links included. -/
def literal : Span → Text
  | ⟨_, text, _, children⟩ => text ++ literalList children

def literalList : List Span → Text
  | [] => []
  | s :: ss => s.literal ++ literalList ss

end

theorem footnoteOf?_target (id : FootnoteId) : footnoteOf? (target id) = some id := by
  have h : id.toNat ≤ 4294967295 := Nat.le_of_lt_succ id.toNat_lt
  simp [footnoteOf?, target, Text.readDecimal_decimal h]

end Span

/-- The runs of a paragraph's spans. -/
def Runs.ofSpans (ss : List Span) : Runs := Span.runsList false false ss

/-- The spans of a paragraph, one for each fragment that shows anything. -/
def Runs.spans (r : Runs) : List Span :=
  (r.filter Fragment.isVisible).map Span.ofFragment

end CitationNotes
