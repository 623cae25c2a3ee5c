import CitationNotes.Document.Span
import CitationNotes.Markup.Markdown.Piece

/-!
Bold and italic text between runs of stars or underscores.

A run that closes takes as its partner the nearest open run of the same signs. Two signs on both
sides make what is between them bold, one makes it italic, and what is left of the runs goes on
looking for partners. Signs without a partner are text.
-/

namespace CitationNotes.Markdown

/-- A run of signs that waits for a partner, and the spans behind it. -/
structure Opened where
  sign : Char
  left : Nat
  whole : Nat
  closes : Bool
  inner : List Span
deriving Repr

/-- The spans in front of all open runs, and these runs, the last one first. -/
structure Reading where
  spans : List Span
  opened : List Opened
deriving Repr

namespace Opened

def asText (o : Opened) : Span := .plain (List.replicate o.left o.sign)

/-- Whether a closing run can be the partner. Two runs of which one can do both must not add up
to a multiple of three, if they are not both such multiples. -/
def isPartner (o : Opened) (sign : Char) (whole : Nat) (opens : Bool) : Bool :=
  o.sign = sign &&
    (!(o.closes || opens) || (o.whole + whole) % 3 != 0 ||
      (o.whole % 3 == 0 && whole % 3 == 0))

/-- The nearest partner, the spans behind it, and the runs around it. -/
def partner? (sign : Char) (whole : Nat) (opens : Bool) (behind : List Span) :
    List Opened → Option (Opened × List Span × List Opened)
  | [] => none
  | o :: os =>
    if o.isPartner sign whole opens then some (o, o.inner ++ behind, os)
    else partner? sign whole opens (o.asText :: o.inner ++ behind) os

end Opened

/-- Neighbouring plain texts as one. -/
def joinPlain : List Span → List Span
  | [] => []
  | s :: ss =>
    match s, joinPlain ss with
    | ⟨.none, t, none, []⟩, ⟨.none, u, none, []⟩ :: ss => .plain (t ++ u) :: ss
    | s, ss => s :: ss

namespace Reading

def init : Reading := ⟨[], []⟩

def add (r : Reading) (s : Span) : Reading :=
  match r.opened with
  | [] => { r with spans := r.spans ++ [s] }
  | o :: os => { r with opened := { o with inner := o.inner ++ [s] } :: os }

/-- Closes what `count` signs of a run can close, in at most `n` steps, and tells how many signs
are left. -/
def close (sign : Char) (whole : Nat) (opens : Bool) :
    (n count : Nat) → Reading → Nat × Reading
  | 0, count, r => (count, r)
  | _, 0, r => (0, r)
  | n + 1, count, r =>
    match Opened.partner? sign whole opens [] r.opened with
    | none => (count, r)
    | some (o, inner, os) =>
      let used := if 2 ≤ o.left && 2 ≤ count then 2 else 1
      let s : Span := ⟨if used = 2 then .bold else .italic, [], none, joinPlain inner⟩
      let r : Reading :=
        if o.left = used then { r with opened := os }.add s
        else { r with opened := { o with left := o.left - used, inner := [s] } :: os }
      close sign whole opens n (count - used) r

/-- One more piece. The labels of links are texts of their own. -/
def step (label : Text → List Span) (r : Reading) : Piece → Reading
  | .text t => r.add (.plain t)
  | .code t => r.add (.styled .code t)
  | .link l target => r.add ⟨.link, [], some target, label l⟩
  | .signs sign count opens closes =>
    let (left, r) := if closes then r.close sign count opens count count else (count, r)
    if left = 0 then r
    else if opens then { r with opened := ⟨sign, left, count, closes, []⟩ :: r.opened }
    else r.add (.plain (List.replicate left sign))

/-- All spans, the open runs being text. -/
def finish (r : Reading) : List Span :=
  joinPlain <|
    r.spans ++ r.opened.foldl (fun behind o => o.asText :: o.inner ++ behind) []

end Reading

/-- The spans of a text between two characters, with links in links up to the depth `n`. -/
def spansWithin : (n : Nat) → (before stop : Char) → Text → List Span
  | 0, _, _, t => [.plain t]
  | n + 1, before, stop, t =>
    ((pieces before stop t).foldl (Reading.step (spansWithin n '[' ']')) .init).finish

/-- The spans of a text that has lines for itself. -/
def readSpans (t : Text) : List Span := spansWithin (t.length + 1) '\n' '\n' t

end CitationNotes.Markdown
