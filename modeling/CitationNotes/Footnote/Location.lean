import CitationNotes.Runs.Basic

/-!
Positions in a list of paragraphs.

A position counts the characters in front of it, one line end between neighbouring paragraphs
included; markers have no width. A position where two fragments meet belongs to the earlier
one, and a paragraph without fragments has its start for its only place.
-/

namespace CitationNotes

abbrev Paragraphs := List Runs

namespace Paragraphs

def text (ps : Paragraphs) : Text := Text.join ['\n'] (ps.map Runs.text)

def textLength : Paragraphs → Nat
  | [] => 0
  | [r] => r.textLength
  | r :: s :: ps => r.textLength + 1 + textLength (s :: ps)

def markers (ps : Paragraphs) : List FootnoteId := ps.flatMap Runs.markers

@[simp] theorem text_nil : text [] = [] := rfl
@[simp] theorem textLength_nil : textLength [] = 0 := rfl

theorem length_text (ps : Paragraphs) : (text ps).length = textLength ps := by
  induction ps with
  | nil => rfl
  | cons r ps ih =>
    cases ps with
    | nil => simp [text, textLength, Runs.length_text]
    | cons s ps =>
      simp only [text, textLength, List.map_cons, Text.join_cons_cons] at ih ⊢
      simp only [List.length_append, ih, Runs.length_text, List.length_singleton]

end Paragraphs

/-- A place between two characters: a fragment of a paragraph and the characters of it in front
of the place. -/
structure Location where
  paragraph : Nat
  fragment : Nat
  offset : Nat
deriving DecidableEq, Repr

/-- The fragment that reaches up to `position`, and the characters of it in front. -/
def Runs.fragmentAt? : Runs → Nat → Option (Nat × Nat)
  | [], _ => none
  | f :: r, position =>
    if position ≤ f.length then some (0, position)
    else (fragmentAt? r (position - f.length)).map fun p => (p.1 + 1, p.2)

/-- The place of `position` in one paragraph. -/
def Runs.placeAt? (r : Runs) (position : Nat) : Option (Nat × Nat) :=
  if r.isEmpty && position == 0 then some (0, 0) else r.fragmentAt? position

def Paragraphs.locate? : Paragraphs → Nat → Option Location
  | [], _ => none
  | r :: ps, position =>
    match r.placeAt? position with
    | some (fragment, offset) => some ⟨0, fragment, offset⟩
    | none =>
      (locate? ps (position - (r.textLength + 1))).map fun l =>
        { l with paragraph := l.paragraph + 1 }

theorem Runs.fragmentAt?_eq_none_iff {r : Runs} {position : Nat} :
    r.fragmentAt? position = none ↔ r = [] ∨ r.textLength < position := by
  induction r generalizing position with
  | nil => simp [fragmentAt?]
  | cons f r ih =>
    by_cases h : position ≤ f.length
    · simp only [fragmentAt?, if_pos h, textLength_cons]
      simp
      omega
    · simp only [fragmentAt?, if_neg h, Option.map_eq_none_iff, ih, textLength_cons]
      constructor
      · rintro (rfl | h') <;> right <;> simp at * <;> omega
      · rintro (h' | h')
        · cases h'
        · right; omega

/-- A paragraph has a place for each position up to its length. -/
theorem Runs.placeAt?_eq_none_iff {r : Runs} {position : Nat} :
    r.placeAt? position = none ↔ r.textLength < position := by
  cases r with
  | nil => cases position <;> simp [placeAt?, fragmentAt?]
  | cons f r => simp [placeAt?, Runs.fragmentAt?_eq_none_iff]

end CitationNotes
