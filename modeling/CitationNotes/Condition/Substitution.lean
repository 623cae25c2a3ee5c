import CitationNotes.Stable
import CitationNotes.Template.Field
import CitationNotes.Text.Search

/-!
Names in a condition give way to truth words.

The condition is cut into stretches. A stretch that has been resolved remembers what it was
cut from and is never searched again; the fields take turns with the longest name first, so
that a name inside another one finds nothing left of it. Fields of equal length keep their
order.
-/

namespace CitationNotes.Condition

/-- A consecutive part of a condition: text as it was written, or a name, negated or not, and
the truth value that it got. -/
inductive Stretch where
  | kept (t : Text)
  | resolved (atom : Text) (holds : Bool)
deriving DecidableEq, Repr

namespace Stretch

/-- The part of the condition that the stretch was cut from. -/
def source : Stretch → Text
  | kept t => t
  | resolved atom _ => atom

def output : Stretch → Text
  | kept t => t
  | resolved _ holds => word holds

end Stretch

/-- At most `n` occurrences of `atom` resolved, taken from the left. -/
def resolveUpTo (atom : Text) (holds : Bool) : Nat → Text → List Stretch
  | 0, t => [.kept t]
  | n + 1, t =>
    match Text.cut? atom t with
    | none => [.kept t]
    | some (a, b) => .kept a :: .resolved atom holds :: resolveUpTo atom holds n b

/-- Every occurrence of `atom` resolved. A text has no more of them than characters. -/
def resolveText (atom : Text) (holds : Bool) (t : Text) : List Stretch :=
  resolveUpTo atom holds t.length t

def resolve (atom : Text) (holds : Bool) : Stretch → List Stretch
  | .kept t => resolveText atom holds t
  | s => [s]

/-- One field's turn: the negated name before the name itself. -/
def resolveField (f : Field) (ss : List Stretch) : List Stretch :=
  (ss.flatMap (resolve ('!' :: f.name) !f.isFilled)).flatMap (resolve f.name f.isFilled)

/-- The fields in the order of their turns. Nothing is called by an empty name. -/
def turns (fields : List Field) : List Field :=
  stableSort (fun f g => g.name.length ≤ f.name.length) (fields.filter fun f => !f.name.isEmpty)

def stretches (condition : Text) (fields : List Field) : List Stretch :=
  (turns fields).foldl (fun ss f => resolveField f ss) [.kept condition]

def substitute (condition : Text) (fields : List Field) : Text :=
  (stretches condition fields).flatMap Stretch.output

/-! ### Nothing of the condition is lost -/

theorem source_resolveUpTo (atom : Text) (holds : Bool) (n : Nat) (t : Text) :
    (resolveUpTo atom holds n t).flatMap Stretch.source = t := by
  induction n generalizing t with
  | zero => simp [resolveUpTo, Stretch.source]
  | succ n ih =>
    rw [resolveUpTo]
    split
    · simp [Stretch.source]
    · next h =>
      rw [Text.eq_of_cut? h]
      simp [Stretch.source, ih]

theorem source_resolve (atom : Text) (holds : Bool) (s : Stretch) :
    (resolve atom holds s).flatMap Stretch.source = s.source := by
  cases s with
  | kept t => exact source_resolveUpTo atom holds _ t
  | resolved a b => simp [resolve]

theorem source_resolveField (f : Field) (ss : List Stretch) :
    (resolveField f ss).flatMap Stretch.source = ss.flatMap Stretch.source := by
  have h (atom : Text) (holds : Bool) (ss : List Stretch) :
      (ss.flatMap (resolve atom holds)).flatMap Stretch.source = ss.flatMap Stretch.source := by
    rw [List.flatMap_assoc]
    simp only [source_resolve]
  rw [resolveField, h, h]

theorem source_stretches (condition : Text) (fields : List Field) :
    (stretches condition fields).flatMap Stretch.source = condition := by
  have h (fs : List Field) (ss : List Stretch) :
      (fs.foldl (fun ss f => resolveField f ss) ss).flatMap Stretch.source =
        ss.flatMap Stretch.source := by
    induction fs generalizing ss with
    | nil => rfl
    | cons f fs ih => simp [ih, source_resolveField]
  simp [stretches, h, Stretch.source]

end CitationNotes.Condition
