import CitationNotes.Condition.Line
import CitationNotes.Condition.Substitution

/-!
A condition read from left to right, parentheses and all.

The scan keeps the level that it is in and, for each group that is open, where the group
started and the level around it. A closing parenthesis settles the innermost level, and its
truth word takes the place of the group one level up. A condition whose parentheses do not match
never holds.
-/

namespace CitationNotes.Condition

/-- What is wrong with the parentheses. The place is a byte offset. -/
inductive Fault where
  | unexpectedClose (place : Nat)
  | unclosed (place : Nat)
deriving DecidableEq, Repr

def Fault.message : Fault → Text
  | .unexpectedClose p =>
    "closing parenthesis at ".toList ++ Text.decimal p ++ " has no opening parenthesis".toList
  | .unclosed p => "parenthesis opened at ".toList ++ Text.decimal p ++ " is never closed".toList

structure Scan where
  place : Nat
  line : Text
  outer : List (Nat × Text)
deriving DecidableEq, Repr

namespace Scan

def init : Scan := ⟨0, [], []⟩

def step (s : Scan) (c : Char) : Except Fault Scan :=
  let place := s.place + c.utf8Size
  if c = '(' then .ok ⟨place, [], (s.place, s.line) :: s.outer⟩
  else if c = ')' then
    match s.outer with
    | [] => .error (.unexpectedClose s.place)
    | (_, around) :: outer => .ok ⟨place, around ++ word (lineHolds s.line), outer⟩
  else .ok ⟨place, s.line ++ [c], s.outer⟩

def run (s : Scan) : Text → Except Fault Scan
  | [] => .ok s
  | c :: t => (s.step c).bind fun s => s.run t

@[simp] theorem run_nil (s : Scan) : s.run [] = .ok s := rfl
@[simp] theorem run_cons (s : Scan) (c : Char) (t : Text) :
    s.run (c :: t) = (s.step c).bind fun s => s.run t := rfl

theorem run_append (s : Scan) (t u : Text) :
    s.run (t ++ u) = (s.run t).bind fun s => s.run u := by
  induction t generalizing s with
  | nil => rfl
  | cons c t ih =>
    simp only [List.cons_append, run_cons]
    cases s.step c with
    | error e => rfl
    | ok s => exact ih s

/-- The last level, once no group is open. -/
def finish (s : Scan) : Except Fault Text :=
  match s.outer with
  | [] => .ok s.line
  | (place, _) :: _ => .error (.unclosed place)

/-- The levels that get settled on the way, in that order. -/
def lines (s : Scan) : Text → List Text
  | [] => if s.outer.isEmpty then [s.line] else []
  | c :: t =>
    match s.step c with
    | .error _ => []
    | .ok s' => if c = ')' then s.line :: s'.lines t else s'.lines t

end Scan

/-- The outermost level with every group in it settled. -/
def reduce (expression : Text) : Except Fault Text := (Scan.init.run expression).bind Scan.finish

def evaluate (expression : Text) : Except Fault Bool := (reduce expression).map lineHolds

def evaluateEvents (expression : Text) : List Log.Event :=
  (Scan.init.lines expression).flatMap lineEvents

/-! ### Conditions for given fields -/

def holds (condition : Text) (fields : List Field) : Bool :=
  match evaluate (substitute condition fields) with
  | .ok b => b
  | .error _ => false

def holdsEvents (condition : Text) (fields : List Field) : List Log.Event :=
  let expression := substitute condition fields
  evaluateEvents expression ++
    match evaluate expression with
    | .ok _ => []
    | .error e =>
      [Log.warn "condition could not be evaluated"
        [("condition", condition), ("error", e.message)]]

section Fault

variable {condition : Text} {fields : List Field} {e : Fault}
  (h : evaluate (substitute condition fields) = .error e)

include h

theorem holds_of_evaluate_eq_error : holds condition fields = false := by
  rw [holds, h]

theorem warn_mem_holdsEvents :
    Log.warn "condition could not be evaluated" [("condition", condition), ("error", e.message)] ∈
      holdsEvents condition fields := by
  rw [holdsEvents, h]
  exact List.mem_append_right _ (List.mem_singleton_self _)

end Fault

end CitationNotes.Condition
