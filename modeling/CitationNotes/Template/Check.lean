import CitationNotes.Text.Basic

/-!
The check that a template has to pass.

Braces must come in pairs and must not nest. Parentheses count in the condition of a
placeholder only, that is up to its first colon; how many are open is carried over from one
placeholder to the next, and at any colon none may be.
-/

namespace CitationNotes.Template

inductive Fault where
  | unmatchedClosingParen
  | unclosedParenBeforeSeparator
  | nestedBraces
  | unmatchedClosingBrace
deriving DecidableEq, Repr

def Fault.message : Fault → Text
  | .unmatchedClosingParen => "used closing parenthesis without opening parenthesis".toList
  | .unclosedParenBeforeSeparator =>
    "parenthesis left open before the condition separator".toList
  | .nestedBraces => "curly brackets inside curly brackets".toList
  | .unmatchedClosingBrace => "too many closing curly brackets".toList

/-- The part of the template that a character belongs to. -/
inductive Part where
  | outside
  | condition
  | output
deriving DecidableEq, Repr

/-- The part being read, and how many counted parentheses are open. -/
structure Check where
  part : Part
  parens : Nat
deriving DecidableEq, Repr

namespace Check

def init : Check := ⟨.outside, 0⟩

/-- The part behind a colon. -/
def afterColon : Part → Part
  | .outside => .outside
  | _ => .output

def step (s : Check) (c : Char) : Except Fault Check :=
  match c with
  | '{' => if s.part = .outside then .ok ⟨.condition, s.parens⟩ else .error .nestedBraces
  | '}' => if s.part = .outside then .error .unmatchedClosingBrace else .ok ⟨.outside, s.parens⟩
  | ':' =>
    if s.parens = 0 then .ok ⟨afterColon s.part, 0⟩ else .error .unclosedParenBeforeSeparator
  | '(' => .ok ⟨s.part, if s.part = .condition then s.parens + 1 else s.parens⟩
  | ')' =>
    if s.part = .condition then
      if s.parens = 0 then .error .unmatchedClosingParen else .ok ⟨.condition, s.parens - 1⟩
    else .ok s
  | _ => .ok s

def run (s : Check) : Text → Except Fault Check
  | [] => .ok s
  | c :: t => (s.step c).bind fun s => s.run t

@[simp] theorem run_nil (s : Check) : s.run [] = .ok s := rfl
@[simp] theorem run_cons (s : Check) (c : Char) (t : Text) :
    s.run (c :: t) = (s.step c).bind fun s => s.run t := rfl

theorem run_append (s : Check) (t u : Text) :
    s.run (t ++ u) = (s.run t).bind fun s => s.run u := by
  induction t generalizing s with
  | nil => rfl
  | cons c t ih =>
    simp only [List.cons_append, run_cons]
    cases s.step c with
    | error e => rfl
    | ok s => exact ih s

end Check

/-- The first fault of a template. -/
def fault? (template : Text) : Option Fault :=
  match Check.init.run template with
  | .ok _ => none
  | .error e => some e

end CitationNotes.Template
