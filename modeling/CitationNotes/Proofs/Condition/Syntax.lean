import Mathlib.Data.List.Chain
import CitationNotes.Condition.Line
import CitationNotes.Template.Field

/-!
The grammar of conditions.

A condition is one or more atoms with a plus sign or a bar between neighbours; an atom is a
name, a negated name, or a condition in parentheses. A condition is written as its lexemes in
order, and no two names in it are neighbours.
-/

namespace CitationNotes.Condition

inductive Operator where
  | and
  | or
deriving DecidableEq, Repr

def Operator.char : Operator → Char
  | and => '+'
  | or => '|'

mutual

inductive Atom where
  | name (negated : Bool) (n : Text)
  | group (e : Expr)

inductive Expr where
  | atom (a : Atom)
  | join (a : Atom) (op : Operator) (e : Expr)

end

/-! ### How a condition is written -/

inductive Lexeme where
  | name (negated : Bool) (n : Text)
  | operator (op : Operator)
  | opening
  | closing
deriving DecidableEq, Repr

namespace Lexeme

def text : Lexeme → Text
  | name false n => n
  | name true n => '!' :: n
  | operator op => [op.char]
  | opening => ['(']
  | closing => [')']

def isName : Lexeme → Bool
  | name .. => true
  | _ => false

end Lexeme

mutual

def Atom.lexemes : Atom → List Lexeme
  | .name negated n => [.name negated n]
  | .group e => .opening :: (e.lexemes ++ [.closing])

def Expr.lexemes : Expr → List Lexeme
  | .atom a => a.lexemes
  | .join a op e => a.lexemes ++ .operator op :: e.lexemes

end

def textOf (ls : List Lexeme) : Text := ls.flatMap Lexeme.text

@[simp] lemma textOf_nil : textOf [] = [] := rfl
@[simp] lemma textOf_cons (l : Lexeme) (ls : List Lexeme) :
    textOf (l :: ls) = l.text ++ textOf ls := rfl
@[simp] lemma textOf_append (ls ms : List Lexeme) :
    textOf (ls ++ ms) = textOf ls ++ textOf ms := by
  simp [textOf]

namespace Expr

def text (e : Expr) : Text := textOf e.lexemes

/-- The names that occur in a condition, negated or not. -/
def names (e : Expr) : List Text :=
  e.lexemes.filterMap fun
    | .name _ n => some n
    | _ => none

lemma mem_names {e : Expr} {negated : Bool} {n : Text} (h : .name negated n ∈ e.lexemes) :
    n ∈ e.names :=
  List.mem_filterMap.2 ⟨_, h, rfl⟩

lemma exists_mem_lexemes {e : Expr} {n : Text} (h : n ∈ e.names) :
    ∃ negated, .name negated n ∈ e.lexemes := by
  obtain ⟨l, hl, hn⟩ := List.mem_filterMap.1 h
  cases l with
  | name negated m =>
    cases hn
    exact ⟨negated, hl⟩
  | operator | opening | closing => cases hn

end Expr

/-- The characters that a name has to do without to stay in one piece. -/
def isMark (c : Char) : Bool := c == '+' || c == '|' || c == '(' || c == ')'

lemma isMark_of_fault?_eq_none {n : Text} (h : FieldName.fault? n = none) :
    ∀ c ∈ n, isMark c = false := by
  intro c hc
  have hr := (FieldName.fault?_eq_none_iff.1 h).2.1 c hc
  simp only [FieldName.reserved, List.mem_cons, List.not_mem_nil, or_false, not_or] at hr
  simp [isMark, hr]

lemma Lexeme.exists_text_eq {l : Lexeme} (h : l.isName = false) :
    ∃ c, l.text = [c] ∧ isMark c = true := by
  cases l with
  | name => cases h
  | operator op => cases op <;> exact ⟨_, rfl, rfl⟩
  | opening => exact ⟨_, rfl, rfl⟩
  | closing => exact ⟨_, rfl, rfl⟩

/-- Of two neighbours, one is no name. -/
def Spaced (ls : List Lexeme) : Prop :=
  ls.IsChain fun l m => l.isName = false ∨ m.isName = false

lemma Spaced.append {ls ms : List Lexeme} {m : Lexeme} (hm : m.isName = false) (hl : Spaced ls)
    (hms : Spaced ms) : Spaced (ls ++ m :: ms) := by
  refine List.isChain_append.2 ⟨hl, List.isChain_cons.2 ⟨fun b _ => .inl hm, hms⟩, ?_⟩
  intro l _ b hb
  obtain rfl : m = b := by simpa using hb
  exact .inr hm

mutual

lemma Atom.spaced : ∀ a : Atom, Spaced a.lexemes
  | .name .. => List.isChain_singleton _
  | .group e => by
    have h : Spaced (e.lexemes ++ [.closing]) := e.spaced.append rfl List.isChain_nil
    exact List.isChain_cons.2 ⟨fun _ _ => .inl rfl, h⟩

lemma Expr.spaced : ∀ e : Expr, Spaced e.lexemes
  | .atom a => a.spaced
  | .join a _ e => a.spaced.append rfl e.spaced

end

/-! ### What a condition says -/

/-- Whether the field called `n`, of several the first, has any text. -/
def filled (fields : List Field) (n : Text) : Bool :=
  (Field.named? fields n).any Field.isFilled

/-- The value of a level: a conjunction or a disjunction, and false if both operators meet. -/
def combine (ops : List Operator) (values : List Bool) : Bool :=
  if .or ∉ ops then values.all id
  else if .and ∉ ops then values.any id
  else false

/-- The operators of the outermost level. -/
def Expr.operators : Expr → List Operator
  | .atom _ => []
  | .join _ op e => op :: e.operators

mutual

def Atom.value (fields : List Field) : Atom → Bool
  | .name negated n => negated != filled fields n
  | .group e => combine e.operators (e.values fields)

/-- The values of the atoms of the outermost level. -/
def Expr.values (fields : List Field) : Expr → List Bool
  | .atom a => [a.value fields]
  | .join a _ e => a.value fields :: e.values fields

end

def Expr.value (fields : List Field) (e : Expr) : Bool := combine e.operators (e.values fields)

end CitationNotes.Condition
