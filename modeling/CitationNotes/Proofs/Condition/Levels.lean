import Mathlib.Tactic.Lemma
import CitationNotes.Proofs.Condition.Stack
import CitationNotes.Proofs.Condition.Syntax

/-!
The value of a condition, whatever its names have given way to.

Each name, negated or not, is written as some term without marks. Reading an atom appends one term
to the level that is being read, a truth word where the atom is a group; so a level ends up as the
terms of its atoms between its operators, and it has the value that its operators make of them.
-/

namespace CitationNotes.Condition

open Text

/-! ### Terms for names -/

/-- A lexeme with what `sub` puts in the place of a name. -/
def Lexeme.write (sub : Bool → Text → Text) : Lexeme → Text
  | name negated n => sub negated n
  | l => l.text

mutual

/-- The value of an atom, for any values of the names in it. -/
def Atom.valueBy (holds : Bool → Text → Bool) : Atom → Bool
  | .name negated n => holds negated n
  | .group e => combine e.operators (e.valuesBy holds)

def Expr.valuesBy (holds : Bool → Text → Bool) : Expr → List Bool
  | .atom a => [a.valueBy holds]
  | .join a _ e => a.valueBy holds :: e.valuesBy holds

end

def Expr.valueBy (holds : Bool → Text → Bool) (e : Expr) : Bool :=
  combine e.operators (e.valuesBy holds)

section Congr

variable {f g : Bool → Text → Bool}

mutual

lemma Atom.valueBy_congr : ∀ a : Atom,
    (∀ negated n, .name negated n ∈ a.lexemes → f negated n = g negated n) →
    a.valueBy f = a.valueBy g
  | .name negated n, h => h negated n (by simp [Atom.lexemes])
  | .group e, h => by
    rw [Atom.valueBy, Atom.valueBy, e.valuesBy_congr fun negated n hn => h negated n (by
      simp [Atom.lexemes, hn])]

lemma Expr.valuesBy_congr : ∀ e : Expr,
    (∀ negated n, .name negated n ∈ e.lexemes → f negated n = g negated n) →
    e.valuesBy f = e.valuesBy g
  | .atom a, h => by rw [Expr.valuesBy, Expr.valuesBy, a.valueBy_congr h]
  | .join a op e, h => by
    rw [Expr.valuesBy, Expr.valuesBy, a.valueBy_congr fun negated n hn => h negated n (by
      simp [Expr.lexemes, hn]), e.valuesBy_congr fun negated n hn => h negated n (by
      simp [Expr.lexemes, hn])]

end

/-- Only the values of the names that occur matter. -/
lemma Expr.valueBy_congr {e : Expr}
    (h : ∀ negated n, .name negated n ∈ e.lexemes → f negated n = g negated n) :
    e.valueBy f = e.valueBy g := by
  rw [valueBy, valueBy, e.valuesBy_congr h]

end Congr

mutual

lemma Atom.valueBy_filled (fields : List Field) : ∀ a : Atom,
    a.valueBy (fun negated n => negated != filled fields n) = a.value fields
  | .name negated n => rfl
  | .group e => by rw [Atom.valueBy, Atom.value, e.valuesBy_filled]

lemma Expr.valuesBy_filled (fields : List Field) : ∀ e : Expr,
    e.valuesBy (fun negated n => negated != filled fields n) = e.values fields
  | .atom a => by rw [Expr.valuesBy, Expr.values, a.valueBy_filled]
  | .join a op e => by rw [Expr.valuesBy, Expr.values, a.valueBy_filled, e.valuesBy_filled]

end

lemma Expr.valueBy_filled (fields : List Field) (e : Expr) :
    e.valueBy (fun negated n => negated != filled fields n) = e.value fields := by
  rw [valueBy, e.valuesBy_filled, value]

/-! ### One level -/

lemma not_mem_of_isMark {t : Text} (ht : ∀ c ∈ t, isMark c = false) {c : Char}
    (hc : isMark c = true) : c ∉ t := by
  intro h
  rw [ht c h] at hc
  cases hc

lemma Operator.isMark_char (op : Operator) : isMark op.char = true := by
  cases op <;> rfl

lemma isMark_word (b : Bool) : ∀ c ∈ word b, isMark c = false := by
  have h : (word b).all (fun c => !isMark c) = true := by cases b <;> rfl
  simpa using List.all_eq_true.1 h

lemma termHolds_word (b : Bool) : termHolds (word b) = b := by
  revert b
  decide

lemma termHolds_of_mem {t : Text} (h : '|' ∈ t) : termHolds t = false := by
  have hne : t ≠ word true := by
    rintro rfl
    exact not_mem_of_isMark (isMark_word true) rfl h
  have habsent : isAbsent t = false := by simp [isAbsent, h]
  unfold termHolds
  rw [if_neg hne, habsent, Bool.false_and]

/-- A character other than the separator lies in one of the parts. -/
lemma exists_mem_splitOn {c sep : Char} (hc : c ≠ sep) {t : Text} (h : c ∈ t) :
    ∃ u ∈ t.splitOn sep, c ∈ u := by
  have key : ∀ us : List Text, (∀ u ∈ us, c ∉ u) → c ∉ [sep].intercalate us := by
    intro us hus
    induction us with
    | nil => simp
    | cons u us ih =>
      rw [List.forall_mem_cons] at hus
      rcases us with _ | ⟨v, us⟩
      · simpa using hus.1
      · rw [List.intercalate_cons_cons]
        simp [hus.1, hc, ih hus.2]
  by_contra hn
  push Not at hn
  exact key _ hn (by rwa [List.intercalate_splitOn])

/-- What an atom adds to its level. -/
def Atom.term (sub : Bool → Text → Text) : Atom → Text
  | .name negated n => sub negated n
  | .group e => word (e.valueBy fun negated n => termHolds (sub negated n))

/-- The terms of the outermost level. -/
def Expr.terms (sub : Bool → Text → Text) : Expr → List Text
  | .atom a => [a.term sub]
  | .join a _ e => a.term sub :: e.terms sub

/-- The outermost level with its groups settled. -/
def Expr.line (sub : Bool → Text → Text) : Expr → Text
  | .atom a => a.term sub
  | .join a op e => a.term sub ++ op.char :: e.line sub

/-- That nothing put in the place of a name has a mark. -/
def Unmarked (sub : Bool → Text → Text) (ls : List Lexeme) : Prop :=
  ∀ negated n, .name negated n ∈ ls → ∀ c ∈ sub negated n, isMark c = false

section Level

variable {sub : Bool → Text → Text}

lemma Unmarked.group {e : Expr} (h : Unmarked sub (Atom.group e).lexemes) :
    Unmarked sub e.lexemes :=
  fun negated n hn => h negated n (by simp [Atom.lexemes, hn])

lemma Unmarked.join {a : Atom} {op : Operator} {e : Expr}
    (h : Unmarked sub (Expr.join a op e).lexemes) :
    Unmarked sub a.lexemes ∧ Unmarked sub e.lexemes :=
  ⟨fun negated n hn => h negated n (by simp [Expr.lexemes, hn]),
    fun negated n hn => h negated n (by simp [Expr.lexemes, hn])⟩

lemma Atom.isMark_term {a : Atom} (h : Unmarked sub a.lexemes) :
    ∀ c ∈ a.term sub, isMark c = false := by
  cases a with
  | name negated n => exact h negated n (by simp [Atom.lexemes])
  | group e => exact isMark_word _

lemma Atom.termHolds_term (a : Atom) :
    termHolds (a.term sub) = a.valueBy fun negated n => termHolds (sub negated n) := by
  cases a with
  | name negated n => rfl
  | group e => exact termHolds_word _

namespace Expr

lemma isMark_terms : ∀ e : Expr, Unmarked sub e.lexemes →
    ∀ t ∈ e.terms sub, ∀ c ∈ t, isMark c = false
  | .atom a, h => by
    rw [terms, List.forall_mem_singleton]
    exact a.isMark_term h
  | .join a op e, h => by
    rw [terms, List.forall_mem_cons]
    exact ⟨a.isMark_term h.join.1, e.isMark_terms h.join.2⟩

lemma map_termHolds_terms : ∀ e : Expr,
    (e.terms sub).map termHolds = e.valuesBy fun negated n => termHolds (sub negated n)
  | .atom a => by rw [terms, List.map_singleton, a.termHolds_term, valuesBy]
  | .join a op e => by
    rw [terms, List.map_cons, a.termHolds_term, e.map_termHolds_terms, valuesBy]

lemma terms_ne_nil (e : Expr) : e.terms sub ≠ [] := by
  cases e <;> simp [terms]

lemma line_eq_intercalate {op : Operator} : ∀ e : Expr, (∀ o ∈ e.operators, o = op) →
    e.line sub = [op.char].intercalate (e.terms sub)
  | .atom a, _ => by simp [line, terms]
  | .join a o e, h => by
    have ho : o = op := h o (by simp [operators])
    have hrest : ∀ o ∈ e.operators, o = op := fun o ho => h o (by simp [operators, ho])
    rw [line, e.line_eq_intercalate hrest, ho, terms,
      List.intercalate_cons_of_ne_nil e.terms_ne_nil]
    simp

lemma mem_line {op : Operator} : ∀ e : Expr, Unmarked sub e.lexemes →
    (op.char ∈ e.line sub ↔ op ∈ e.operators)
  | .atom a, h => by
    have ha := not_mem_of_isMark (a.isMark_term h) op.isMark_char
    simp [line, operators, ha]
  | .join a o e, h => by
    have ha := not_mem_of_isMark (a.isMark_term h.join.1) op.isMark_char
    have ho : op.char = o.char ↔ op = o := by cases op <;> cases o <;> decide
    rw [line, operators, List.mem_append, List.mem_cons, List.mem_cons, e.mem_line h.join.2, ho]
    simp [ha]

lemma splitOn_line {op : Operator} {e : Expr} (hm : Unmarked sub e.lexemes)
    (h : ∀ o ∈ e.operators, o = op) : (e.line sub).splitOn op.char = e.terms sub := by
  rw [e.line_eq_intercalate h, List.splitOn_intercalate]
  · exact fun t ht => not_mem_of_isMark (e.isMark_terms hm t ht) op.isMark_char
  · exact e.terms_ne_nil

/-- A level has the value of its operators. -/
lemma lineHolds_line (e : Expr) (hm : Unmarked sub e.lexemes) :
    lineHolds (e.line sub) = e.valueBy fun negated n => termHolds (sub negated n) := by
  have hconj : isConjunction (e.line sub) = decide (.and ∈ e.operators) := by
    have hmem : Operator.and.char ∈ e.line sub ↔ .and ∈ e.operators := e.mem_line hm
    rw [isConjunction, List.contains_eq_mem]
    exact decide_eq_decide.2 hmem
  rw [valueBy, ← map_termHolds_terms, combine, lineHolds, CitationNotes.Condition.terms, hconj]
  by_cases hand : Operator.and ∈ e.operators
  · by_cases hor : Operator.or ∈ e.operators
    · -- both operators: some term holds a bar
      obtain ⟨t, ht, hbar⟩ := exists_mem_splitOn (show '|' ≠ '+' by decide)
        ((e.mem_line hm).2 hor : Operator.or.char ∈ e.line sub)
      simp only [hand, hor, decide_true, if_true, not_true_eq_false, if_false]
      exact List.all_eq_false.2 ⟨t, ht, by simp [termHolds_of_mem hbar]⟩
    · -- a conjunction
      have hop : ∀ o ∈ e.operators, o = .and := by
        intro o ho
        cases o
        · rfl
        · exact absurd ho hor
      simp only [hand, hor, decide_true, if_true, not_false_eq_true]
      rw [show '+' = Operator.and.char from rfl, e.splitOn_line hm hop, List.all_map]
      rfl
  · -- a disjunction, of one term if there is no operator
    have hop : ∀ o ∈ e.operators, o = .or := by
      intro o ho
      cases o
      · exact absurd ho hand
      · rfl
    simp only [hand, decide_false, Bool.false_eq_true, if_false, not_false_eq_true, if_true]
    rw [show '|' = Operator.or.char from rfl, e.splitOn_line hm hop]
    cases e with
    | atom a => simp [operators, terms]
    | join a o e => simp [operators, hop o (by simp [operators])]

end Expr

end Level

/-! ### Groups -/

lemma Stack.run?_append_of_forall {u : Text} (h : ∀ c ∈ u, isMark c = false) (s : Stack)
    (t : Text) : s.run? (u ++ t) = run? ⟨s.line ++ u, s.outer⟩ t :=
  run?_append_of_not_mem (not_mem_of_isMark h rfl) (not_mem_of_isMark h rfl) s t

lemma Stack.run?_operator (op : Operator) (s : Stack) (t : Text) :
    s.run? (op.char :: t) = run? ⟨s.line ++ [op.char], s.outer⟩ t := by
  cases op <;> rfl

section Groups

variable {sub : Bool → Text → Text}

mutual

/-- An atom adds its term to the level that is read. -/
lemma Atom.run?_write (s : Stack) (t : Text) : ∀ a : Atom, Unmarked sub a.lexemes →
    s.run? (a.lexemes.flatMap (Lexeme.write sub) ++ t) =
      Stack.run? ⟨s.line ++ a.term sub, s.outer⟩ t
  | .name negated n, h => by
    have hsource : (Atom.name negated n).lexemes.flatMap (Lexeme.write sub) =
        (Atom.name negated n).term sub := by
      simp [Atom.lexemes, Lexeme.write, Atom.term]
    rw [hsource, Stack.run?_append_of_forall (Atom.isMark_term h)]
  | .group e, h => by
    have hsource : (Atom.group e).lexemes.flatMap (Lexeme.write sub) =
        '(' :: (e.lexemes.flatMap (Lexeme.write sub) ++ [')']) := by
      simp [Atom.lexemes, Lexeme.write, Lexeme.text]
    rw [hsource, List.cons_append, Stack.run?_cons, Stack.step?_open, Option.bind_some,
      List.append_assoc, e.run?_write _ _ h.group, List.nil_append, List.singleton_append,
      Stack.run?_cons, Stack.step?_close, Option.bind_some, e.lineHolds_line h.group, Atom.term]

/-- A level adds what it is when its groups are settled. -/
lemma Expr.run?_write (s : Stack) (t : Text) : ∀ e : Expr, Unmarked sub e.lexemes →
    s.run? (e.lexemes.flatMap (Lexeme.write sub) ++ t) =
      Stack.run? ⟨s.line ++ e.line sub, s.outer⟩ t
  | .atom a, h => a.run?_write s t h
  | .join a op e, h => by
    have hsource : (Expr.join a op e).lexemes.flatMap (Lexeme.write sub) =
        a.lexemes.flatMap (Lexeme.write sub) ++
          op.char :: e.lexemes.flatMap (Lexeme.write sub) := by
      simp [Expr.lexemes, Lexeme.write, Lexeme.text]
    rw [hsource, List.append_assoc, a.run?_write _ _ h.join.1, List.cons_append,
      Stack.run?_operator, e.run?_write _ _ h.join.2]
    simp [Expr.line]

end

/-- **A condition has the value of its tree**, each name counting for what its term says. -/
theorem evaluate_write (e : Expr) (h : Unmarked sub e.lexemes) :
    evaluate (e.lexemes.flatMap (Lexeme.write sub)) =
      .ok (e.valueBy fun negated n => termHolds (sub negated n)) := by
  have hrun := e.run?_write Stack.init [] h
  rw [List.append_nil] at hrun
  exact evaluate_eq_ok_iff.2 ⟨e.line sub, hrun, e.lineHolds_line h⟩

end Groups

end CitationNotes.Condition
