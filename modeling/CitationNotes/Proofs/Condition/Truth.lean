import CitationNotes.Condition.Groups
import CitationNotes.Proofs.Condition.Levels
import CitationNotes.Proofs.Condition.Turns

/-!
The value of a condition.

Where every name of a condition is supplied, the substitution leaves truth words, operators and
parentheses.
-/

namespace CitationNotes.Condition

/-- The text of lexemes with the names in them settled. -/
def truthOf (fields : List Field) (ls : List Lexeme) : Text := ls.flatMap (Lexeme.truth fields)

lemma evaluate_truthOf (e : Expr) (fields : List Field) :
    evaluate (truthOf fields e.lexemes) = .ok (e.value fields) := by
  have hwrite : Lexeme.truth fields =
      Lexeme.write fun negated n => word (negated != filled fields n) := by
    funext l
    cases l <;> rfl
  rw [truthOf, hwrite, evaluate_write e fun _ _ _ => isMark_word _]
  simp only [termHolds_word]
  rw [e.valueBy_filled]

/-- **A condition holds exactly if its tree is true**, whatever its names have in common, as
long as no field's name begins like a negation or holds a mark. -/
theorem holds_text {e : Expr} {fields : List Field}
    (hnames : ∀ n ∈ e.names, FieldName.fault? n = none ∧ ∃ f ∈ fields, f.name = n)
    (hfields : ∀ f ∈ fields, f.name.head? ≠ some '!' ∧ ∀ c ∈ f.name, isMark c = false) :
    holds e.text fields = e.value fields := by
  have hsub := substitute_text (e := e)
    (fun n hn => ⟨(FieldName.fault?_eq_none_iff.1 (hnames n hn).1).1, (hnames n hn).2⟩) hfields
  rw [holds, hsub, ← truthOf, evaluate_truthOf]

/-- `(ab+!a)|a!b`, whose names lie in one another. -/
def entangledExpr : Expr :=
  .join (.group (.join (.name false ['a', 'b']) .and (.atom (.name true ['a'])))) .or
    (.atom (.name false ['a', '!', 'b']))

def entangledFields : List Field :=
  [⟨['a'], [], false, false⟩, ⟨['a', 'b'], ['x'], false, false⟩, ⟨['a'], ['y'], false, false⟩,
    ⟨['a', '!', 'b'], [], false, false⟩]

theorem holds_text_entangled :
    (∀ n ∈ entangledExpr.names,
      FieldName.fault? n = none ∧ ∃ f ∈ entangledFields, f.name = n) ∧
    (∀ f ∈ entangledFields, f.name.head? ≠ some '!' ∧ ∀ c ∈ f.name, isMark c = false) ∧
    entangledExpr.text = "(ab+!a)|a!b".toList ∧
    holds entangledExpr.text entangledFields = entangledExpr.value entangledFields ∧
    entangledExpr.value entangledFields = true :=
  have hfields : ∀ f ∈ entangledFields,
      f.name.head? ≠ some '!' ∧ ∀ c ∈ f.name, isMark c = false := by
    simp [entangledFields, isMark]
  ⟨by decide, hfields, by decide, holds_text (by decide) hfields, by decide⟩

/-- It is not enough that the names of the condition are proper. A field called `!a` has its
turn before `a`, and one called `+` takes the operator away. -/
theorem holds_ne_value_of_improper_field :
    (∀ n ∈ (Expr.atom (.name true ['a'])).names, FieldName.fault? n = none ∧
      n.head? ≠ some '!' ∧
      ∃ f ∈ [Field.mk ['a'] ['x'] false false, ⟨['!', 'a'], ['y'], false, false⟩], f.name = n) ∧
    holds (Expr.atom (.name true ['a'])).text
      [⟨['a'], ['x'], false, false⟩, ⟨['!', 'a'], ['y'], false, false⟩] = true ∧
    (Expr.atom (.name true ['a'])).value
      [⟨['a'], ['x'], false, false⟩, ⟨['!', 'a'], ['y'], false, false⟩] = false ∧
    (∀ n ∈ (Expr.join (.name false ['a']) .and (.atom (.name false ['a']))).names,
      FieldName.fault? n = none ∧ n.head? ≠ some '!' ∧
      ∃ f ∈ [Field.mk ['a'] ['x'] false false, ⟨['+'], ['y'], false, false⟩], f.name = n) ∧
    holds (Expr.join (.name false ['a']) .and (.atom (.name false ['a']))).text
      [⟨['a'], ['x'], false, false⟩, ⟨['+'], ['y'], false, false⟩] = false ∧
    (Expr.join (.name false ['a']) .and (.atom (.name false ['a']))).value
      [⟨['a'], ['x'], false, false⟩, ⟨['+'], ['y'], false, false⟩] = true := by
  decide

end CitationNotes.Condition
