import CitationNotes.Template.Placeholder
import CitationNotes.Text.Printable
import CitationNotes.Text.Search

/-!
Conditionals that pass the check and yet do what their author hardly meant.
-/

namespace CitationNotes.Template

inductive Warning where
  | missingSeparator (placeholder : Placeholder)
  | mixedOperators (placeholder : Placeholder)
deriving DecidableEq, Repr

namespace Warning

def placeholder : Warning → Placeholder
  | missingSeparator p => p
  | mixedOperators p => p

def message : Warning → Text
  | missingSeparator p => p.text ++ " has no `:` and is printed as is".toList
  | mixedOperators p => p.text ++ " mixes `+` and `|` without parentheses".toList

/-- The warning with its kind in front. -/
def details (w : Warning) : Text :=
  let kind := match w with
    | missingSeparator _ => "MissingSeparator".toList
    | mixedOperators _ => "MixedOperators".toList
  kind ++ " \x7b placeholder: ".toList ++ Text.quoted w.placeholder.text ++ " \x7d".toList

end Warning

/-- The operators seen so far on one level. -/
structure Operators where
  and : Bool
  or : Bool
deriving DecidableEq, Repr

/-- Whether both operators meet on a level, read from inside one that has seen `level` and
lies in those of `outer`. A closing parenthesis without a partner ends nothing. -/
def mixesFrom (level : Operators) (outer : List Operators) : Text → Bool
  | [] => false
  | '(' :: t => mixesFrom ⟨false, false⟩ (level :: outer) t
  | ')' :: t =>
    match outer with
    | [] => mixesFrom level [] t
    | l :: outer => mixesFrom l outer t
  | '+' :: t => level.or || mixesFrom { level with and := true } outer t
  | '|' :: t => level.and || mixesFrom { level with or := true } outer t
  | _ :: t => mixesFrom level outer t

def mixesOperators (condition : Text) : Bool := mixesFrom ⟨false, false⟩ [] condition

def warning? (p : Placeholder) : Option Warning :=
  match Text.cutAt? ':' p.body with
  | none => some (.missingSeparator p)
  | some (condition, _) => if mixesOperators condition then some (.mixedOperators p) else none

def lint (template : Text) : List Warning := (conditionals template).filterMap warning?

end CitationNotes.Template
