import CitationNotes.Condition.Line

/-!
The fields of a citation, and the names that they may have.
-/

namespace CitationNotes

/-- A named value with the style that it takes into the text. -/
structure Field where
  name : Text
  text : Text
  bold : Bool
  italic : Bool
deriving DecidableEq, Repr

namespace Field

def isFilled (f : Field) : Bool := !f.text.isEmpty

/-- The field called `name`; of several, the first. -/
def named? (fields : List Field) (name : Text) : Option Field :=
  fields.find? fun f => f.name == name

end Field

namespace FieldName

/-- The characters that mean something in a template. -/
def reserved : List Char := ['{', '}', '(', ')', '@', '?', ':', '+', '|']

/-- Why a name cannot be used. -/
inductive Fault where
  | empty
  | reserved (c : Char)
  | truthWord
deriving DecidableEq, Repr

def Fault.message : Fault → Text
  | .empty => "field name is empty".toList
  | .reserved c => "field name contains reserved character '".toList ++ [c] ++ ['\'']
  | .truthWord => "field name collides with an internal condition token".toList

def fault? (name : Text) : Option Fault :=
  if name.isEmpty then some .empty
  else match name.find? fun c => reserved.contains c with
    | some c => some (.reserved c)
    | none =>
      if name = Condition.word true ∨ name = Condition.word false then some .truthWord
      else none

theorem fault?_eq_none_iff {name : Text} :
    fault? name = none ↔
      name ≠ [] ∧ (∀ c ∈ name, c ∉ reserved) ∧ ∀ b, name ≠ Condition.word b := by
  rw [fault?]
  split
  · next h => simp [List.isEmpty_iff.1 h]
  next hne =>
  split
  · next c hc =>
    have hm := List.mem_of_find?_eq_some hc
    have hr : c ∈ reserved := by simpa using List.find?_some hc
    exact ⟨fun h => (by simp at h), fun h => absurd hr (h.2.1 c hm)⟩
  next hnone =>
  have hr : ∀ c ∈ name, c ∉ reserved := by simpa using hnone
  have hn : name ≠ [] := fun h => hne (by simp [h])
  split
  · next hw =>
    exact ⟨fun h => (by simp at h),
      fun h => hw.elim (absurd · (h.2.2 true)) (absurd · (h.2.2 false))⟩
  · next hw =>
    rw [not_or] at hw
    exact ⟨fun _ => ⟨hn, hr, Bool.forall_bool.2 ⟨hw.2, hw.1⟩⟩, fun _ => rfl⟩

end FieldName

end CitationNotes
