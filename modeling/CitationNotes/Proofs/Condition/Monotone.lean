import CitationNotes.Proofs.Condition.Ruins

/-!
Conditions without negation.

A condition in which nothing is negated is cut into the same stretches whatever the fields hold:
the order of the turns goes by the names alone, and the sign of negation, which is not in the
condition, is in nothing that is resolved. So where more fields are filled, stretches turn from
false to true and never back. That is the order in which text can give way to ruined text, and the
scan respects it, on conditions of any form.
-/

namespace CitationNotes

/-- The same name, and a text where there was one. -/
structure Field.FilledBy (f g : Field) : Prop where
  name : f.name = g.name
  filled : f.isFilled = true → g.isFilled = true

namespace Condition

/-! ### The order of the turns -/

/-- Related lists are sorted alike if related elements rank alike. -/
lemma forall₂_stableSort {α β : Type} {R : α → β → Prop} {le : α → α → Bool} {le' : β → β → Bool}
    (hle : ∀ {a b x y}, R a x → R b y → le a b = le' x y) {l : List α} {l' : List β}
    (h : List.Forall₂ R l l') : List.Forall₂ R (stableSort le l) (stableSort le' l') := by
  have hinsert {a : α} {x : β} (ha : R a x) {l : List α} {l' : List β}
      (h : List.Forall₂ R l l') : List.Forall₂ R (insertSorted le a l) (insertSorted le' x l') := by
    induction h with
    | nil => exact .cons ha .nil
    | cons hb h ih =>
      rw [insertSorted, insertSorted, hle ha hb]
      split
      · exact .cons ha (.cons hb h)
      · exact .cons hb ih
  induction h with
  | nil => exact .nil
  | cons ha h ih => exact hinsert ha ih

lemma forall₂_turns {fields fields' : List Field}
    (h : List.Forall₂ Field.FilledBy fields fields') :
    List.Forall₂ Field.FilledBy (turns fields) (turns fields') := by
  have hfilter : List.Forall₂ Field.FilledBy (fields.filter fun f => !f.name.isEmpty)
      (fields'.filter fun f => !f.name.isEmpty) := by
    refine List.rel_filter (fun f g hfg => ?_) h
    simp only [hfg.name]
  refine forall₂_stableSort (fun hf hg => ?_) hfilter
  rw [hf.name, hg.name]

/-! ### The stretches -/

/-- The same stretch, which holds wherever the other does, and nothing kept that is negated. -/
inductive Stretch.Rises : Stretch → Stretch → Prop where
  | kept {t : Text} (h : '!' ∉ t) : Rises (.kept t) (.kept t)
  | resolved (atom : Text) {a b : Bool} (h : a = true → b = true) :
    Rises (.resolved atom a) (.resolved atom b)

variable {ss us : List Stretch} {f g : Field}

section Resolve

variable (atom : Text) {a b : Bool} (hab : '!' ∉ atom → a = true → b = true)

include hab

lemma rises_resolveUpTo {n : ℕ} {t : Text} (ht : '!' ∉ t) :
    List.Forall₂ Stretch.Rises (resolveUpTo atom a n t) (resolveUpTo atom b n t) := by
  induction n generalizing t with
  | zero => exact .cons (.kept ht) .nil
  | succ n ih =>
    rw [resolveUpTo, resolveUpTo]
    rcases hcut : Text.cut? atom t with _ | ⟨u, v⟩
    · exact .cons (.kept ht) .nil
    · rw [Text.eq_of_cut? hcut, List.mem_append, List.mem_append, not_or, not_or] at ht
      obtain ⟨⟨hu, hatom⟩, hv⟩ := ht
      exact .cons (.kept hu) (.cons (.resolved atom (hab hatom)) (ih hv))

/-- The truth value of an atom with the sign of negation in it is of no account. -/
lemma rises_resolve (h : List.Forall₂ Stretch.Rises ss us) :
    List.Forall₂ Stretch.Rises (ss.flatMap (resolve atom a)) (us.flatMap (resolve atom b)) := by
  refine List.rel_flatMap h fun s u hsu => ?_
  cases hsu with
  | kept ht => exact rises_resolveUpTo atom hab ht
  | resolved c hc => exact .cons (.resolved c hc) .nil

end Resolve

lemma rises_resolveField (hfg : f.FilledBy g) (h : List.Forall₂ Stretch.Rises ss us) :
    List.Forall₂ Stretch.Rises (resolveField f ss) (resolveField g us) := by
  -- the negated name changes its value the other way, but is found nowhere
  have hnegated := rises_resolve ('!' :: g.name) (a := !f.isFilled) (b := !g.isFilled)
    (fun hn => absurd List.mem_cons_self hn) h
  rw [resolveField, resolveField, hfg.name]
  exact rises_resolve g.name (fun _ => hfg.filled) hnegated

lemma rises_afterTurns {fs gs : List Field} (hfs : List.Forall₂ Field.FilledBy fs gs)
    (h : List.Forall₂ Stretch.Rises ss us) :
    List.Forall₂ Stretch.Rises (afterTurns fs ss) (afterTurns gs us) := by
  induction hfs generalizing ss us with
  | nil => exact h
  | cons hfg hfs ih => exact ih (rises_resolveField hfg h)

/-! ### The whole condition -/

lemma Under.refl (t : Text) : Under t t := by
  induction t with
  | nil => exact .nil
  | cons c t ih =>
    refine append (t := [c]) (u := [c]) ?_ ih
    by_cases hc : isMark c = true
    · exact .mark hc
    · have hpart : ∀ d ∈ [c], isMark d = false := by simpa using hc
      exact .part ⟨hpart, hpart, .inl rfl⟩

lemma under_output (h : List.Forall₂ Stretch.Rises ss us) :
    Under (ss.flatMap Stretch.output) (us.flatMap Stretch.output) := by
  induction h with
  | nil => exact .nil
  | cons hst h ih =>
    rw [List.flatMap_cons, List.flatMap_cons]
    cases hst with
    | kept ht => exact (Under.refl _).append ih
    | resolved atom hab => exact (Under.word hab).append ih

/-- **Conditions without negation are monotone**: what holds of some fields holds of fields with
the same names of which no fewer are filled. -/
theorem holds_mono {condition : Text} {fields fields' : List Field} (hneg : '!' ∉ condition)
    (h : List.Forall₂ Field.FilledBy fields fields') (ht : holds condition fields = true) :
    holds condition fields' = true := by
  have hrises : List.Forall₂ Stretch.Rises (stretches condition fields)
      (stretches condition fields') :=
    rises_afterTurns (forall₂_turns h) (.cons (.kept hneg) .nil)
  rw [holds_eq_true_iff] at ht ⊢
  exact (under_output hrises).evaluate ht

/-- `(a|b)+(ca|a)`, where `a|b` is a name as well. -/
def overlapping : Text := "(a|b)+(ca|a)".toList

/-- Names that lie in one another, one of them twice. -/
def overlappingFields (t : Text) : List Field :=
  [⟨['a', '|', 'b'], ['x'], false, false⟩, ⟨['a'], t, false, false⟩,
    ⟨['c', 'a'], ['y'], false, false⟩, ⟨['a'], ['z'], false, false⟩]

theorem holds_mono_overlapping :
    '!' ∉ overlapping ∧
    List.Forall₂ Field.FilledBy (overlappingFields []) (overlappingFields ['w']) ∧
    holds overlapping (overlappingFields []) = true ∧
    holds overlapping (overlappingFields ['w']) = true := by
  have hneg : '!' ∉ overlapping := by decide
  have hfilled (f : Field) : f.FilledBy f := ⟨rfl, id⟩
  have h : List.Forall₂ Field.FilledBy (overlappingFields []) (overlappingFields ['w']) :=
    .cons (hfilled _) (.cons ⟨rfl, nofun⟩ (.cons (hfilled _) (.cons (hfilled _) .nil)))
  have ht : holds overlapping (overlappingFields []) = true := by decide
  exact ⟨hneg, h, ht, holds_mono hneg h ht⟩

/-- With a negation, a condition can hold of the empty field alone. -/
example : holds ['!', 'a'] [⟨['a'], [], false, false⟩] = true ∧
    holds ['!', 'a'] [⟨['a'], ['x'], false, false⟩] = false := by
  decide

end Condition

end CitationNotes
