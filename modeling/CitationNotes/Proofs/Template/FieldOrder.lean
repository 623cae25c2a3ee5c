import CitationNotes.Proofs.Condition.Rivals
import CitationNotes.Proofs.Template.Skeleton

/-!
The order in which fields are supplied.

A template reads its fields by name, and through conditions. Names that differ are found in any
order, so the order is of account exactly if it is to some condition, that is, if two fields are
rivals for the negation of one of them. The template that shows it has that condition alone.
-/

namespace CitationNotes

variable {fields fields' : List Field}

lemma Field.named?_eq_some_iff (hd : (fields.map Field.name).Nodup) {n : Text} {f : Field} :
    Field.named? fields n = some f ↔ f ∈ fields ∧ f.name = n := by
  constructor
  · intro h
    exact ⟨List.mem_of_find?_eq_some h, by simpa using List.find?_some h⟩
  · rintro ⟨hf, rfl⟩
    obtain ⟨g, hg⟩ : ∃ g, Field.named? fields f.name = some g :=
      Option.isSome_iff_exists.1 (List.find?_isSome.2 ⟨f, hf, by simp⟩)
    have hname : g.name = f.name := by simpa using List.find?_some hg
    rw [hg, List.inj_on_of_nodup_map hd (List.mem_of_find?_eq_some hg) hf hname]

/-- Fields with different names are found in any order. -/
lemma Field.named?_perm (hp : fields'.Perm fields) (hd : (fields.map Field.name).Nodup) (n : Text) :
    Field.named? fields' n = Field.named? fields n := by
  have hd' : (fields'.map Field.name).Nodup := (hp.map Field.name).nodup_iff.2 hd
  ext f
  rw [Field.named?_eq_some_iff hd', Field.named?_eq_some_iff hd, hp.mem_iff]

namespace Template

/-- A template has no other access to its fields than their names and its conditions. -/
lemma expand_congr (hnamed : ∀ n, Field.named? fields' n = Field.named? fields n)
    (hholds : ∀ t, Condition.holds t fields' = Condition.holds t fields) (template : Text) :
    expand template fields' = expand template fields := by
  have hvalue : valueOf fields' = valueOf fields := by
    funext p
    simp only [valueOf, referenceValue, referenced, hnamed, decided?, output, hholds]
  rw [expand_eq_pass, expand_eq_pass, hvalue]

/-! ### One conditional -/

lemma resolved_text {body : Text} (hb : Braceless ('?' :: body)) (hcolon : ':' ∈ body) :
    resolved (Placeholder.text ⟨'?', body⟩) = [⟨'?', body⟩] := by
  have hclean : Clean [.closed ('?' :: body)] := .closed hb .nil
  have hsource : sourceOf [.closed ('?' :: body)] = Placeholder.text ⟨'?', body⟩ := by
    rw [sourceOf_cons, sourceOf_nil, List.append_nil, text_eq_source]
  have hreferences : references (Placeholder.text ⟨'?', body⟩) = [] := by
    rw [references, ← hsource, placeholders_sourceOf (by decide) hclean]
    rfl
  have hconditionals : conditionals (Placeholder.text ⟨'?', body⟩) = [⟨'?', body⟩] := by
    rw [conditionals, ← hsource, placeholders_sourceOf (by decide) hclean]
    rfl
  rw [resolved, hreferences, hconditionals]
  simp [hcolon]

lemma put_self (p : Placeholder) (new : Fragment) :
    put p new [.plain p.text] = [.empty, new, .empty] := by
  have hcut : Text.cut? p.text (Fragment.plain p.text).text = some ([], []) := by
    have := Text.cut?_self_append p.text []
    rwa [List.append_nil] at this
  have hne : p.text.isEmpty = false := rfl
  rw [put, Runs.replaceFirst?, hne, if_neg (by simp), replaceIn?_cons_of_cut?_eq_some rfl hcut]
  rfl

/-- A template that is one conditional gives its output or nothing. -/
lemma expand_conditional {condition text : Text} (hcondition : Braceless condition)
    (htext : Braceless text) (hcolon : ':' ∉ condition) (fields : List Field) :
    expand (Placeholder.text ⟨'?', condition ++ ':' :: text⟩) fields =
      [.empty, output fields condition text, .empty] := by
  have hb : Braceless ('?' :: (condition ++ ':' :: text)) := by
    rw [← List.cons_append]
    refine List.forall_mem_append.2 ⟨List.forall_mem_cons.2 ⟨by decide, hcondition⟩, ?_⟩
    exact List.forall_mem_cons.2 ⟨by decide, htext⟩
  have hvalue : valueOf fields ⟨'?', condition ++ ':' :: text⟩ =
      some (output fields condition text) := by
    rw [valueOf, if_neg (show ¬ '?' = '@' by decide), decided?, Text.cutAt?_append hcolon]
    rfl
  rw [expand_eq_pass, resolved_text hb (by simp), pass_singleton_of_eq_some hvalue, put_self]

/-! ### Any order -/

section Perm

variable (hf : ∀ f ∈ fields, FieldName.fault? f.name = none)
  (hd : (fields.map Field.name).Nodup)

include hf hd

lemma expand_perm (hc : ∀ f ∈ fields, ¬ Condition.Contested fields f) (hp : fields'.Perm fields)
    (template : Text) : expand template fields' = expand template fields := by
  have hmarks : ∀ f ∈ fields, ∀ c ∈ f.name, Condition.isMark c = false := fun f hm =>
    Condition.isMark_of_fault?_eq_none (hf f hm)
  exact expand_congr (Field.named?_perm hp hd) (Condition.holds_perm hp hd hmarks hc) template

/-- Fields may come in any order as long as no name begins like a negation. -/
theorem expand_perm_of_head?_ne (hb : ∀ f ∈ fields, f.name.head? ≠ some '!')
    (hp : fields'.Perm fields) (template : Text) :
    expand template fields' = expand template fields := by
  refine expand_perm hf hd (fun f _ hcontested => ?_) hp template
  obtain ⟨-, ⟨g, hg, hname, -⟩, -⟩ := hcontested
  exact hb g hg (by rw [hname]; rfl)

end Perm

/-- **The order of the fields is free** exactly if none of them is contested: whatever the template,
it expands to the same runs with the fields in any order. -/
theorem expand_perm_iff (hf : ∀ f ∈ fields, FieldName.fault? f.name = none)
    (hd : (fields.map Field.name).Nodup) :
    (∀ template fields', fields'.Perm fields → expand template fields' = expand template fields) ↔
      ∀ f ∈ fields, ¬ Condition.Contested fields f := by
  constructor
  · intro h f hm hcontested
    have hmarks : ∀ f ∈ fields, ∀ c ∈ f.name, Condition.isMark c = false := fun f hm =>
      Condition.isMark_of_fault?_eq_none (hf f hm)
    obtain ⟨hne, hreserved, -⟩ := FieldName.fault?_eq_none_iff.1 (hf f hm)
    obtain ⟨fields₁, fields₂, hp₁, hp₂, h₁, h₂⟩ := hcontested.exists_holds_ne hm hne hmarks
    have hcondition : Braceless ('!' :: f.name) := by
      refine List.forall_mem_cons.2 ⟨by decide, fun c hc => ?_⟩
      constructor <;> rintro rfl <;> exact hreserved _ hc (by decide)
    have hcolon : ':' ∉ '!' :: f.name := by
      rw [List.mem_cons, not_or]
      exact ⟨by decide, fun hc => hreserved _ hc (by decide)⟩
    have htext : Braceless ['X'] := by simp [Braceless]
    have hexpand := expand_conditional hcondition htext hcolon
    -- the same template with either rival first
    let template := Placeholder.text ⟨'?', '!' :: f.name ++ [':', 'X']⟩
    have hsame := (h template fields₁ hp₁).trans (h template fields₂ hp₂).symm
    rw [hexpand, hexpand, output, output, if_pos h₁, if_neg (by simp [h₂])] at hsame
    cases hsame
  · intro hc template fields' hp
    exact expand_perm hf hd hc hp template

/-- Names that lie across one another and across the negation of one, with nothing contested. -/
def overlappingFields : List Field :=
  [⟨['a', 'b'], ['x'], false, false⟩, ⟨['!', 'a'], [], true, false⟩, ⟨['b', 'a'], [], false, true⟩]

theorem expand_perm_iff_overlapping :
    (∀ f ∈ overlappingFields, FieldName.fault? f.name = none) ∧
    (overlappingFields.map Field.name).Nodup ∧
    ((∀ template fields', fields'.Perm overlappingFields →
      expand template fields' = expand template overlappingFields) ↔
        ∀ f ∈ overlappingFields, ¬ Condition.Contested overlappingFields f) ∧
    ∀ f ∈ overlappingFields, ¬ Condition.Contested overlappingFields f :=
  ⟨by decide, by decide, expand_perm_iff (by decide) (by decide), by decide⟩

/-- Of two fields called `!a` and `ab`, the first one takes `!ab`, which is the negation of the
empty `ab` in one order and holds no more in the other. -/
theorem expand_ne_of_contested :
    (∀ f ∈ [Field.mk ['!', 'a'] [] false false, ⟨['a', 'b'], [], false, false⟩],
      FieldName.fault? f.name = none) ∧
    ([Field.mk ['!', 'a'] [] false false, ⟨['a', 'b'], [], false, false⟩].map Field.name).Nodup ∧
    [Field.mk ['a', 'b'] [] false false, ⟨['!', 'a'], [], false, false⟩].Perm
      [⟨['!', 'a'], [], false, false⟩, ⟨['a', 'b'], [], false, false⟩] ∧
    expand "\x7b?!ab:X\x7d".toList [⟨['a', 'b'], [], false, false⟩, ⟨['!', 'a'], [], false, false⟩] =
      [.empty, .plain ['X'], .empty] ∧
    expand "\x7b?!ab:X\x7d".toList [⟨['!', 'a'], [], false, false⟩, ⟨['a', 'b'], [], false, false⟩] =
      [.empty, .empty, .empty] := by
  decide

end Template

end CitationNotes
