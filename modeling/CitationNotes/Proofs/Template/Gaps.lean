import CitationNotes.Proofs.Template.Segments

/-!
The placeholders of a template and what lies between them.

A template of any form, checked or not, is its placeholders in order with a gap in front of each
and a rest behind the last. No placeholder of the kind begins in a gap, and none that begins in the
rest is closed. There is only one way to read a template so, and the scan finds it.
-/

namespace CitationNotes.Template

open Placeholder

/-- That a placeholder begins somewhere in the text, and is closed somewhere behind. -/
def HasClosed (sign : Char) (t : Text) : Prop := ∃ a b, t = a ++ '{' :: sign :: b ∧ '}' ∈ b

/-- The text consists of the placeholders `ps`, the gaps in front of them, and a rest. -/
inductive Decomposes (sign : Char) : Text → List Placeholder → Prop where
  | rest {t : Text} (h : ¬ HasClosed sign t) : Decomposes sign t []
  | placeholder {gap body t : Text} {ps : List Placeholder} (hgap : ¬ ['{', sign] <:+: gap)
    (hbody : '}' ∉ body) (h : Decomposes sign t ps) :
    Decomposes sign (gap ++ (Placeholder.mk sign body).text ++ t) (⟨sign, body⟩ :: ps)

variable {sign c : Char} {t gap body : Text}

lemma HasClosed.cons (c : Char) (h : HasClosed sign t) : HasClosed sign (c :: t) := by
  obtain ⟨a, b, rfl, hb⟩ := h
  exact ⟨c :: a, b, rfl, hb⟩

/-! ### The scan -/

/-- A character at which no placeholder begins is passed over, also a brace. -/
lemma placeholders_cons (h : ¬ ['{', sign] <+: c :: t) :
    placeholders sign (c :: t) = placeholders sign t := by
  rw [placeholders, placeholders, Scan.bodies]
  split
  · next hc =>
    subst hc
    cases t with
    | nil => simp
    | cons d t =>
      have hd : d ≠ sign := fun hd => h (by simp [hd])
      simp only [Scan.bodies, if_neg hd]
  · rfl

lemma placeholders_text_append (hbody : '}' ∉ body) (t : Text) :
    placeholders sign ((Placeholder.mk sign body).text ++ t) =
      ⟨sign, body⟩ :: placeholders sign t := by
  simp only [placeholders, Placeholder.text, List.cons_append, List.append_assoc, List.nil_append]
  rw [Scan.bodies, if_pos rfl, Scan.bodies, if_pos rfl, bodies_inside_append hbody, List.map_cons,
    List.nil_append]

lemma placeholders_of_not_hasClosed (h : ¬ HasClosed sign t) : placeholders sign t = [] := by
  induction t with
  | nil => simp [placeholders]
  | cons c t ih =>
    by_cases hp : ['{', sign] <+: c :: t
    · obtain ⟨u, hu⟩ := hp
      obtain ⟨rfl, rfl⟩ : '{' = c ∧ sign :: u = t := by simpa using hu
      have hclose : '}' ∉ u := fun hm => h ⟨[], u, rfl, hm⟩
      rw [placeholders, Scan.bodies, if_pos rfl, Scan.bodies, if_pos rfl,
        bodies_inside_of_not_mem hclose, List.map_nil]
    · rw [placeholders_cons hp, ih fun hc => h (hc.cons c)]

/-- No placeholder begins in the gap, nor with its last character and the brace behind it. -/
lemma placeholders_gap_append (hs : sign ≠ '{') (hgap : ¬ ['{', sign] <:+: gap)
    (hbody : '}' ∉ body) (t : Text) :
    placeholders sign (gap ++ (Placeholder.mk sign body).text ++ t) =
      ⟨sign, body⟩ :: placeholders sign t := by
  induction gap with
  | nil => exact placeholders_text_append hbody t
  | cons c gap ih =>
    rw [List.infix_cons_iff, not_or] at hgap
    have hp : ¬ ['{', sign] <+: c :: (gap ++ (Placeholder.mk sign body).text ++ t) := by
      intro hp
      cases gap with
      | nil => exact hs (by simpa [Placeholder.text] using (List.cons_prefix_cons.1 hp).2)
      | cons d gap => exact hgap.1 (by simpa using hp)
    rw [List.cons_append, List.cons_append, placeholders_cons hp, ih hgap.2]

/-! ### The decomposition -/

lemma HasClosed.exists_eq (hs : sign ≠ '}') (h : HasClosed sign t) :
    ∃ gap body rest, t = gap ++ (Placeholder.mk sign body).text ++ rest ∧
      ¬ ['{', sign] <:+: gap ∧ '}' ∉ body := by
  induction t with
  | nil =>
    obtain ⟨a, b, ht, -⟩ := h
    simp at ht
  | cons c t ih =>
    obtain ⟨a, b, ht, hb⟩ := h
    by_cases hp : ['{', sign] <+: c :: t
    · -- it begins here, and the first closing brace ends it
      obtain ⟨u, hu⟩ := hp
      obtain ⟨rfl, rfl⟩ : '{' = c ∧ sign :: u = t := by simpa using hu
      have hmem : '}' ∈ u := by
        have hm : '}' ∈ '{' :: sign :: u := by simp [ht, hb]
        simpa [Ne.symm hs] using hm
      obtain ⟨body, rest, rfl, hbody⟩ := List.eq_append_cons_of_mem hmem
      exact ⟨[], body, rest, by simp [Placeholder.text], by simp, hbody⟩
    · cases a with
      | nil => exact absurd ⟨b, ht.symm⟩ hp
      | cons d a =>
        obtain ⟨rfl, rfl⟩ := List.cons.inj ht
        obtain ⟨gap, body, rest, ht, hgap, hbody⟩ := ih ⟨a, b, rfl, hb⟩
        refine ⟨c :: gap, body, rest, by rw [ht]; rfl, ?_, hbody⟩
        rw [List.infix_cons_iff, not_or]
        refine ⟨fun hpre => hp (hpre.trans ?_), hgap⟩
        rw [ht, List.append_assoc]
        exact List.prefix_append (c :: gap) _

section Sign

variable (hs : sign ≠ '{' ∧ sign ≠ '}')

include hs

lemma Decomposes.placeholders_eq {ps : List Placeholder} (h : Decomposes sign t ps) :
    placeholders sign t = ps := by
  induction h with
  | rest h => exact placeholders_of_not_hasClosed h
  | placeholder hgap hbody h ih => rw [placeholders_gap_append hs.1 hgap hbody, ih]

lemma decomposes_placeholders (t : Text) : Decomposes sign t (placeholders sign t) := by
  by_cases h : HasClosed sign t
  · obtain ⟨gap, body, rest, ht, hgap, hbody⟩ := h.exists_eq hs.2
    have hlen : rest.length < t.length := by
      simp only [ht, Placeholder.text, List.length_append, List.length_cons]
      omega
    have hrest := decomposes_placeholders rest
    rw [ht, placeholders_gap_append hs.1 hgap hbody]
    exact .placeholder hgap hbody hrest
  · rw [placeholders_of_not_hasClosed h]
    exact .rest h
termination_by t.length

/-- **The scan decomposes every template**, and its placeholders are the only ones that do. -/
lemma placeholders_eq_iff {ps : List Placeholder} :
    placeholders sign t = ps ↔ Decomposes sign t ps :=
  ⟨fun h => h ▸ decomposes_placeholders hs t, Decomposes.placeholders_eq hs⟩

end Sign

end CitationNotes.Template
