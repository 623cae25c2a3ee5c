import Mathlib.Tactic.Lemma
import CitationNotes.Text.Search

/-!
Where the first occurrence of a pattern is.

A text in front of which the pattern starts nowhere is passed over as a whole. What follows the
first occurrence does not matter to the search, and an occurrence reaches over no character that
the pattern lacks.
-/

namespace CitationNotes.Text

lemma after?_eq_none_iff {head t : Text} : after? head t = none ↔ ¬ head <+: t := by
  constructor
  · rintro h ⟨rest, rfl⟩
    simp at h
  · intro h
    rcases ha : after? head t with _ | rest
    · rfl
    · exact absurd ⟨rest, (after?_eq_some_iff.1 ha).symm⟩ h

lemma cut?_self_append (pattern t : Text) : cut? pattern (pattern ++ t) = some ([], t) := by
  rcases hu : pattern ++ t with _ | ⟨c, u⟩
  · obtain ⟨rfl, rfl⟩ := List.append_eq_nil_iff.1 hu
    rfl
  · rw [cut?, ← hu, after?_append]

/-- A pattern that starts nowhere in `u` is first found behind `u`. -/
lemma cut?_append {pattern u t : Text} (h : ∀ v, v <:+ u → v ≠ [] → ¬ pattern <+: v ++ t) :
    cut? pattern (u ++ t) = (cut? pattern t).map fun q => (u ++ q.1, q.2) := by
  induction u with
  | nil => simp
  | cons c u ih =>
    have hc : after? pattern (c :: (u ++ t)) = none :=
      after?_eq_none_iff.2 (h (c :: u) List.suffix_rfl (by simp))
    have hu := ih fun v hv => h v (hv.trans (List.suffix_cons c u))
    rw [List.cons_append, cut?, hc, hu, Option.map_map]
    rfl

lemma cut?_eq_none_of_not_mem {pattern t : Text} {c : Char} (hp : c ∈ pattern) (ht : c ∉ t) :
    cut? pattern t = none := by
  rcases h : cut? pattern t with _ | ⟨a, b⟩
  · rfl
  · rw [eq_of_cut? h] at ht
    simp [hp] at ht

/-- There is no occurrence exactly if the pattern is no part of the text. -/
lemma cut?_eq_none_iff {pattern t : Text} : cut? pattern t = none ↔ ¬ pattern <:+: t := by
  induction t with
  | nil =>
    rw [cut?, Option.map_eq_none_iff, after?_eq_none_iff, List.infix_nil, List.prefix_nil]
  | cons c t ih =>
    rw [List.infix_cons_iff, not_or, ← ih, ← after?_eq_none_iff, cut?]
    cases after? pattern (c :: t) <;> simp

/-- The occurrence that is found is the first. -/
lemma length_le_of_cut? {pattern t a b : Text} (h : cut? pattern t = some (a, b)) {a' b' : Text}
    (h' : t = a' ++ pattern ++ b') : a.length ≤ a'.length := by
  induction t generalizing a a' with
  | nil =>
    obtain ⟨rest, -, he⟩ := Option.map_eq_some_iff.1 h
    cases he
    exact Nat.zero_le _
  | cons c t ih =>
    rw [cut?] at h
    split at h
    · cases h
      exact Nat.zero_le _
    · next hnone =>
      obtain ⟨⟨u, v⟩, hcut, he⟩ := Option.map_eq_some_iff.1 h
      cases he
      rcases a' with _ | ⟨d, a'⟩
      · exact absurd ⟨b', h'.symm⟩ (after?_eq_none_iff.1 hnone)
      · rw [List.cons_append, List.cons_append, List.cons.injEq] at h'
        exact Nat.succ_le_succ (ih hcut h'.2)

lemma not_isInfix_of_cut? {pattern t a b : Text} (hne : pattern ≠ [])
    (h : cut? pattern t = some (a, b)) : ¬ pattern <:+: a := by
  rintro ⟨u, v, rfl⟩
  have hearlier : t = u ++ pattern ++ (v ++ pattern ++ b) := by simp [eq_of_cut? h]
  have hle := length_le_of_cut? h hearlier
  have hpos := List.length_pos_iff.2 hne
  rw [List.length_append, List.length_append] at hle
  omega

lemma cut?_append_right {pattern t a b : Text} (h : cut? pattern t = some (a, b)) (u : Text) :
    cut? pattern (t ++ u) = some (a, b ++ u) := by
  induction t generalizing a with
  | nil =>
    obtain ⟨rest, hrest, he⟩ := Option.map_eq_some_iff.1 h
    obtain ⟨rfl, rfl⟩ : [] = a ∧ rest = b := by simpa using he
    obtain ⟨rfl, rfl⟩ := List.append_eq_nil_iff.1 (after?_eq_some_iff.1 hrest).symm
    exact cut?_self_append [] u
  | cons c t ih =>
    rcases ha : after? pattern (c :: t) with _ | rest
    · -- the pattern starts further behind, and so it is too short to start here
      have hlen := length_of_cut? h
      rw [cut?, ha] at h
      obtain ⟨⟨a', b'⟩, hcut, he⟩ := Option.map_eq_some_iff.1 h
      obtain ⟨rfl, rfl⟩ : c :: a' = a ∧ b' = b := by simpa using he
      have hskip : after? pattern (c :: (t ++ u)) = none := after?_eq_none_iff.2 fun hp =>
        after?_eq_none_iff.1 ha
          (List.prefix_of_prefix_length_le hp (List.prefix_append (c :: t) u) (by omega))
      rw [List.cons_append, cut?, hskip, ih hcut]
      rfl
    · rw [cut?, ha] at h
      obtain ⟨rfl, rfl⟩ : [] = a ∧ rest = b := by simpa using h
      rw [after?_eq_some_iff.1 ha, List.append_assoc]
      exact cut?_self_append pattern (rest ++ u)

/-- An occurrence would have to end in front of a character that it does not have. -/
lemma isPrefix_of_isPrefix_append_cons {pattern v t : Text} {c : Char} (hc : c ∉ pattern)
    (h : pattern <+: v ++ c :: t) : pattern <+: v := by
  obtain ⟨rest, hr⟩ := h
  rcases List.append_eq_append_iff.1 hr with ⟨u, hv, -⟩ | ⟨u, hp, hu⟩
  · exact ⟨u, hv.symm⟩
  rcases u with _ | ⟨d, u⟩
  · exact ⟨[], by simpa using hp⟩
  · obtain ⟨rfl, -⟩ : c = d ∧ _ := by simpa using hu
    exact absurd (by simp [hp]) hc

/-- Text without an occurrence is passed over, and so is a character that no occurrence has. -/
lemma cut?_append_cons {pattern u : Text} {c : Char} (hc : c ∉ pattern)
    (hu : cut? pattern u = none) (t : Text) :
    cut? pattern (u ++ c :: t) = (cut? pattern t).map fun q => (u ++ c :: q.1, q.2) := by
  have hskip : ∀ v, v <:+ u ++ [c] → v ≠ [] → ¬ pattern <+: v ++ t := by
    intro v hv hne hp
    obtain ⟨w, rfl, hw⟩ := (List.suffix_concat_iff.1 hv).resolve_left hne
    rw [List.append_assoc, List.singleton_append] at hp
    have hpre := isPrefix_of_isPrefix_append_cons hc hp
    exact cut?_eq_none_iff.1 hu (hpre.isInfix.trans hw.isInfix)
  simpa using cut?_append hskip

end CitationNotes.Text
