import Mathlib.Data.List.Infix
import CitationNotes.Proofs.Template.Carry

/-!
What the check of a template says about its beginnings.

The check reads a template once and stops at the first fault. What it looks for can be said without
it: every part with which the template begins has to be sound, which is a matter of counting its
braces and those of its parentheses that stand in conditions. The state of the check holds no more
than the differences of these counts, and the part that the text ends in.
-/

namespace CitationNotes.Template

/-! ### Counts -/

/-- The text ends in the condition of a placeholder: since the opening brace there has been neither
its partner nor a colon. Whether the placeholder is closed later does not matter. -/
def InCondition (t : Text) : Prop := ∃ a b, t = a ++ '{' :: b ∧ '}' ∉ b ∧ ':' ∉ b

instance (t : Text) : Decidable (InCondition t) :=
  decidable_of_iff (∃ b ∈ t.tails, b.head? = some '{' ∧ '}' ∉ b ∧ ':' ∉ b) <| by
    constructor
    · rintro ⟨_ | ⟨c, b⟩, hb, hc, hbrace, hcolon⟩
      · cases hc
      · obtain rfl := Option.some.inj hc
        obtain ⟨a, rfl⟩ := (List.mem_tails _ _).1 hb
        exact ⟨a, b, rfl, fun h => hbrace (List.mem_cons_of_mem _ h),
          fun h => hcolon (List.mem_cons_of_mem _ h)⟩
    · rintro ⟨a, b, rfl, hbrace, hcolon⟩
      exact ⟨'{' :: b, (List.mem_tails _ _).2 ⟨a, rfl⟩, rfl, by simpa using hbrace,
        by simpa using hcolon⟩

/-- How often a parenthesis stands in the condition of a placeholder. -/
def counted (paren : Char) (t : Text) : ℕ :=
  (List.range t.length).countP fun i => t[i]? = some paren ∧ InCondition (t.take i)

/-- What a template may begin with. -/
structure Sound (t : Text) : Prop where
  braces : t.count '}' ≤ t.count '{' ∧ t.count '{' ≤ t.count '}' + 1
  parens : counted ')' t ≤ counted '(' t
  colon : t.getLast? = some ':' → counted '(' t = counted ')' t

/-- The fault that a character is to blame for, if it is at fault. -/
def blame? : Char → Option Fault
  | ')' => some .unmatchedClosingParen
  | ':' => some .unclosedParenBeforeSeparator
  | '{' => some .nestedBraces
  | '}' => some .unmatchedClosingBrace
  | _ => none

lemma inCondition_concat {t : Text} {c : Char} :
    InCondition (t ++ [c]) ↔ c = '{' ∨ InCondition t ∧ c ≠ '}' ∧ c ≠ ':' := by
  constructor
  · rintro ⟨a, b, h, hbrace, hcolon⟩
    rcases List.eq_nil_or_concat' b with rfl | ⟨b, d, rfl⟩
    · exact .inl (List.append_singleton_inj.1 h).2
    · rw [← List.cons_append, ← List.append_assoc, List.append_singleton_inj] at h
      obtain ⟨rfl, rfl⟩ := h
      simp only [List.mem_append, List.mem_singleton, not_or] at hbrace hcolon
      exact .inr ⟨⟨a, b, rfl, hbrace.1, hcolon.1⟩, Ne.symm hbrace.2, Ne.symm hcolon.2⟩
  · rintro (rfl | ⟨⟨a, b, rfl, hbrace, hcolon⟩, hb, hc⟩)
    · exact ⟨t, [], rfl, List.not_mem_nil, List.not_mem_nil⟩
    · exact ⟨a, b ++ [c], by simp, by simp [hbrace, Ne.symm hb], by simp [hcolon, Ne.symm hc]⟩

lemma counted_concat (paren : Char) (t : Text) (c : Char) :
    counted paren (t ++ [c]) = counted paren t + if c = paren ∧ InCondition t then 1 else 0 := by
  rw [counted, List.length_append, List.length_singleton, List.range_succ, List.countP_append,
    counted]
  congr 1
  · refine List.countP_congr fun i hi => ?_
    have hi : i < t.length := List.mem_range.1 hi
    rw [List.getElem?_append_left hi, List.take_append_of_le_length hi.le]
  · simp [List.countP_cons]

/-! ### A step of the check -/

variable {t : Text} {s s' : Check} {c : Char} {e : Fault}

namespace Check

/-- All that a character can do. -/
lemma step_eq_ok (h : s.step c = .ok s') :
    (c = '{' ∧ s.part = .outside ∧ s' = ⟨.condition, s.parens⟩) ∨
    (c = '}' ∧ s.part ≠ .outside ∧ s' = ⟨.outside, s.parens⟩) ∨
    (c = ':' ∧ s.parens = 0 ∧ s' = ⟨afterColon s.part, 0⟩) ∨
    (c = '(' ∧ s.part = .condition ∧ s' = ⟨.condition, s.parens + 1⟩) ∨
    (c = ')' ∧ s.part = .condition ∧ s.parens ≠ 0 ∧ s' = ⟨.condition, s.parens - 1⟩) ∨
    ((c ≠ '{' ∧ c ≠ '}' ∧ c ≠ ':') ∧ (s.part = .condition → c ≠ '(' ∧ c ≠ ')') ∧ s' = s) := by
  unfold step at h
  split at h
  · split at h
    · next hp => exact .inl ⟨rfl, hp, (Except.ok.inj h).symm⟩
    · cases h
  · split at h
    · cases h
    · next hp => exact .inr (.inl ⟨rfl, hp, (Except.ok.inj h).symm⟩)
  · split at h
    · next hd => exact .inr (.inr (.inl ⟨rfl, hd, (Except.ok.inj h).symm⟩))
    · cases h
  · obtain rfl := Except.ok.inj h
    rcases s with ⟨_ | _ | _, d⟩ <;> simp
  · split at h
    · next hp =>
      split at h
      · cases h
      · next hd =>
        exact .inr (.inr (.inr (.inr (.inl ⟨rfl, hp, hd, (Except.ok.inj h).symm⟩))))
    · next hp =>
      obtain rfl := Except.ok.inj h
      simp [hp]
  · next ho hcl hcolon hopen hclose =>
    refine .inr (.inr (.inr (.inr (.inr ⟨⟨ho, hcl, hcolon⟩, fun _ => ⟨hopen, hclose⟩, ?_⟩))))
    exact (Except.ok.inj h).symm

lemma parens_of_step_colon (h : s.step ':' = .ok s') : s'.parens = 0 := by
  rw [step] at h
  split at h
  · obtain rfl := Except.ok.inj h
    rfl
  · cases h

/-- All that a character can be refused for. -/
lemma step_eq_error (h : s.step c = .error e) :
    (c = '{' ∧ s.part ≠ .outside ∧ e = .nestedBraces) ∨
    (c = '}' ∧ s.part = .outside ∧ e = .unmatchedClosingBrace) ∨
    (c = ':' ∧ s.parens ≠ 0 ∧ e = .unclosedParenBeforeSeparator) ∨
    (c = ')' ∧ s.part = .condition ∧ s.parens = 0 ∧ e = .unmatchedClosingParen) := by
  unfold step at h
  split at h
  · split at h
    · cases h
    · next hp => exact .inl ⟨rfl, hp, (Except.error.inj h).symm⟩
  · split at h
    · next hp => exact .inr (.inl ⟨rfl, hp, (Except.error.inj h).symm⟩)
    · cases h
  · split at h
    · cases h
    · next hd => exact .inr (.inr (.inl ⟨rfl, hd, (Except.error.inj h).symm⟩))
  · cases h
  · split at h
    · next hp =>
      split at h
      · next hd => exact .inr (.inr (.inr ⟨rfl, hp, hd, (Except.error.inj h).symm⟩))
      · cases h
    · cases h
  · cases h

end Check

/-- What the state says about the text that has been read. -/
structure Reads (t : Text) (s : Check) : Prop where
  braces : t.count '{' = t.count '}' + if s.part = .outside then 0 else 1
  parens : counted '(' t = counted ')' t + s.parens
  condition : InCondition t ↔ s.part = .condition

namespace Reads

lemma sound (h : Reads t s) (hcolon : t.getLast? = some ':' → s.parens = 0) : Sound t where
  braces := by
    have := h.braces
    split at this <;> omega
  parens := by
    have := h.parens
    omega
  colon hc := by
    have := h.parens
    have := hcolon hc
    omega

/-- The state goes with the counts. -/
lemma step (h : Reads t s) (hs : s.step c = .ok s') : Reads (t ++ [c]) s' := by
  obtain ⟨hbraces, hparens, hcondition⟩ := h
  have hopen := counted_concat '(' t c
  have hclose := counted_concat ')' t c
  have hin := inCondition_concat (t := t) (c := c)
  rcases Check.step_eq_ok hs with ⟨rfl, hp, rfl⟩ | ⟨rfl, hp, rfl⟩ | ⟨rfl, hd, rfl⟩ |
    ⟨rfl, hp, rfl⟩ | ⟨rfl, hp, hd, rfl⟩ | ⟨⟨hb, hcl, hcolon⟩, hc, rfl⟩
  · exact ⟨by simp [hbraces, hp], by simp [hopen, hclose, hparens], by simp [hin]⟩
  · exact ⟨by simp [hbraces, hp], by simp [hopen, hclose, hparens], by simp [hin]⟩
  · have hpart : Check.afterColon s.part = .outside ↔ s.part = .outside := by
      cases s.part <;> decide
    have hout : Check.afterColon s.part ≠ .condition := by cases s.part <;> decide
    exact ⟨by simp [hbraces, hpart], by simp [hopen, hclose, hparens, hd], by simp [hin, hout]⟩
  · have hcond := hcondition.2 hp
    refine ⟨by simp [hbraces, hp], ?_, by simp [hin, hcond]⟩
    simp [hopen, hclose, hparens, hcond, Nat.add_assoc]
  · have hcond := hcondition.2 hp
    refine ⟨by simp [hbraces, hp], ?_, by simp [hin, hcond]⟩
    simp [hopen, hclose, hparens, hcond]
    omega
  · have hnone : ∀ paren, paren = '(' ∨ paren = ')' → ¬ (c = paren ∧ InCondition t) := by
      rintro paren (rfl | rfl) ⟨rfl, hcond⟩
      · exact (hc (hcondition.1 hcond)).1 rfl
      · exact (hc (hcondition.1 hcond)).2 rfl
    rw [if_neg (hnone _ (.inl rfl))] at hopen
    rw [if_neg (hnone _ (.inr rfl))] at hclose
    exact ⟨by simp [hbraces, hb, hcl], by simp [hopen, hclose, hparens],
      by simp [hin, hcondition, hb, hcl, hcolon]⟩

/-- A character is refused where the text with it is no longer sound. -/
lemma not_sound (h : Reads t s) (hs : s.step c = .error e) :
    ¬ Sound (t ++ [c]) ∧ blame? c = some e := by
  obtain ⟨hbraces, hparens, hcondition⟩ := h
  rcases Check.step_eq_error hs with ⟨rfl, hp, rfl⟩ | ⟨rfl, hp, rfl⟩ | ⟨rfl, hd, rfl⟩ |
    ⟨rfl, hp, hd, rfl⟩
  · rw [if_neg hp] at hbraces
    refine ⟨fun hsound => ?_, rfl⟩
    have := hsound.braces.2
    simp at this
    omega
  · rw [if_pos hp] at hbraces
    refine ⟨fun hsound => ?_, rfl⟩
    have := hsound.braces.1
    simp at this
    omega
  · refine ⟨fun hsound => hd ?_, rfl⟩
    have := hsound.colon List.getLast?_concat
    simp [counted_concat] at this
    omega
  · have hcond := hcondition.2 hp
    refine ⟨fun hsound => ?_, rfl⟩
    have := hsound.parens
    simp [counted_concat, hcond] at this
    omega

end Reads

/-! ### A run of the check -/

/-- What has been read without a fault is sound. -/
lemma reads_and_sound_of_run (h : Check.init.run t = .ok s) : Reads t s ∧ Sound t := by
  induction t using List.reverseRecOn generalizing s with
  | nil =>
    obtain rfl := Except.ok.inj h
    have hinit : Reads [] Check.init := ⟨rfl, rfl, by decide⟩
    exact ⟨hinit, hinit.sound fun _ => rfl⟩
  | append_singleton u c ih =>
    obtain ⟨s₁, hu, hc⟩ := Check.run_append_eq_ok h
    obtain ⟨s₂, hstep, hnil⟩ := Check.run_cons_eq_ok hc
    obtain rfl := Except.ok.inj hnil
    have hreads := (ih hu).1.step hstep
    refine ⟨hreads, hreads.sound fun hlast => ?_⟩
    obtain rfl : c = ':' := by simpa using hlast
    exact Check.parens_of_step_colon hstep

/-- A run that fails does so at some character. -/
lemma Check.exists_step_eq_error (h : s.run t = .error e) :
    ∃ u c v s', t = u ++ c :: v ∧ s.run u = .ok s' ∧ s'.step c = .error e := by
  induction t generalizing s with
  | nil => cases h
  | cons c t ih =>
    rw [run_cons] at h
    rcases hs : s.step c with e' | s₁
    · rw [hs] at h
      obtain rfl := Except.error.inj h
      exact ⟨[], c, t, s, rfl, rfl, hs⟩
    · rw [hs] at h
      obtain ⟨u, d, v, s', rfl, hu, hd⟩ := ih h
      refine ⟨c :: u, d, v, s', rfl, ?_, hd⟩
      rw [run_cons, hs]
      exact hu

lemma fault?_eq_some_iff : fault? t = some e ↔ Check.init.run t = .error e := by
  rw [fault?]
  rcases Check.init.run t with e' | s <;> simp

/-- Parts in front of which nothing was refused are sound. -/
lemma sound_of_isPrefix (h : Check.init.run t = .ok s) {w : Text} (hw : w <+: t) : Sound w := by
  obtain ⟨v, rfl⟩ := hw
  obtain ⟨s₁, hrun, -⟩ := Check.run_append_eq_ok h
  exact (reads_and_sound_of_run hrun).2

/-- The first character that cannot be read is the one with which the text stops being sound. -/
lemma exists_not_sound_of_fault? (h : fault? t = some e) :
    ∃ u c v, t = u ++ c :: v ∧ (∀ w, w <+: u → Sound w) ∧ ¬ Sound (u ++ [c]) ∧
      blame? c = some e := by
  obtain ⟨u, c, v, s, ht, hu, hc⟩ := Check.exists_step_eq_error (fault?_eq_some_iff.1 h)
  have hreads := (reads_and_sound_of_run hu).1
  exact ⟨u, c, v, ht, fun w => sound_of_isPrefix hu, hreads.not_sound hc⟩

lemma fault?_eq_none_of_sound (h : ∀ w, w <+: t → Sound w) : fault? t = none := by
  rcases hf : fault? t with _ | e
  · rfl
  · obtain ⟨u, c, v, rfl, -, hbad, -⟩ := exists_not_sound_of_fault? hf
    exact absurd (h _ ⟨v, by simp⟩) hbad

lemma sound_of_fault?_eq_none (h : fault? t = none) {w : Text} (hw : w <+: t) : Sound w := by
  obtain ⟨s, hrun⟩ := exists_run_eq_ok h
  exact sound_of_isPrefix hrun hw

/-- **The check passes a template** exactly if every part that it begins with is sound. Otherwise it
reports the fault of the first character with which such a part is not. -/
theorem check_iff_sound (t : Text) :
    (fault? t = none ↔ ∀ w, w <+: t → Sound w) ∧
    ∀ e, fault? t = some e ↔ ∃ u c v, t = u ++ c :: v ∧ (∀ w, w <+: u → Sound w) ∧
      ¬ Sound (u ++ [c]) ∧ blame? c = some e := by
  refine ⟨⟨fun h w => sound_of_fault?_eq_none h, fault?_eq_none_of_sound⟩, fun e =>
    ⟨exists_not_sound_of_fault?, ?_⟩⟩
  rintro ⟨u, c, v, ht, hu, hbad, hblame⟩
  have hpre : u ++ [c] <+: t := ⟨v, by simp [ht]⟩
  rcases hf : fault? t with _ | e'
  · exact absurd (sound_of_fault?_eq_none hf hpre) hbad
  · obtain ⟨u', c', v', ht', hu', hbad', hblame'⟩ := exists_not_sound_of_fault? hf
    have hpre' : u' ++ [c'] <+: t := ⟨v', by simp [ht']⟩
    have hsame : u ++ [c] = u' ++ [c'] := by
      rcases List.prefix_or_prefix_of_prefix hpre hpre' with h | h
      · exact (List.prefix_concat_iff.1 h).resolve_right fun h => hbad (hu' _ h)
      · exact ((List.prefix_concat_iff.1 h).resolve_right fun h => hbad' (hu _ h)).symm
    obtain ⟨-, rfl⟩ := List.append_singleton_inj.1 hsame
    rw [← hblame', hblame]

/-- What one placeholder leaves open counts at any colon behind it. -/
example : fault? "\x7b?(a\x7d:".toList = some .unclosedParenBeforeSeparator := by decide

end CitationNotes.Template
