import CitationNotes.Proofs.Condition.Balance
import CitationNotes.Proofs.Template.Segments
import CitationNotes.Template.Expansion

/-!
What the check of a template does for the conditions in it.

The check counts the groups that are open and carries the count from one placeholder to the next.
The evaluation counts as well, but each condition for itself. So a condition can be evaluated
exactly if the check reaches it with nothing carried over: a group that a placeholder without a
colon leaves open may be closed in a later condition, which then closes too much.
-/

namespace CitationNotes.Template

open Condition (openAfter? countParen)

/-- Only the last segment may be unclosed. -/
lemma Clean.not_unclosed_mem {pre post : List Segment} {s : Segment} (h : Clean (pre ++ s :: post))
    (body : Text) : .unclosed body ∉ pre := by
  induction pre with
  | nil => simp
  | cons t pre ih =>
    rw [List.cons_append] at h
    generalize hrest : pre ++ s :: post = rest at h ih
    cases h with
    | char _ h => simpa using ih h
    | closed _ h => simpa using ih h
    | unclosed _ => simp at hrest

/-! ### The count of the check -/

namespace Check

lemma run_cons_eq_ok {s s' : Check} {c : Char} {t : Text} (h : s.run (c :: t) = .ok s') :
    ∃ s₁, s.step c = .ok s₁ ∧ s₁.run t = .ok s' := by
  rw [run_cons] at h
  rcases hs : s.step c with e | s₁
  · rw [hs] at h
    cases h
  · rw [hs] at h
    exact ⟨s₁, rfl, h⟩

lemma run_append_eq_ok {s s' : Check} {t u : Text} (h : s.run (t ++ u) = .ok s') :
    ∃ s₁, s.run t = .ok s₁ ∧ s₁.run u = .ok s' := by
  rw [run_append] at h
  rcases hs : s.run t with e | s₁
  · rw [hs] at h
    cases h
  · rw [hs] at h
    exact ⟨s₁, rfl, h⟩

/-- In a condition, both count alike. -/
lemma step_condition {d : ℕ} {c : Char} (hc : c ≠ '{' ∧ c ≠ '}' ∧ c ≠ ':') {s : Check}
    (h : step ⟨.condition, d⟩ c = .ok s) : ∃ e, countParen d c = some e ∧ s = ⟨.condition, e⟩ := by
  obtain ⟨ho, hcl, hcolon⟩ := hc
  unfold step at h
  split at h
  · exact absurd rfl ho
  · exact absurd rfl hcl
  · exact absurd rfl hcolon
  · exact ⟨d + 1, rfl, (Except.ok.inj h).symm⟩
  · rw [if_pos rfl] at h
    split at h
    · cases h
    · next hd => exact ⟨d - 1, by simp [countParen, hd], (Except.ok.inj h).symm⟩
  · next hopen hclose =>
    exact ⟨d, by rw [countParen, if_neg hopen, if_neg hclose], (Except.ok.inj h).symm⟩

lemma run_condition {d : ℕ} {t : Text} (ht : Braceless t) (hcolon : ':' ∉ t) {s : Check}
    (h : run ⟨.condition, d⟩ t = .ok s) : ∃ e, openAfter? d t = some e ∧ s = ⟨.condition, e⟩ := by
  induction t generalizing d with
  | nil => exact ⟨d, rfl, (Except.ok.inj h).symm⟩
  | cons c t ih =>
    rw [List.mem_cons, not_or] at hcolon
    have hc := ht c (List.mem_cons_self ..)
    obtain ⟨s₁, hs, h⟩ := run_cons_eq_ok h
    obtain ⟨e, he, rfl⟩ := step_condition ⟨hc.1, hc.2, Ne.symm hcolon.1⟩ hs
    obtain ⟨f, hf, rfl⟩ := ih (fun c hc => ht c (List.mem_cons_of_mem _ hc)) hcolon.2 h
    exact ⟨f, by rw [Condition.openAfter?_cons, he]; exact hf, rfl⟩

lemma run_colon {d : ℕ} {t : Text} {s : Check} (h : run ⟨.condition, d⟩ (':' :: t) = .ok s) :
    d = 0 ∧ run ⟨.output, 0⟩ t = .ok s := by
  obtain ⟨s₁, hs, h⟩ := run_cons_eq_ok h
  rw [step] at hs
  split at hs
  · next hd =>
    obtain rfl := Except.ok.inj hs
    exact ⟨hd, h⟩
  · cases hs

/-- Behind the first colon of a conditional nothing is open. -/
lemma openAfter?_eq_zero_of_run {s s' : Check} {condition rest : Text}
    (hb : Braceless condition) (hcolon : ':' ∉ condition)
    (h : s.run ('{' :: '?' :: (condition ++ ':' :: rest)) = .ok s') :
    s.part = .outside ∧ openAfter? s.parens condition = some 0 := by
  obtain ⟨s₁, hs, h⟩ := run_cons_eq_ok h
  rw [step] at hs
  split at hs
  · next hp =>
    obtain rfl := Except.ok.inj hs
    obtain ⟨s₂, hrun, h⟩ := run_append_eq_ok (show run ⟨.condition, s.parens⟩ _ = .ok s' from h)
    obtain ⟨d, hd, rfl⟩ := run_condition hb hcolon hrun
    obtain ⟨rfl, -⟩ := run_colon h
    exact ⟨hp, hd⟩
  · cases hs

lemma run_output {t : Text} (ht : Braceless t) {s : Check} (h : run ⟨.output, 0⟩ t = .ok s) :
    s = ⟨.output, 0⟩ := by
  induction t with
  | nil => exact (Except.ok.inj h).symm
  | cons c t ih =>
    have hc := ht c (List.mem_cons_self ..)
    have hs : step ⟨.output, 0⟩ c = .ok ⟨.output, 0⟩ := by
      unfold step
      split
      · exact absurd rfl hc.1
      · exact absurd rfl hc.2
      all_goals rfl
    rw [run_cons, hs] at h
    exact ih (fun c hc => ht c (List.mem_cons_of_mem _ hc)) h

/-- Braces leave nothing open if they have a colon or open nothing at all. -/
lemma run_closed {body : Text} (hb : Braceless body) (hsep : '(' ∈ body → ':' ∈ body)
    {s : Check} (h : run ⟨.outside, 0⟩ (Segment.closed body).source = .ok s) :
    s = ⟨.outside, 0⟩ := by
  have hrun : run ⟨.condition, 0⟩ (body ++ ['}']) = .ok s := h
  rcases hcut : Text.cutAt? ':' body with _ | ⟨a, b⟩
  · have hcolon := Text.cutAt?_eq_none_iff.1 hcut
    obtain ⟨s₁, hbody, hclose⟩ := run_append_eq_ok hrun
    obtain ⟨d, hd, rfl⟩ := run_condition hb hcolon hbody
    obtain rfl : d = 0 := by
      simpa using Condition.le_of_openAfter?_eq_some (fun ho => hcolon (hsep ho)) hd
    exact (Except.ok.inj hclose).symm
  · obtain ⟨rfl, hcolon⟩ := Text.cutAt?_eq_some_iff.1 hcut
    rw [List.append_assoc, List.cons_append] at hrun
    obtain ⟨s₁, ha, hrest⟩ := run_append_eq_ok hrun
    obtain ⟨d, -, rfl⟩ := run_condition (fun c hc => hb c (by simp [hc])) hcolon ha
    obtain ⟨-, hrest⟩ := run_colon hrest
    obtain ⟨s₂, hb', hclose⟩ := run_append_eq_ok hrest
    obtain rfl := run_output (fun c hc => hb c (by simp [hc])) hb'
    exact (Except.ok.inj hclose).symm

/-- A template without such braces is left with nothing open. -/
lemma run_sourceOf {ss : List Segment} (hss : Clean ss) (hu : ∀ body, .unclosed body ∉ ss)
    (hsep : ∀ body, .closed body ∈ ss → '(' ∈ body → ':' ∈ body) {s : Check}
    (h : run ⟨.outside, 0⟩ (sourceOf ss) = .ok s) : s = ⟨.outside, 0⟩ := by
  induction hss with
  | nil => exact (Except.ok.inj h).symm
  | @char c ss hc hss ih =>
    obtain ⟨s₁, hs, h⟩ := run_cons_eq_ok (show run _ (c :: sourceOf ss) = .ok s from h)
    obtain rfl : s₁ = ⟨.outside, 0⟩ := by
      unfold step at hs
      split at hs
      · exact absurd rfl hc.1
      · exact absurd rfl hc.2
      all_goals exact (Except.ok.inj hs).symm
    exact ih (fun body hm => hu body (List.mem_cons_of_mem _ hm))
      (fun body hm => hsep body (List.mem_cons_of_mem _ hm)) h
  | @closed body ss hb hss ih =>
    obtain ⟨s₁, hs, h⟩ := run_append_eq_ok h
    obtain rfl := run_closed hb (hsep body (List.mem_cons_self ..)) hs
    exact ih (fun body hm => hu body (List.mem_cons_of_mem _ hm))
      (fun body hm => hsep body (List.mem_cons_of_mem _ hm)) h
  | @unclosed body hb => exact absurd (List.mem_cons_self ..) (hu body)

end Check

/-! ### The conditionals of a template -/

section Conditional

variable {template : Text} {fields : List Field} {p : Placeholder} {condition output : Text}

/-- Where a placeholder stands. -/
lemma exists_segments_eq {sign : Char} (hs : sign ≠ '{' ∧ sign ≠ '}')
    (hc : fault? template = none) (hp : p ∈ placeholders sign template) :
    ∃ pre post, segments template = pre ++ .closed (p.sign :: p.body) :: post ∧
      template = sourceOf pre ++ p.text ++ sourceOf post := by
  obtain ⟨hmem, -⟩ := closed_mem_of_mem_placeholders hs hc hp
  obtain ⟨pre, post, hsegments⟩ := List.append_of_mem hmem
  refine ⟨pre, post, hsegments, ?_⟩
  rw [← sourceOf_segments template, hsegments, sourceOf_append, sourceOf_cons, text_eq_source,
    List.append_assoc]

lemma exists_run_eq_ok (hc : fault? template = none) : ∃ s, Check.init.run template = .ok s := by
  rw [fault?] at hc
  split at hc
  · next s hs => exact ⟨s, hs⟩
  · cases hc

lemma openAfter?_of_mem_conditionals (hc : fault? template = none)
    (hp : p ∈ conditionals template) (hcut : Text.cutAt? ':' p.body = some (condition, output))
    {u v : Text} (huv : template = u ++ p.text ++ v) :
    ∃ carry, Check.init.run u = .ok ⟨.outside, carry⟩ ∧ openAfter? carry condition = some 0 := by
  obtain ⟨hmem, hsign⟩ := closed_mem_of_mem_placeholders (by decide) hc hp
  have hbraceless := (clean_segments hc).braceless hmem
  obtain ⟨hbody, hcolon⟩ := Text.cutAt?_eq_some_iff.1 hcut
  have hb : Braceless condition := fun c hm => hbraceless c (by simp [hbody, hm])
  obtain ⟨s', hrun⟩ := exists_run_eq_ok hc
  rw [huv, List.append_assoc] at hrun
  obtain ⟨⟨part, parens⟩, hu, hrun⟩ := Check.run_append_eq_ok hrun
  have htext : p.text ++ v = '{' :: '?' :: (condition ++ ':' :: (output ++ '}' :: v)) := by
    simp [Placeholder.text, hsign, hbody]
  rw [htext] at hrun
  obtain ⟨rfl, hopen⟩ := Check.openAfter?_eq_zero_of_run hb hcolon hrun
  exact ⟨parens, hu, hopen⟩

/-- **The check and the evaluation.** A conditional of a checked template has a condition that
evaluates exactly if no group is open where the conditional starts. If one is, then the only
thing that can be wrong is that the condition closes too much; it does not hold then, and this is
told. -/
theorem exists_evaluate_eq_ok_iff_carry (hc : fault? template = none)
    (hp : p ∈ conditionals template) (hcut : Text.cutAt? ':' p.body = some (condition, output))
    (hf : ∀ f ∈ fields, FieldName.fault? f.name = none) :
    (∃ u v, template = u ++ p.text ++ v) ∧
    ∀ u v, template = u ++ p.text ++ v →
      ∃ carry, Check.init.run u = .ok ⟨.outside, carry⟩ ∧
        ((∃ b, Condition.evaluate (Condition.substitute condition fields) = .ok b) ↔ carry = 0) ∧
        (carry ≠ 0 → ∃ place,
          Condition.evaluate (Condition.substitute condition fields) =
            .error (.unexpectedClose place) ∧
          Condition.holds condition fields = false ∧
          Log.warn "condition could not be evaluated" [("condition", condition),
            ("error", (Condition.Fault.unexpectedClose place).message)] ∈
              Condition.holdsEvents condition fields) := by
  refine ⟨?_, fun u v huv => ?_⟩
  · obtain ⟨pre, post, -, hsource⟩ := exists_segments_eq (by decide) hc hp
    exact ⟨sourceOf pre, sourceOf post, hsource⟩
  · obtain ⟨carry, hrun, hopen⟩ := openAfter?_of_mem_conditionals hc hp hcut huv
    have hzero := Condition.openAfter?_zero hopen
    rw [← Condition.openAfter?_substitute hf] at hzero
    refine ⟨carry, hrun, ?_, fun hcarry => ?_⟩
    · rw [Condition.exists_evaluate_eq_ok_iff, hzero]
      split <;> simp [*]
    · obtain ⟨place, herror⟩ :=
        Condition.exists_evaluate_eq_error (by rw [hzero, if_neg hcarry])
      exact ⟨place, herror, Condition.holds_of_evaluate_eq_error herror,
        Condition.warn_mem_holdsEvents herror⟩

/-- A group left open by a placeholder that is printed as it is, and closed again by the next
such one, in front of a proper conditional. -/
def closedAgainTemplate : Text := "\x7b?(a\x7d \x7b?b)\x7d \x7b?(a|!b)+b:X\x7d".toList

/-- A group that is left open up to a conditional, which closes it. -/
def closedLateTemplate : Text := "\x7b?(a\x7d\x7b?b):X\x7d".toList

theorem exists_evaluate_eq_ok_iff_carry_closedAgain :
    (∀ f ∈ [Field.mk ['b'] ['B'] false false], FieldName.fault? f.name = none) ∧
    (fault? closedAgainTemplate = none ∧
      ⟨'?', "(a|!b)+b:X".toList⟩ ∈ conditionals closedAgainTemplate ∧
      ∃ b, Condition.evaluate
        (Condition.substitute "(a|!b)+b".toList [⟨['b'], ['B'], false, false⟩]) = .ok b) ∧
    fault? closedLateTemplate = none ∧
    ⟨'?', "b):X".toList⟩ ∈ conditionals closedLateTemplate ∧
    ∃ place,
      Condition.evaluate (Condition.substitute "b)".toList [⟨['b'], ['B'], false, false⟩]) =
        .error (.unexpectedClose place) ∧
      Condition.holds "b)".toList [⟨['b'], ['B'], false, false⟩] = false ∧
      Log.warn "condition could not be evaluated" [("condition", "b)".toList),
        ("error", (Condition.Fault.unexpectedClose place).message)] ∈
          Condition.holdsEvents "b)".toList [⟨['b'], ['B'], false, false⟩] := by
  have hf : ∀ f ∈ [Field.mk ['b'] ['B'] false false], FieldName.fault? f.name = none := by decide
  refine ⟨hf, ?_, ?_⟩
  · have hc : fault? closedAgainTemplate = none := by decide
    have hp : ⟨'?', "(a|!b)+b:X".toList⟩ ∈ conditionals closedAgainTemplate := by decide
    have hcut : Text.cutAt? ':' "(a|!b)+b:X".toList = some ("(a|!b)+b".toList, ['X']) := by decide
    have h := exists_evaluate_eq_ok_iff_carry hc hp hcut hf
    obtain ⟨carry, hrun, hiff, -⟩ := h.2 "\x7b?(a\x7d \x7b?b)\x7d ".toList [] (by decide)
    have hinit : Check.init.run "\x7b?(a\x7d \x7b?b)\x7d ".toList = .ok ⟨.outside, 0⟩ := by decide
    rw [hinit] at hrun
    exact ⟨hc, hp, hiff.2 (congrArg Check.parens (Except.ok.inj hrun)).symm⟩
  · have hc : fault? closedLateTemplate = none := by decide
    have hp : ⟨'?', "b):X".toList⟩ ∈ conditionals closedLateTemplate := by decide
    have hcut : Text.cutAt? ':' "b):X".toList = some ("b)".toList, ['X']) := by decide
    have h := exists_evaluate_eq_ok_iff_carry hc hp hcut hf
    obtain ⟨carry, hrun, -, herror⟩ := h.2 "\x7b?(a\x7d".toList [] (by decide)
    have hinit : Check.init.run "\x7b?(a\x7d".toList = .ok ⟨.outside, 1⟩ := by decide
    rw [hinit] at hrun
    have hone : carry = 1 := (congrArg Check.parens (Except.ok.inj hrun)).symm
    exact ⟨hc, hp, herror (by omega)⟩

/-- The check lets a condition through that closes a group of an earlier placeholder. -/
theorem evaluate_eq_error_of_carry :
    fault? "\x7b?(a\x7d\x7b?b):\x7d".toList = none ∧
    ⟨'?', "b):".toList⟩ ∈ conditionals "\x7b?(a\x7d\x7b?b):\x7d".toList ∧
    Text.cutAt? ':' "b):".toList = some ("b)".toList, []) ∧
    (∀ f ∈ [Field.mk ['b'] ['B'] false false], FieldName.fault? f.name = none) ∧
    Condition.evaluate (Condition.substitute "b)".toList [⟨['b'], ['B'], false, false⟩]) =
      .error (.unexpectedClose 18) := by
  decide

/-- A condition of a checked template can be evaluated if braces without a colon open no group,
wherever they are. -/
theorem exists_evaluate_eq_ok_of_separated (hc : fault? template = none)
    (hsep : ∀ body, .closed body ∈ segments template → '(' ∈ body → ':' ∈ body)
    (hp : p ∈ conditionals template) (hcut : Text.cutAt? ':' p.body = some (condition, output))
    (hf : ∀ f ∈ fields, FieldName.fault? f.name = none) :
    ∃ b, Condition.evaluate (Condition.substitute condition fields) = .ok b := by
  obtain ⟨pre, post, hsegments, hsource⟩ := exists_segments_eq (by decide) hc hp
  have hclean := clean_segments hc
  rw [hsegments] at hclean
  obtain ⟨carry, hrun, hopen⟩ := openAfter?_of_mem_conditionals hc hp hcut hsource
  have hzero := Check.run_sourceOf hclean.split.1 hclean.not_unclosed_mem
    (fun body hm => hsep body (by rw [hsegments]; exact List.mem_append_left _ hm)) hrun
  obtain rfl : carry = 0 := congrArg Check.parens hzero
  rw [Condition.exists_evaluate_eq_ok_iff, Condition.openAfter?_substitute hf]
  exact hopen

end Conditional

end CitationNotes.Template
