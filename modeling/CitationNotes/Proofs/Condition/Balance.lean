import CitationNotes.Condition.Groups
import CitationNotes.Proofs.Condition.Levels
import CitationNotes.Proofs.Condition.Marks

/-!
The parentheses of a condition.

Whether a condition can be evaluated is a matter of its parentheses alone. They are counted: how
many groups are open behind a text depends on how many are open in front of it, and on nothing else
that the text holds. Names have no parentheses, so the substitution leaves the count as it is.
-/

namespace CitationNotes.Condition

/-! ### Counting -/

/-- The groups that are open behind a character, unless it closes one that is not open. -/
def countParen (depth : ℕ) (c : Char) : Option ℕ :=
  if c = '(' then some (depth + 1)
  else if c = ')' then if depth = 0 then none else some (depth - 1)
  else some depth

def openAfter? (depth : ℕ) (t : Text) : Option ℕ := t.foldlM countParen depth

@[simp] lemma openAfter?_nil (depth : ℕ) : openAfter? depth [] = some depth := rfl
@[simp] lemma openAfter?_cons (depth : ℕ) (c : Char) (t : Text) :
    openAfter? depth (c :: t) = (countParen depth c).bind fun d => openAfter? d t := rfl

lemma openAfter?_open (d : ℕ) (t : Text) : openAfter? d ('(' :: t) = openAfter? (d + 1) t := rfl
lemma openAfter?_close_zero (t : Text) : openAfter? 0 (')' :: t) = none := rfl
lemma openAfter?_close_succ (d : ℕ) (t : Text) :
    openAfter? (d + 1) (')' :: t) = openAfter? d t := rfl

lemma openAfter?_append (d : ℕ) (t u : Text) :
    openAfter? d (t ++ u) = (openAfter? d t).bind fun e => openAfter? e u := List.foldlM_append ..

lemma countParen_add (k : ℕ) {d e : ℕ} {c : Char} (h : countParen d c = some e) :
    countParen (d + k) c = some (e + k) := by
  unfold countParen at h ⊢
  split
  · next hc =>
    rw [if_pos hc] at h
    obtain rfl := Option.some.inj h
    rw [Nat.add_right_comm]
  · next ho =>
    rw [if_neg ho] at h
    split
    · next hc =>
      rw [if_pos hc] at h
      split at h
      · cases h
      · obtain rfl := Option.some.inj h
        rw [if_neg (by omega), Nat.sub_add_comm (by omega)]
    · next hc =>
      rw [if_neg hc] at h
      obtain rfl := Option.some.inj h
      rfl

/-- Groups that are open all the time make no difference. -/
lemma openAfter?_add (k : ℕ) {d e : ℕ} {t : Text} (h : openAfter? d t = some e) :
    openAfter? (d + k) t = some (e + k) := by
  induction t generalizing d with
  | nil =>
    obtain rfl := Option.some.inj h
    rfl
  | cons c t ih =>
    obtain ⟨f, hf, ht⟩ := Option.bind_eq_some_iff.1 h
    rw [openAfter?_cons, countParen_add k hf]
    exact ih ht

/-- A text that closes all groups, those in front of it included, closes too much if read without
them. -/
lemma openAfter?_zero {d : ℕ} {t : Text} (h : openAfter? d t = some 0) :
    openAfter? 0 t = if d = 0 then some 0 else none := by
  split
  · next hd =>
    subst hd
    exact h
  · next hd =>
    rcases h0 : openAfter? 0 t with _ | e
    · rfl
    · have := openAfter?_add d h0
      rw [Nat.zero_add, h] at this
      have := Option.some.inj this
      omega

/-- A text without an opening parenthesis leaves at most the groups open that were. -/
lemma le_of_openAfter?_eq_some {d e : ℕ} {t : Text} (ho : '(' ∉ t) (h : openAfter? d t = some e) :
    e ≤ d := by
  induction t generalizing d with
  | nil => exact (Option.some.inj h).ge
  | cons c t ih =>
    rw [List.mem_cons, not_or] at ho
    obtain ⟨f, hf, ht⟩ := Option.bind_eq_some_iff.1 h
    rw [countParen, if_neg (Ne.symm ho.1)] at hf
    have := ih ho.2 ht
    split at hf
    · split at hf
      · cases hf
      · have := Option.some.inj hf
        omega
    · have := Option.some.inj hf
      omega

def isParen (c : Char) : Bool := c == '(' || c == ')'

lemma countParen_of_not_isParen {c : Char} (hc : isParen c = false) (d : ℕ) :
    countParen d c = some d := by
  obtain ⟨ho, hcl⟩ : c ≠ '(' ∧ c ≠ ')' := by simpa [isParen] using hc
  rw [countParen, if_neg ho, if_neg hcl]

lemma eq_or_not_isParen (c : Char) : c = '(' ∨ c = ')' ∨ isParen c = false := by
  by_cases ho : c = '('
  · exact .inl ho
  by_cases hc : c = ')'
  · exact .inr (.inl hc)
  · exact .inr (.inr (by simp [isParen, ho, hc]))

lemma openAfter?_of_not_isParen {c : Char} (hc : isParen c = false) (d : ℕ) (t : Text) :
    openAfter? d (c :: t) = openAfter? d t := by
  rw [openAfter?_cons, countParen_of_not_isParen hc, Option.bind_some]

/-- Characters other than parentheses do not count. -/
lemma openAfter?_filter {p : Char → Bool} (hp : ∀ c, isParen c = true → p c = true) (d : ℕ)
    (t : Text) : openAfter? d (t.filter p) = openAfter? d t := by
  induction t generalizing d with
  | nil => rfl
  | cons c t ih =>
    by_cases hc : p c = true
    · rw [List.filter_cons_of_pos hc, openAfter?_cons, openAfter?_cons]
      simp only [ih]
    · have hother : isParen c = false := Bool.eq_false_iff.2 fun h => hc (hp c h)
      rw [List.filter_cons_of_neg hc, ih, openAfter?_of_not_isParen hother]

/-! ### The scan -/

namespace Scan

lemma outer_length_step (s : Scan) (c : Char) :
    (s.step c).toOption.map (fun s => s.outer.length) = countParen s.outer.length c := by
  unfold step countParen
  split
  · rfl
  · split
    · rcases s.outer with _ | ⟨o, outer⟩ <;> rfl
    · rfl

/-- The scan has as many groups open as have been counted. -/
lemma outer_length_run (s : Scan) (t : Text) :
    (s.run t).toOption.map (fun s => s.outer.length) = openAfter? s.outer.length t := by
  induction t generalizing s with
  | nil => rfl
  | cons c t ih =>
    rw [run_cons, openAfter?_cons, ← outer_length_step]
    rcases s.step c with e | s'
    · rfl
    · exact ih s'

lemma step_eq_error {s : Scan} {c : Char} {e : Fault} (h : s.step c = .error e) :
    c = ')' ∧ s.outer = [] ∧ e = .unexpectedClose s.place := by
  unfold step at h
  split at h
  · cases h
  · split at h
    · next hc =>
      split at h
      · next hnone => exact ⟨hc, hnone, (Except.error.inj h).symm⟩
      · cases h
    · cases h

/-- The only fault on the way is a parenthesis where no group is open. -/
lemma exists_of_run_eq_error {s : Scan} {t : Text} {e : Fault} (h : s.run t = .error e) :
    ∃ u v s', t = u ++ ')' :: v ∧ s.run u = .ok s' ∧ s'.outer = [] ∧
      e = .unexpectedClose s'.place := by
  induction t generalizing s with
  | nil => cases h
  | cons c t ih =>
    rw [run_cons] at h
    rcases hs : s.step c with e' | s₁
    · rw [hs] at h
      obtain rfl := Except.error.inj h
      obtain ⟨rfl, hnone, rfl⟩ := step_eq_error hs
      exact ⟨[], t, s, rfl, rfl, hnone, rfl⟩
    · rw [hs] at h
      obtain ⟨u, v, s', rfl, hu, hnone, rfl⟩ := ih h
      refine ⟨c :: u, v, s', rfl, ?_, hnone, rfl⟩
      rw [run_cons, hs]
      exact hu

end Scan

/-- **A condition has a value** exactly if its parentheses match. -/
theorem exists_evaluate_eq_ok_iff {t : Text} :
    (∃ b, evaluate t = .ok b) ↔ openAfter? 0 t = some 0 := by
  have hlen := Scan.outer_length_run Scan.init t
  change _ = openAfter? 0 t at hlen
  rw [← hlen, evaluate, reduce]
  rcases Scan.init.run t with e | s
  · simp [Except.bind, Except.map, Except.toOption]
  · rcases hs : s.outer with _ | ⟨o, outer⟩ <;>
      simp [Except.bind, Except.map, Except.toOption, Scan.finish, hs]

/-- A text that closes too much cannot be evaluated. -/
lemma exists_evaluate_eq_error {t : Text} (h : openAfter? 0 t = none) :
    ∃ place, evaluate t = .error (.unexpectedClose place) := by
  have hlen := Scan.outer_length_run Scan.init t
  change _ = openAfter? 0 t at hlen
  rcases hrun : Scan.init.run t with e | s
  · obtain ⟨u, v, s, -, -, -, rfl⟩ := Scan.exists_of_run_eq_error hrun
    exact ⟨s.place, by rw [evaluate, reduce, hrun]; rfl⟩
  · rw [h, hrun] at hlen
    cases hlen

/-! ### Substitution -/

/-- Names and truth words have no marks, so the marks stay where they are. -/
lemma filter_isMark_substitute {fields : List Field}
    (hf : ∀ f ∈ fields, FieldName.fault? f.name = none) (t : Text) :
    (substitute t fields).filter isMark = t.filter isMark := by
  have hnone {u : Text} (hu : ∀ c ∈ u, isMark c = false) : u.filter isMark = [] :=
    List.filter_eq_nil_iff.2 fun c hc => by simp [hu c hc]
  have hstretch : ∀ s ∈ stretches t fields, s.output.filter isMark = s.source.filter isMark := by
    intro s hs
    cases s with
    | kept u => rfl
    | resolved a b =>
      obtain ⟨f, hmem, ha⟩ := resolved_mem_stretches hs
      have hname := isMark_of_fault?_eq_none (hf f hmem)
      rcases ha with ⟨rfl, -⟩ | ⟨rfl, -⟩
      · exact (hnone (isMark_word b)).trans (hnone hname).symm
      · exact (hnone (isMark_word b)).trans (hnone (List.forall_mem_cons.2 ⟨rfl, hname⟩)).symm
  have hsource := congrArg (List.filter isMark) (source_stretches t fields)
  rw [List.filter_flatMap] at hsource
  rw [substitute, List.filter_flatMap, List.flatMap_congr hstretch, hsource]

lemma openAfter?_substitute {fields : List Field}
    (hf : ∀ f ∈ fields, FieldName.fault? f.name = none) (d : ℕ) (t : Text) :
    openAfter? d (substitute t fields) = openAfter? d t := by
  have hmark : ∀ c, isParen c = true → isMark c = true := by
    intro c hc
    rw [isMark, Bool.or_assoc]
    exact Bool.or_eq_true_iff.2 (.inr hc)
  rw [← openAfter?_filter hmark, filter_isMark_substitute hf, openAfter?_filter hmark]

end CitationNotes.Condition
