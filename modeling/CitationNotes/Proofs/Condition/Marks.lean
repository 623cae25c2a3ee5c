import CitationNotes.Proofs.Condition.Turns

/-!
Substitution on both sides of a mark.

A name holds no mark, so no occurrence of one reaches over a mark. The stretches of a condition are
those of the part in front of the mark and of the part behind it, with the last of the one and the
first of the other in one piece around it. What the substitution makes of a condition is settled
by the one equation that follows.
-/

namespace CitationNotes.Condition

/-- The stretches `us` are `ss` and `ts` with the mark `m` between them. -/
inductive Fused (m : Char) : (ss ts us : List Stretch) → Prop where
  | intro (as : List Stretch) (x y : Text) (bs : List Stretch) :
    Fused m (as ++ [.kept x]) (.kept y :: bs) (as ++ .kept (x ++ m :: y) :: bs)

variable {m : Char} {ss ts us : List Stretch}

lemma Fused.append_left (rs : List Stretch) (h : Fused m ss ts us) :
    Fused m (rs ++ ss) ts (rs ++ us) := by
  obtain ⟨as, x, y, bs⟩ := h
  simpa using Fused.intro (rs ++ as) x y bs

lemma Fused.append_right (h : Fused m ss ts us) (rs : List Stretch) :
    Fused m ss (ts ++ rs) (us ++ rs) := by
  obtain ⟨as, x, y, bs⟩ := h
  simpa using Fused.intro as x y (bs ++ rs)

lemma Fused.output (h : Fused m ss ts us) :
    us.flatMap Stretch.output = ss.flatMap Stretch.output ++ m :: ts.flatMap Stretch.output := by
  obtain ⟨as, x, y, bs⟩ := h
  simp [Stretch.output]

/-! ### One pattern -/

section Resolve

variable {atom : Text} (hne : atom ≠ []) (holds : Bool)

include hne

lemma resolveUpTo_eq {n : ℕ} {t : Text} (hn : t.length ≤ n) :
    resolveUpTo atom holds n t =
      match Text.cut? atom t with
      | none => [.kept t]
      | some (a, b) => .kept a :: .resolved atom holds :: resolveUpTo atom holds (n - 1) b := by
  cases n with
  | zero =>
    obtain rfl : t = [] := List.eq_nil_of_length_eq_zero (by omega)
    have hcut : Text.cut? atom [] = none := Text.cut?_eq_none_iff.2 (by simpa using hne)
    rw [resolveUpTo, hcut]
  | succ n => rfl

lemma resolveUpTo_congr {n k : ℕ} {t : Text} (hn : t.length ≤ n) (hk : t.length ≤ k) :
    resolveUpTo atom holds n t = resolveUpTo atom holds k t := by
  induction n generalizing k t with
  | zero =>
    rw [resolveUpTo_eq hne holds hn, resolveUpTo_eq hne holds hk]
    obtain rfl : t = [] := List.eq_nil_of_length_eq_zero (by omega)
    rw [Text.cut?_eq_none_iff.2 (by simpa using hne)]
  | succ n ih =>
    rw [resolveUpTo_eq hne holds hn, resolveUpTo_eq hne holds hk]
    rcases hcut : Text.cut? atom t with _ | ⟨a, b⟩
    · rfl
    · have hlen := Text.length_of_cut? hcut
      have hpos := List.length_pos_of_ne_nil hne
      have hrest : resolveUpTo atom holds n b = resolveUpTo atom holds (k - 1) b :=
        ih (by omega) (by omega)
      simp only [Nat.add_sub_cancel, hrest]

lemma resolveText_of_cut?_eq_none {t : Text} (h : Text.cut? atom t = none) :
    resolveText atom holds t = [.kept t] := by
  rw [resolveText, resolveUpTo_eq hne holds le_rfl, h]

lemma resolveText_of_cut?_eq_some {t a b : Text} (h : Text.cut? atom t = some (a, b)) :
    resolveText atom holds t = .kept a :: .resolved atom holds :: resolveText atom holds b := by
  have hlen := Text.length_of_cut? h
  have hpos := List.length_pos_of_ne_nil hne
  have hrest : resolveUpTo atom holds (t.length - 1) b = resolveText atom holds b :=
    resolveUpTo_congr hne holds (by omega) le_rfl
  rw [resolveText, resolveUpTo_eq hne holds le_rfl, h]
  simp only [hrest]

/-- The occurrences in the first part come first, and the last of its text is left with the
mark behind it. -/
lemma fused_resolveText (hm : m ∉ atom) (x y : Text) :
    Fused m (resolveText atom holds x) (resolveText atom holds y)
      (resolveText atom holds (x ++ m :: y)) := by
  rcases hx : Text.cut? atom x with _ | ⟨a, b⟩
  · have hcut := Text.cut?_append_cons hm hx y
    rw [resolveText_of_cut?_eq_none hne holds hx]
    rcases hy : Text.cut? atom y with _ | ⟨c, d⟩
    · rw [hy] at hcut
      rw [resolveText_of_cut?_eq_none hne holds hy, resolveText_of_cut?_eq_none hne holds hcut]
      exact .intro [] x y []
    · rw [hy] at hcut
      rw [resolveText_of_cut?_eq_some hne holds hy, resolveText_of_cut?_eq_some hne holds hcut]
      exact .intro [] x c _
  · have hcut := Text.cut?_append_right hx (m :: y)
    have hlen := Text.length_of_cut? hx
    have hpos := List.length_pos_of_ne_nil hne
    rw [resolveText_of_cut?_eq_some hne holds hx, resolveText_of_cut?_eq_some hne holds hcut]
    exact (fused_resolveText hm b y).append_left [_, _]
termination_by x.length

lemma Fused.resolve (hm : m ∉ atom) (h : Fused m ss ts us) :
    Fused m (ss.flatMap (resolve atom holds)) (ts.flatMap (resolve atom holds))
      (us.flatMap (resolve atom holds)) := by
  obtain ⟨as, x, y, bs⟩ := h
  have hmid := fused_resolveText hne holds hm x y
  have := (hmid.append_left (as.flatMap (Condition.resolve atom holds))).append_right
    (bs.flatMap (Condition.resolve atom holds))
  simpa [Condition.resolve] using this

end Resolve

/-! ### The whole substitution -/

/-- The stretches after the turns of `fs`. -/
def afterTurns (fs : List Field) (ss : List Stretch) : List Stretch :=
  fs.foldl (fun ss f => resolveField f ss) ss

@[simp] lemma afterTurns_nil (ss : List Stretch) : afterTurns [] ss = ss := rfl
@[simp] lemma afterTurns_cons (f : Field) (fs : List Field) (ss : List Stretch) :
    afterTurns (f :: fs) ss = afterTurns fs (resolveField f ss) := rfl
lemma afterTurns_append (fs gs : List Field) (ss : List Stretch) :
    afterTurns (fs ++ gs) ss = afterTurns gs (afterTurns fs ss) := by
  simp [afterTurns]

lemma stretches_eq (condition : Text) (fields : List Field) :
    stretches condition fields = afterTurns (turns fields) [.kept condition] := rfl

lemma Fused.afterTurns {fs : List Field} (hfs : ∀ f ∈ fs, f.name ≠ [] ∧ m ∉ '!' :: f.name)
    (h : Fused m ss ts us) : Fused m (afterTurns fs ss) (afterTurns fs ts) (afterTurns fs us) := by
  induction fs generalizing ss ts us with
  | nil => exact h
  | cons f fs ih =>
    obtain ⟨⟨hne, hm⟩, hfs⟩ := List.forall_mem_cons.1 hfs
    have hname : m ∉ f.name := fun h => hm (List.mem_cons_of_mem _ h)
    have hnegated := h.resolve (List.cons_ne_nil '!' f.name) (!f.isFilled) hm
    exact ih hfs (hnegated.resolve hne f.isFilled hname)

/-- **Substitution on both sides of a mark**: a character that is in no name and no negation cuts
a condition into two parts, each of which is substituted by itself. -/
theorem substitute_append_cons {fields : List Field} (hm : ∀ f ∈ fields, m ∉ '!' :: f.name)
    (s t : Text) :
    substitute (s ++ m :: t) fields = substitute s fields ++ m :: substitute t fields := by
  have hturns : ∀ f ∈ turns fields, f.name ≠ [] ∧ m ∉ '!' :: f.name := fun f hf =>
    ⟨(mem_turns.1 hf).2, hm f (mem_turns.1 hf).1⟩
  exact ((Fused.intro [] s t []).afterTurns hturns).output

/-! ### What is left and what is resolved -/

/-- A stretch is part of what all of them were cut from. -/
lemma source_isInfix {s : Stretch} (h : s ∈ ss) : s.source <:+: ss.flatMap Stretch.source := by
  obtain ⟨as, bs, rfl⟩ := List.append_of_mem h
  exact ⟨as.flatMap Stretch.source, bs.flatMap Stretch.source, by simp⟩

lemma mem_resolveUpTo {atom t : Text} {holds : Bool} {n : ℕ} {s : Stretch}
    (h : s ∈ resolveUpTo atom holds n t) : (∃ u, s = .kept u) ∨ s = .resolved atom holds := by
  induction n generalizing t with
  | zero => exact .inl ⟨t, List.mem_singleton.1 h⟩
  | succ n ih =>
    rw [resolveUpTo] at h
    split at h
    · exact .inl ⟨t, List.mem_singleton.1 h⟩
    · rcases List.mem_cons.1 h with rfl | h
      · exact .inl ⟨_, rfl⟩
      · rcases List.mem_cons.1 h with rfl | h
        · exact .inr rfl
        · exact ih h

lemma resolved_mem_flatMap_resolve {atom a : Text} {holds b : Bool}
    (h : .resolved a b ∈ ss.flatMap (resolve atom holds)) :
    .resolved a b ∈ ss ∨ (a = atom ∧ b = holds) := by
  obtain ⟨s, hs, h⟩ := List.mem_flatMap.1 h
  cases s with
  | kept t =>
    rcases mem_resolveUpTo h with ⟨u, hu⟩ | he
    · cases hu
    · cases he
      exact .inr ⟨rfl, rfl⟩
  | resolved c d => exact .inl (List.mem_singleton.1 h ▸ hs)

/-- That a field gives an atom its truth value: its own name, or the negation of it. -/
def Settles (f : Field) (atom : Text) (holds : Bool) : Prop :=
  (atom = f.name ∧ holds = f.isFilled) ∨ (atom = '!' :: f.name ∧ holds = !f.isFilled)

lemma resolved_mem_afterTurns {fs : List Field} {atom : Text} {holds : Bool}
    (h : .resolved atom holds ∈ afterTurns fs ss) :
    .resolved atom holds ∈ ss ∨ ∃ f ∈ fs, Settles f atom holds := by
  induction fs generalizing ss with
  | nil => exact .inl h
  | cons f fs ih =>
    rcases ih h with h | ⟨g, hg, hs⟩
    · rcases resolved_mem_flatMap_resolve h with h | hname
      · rcases resolved_mem_flatMap_resolve h with h | hnegated
        · exact .inl h
        · exact .inr ⟨f, List.mem_cons_self .., .inr hnegated⟩
      · exact .inr ⟨f, List.mem_cons_self .., .inl hname⟩
    · exact .inr ⟨g, List.mem_cons_of_mem _ hg, hs⟩

lemma resolved_mem_stretches {fields : List Field} {condition atom : Text} {holds : Bool}
    (h : .resolved atom holds ∈ stretches condition fields) :
    ∃ f ∈ fields, Settles f atom holds := by
  rcases resolved_mem_afterTurns h with h | ⟨f, hf, hs⟩
  · simp at h
  · exact ⟨f, (mem_turns.1 hf).1, hs⟩

/-! ### Text without names -/

lemma resolveText_eq_self {atom t : Text} (h : ¬ atom <:+: t) (holds : Bool) :
    resolveText atom holds t = [.kept t] := by
  have hne : atom ≠ [] := by
    rintro rfl
    exact h List.nil_infix
  exact resolveText_of_cut?_eq_none hne holds (Text.cut?_eq_none_iff.2 h)

lemma flatMap_resolve_eq_self {atom : Text} (h : ∀ t, .kept t ∈ ss → ¬ atom <:+: t)
    (holds : Bool) : ss.flatMap (resolve atom holds) = ss := by
  have hself : ∀ s ∈ ss, resolve atom holds s = [s] := by
    intro s hs
    cases s with
    | kept t => exact resolveText_eq_self (h t hs) holds
    | resolved a b => rfl
  rw [List.flatMap_congr hself, List.flatMap_singleton']

/-- A field whose name is nowhere has nothing to do. -/
lemma resolveField_eq_self {f : Field} (h : ∀ t, .kept t ∈ ss → ¬ f.name <:+: t) :
    resolveField f ss = ss := by
  have hnegated : ∀ t, .kept t ∈ ss → ¬ '!' :: f.name <:+: t := fun t ht hi =>
    h t ht ((List.suffix_cons '!' f.name).isInfix.trans hi)
  rw [resolveField, flatMap_resolve_eq_self hnegated, flatMap_resolve_eq_self h]

lemma afterTurns_eq_self {fs : List Field}
    (h : ∀ f ∈ fs, ∀ t, .kept t ∈ ss → ¬ f.name <:+: t) : afterTurns fs ss = ss := by
  induction fs with
  | nil => rfl
  | cons f fs ih =>
    rw [List.forall_mem_cons] at h
    rw [afterTurns_cons, resolveField_eq_self h.1, ih h.2]

/-- Text stays in one piece while those have their turns whose names are not in it. -/
lemma afterTurns_kept {fs : List Field} {t : Text} (h : ∀ f ∈ fs, ¬ f.name <:+: t) :
    afterTurns fs [.kept t] = [.kept t] := by
  refine afterTurns_eq_self fun f hf u hu => ?_
  obtain rfl : u = t := by simpa using hu
  exact h f hf

lemma stretches_eq_self {fields : List Field} {t : Text}
    (h : ∀ f ∈ turns fields, ¬ f.name <:+: t) : stretches t fields = [.kept t] := afterTurns_kept h

lemma substitute_eq_self {fields : List Field} {t : Text}
    (h : ∀ f ∈ turns fields, ¬ f.name <:+: t) : substitute t fields = t := by
  rw [substitute, stretches_eq_self h]
  simp [Stretch.output]

@[simp] lemma substitute_nil (fields : List Field) : substitute [] fields = [] :=
  substitute_eq_self fun _ hf hi => (mem_turns.1 hf).2 (List.infix_nil.1 hi)

/-- The characters of a substituted condition. -/
lemma mem_of_mem_substitute {fields : List Field} {t : Text} {c : Char}
    (h : c ∈ substitute t fields) : c ∈ t ∨ ∃ b, c ∈ word b := by
  obtain ⟨s, hs, hc⟩ := List.mem_flatMap.1 h
  cases s with
  | kept u =>
    left
    rw [← source_stretches t fields]
    exact List.mem_flatMap.2 ⟨_, hs, hc⟩
  | resolved a b => exact .inr ⟨b, hc⟩

/-! ### What a condition reads of the fields -/

section Map

variable {g : Field → Field} {fields : List Field} (hname : ∀ f, (g f).name = f.name)
  (hfilled : ∀ f ∈ fields, (g f).isFilled = f.isFilled)

include hname hfilled

lemma stretches_map (t : Text) : stretches t (fields.map g) = stretches t fields := by
  have hturn : ∀ f ∈ turns fields, ∀ ss, resolveField (g f) ss = resolveField f ss := by
    intro f hf ss
    rw [resolveField, resolveField, hname, hfilled f (mem_turns.1 hf).1]
  rw [stretches_eq, stretches_eq, turns_map hname]
  generalize [Stretch.kept t] = ss
  generalize turns fields = fs at hturn
  induction fs generalizing ss with
  | nil => rfl
  | cons f fs ih =>
    rw [List.forall_mem_cons] at hturn
    rw [List.map_cons, afterTurns_cons, afterTurns_cons, hturn.1, ih _ hturn.2]

/-- A condition reads the names of the fields, and which of them are empty. -/
theorem substitute_map (t : Text) : substitute t (fields.map g) = substitute t fields := by
  rw [substitute, substitute, stretches_map hname hfilled]

end Map

end CitationNotes.Condition
