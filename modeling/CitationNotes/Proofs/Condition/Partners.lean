import CitationNotes.Condition.Groups
import CitationNotes.Proofs.Condition.Innermost

/-!
What is wrong with the parentheses of a condition, and where.

Whether a condition closes too much, and which of its opening parentheses have a partner, is said
by counting parentheses in parts of it. The scan reports the first parenthesis that closes too much,
and else the last one that has no partner, at the byte where it stands. Names have no parentheses,
so the fields have no say in whether there is such a parenthesis, nor in which of the two it is.
-/

namespace CitationNotes.Condition

open Text

/-- Up to some place there are more closing than opening parentheses. -/
def ClosesTooMuch (t : Text) : Prop := ∃ w, w <+: t ∧ w.count '(' < w.count ')'

/-- Behind an opening parenthesis comes its partner, with only whole groups between the two. -/
def HasPartner (behind : Text) : Prop :=
  ∃ x y, behind = x ++ ')' :: y ∧ ¬ ClosesTooMuch x ∧ x.count '(' = x.count ')'

/-- Some opening parenthesis has no partner. -/
def LeavesOpen (t : Text) : Prop := ∃ u v, t = u ++ '(' :: v ∧ ¬ HasPartner v

/-- The fault of a text, and the byte at which it is. -/
inductive FaultOf (t : Text) : Fault → Prop where
  /-- The parenthesis that ends the shortest part in which too much is closed. -/
  | unexpectedClose {u v : Text} (ht : t = u ++ ')' :: v) (hu : ¬ ClosesTooMuch u)
      (hclose : (u ++ [')']).count '(' < (u ++ [')']).count ')') :
    FaultOf t (.unexpectedClose (byteLength u))
  /-- The last parenthesis without a partner, where no part closes too much. -/
  | unclosed {u v : Text} (ht : t = u ++ '(' :: v) (hnone : ¬ ClosesTooMuch t)
      (hopen : ¬ HasPartner v) (hlast : ∀ x y, v = x ++ '(' :: y → HasPartner y) :
    FaultOf t (.unclosed (byteLength u))

/-! ### Counting -/

/-- What is open in the end and what has been closed is what was open and has been opened. -/
lemma count_of_openAfter? {d e : ℕ} {t : Text} (h : openAfter? d t = some e) :
    e + t.count ')' = d + t.count '(' := by
  induction t generalizing d with
  | nil => exact (Option.some.inj h).symm
  | cons c t ih =>
    rcases eq_or_not_isParen c with rfl | rfl | hc
    · have := ih (openAfter?_open d t ▸ h)
      simp
      omega
    · rcases d with _ | d
      · cases h
      have := ih (openAfter?_close_succ d t ▸ h)
      simp
      omega
    · rw [openAfter?_of_not_isParen hc] at h
      obtain ⟨ho, hcl⟩ : c ≠ '(' ∧ c ≠ ')' := by simpa [isParen] using hc
      rw [List.count_cons_of_ne ho, List.count_cons_of_ne hcl]
      exact ih h

/-- The count breaks off at the closing parenthesis that is one too many. -/
lemma openAfter?_eq_none_iff {d : ℕ} {t : Text} :
    openAfter? d t = none ↔ ∃ x y, t = x ++ ')' :: y ∧ openAfter? d x = some 0 := by
  refine ⟨fun h => ?_, fun ⟨x, y, ht, hx⟩ => ?_⟩
  · induction t generalizing d with
    | nil => cases h
    | cons c t ih =>
      rcases eq_or_not_isParen c with rfl | rfl | hc
      · obtain ⟨x, y, rfl, hx⟩ := ih (openAfter?_open d t ▸ h)
        exact ⟨'(' :: x, y, rfl, hx⟩
      · rcases d with _ | d
        · exact ⟨[], t, rfl, rfl⟩
        obtain ⟨x, y, rfl, hx⟩ := ih (openAfter?_close_succ d t ▸ h)
        exact ⟨')' :: x, y, rfl, hx⟩
      · rw [openAfter?_of_not_isParen hc] at h
        obtain ⟨x, y, rfl, hx⟩ := ih h
        exact ⟨c :: x, y, rfl, (openAfter?_of_not_isParen hc d x).trans hx⟩
  · rw [ht, openAfter?_append, hx, Option.bind_some, openAfter?_close_zero]

lemma closesTooMuch_iff {t : Text} : ClosesTooMuch t ↔ openAfter? 0 t = none := by
  constructor
  · rintro ⟨w, ⟨v, rfl⟩, hw⟩
    rw [openAfter?_append]
    rcases h : openAfter? 0 w with _ | d
    · rfl
    · have := count_of_openAfter? h
      omega
  · intro h
    obtain ⟨x, y, rfl, hx⟩ := openAfter?_eq_none_iff.1 h
    have hcount := count_of_openAfter? hx
    refine ⟨x ++ [')'], ⟨y, by simp⟩, ?_⟩
    simp
    omega

instance (t : Text) : Decidable (ClosesTooMuch t) := decidable_of_iff _ closesTooMuch_iff.symm

lemma not_closesTooMuch_iff {t : Text} : ¬ ClosesTooMuch t ↔ ∃ d, openAfter? 0 t = some d := by
  rw [closesTooMuch_iff, ← ne_eq, Option.ne_none_iff_exists']

lemma balanced_iff {t : Text} : Balanced t ↔ ¬ ClosesTooMuch t ∧ t.count '(' = t.count ')' := by
  rw [not_closesTooMuch_iff]
  constructor
  · intro h
    have := count_of_openAfter? h
    exact ⟨⟨0, h⟩, by omega⟩
  · rintro ⟨⟨d, hd⟩, hcount⟩
    have := count_of_openAfter? hd
    obtain rfl : d = 0 := by omega
    exact hd

/-- A partner is a parenthesis that is too much for the text behind the opening one. -/
lemma hasPartner_iff {v : Text} : HasPartner v ↔ openAfter? 0 v = none := by
  simp only [HasPartner, ← balanced_iff, openAfter?_eq_none_iff, Balanced]

instance (v : Text) : Decidable (HasPartner v) := decidable_of_iff _ hasPartner_iff.symm

/-- In a whole group every opening parenthesis has a partner. -/
lemma Balanced.hasPartner {x y : Text} (h : Balanced (x ++ '(' :: y)) : HasPartner y := by
  rw [Balanced, openAfter?_append] at h
  obtain ⟨d, -, hy⟩ := Option.bind_eq_some_iff.1 h
  rw [hasPartner_iff, openAfter?_zero (openAfter?_open d y ▸ hy), if_neg (by omega)]

lemma Balanced.not_hasPartner {v : Text} (h : Balanced v) : ¬ HasPartner v := by
  rw [hasPartner_iff, h]
  exact Option.some_ne_none 0

lemma Balanced.append {t u : Text} (h : Balanced t) (h' : Balanced u) : Balanced (t ++ u) := by
  rw [Balanced, openAfter?_append, h]
  exact h'

lemma Balanced.group {t : Text} (h : Balanced t) : Balanced ('(' :: (t ++ [')'])) := by
  rw [Balanced, openAfter?_open, openAfter?_append, openAfter?_add 1 h]
  rfl

lemma balanced_of_not_isParen {c : Char} (hc : isParen c = false) : Balanced [c] :=
  openAfter?_of_not_isParen hc 0 []

/-! ### The scan -/

namespace Scan

/-- All that a character can do to the groups that are open, and to the place. -/
lemma step_eq_ok {s s' : Scan} {c : Char} (h : s.step c = .ok s') :
    s'.place = s.place + c.utf8Size ∧
      ((c = '(' ∧ s'.outer = (s.place, s.line) :: s.outer) ∨
        (c = ')' ∧ ∃ o, s.outer = o :: s'.outer) ∨
        (isParen c = false ∧ s'.outer = s.outer)) := by
  unfold step at h
  split at h
  · next ho =>
    obtain rfl := Except.ok.inj h
    exact ⟨rfl, .inl ⟨ho, rfl⟩⟩
  · next ho =>
    split at h
    · next hc =>
      split at h
      · cases h
      · next o around outer houter =>
        obtain rfl := Except.ok.inj h
        exact ⟨rfl, .inr (.inl ⟨hc, _, houter⟩)⟩
    · next hc =>
      obtain rfl := Except.ok.inj h
      exact ⟨rfl, .inr (.inr ⟨by simp [isParen, ho, hc], rfl⟩)⟩

lemma place_run {s s' : Scan} {t : Text} (h : s.run t = .ok s') :
    s'.place = s.place + byteLength t := by
  induction t generalizing s with
  | nil =>
    obtain rfl := Except.ok.inj h
    rfl
  | cons c t ih =>
    rw [run_cons] at h
    rcases hc : s.step c with e | s₁
    · rw [hc] at h
      cases h
    · rw [hc] at h
      rw [ih h, (step_eq_ok hc).1, byteLength_cons, Nat.add_assoc]

/-- The innermost open group starts where the scan has been with all that is around the group. -/
lemma exists_of_outer_eq_cons {t : Text} {s : Scan} {place : ℕ} {line : Text}
    {outer : List (ℕ × Text)} (h : init.run t = .ok s) (ho : s.outer = (place, line) :: outer) :
    ∃ u v, t = u ++ '(' :: v ∧ Balanced v ∧ init.run u = .ok ⟨place, line, outer⟩ := by
  rcases List.eq_nil_or_concat' t with rfl | ⟨t, c, rfl⟩
  · obtain rfl := Except.ok.inj h
    cases ho
  rw [run_append] at h
  rcases ht : init.run t with e | s₁
  · rw [ht] at h
    cases h
  rw [ht] at h
  have hstep : s₁.step c = .ok s := by
    rcases hc : s₁.step c with e | s₂
    · simp [Except.bind, hc] at h
    · simpa [Except.bind, hc] using h
  rcases (step_eq_ok hstep).2 with ⟨rfl, hopen⟩ | ⟨rfl, ⟨place₁, line₁⟩, hclose⟩ | ⟨hc, hsame⟩
  · obtain ⟨hfirst, rfl⟩ := List.cons.inj (ho ▸ hopen)
    obtain ⟨rfl, rfl⟩ := Prod.mk.inj hfirst
    exact ⟨t, [], rfl, rfl, ht⟩
  · -- The group that is closed here lies in the one that is looked for.
    obtain ⟨u₁, v₁, rfl, hv₁, hu₁⟩ := exists_of_outer_eq_cons ht hclose
    obtain ⟨u, v, rfl, hv, hu⟩ := exists_of_outer_eq_cons hu₁ ho
    exact ⟨u, v ++ '(' :: (v₁ ++ [')']), by simp, hv.append hv₁.group, hu⟩
  · obtain ⟨u, v, rfl, hv, hu⟩ := exists_of_outer_eq_cons ht (hsame ▸ ho)
    exact ⟨u, v ++ [c], by simp, hv.append (balanced_of_not_isParen hc), hu⟩
termination_by t.length

/-- Behind text that the scan has read, it stands at the end of the text. -/
lemma place_run_init {t : Text} {s : Scan} (h : init.run t = .ok s) : s.place = byteLength t := by
  rw [place_run h]
  exact Nat.zero_add _

lemma openAfter?_of_run {t : Text} {s : Scan} (h : init.run t = .ok s) :
    openAfter? 0 t = some s.outer.length := by
  have := outer_length_run init t
  rw [h] at this
  exact this.symm

end Scan

/-! ### The faults -/

lemma faultOf_of_evaluate_eq_error {t : Text} {e : Fault} (h : evaluate t = .error e) :
    FaultOf t e := by
  rw [evaluate, reduce] at h
  rcases hrun : Scan.init.run t with e' | s
  · obtain rfl : e' = e := by simpa [hrun, Except.bind, Except.map] using h
    obtain ⟨u, v, s, rfl, hu, hnone, rfl⟩ := Scan.exists_of_run_eq_error hrun
    have hb : Balanced u := by
      rw [Balanced, Scan.openAfter?_of_run hu, hnone]
      rfl
    obtain ⟨hu', hcount⟩ := balanced_iff.1 hb
    rw [Scan.place_run_init hu]
    exact .unexpectedClose rfl hu' (by simp [hcount])
  · rcases houter : s.outer with _ | ⟨⟨place, line⟩, outer⟩
    · simp [hrun, Except.bind, Except.map, Scan.finish, houter] at h
    · obtain rfl : Fault.unclosed place = e := by
        simpa [hrun, Except.bind, Except.map, Scan.finish, houter] using h
      obtain ⟨u, v, rfl, hv, hu⟩ := Scan.exists_of_outer_eq_cons hrun houter
      obtain rfl : place = byteLength u := Scan.place_run_init hu
      refine .unclosed rfl ?_ hv.not_hasPartner fun x y hxy => (hxy ▸ hv).hasPartner
      exact not_closesTooMuch_iff.2 ⟨_, Scan.openAfter?_of_run hrun⟩

/-- Two places with the same character are the same, or one comes first. -/
lemma eq_or_of_append_cons_eq {c : Char} {u v u' v' : Text} (h : u ++ c :: v = u' ++ c :: v') :
    u = u' ∨ (∃ x, u' = u ++ c :: x ∧ v = x ++ c :: v') ∨
      ∃ x, u = u' ++ c :: x ∧ v' = x ++ c :: v := by
  rcases List.append_eq_append_iff.1 h with ⟨as, hu, hv⟩ | ⟨as, hu, hv⟩
  · rcases as with _ | ⟨a, x⟩
    · exact .inl (hu.trans (List.append_nil u)).symm
    · obtain ⟨rfl, rfl⟩ := List.cons.inj hv
      exact .inr (.inl ⟨x, hu, rfl⟩)
  · rcases as with _ | ⟨a, x⟩
    · exact .inl (hu.trans (List.append_nil u'))
    · obtain ⟨rfl, rfl⟩ := List.cons.inj hv
      exact .inr (.inr ⟨x, hu, rfl⟩)

lemma closesTooMuch_of_count_lt {u v : Text}
    (h : (u ++ [')']).count '(' < (u ++ [')']).count ')') : ClosesTooMuch (u ++ ')' :: v) :=
  ⟨u ++ [')'], ⟨v, by simp⟩, h⟩

/-- There is one fault at most: only one place is the first that closes too much, and only one
parenthesis without a partner is the last. -/
lemma FaultOf.unique {t : Text} {e e' : Fault} (h : FaultOf t e) (h' : FaultOf t e') : e = e' := by
  cases h with
  | unexpectedClose ht hu hclose =>
    cases h' with
    | unexpectedClose ht' hu' hclose' =>
      rcases eq_or_of_append_cons_eq (ht.symm.trans ht') with rfl | ⟨x, rfl, -⟩ | ⟨x, rfl, -⟩
      · rfl
      · exact absurd (closesTooMuch_of_count_lt hclose) hu'
      · exact absurd (closesTooMuch_of_count_lt hclose') hu
    | unclosed ht' hnone => exact absurd (ht ▸ closesTooMuch_of_count_lt hclose) hnone
  | unclosed ht hnone hopen hlast =>
    cases h' with
    | unexpectedClose ht' hu' hclose' =>
      exact absurd (ht' ▸ closesTooMuch_of_count_lt hclose') hnone
    | unclosed ht' hnone' hopen' hlast' =>
      rcases eq_or_of_append_cons_eq (ht.symm.trans ht') with rfl | ⟨x, -, hx⟩ | ⟨x, -, hx⟩
      · rfl
      · exact absurd (hlast x _ hx) hopen'
      · exact absurd (hlast' x _ hx) hopen

lemma not_faultOf_of_balanced {t : Text} (h : Balanced t) (e : Fault) : ¬ FaultOf t e := by
  intro he
  cases he with
  | unexpectedClose ht hu hclose =>
    exact (balanced_iff.1 h).1 (ht ▸ closesTooMuch_of_count_lt hclose)
  | unclosed ht hnone hopen => exact hopen (ht ▸ h).hasPartner

/-- Parentheses match unless too much is closed or something is left open. -/
lemma balanced_iff_not_leavesOpen {t : Text} :
    Balanced t ↔ ¬ ClosesTooMuch t ∧ ¬ LeavesOpen t := by
  constructor
  · intro h
    refine ⟨(balanced_iff.1 h).1, ?_⟩
    rintro ⟨u, v, rfl, hopen⟩
    exact hopen h.hasPartner
  · rintro ⟨hnone, hclosed⟩
    rcases he : evaluate t with e | b
    · cases faultOf_of_evaluate_eq_error he with
      | unexpectedClose ht hu hclose =>
        exact absurd (ht ▸ closesTooMuch_of_count_lt hclose) hnone
      | unclosed ht _ hopen => exact absurd ⟨_, _, ht, hopen⟩ hclosed
    · exact exists_evaluate_eq_ok_iff.1 ⟨b, he⟩

/-- **Every text that cannot be evaluated has one fault**, which is reported where it is: the first
parenthesis that closes too much, or else the last one that has no partner. The fields may move the
fault to another byte, but there is one of the same kind for all fields or for none. -/
theorem evaluate_eq_error_iff_faultOf (t : Text) :
    (∀ e, evaluate t = .error e ↔ FaultOf t e) ∧
    ((∃ b, evaluate t = .ok b) ↔ ¬ ClosesTooMuch t ∧ ¬ LeavesOpen t) ∧
    ∀ fields : List Field, (∀ f ∈ fields, FieldName.fault? f.name = none) →
      (ClosesTooMuch (substitute t fields) ↔ ClosesTooMuch t) ∧
      (¬ ClosesTooMuch (substitute t fields) ∧ LeavesOpen (substitute t fields) ↔
        ¬ ClosesTooMuch t ∧ LeavesOpen t) ∧
      (ClosesTooMuch t ∨ LeavesOpen t → holds t fields = false) := by
  have hok {t : Text} : (∃ b, evaluate t = .ok b) ↔ ¬ ClosesTooMuch t ∧ ¬ LeavesOpen t :=
    exists_evaluate_eq_ok_iff.trans balanced_iff_not_leavesOpen
  refine ⟨fun e => ⟨faultOf_of_evaluate_eq_error, fun he => ?_⟩, hok, fun fields hf => ?_⟩
  · rcases hval : evaluate t with e' | b
    · rw [(faultOf_of_evaluate_eq_error hval).unique he]
    · exact absurd he (not_faultOf_of_balanced (exists_evaluate_eq_ok_iff.1 ⟨b, hval⟩) e)
  · have htooMuch : ClosesTooMuch (substitute t fields) ↔ ClosesTooMuch t := by
      rw [closesTooMuch_iff, openAfter?_substitute hf, ← closesTooMuch_iff]
    have hbalanced : Balanced (substitute t fields) ↔ Balanced t := by
      rw [Balanced, openAfter?_substitute hf, Balanced]
    rw [balanced_iff_not_leavesOpen, balanced_iff_not_leavesOpen] at hbalanced
    refine ⟨htooMuch, by tauto, fun hbad => ?_⟩
    rw [holds]
    rcases he : evaluate (substitute t fields) with e | b
    · rfl
    · have := hbalanced.1 (hok.1 ⟨b, he⟩)
      tauto

/-- A group that is left open behind a name of two bytes, and a group in it that is not. -/
def leftOpen : Text := "é(ü|(a)".toList

/-- A parenthesis too much, behind which another one is left open. -/
def oneTooMuch : Text := "(é)|ü)((a)".toList

theorem evaluate_eq_error_iff_faultOf_leftOpen :
    (∀ f ∈ [Field.mk ['é'] ['A'] false false], FieldName.fault? f.name = none) ∧
    FaultOf leftOpen (.unclosed 2) ∧
    (¬ ClosesTooMuch leftOpen ∧ LeavesOpen leftOpen) ∧
    (¬ ClosesTooMuch (substitute leftOpen [⟨['é'], ['A'], false, false⟩]) ∧
      LeavesOpen (substitute leftOpen [⟨['é'], ['A'], false, false⟩])) ∧
    holds leftOpen [⟨['é'], ['A'], false, false⟩] = false ∧
    FaultOf oneTooMuch (.unexpectedClose 7) ∧
    ClosesTooMuch (substitute oneTooMuch [⟨['é'], ['A'], false, false⟩]) ∧
    holds oneTooMuch [⟨['é'], ['A'], false, false⟩] = false := by
  have hf : ∀ f ∈ [Field.mk ['é'] ['A'] false false], FieldName.fault? f.name = none := by decide
  have hopen : ¬ ClosesTooMuch leftOpen ∧ LeavesOpen leftOpen :=
    ⟨by decide, "é".toList, "ü|(a)".toList, by decide, by decide⟩
  have hclose : ClosesTooMuch oneTooMuch := by decide
  have hleft := evaluate_eq_error_iff_faultOf leftOpen
  have htooMuch := evaluate_eq_error_iff_faultOf oneTooMuch
  obtain ⟨-, hcase, hfalse⟩ := hleft.2.2 _ hf
  obtain ⟨hcase', -, hfalse'⟩ := htooMuch.2.2 _ hf
  exact ⟨hf, (hleft.1 _).1 (by decide), hopen, hcase.2 hopen, hfalse (.inr hopen.2),
    (htooMuch.1 _).1 (by decide), hcase'.2 hclose, hfalse' (.inl hclose)⟩

end CitationNotes.Condition
