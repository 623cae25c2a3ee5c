import Mathlib.Data.List.Forall2
import CitationNotes.Proofs.Condition.Atoms

/-!
Text that cannot hold any more.

Text that has a truth word in it, and more than the true word, is ruined: it does not hold, and no
term that it becomes part of does. So if some of the text between the marks of a condition gives
way to ruined text, the condition holds at most where it held before. The scan carries this from
terms to levels and from a level to the one around it.
-/

namespace CitationNotes.Condition

open Text

/-- Nothing that is glued to ruined text makes it good. -/
lemma Ruined.glue {t : Text} (h : Ruined t) (u v : Text) : Ruined (u ++ t ++ v) := by
  obtain ⟨hlen, b, hb⟩ := h
  refine ⟨?_, b, hb.trans (List.infix_append u t v)⟩
  rw [List.length_append, List.length_append]
  omega

/-! ### Between marks -/

/-- Text that holds at most where `u` does, whatever both are made part of. -/
def AtMost (t u : Text) : Prop := t = u ∨ Ruined t

namespace AtMost

variable {t u : Text}

lemma append {s v : Text} (h : AtMost t u) (h' : AtMost s v) : AtMost (t ++ s) (u ++ v) := by
  rcases h with rfl | h
  · rcases h' with rfl | h'
    · exact .inl rfl
    · exact .inr (by simpa using h'.glue t [])
  · exact .inr (h.glue [] s)

lemma termHolds (h : AtMost t u) (ht : termHolds t = true) : termHolds u = true := by
  rcases h with rfl | h
  · exact ht
  · rw [h.termHolds] at ht
    cases ht

lemma word {a b : Bool} (h : a = true → b = true) : AtMost (word a) (word b) := by
  cases a with
  | false => exact .inr ruined_word_false
  | true => exact .inl (by rw [h rfl])

end AtMost

/-- Two texts without marks, the first of which holds at most where the second does. -/
structure Part (t u : Text) : Prop where
  left : ∀ c ∈ t, isMark c = false
  right : ∀ c ∈ u, isMark c = false
  atMost : AtMost t u

lemma Part.append {t u s v : Text} (h : Part t u) (h' : Part s v) : Part (t ++ s) (u ++ v) where
  left := List.forall_mem_append.2 ⟨h.left, h'.left⟩
  right := List.forall_mem_append.2 ⟨h.right, h'.right⟩
  atMost := h.atMost.append h'.atMost

lemma Part.nil : Part [] [] := ⟨by simp, by simp, .inl rfl⟩

/-- The same marks, and between two of them text that holds at most where that of `u` does. -/
inductive Under : Text → Text → Prop where
  | part {t u : Text} (h : Part t u) : Under t u
  | cons {t u s v : Text} {m : Char} (h : Part t u) (hm : isMark m = true) (hs : Under s v) :
    Under (t ++ m :: s) (u ++ m :: v)

namespace Under

variable {t u s v : Text} {m : Char}

lemma nil : Under [] [] := .part .nil

lemma mark (hm : isMark m = true) : Under [m] [m] := .cons .nil hm nil

lemma word {a b : Bool} (h : a = true → b = true) : Under (word a) (word b) :=
  .part ⟨isMark_word a, isMark_word b, .word h⟩

lemma append (h : Under t u) (h' : Under s v) : Under (t ++ s) (u ++ v) := by
  induction h with
  | part h =>
    -- the last part of the one and the first of the other become one
    cases h' with
    | part h' => exact .part (h.append h')
    | cons h' hm hrest =>
      rw [← List.append_assoc, ← List.append_assoc]
      exact .cons (h.append h') hm hrest
  | cons h hm hs ih =>
    rw [List.append_assoc, List.append_assoc]
    exact .cons h hm ih

/-- One ruined part ruins the text if the marks are of no account. -/
lemma atMost (h : Under t u) : AtMost t u := by
  induction h with
  | part h => exact h.atMost
  | @cons t u s v m h hm hs ih =>
    have hmark : AtMost [m] [m] := .inl rfl
    exact h.atMost.append (hmark.append ih)

lemma mem_iff (hm : isMark m = true) (h : Under t u) : m ∈ t ↔ m ∈ u := by
  induction h with
  | part h => exact iff_of_false (not_mem_of_isMark h.left hm) (not_mem_of_isMark h.right hm)
  | cons h hm' hs ih =>
    simp [not_mem_of_isMark h.left hm, not_mem_of_isMark h.right hm, ih]

end Under

/-! ### Terms and levels -/

/-- Text in front of the first separator belongs to the first part. -/
lemma splitOn_append_of_not_mem {x : Text} {c : Char} (h : c ∉ x) (s : Text) :
    (x ++ s).splitOn c = (s.splitOn c).modifyHead (x ++ ·) := by
  induction x with
  | nil => exact (congrFun List.modifyHead_id _).symm
  | cons d x ih =>
    rw [List.mem_cons, not_or] at h
    have hd : (d == c) = false := by simpa using Ne.symm h.1
    rw [List.cons_append, List.splitOn_cons_eq_if_modifyHead, hd, ih h.2]
    simp [Function.comp_def]

lemma all_any_of_forall₂ {p : Text → Bool} {ts us : List Text}
    (h : List.Forall₂ (fun x y => p x = true → p y = true) ts us) :
    (ts.all p = true → us.all p = true) ∧ (ts.any p = true → us.any p = true) := by
  induction h with
  | nil => simp
  | cons hxy h ih =>
    simp only [List.all_cons, List.any_cons, Bool.and_eq_true, Bool.or_eq_true]
    exact ⟨fun ⟨hx, hxs⟩ => ⟨hxy hx, ih.1 hxs⟩, Or.imp hxy ih.2⟩

namespace Under

variable {t u : Text}

lemma splitOn {c : Char} (hc : isMark c = true) (h : Under t u) :
    List.Forall₂ Under (t.splitOn c) (u.splitOn c) := by
  induction h with
  | part h =>
    rw [List.splitOn_eq_singleton (not_mem_of_isMark h.left hc),
      List.splitOn_eq_singleton (not_mem_of_isMark h.right hc)]
    exact .cons (.part h) .nil
  | @cons t u s v m h hm hs ih =>
    have ht := not_mem_of_isMark h.left hc
    have hu := not_mem_of_isMark h.right hc
    by_cases hmc : m = c
    · subst hmc
      rw [List.splitOn_append_cons_self_of_not_mem ht, List.splitOn_append_cons_self_of_not_mem hu]
      exact .cons (.part h) ih
    · -- the first part behind the mark is continued to the left
      have hsplit {x y : Text} (hx : c ∉ x) :
          (x ++ m :: y).splitOn c = (y.splitOn c).modifyHead (x ++ m :: ·) := by
        have := splitOn_append_of_not_mem (x := x ++ [m]) (c := c) (by simp [hx, Ne.symm hmc]) y
        simpa using this
      rw [hsplit ht, hsplit hu]
      cases hs' : s.splitOn c with
      | nil => exact absurd hs' (List.splitOn_ne_nil c s)
      | cons a as =>
        rw [hs', List.forall₂_cons_left_iff] at ih
        obtain ⟨b, bs, hab, has, hv⟩ := ih
        rw [hv]
        exact .cons (.cons h hm hab) has

lemma lineHolds (h : Under t u) (ht : lineHolds t = true) : lineHolds u = true := by
  have hterms {c : Char} (hc : isMark c = true) := all_any_of_forall₂
    ((h.splitOn hc).imp fun _ _ hxy => hxy.atMost.termHolds)
  have hconj : isConjunction u = isConjunction t := by
    rw [isConjunction, isConjunction, List.contains_eq_mem, List.contains_eq_mem]
    exact decide_eq_decide.2 (h.mem_iff rfl).symm
  unfold Condition.lineHolds terms at ht ⊢
  rw [hconj]
  by_cases hc : isConjunction t = true
  · rw [if_pos hc, if_pos hc] at ht ⊢
    exact (hterms rfl).1 ht
  · rw [if_neg hc, if_neg hc] at ht ⊢
    exact (hterms rfl).2 ht

end Under

/-! ### Groups -/

namespace Stack

/-- Each level of `s` is under that of `s'`. -/
structure Under (s s' : Stack) : Prop where
  line : Condition.Under s.line s'.line
  outer : List.Forall₂ Condition.Under s.outer s'.outer

variable {s s₁ s' : Stack} {c : Char}

lemma Under.step? (hs : s.Under s₁) (hc : isMark c = true) (h : s.step? c = some s') :
    ∃ s₁', s₁.step? c = some s₁' ∧ s'.Under s₁' := by
  rcases step?_eq_some h with ⟨rfl, rfl⟩ | ⟨rfl, around, outer, houter, rfl⟩ | ⟨hne, rfl⟩
  · exact ⟨_, step?_open s₁, .nil, .cons hs.line hs.outer⟩
  · obtain ⟨line₁, outer₁⟩ := s₁
    obtain ⟨hline, hrest⟩ := hs
    rw [houter, List.forall₂_cons_left_iff] at hrest
    obtain ⟨around₁, outer₁, haround, hrest, rfl⟩ := hrest
    exact ⟨_, step?_close .., haround.append (.word hline.lineHolds), hrest⟩
  · exact ⟨_, step?_of_ne hne s₁, hs.line.append (.mark hc), hs.outer⟩

lemma Under.run? {t u : Text} (htu : Condition.Under t u) (hs : s.Under s₁)
    (h : s.run? t = some s') : ∃ s₁', s₁.run? u = some s₁' ∧ s'.Under s₁' := by
  have happend {s s₁ : Stack} {t u : Text} (hs : s.Under s₁) (h : Part t u) :
      Under ⟨s.line ++ t, s.outer⟩ ⟨s₁.line ++ u, s₁.outer⟩ :=
    ⟨hs.line.append (.part h), hs.outer⟩
  induction htu generalizing s s₁ with
  | @part t u htu =>
    have hrun := run?_append_of_forall htu.left s []
    have hrun₁ := run?_append_of_forall htu.right s₁ []
    rw [List.append_nil] at hrun hrun₁
    rw [hrun] at h
    obtain rfl := Option.some.inj h
    exact ⟨_, hrun₁, happend hs htu⟩
  | @cons t u r v m htu hm hrest ih =>
    rw [run?_append_of_forall htu.left] at h
    rw [run?_append_of_forall htu.right, run?_cons]
    obtain ⟨s₂, hstep, hrun⟩ := Option.bind_eq_some_iff.1 h
    obtain ⟨s₃, hstep₁, hs₂⟩ := (happend hs htu).step? hm hstep
    rw [hstep₁]
    exact ih hs₂ hrun

end Stack

/-- **What is above a true condition is true.** -/
theorem Under.evaluate {t u : Text} (h : Under t u) (ht : evaluate t = .ok true) :
    evaluate u = .ok true := by
  obtain ⟨line, hrun, hholds⟩ := evaluate_eq_ok_iff.1 ht
  have hinit : Stack.init.Under Stack.init := ⟨.nil, .nil⟩
  obtain ⟨⟨line', outer⟩, hrun', hline, houter⟩ := Stack.Under.run? h hinit hrun
  obtain rfl := List.forall₂_nil_left_iff.1 houter
  exact evaluate_eq_ok_iff.2 ⟨line', hrun', hline.lineHolds hholds⟩

/-! ### Whole conditions -/

lemma holds_eq_true_iff {t : Text} {fields : List Field} :
    holds t fields = true ↔ evaluate (substitute t fields) = .ok true := by
  rw [holds]
  split
  · next b hb => simp [hb]
  · next e he => simp [he]

lemma isMark_substitute {x : Text} {fields : List Field} (h : ∀ c ∈ x, isMark c = false) :
    ∀ c ∈ substitute x fields, isMark c = false := by
  intro c hc
  rcases mem_of_mem_substitute hc with hc | ⟨b, hc⟩
  · exact h c hc
  · exact isMark_word b c hc

section Fields

variable {fields fields' : List Field} (hf : ∀ f ∈ fields, ∀ c ∈ f.name, isMark c = false)
  (hf' : ∀ f ∈ fields', ∀ c ∈ f.name, isMark c = false)

include hf hf'

/-- What the fields make of a condition is up to what they make of the text between its marks. -/
lemma under_substitute {t : Text} (h : ∀ x, x <:+: t → (∀ c ∈ x, isMark c = false) →
    AtMost (substitute x fields) (substitute x fields')) :
    Under (substitute t fields) (substitute t fields') := by
  -- the text since the last mark is carried along
  have key (t x : Text) (hx : ∀ c ∈ x, isMark c = false) (h : ∀ y, y <:+: x ++ t →
      (∀ c ∈ y, isMark c = false) → AtMost (substitute y fields) (substitute y fields')) :
      Under (substitute (x ++ t) fields) (substitute (x ++ t) fields') := by
    induction t generalizing x with
    | nil =>
      rw [List.append_nil] at h ⊢
      exact .part ⟨isMark_substitute hx, isMark_substitute hx, h x List.infix_rfl hx⟩
    | cons m t ih =>
      by_cases hm : isMark m = true
      · rw [substitute_cons_of_isMark hf hm, substitute_cons_of_isMark hf' hm]
        have hpart : Part (substitute x fields) (substitute x fields') :=
          ⟨isMark_substitute hx, isMark_substitute hx, h x (List.prefix_append x _).isInfix hx⟩
        have hrest : Under (substitute t fields) (substitute t fields') :=
          ih [] (by simp) fun y hy => h y (hy.trans ⟨x ++ [m], [], by simp⟩)
        exact .cons hpart hm hrest
      · rw [Bool.not_eq_true] at hm
        have hxm : ∀ c ∈ x ++ [m], isMark c = false :=
          List.forall_mem_append.2 ⟨hx, List.forall_mem_singleton.2 hm⟩
        have hcons : x ++ m :: t = x ++ [m] ++ t := by simp
        rw [hcons] at h ⊢
        exact ih (x ++ [m]) hxm h
  exact key t [] (by simp) h

/-- **A condition is decided between its marks**: it holds at most where it did before if all text
between two marks does. -/
theorem holds_of_holds {t : Text} (h : ∀ x, x <:+: t → (∀ c ∈ x, isMark c = false) →
    AtMost (substitute x fields) (substitute x fields')) (ht : holds t fields = true) :
    holds t fields' = true := by
  rw [holds_eq_true_iff] at ht ⊢
  exact (under_substitute hf hf' h).evaluate ht

end Fields

end CitationNotes.Condition
