import Mathlib.Logic.Relation
import CitationNotes.Proofs.Condition.Balance
import CitationNotes.Proofs.Condition.Levels

/-!
Groups settled one at a time, the innermost first.

A condition may also be read as a text that is rewritten: any group without groups in it gives way
to its truth word, until no parenthesis is left. The scan does not notice such a step, since it puts
the same word into the level around the group, and places apart it is in the same state behind it.
So all ways of rewriting a condition end with the same word, the one that the scan finds.
-/

namespace CitationNotes.Condition

def Parenless (t : Text) : Prop := '(' ∉ t ∧ ')' ∉ t

/-- Every parenthesis has a partner. -/
def Balanced (t : Text) : Prop := openAfter? 0 t = some 0

instance (t : Text) : Decidable (Balanced t) := inferInstanceAs (Decidable (openAfter? 0 t = some 0))

/-- One innermost group gives way to its truth word. -/
inductive Contracts : Text → Text → Prop where
  | group (u : Text) {inner : Text} (h : Parenless inner) (v : Text) :
    Contracts (u ++ '(' :: (inner ++ ')' :: v)) (u ++ (word (lineHolds inner) ++ v))

/-! ### A contraction -/

lemma parenless_word (b : Bool) : Parenless (word b) :=
  ⟨not_mem_of_isMark (isMark_word b) rfl, not_mem_of_isMark (isMark_word b) rfl⟩

/-- Reading a group leaves what reading its truth word leaves. -/
lemma Contracts.run?_eq {t t' : Text} (h : Contracts t t') (s : Stack) : s.run? t = s.run? t' := by
  obtain ⟨u, hinner, v⟩ := h
  have hgroup (s : Stack) {inner : Text} (h : Parenless inner) :
      s.run? ('(' :: (inner ++ ')' :: v)) = s.run? (word (lineHolds inner) ++ v) := by
    rw [Stack.run?_append_of_not_mem (parenless_word _).1 (parenless_word _).2, Stack.run?_cons,
      Stack.step?_open, Option.bind_some, Stack.run?_append_of_not_mem h.1 h.2, List.nil_append]
    rfl
  rw [Stack.run?_append, Stack.run?_append]
  exact congrArg _ (funext fun s => hgroup s hinner)

/-- **A contraction changes nothing** about the value of a condition. -/
lemma Contracts.evaluate_eq {t t' : Text} (h : Contracts t t') (hb : Balanced t) :
    Balanced t' ∧ evaluate t' = evaluate t := by
  obtain ⟨b, hval⟩ := exists_evaluate_eq_ok_iff.2 hb
  have hval' : evaluate t' = .ok b := by
    rw [evaluate_eq_ok_iff, h.run?_eq] at hval
    exact evaluate_eq_ok_iff.2 hval
  exact ⟨exists_evaluate_eq_ok_iff.1 ⟨b, hval'⟩, hval'.trans hval.symm⟩

/-! ### Contractions until none is possible -/

/-- Each contraction takes one opening parenthesis away. -/
lemma Contracts.count_eq {t t' : Text} (h : Contracts t t') :
    t.count '(' = t'.count '(' + 1 := by
  obtain ⟨u, hinner, v⟩ := h
  have hnone {w : Text} (hw : Parenless w) : w.count '(' = 0 := List.count_eq_zero.2 hw.1
  simp [hnone hinner, hnone (parenless_word _)]
  omega

lemma acc_contracts (t : Text) : Acc (fun v u => Contracts u v) t := by
  have hsub : Subrelation (fun v u => Contracts u v) fun v u : Text => v.count '(' < u.count '(' :=
    fun h => by
      have := h.count_eq
      omega
  exact (hsub.wf (measure fun u : Text => u.count '(').wf).apply t

/-- Text that closes nothing leaves open what it opens. -/
lemma openAfter?_of_not_mem {t : Text} (h : ')' ∉ t) (d : ℕ) :
    openAfter? d t = some (d + t.count '(') := by
  induction t generalizing d with
  | nil => rfl
  | cons c t ih =>
    rw [List.mem_cons, not_or] at h
    rw [openAfter?_cons, countParen]
    by_cases hc : c = '('
    · rw [if_pos hc, Option.bind_some, ih h.2, hc, List.count_cons_self]
      congr 1
      omega
    · rw [if_neg hc, if_neg (Ne.symm h.1), Option.bind_some, ih h.2, List.count_cons_of_ne hc]

/-- In front of the first closing parenthesis, the last opening one is its partner. -/
lemma Balanced.exists_contracts {t : Text} (h : Balanced t) (hp : ¬ Parenless t) :
    ∃ t', Contracts t t' := by
  have hclose : ')' ∈ t := by
    by_contra hn
    rw [Balanced, openAfter?_of_not_mem hn, Option.some.injEq, Nat.zero_add,
      List.count_eq_zero] at h
    exact hp ⟨h, hn⟩
  obtain ⟨a, v, rfl, ha⟩ := List.eq_append_cons_of_mem hclose
  have hopen : '(' ∈ a := by
    by_contra hn
    have hnone : openAfter? 0 a = some 0 := by
      rw [openAfter?_of_not_mem ha, List.count_eq_zero.2 hn]
    rw [Balanced, openAfter?_append, hnone] at h
    cases h
  obtain ⟨w, u, hrev, hw⟩ := List.eq_append_cons_of_mem (List.mem_reverse.2 hopen)
  obtain rfl : a = u.reverse ++ '(' :: w.reverse := by
    rw [← List.reverse_reverse a, hrev]
    simp
  have hinner : Parenless w.reverse := by
    refine ⟨fun hm => hw (List.mem_reverse.1 hm), fun hm => ha ?_⟩
    exact List.mem_append_right _ (List.mem_cons_of_mem _ hm)
  have hgroup := Contracts.group u.reverse hinner v
  rw [← List.cons_append, ← List.append_assoc u.reverse] at hgroup
  exact ⟨_, hgroup⟩

/-- A condition in parentheses comes down to its truth word. -/
lemma run?_group {t line : Text} (h : Stack.init.run? t = some ⟨line, []⟩) :
    Stack.init.run? ('(' :: (t ++ [')'])) = some ⟨word (lineHolds line), []⟩ := by
  have hinner : Stack.run? ⟨[], [[]]⟩ t = some ⟨line, [[]]⟩ := Stack.run?_around [[]] h
  rw [Stack.run?_cons, Stack.step?_open, Option.bind_some]
  change Stack.run? ⟨[], [[]]⟩ (t ++ [')']) = _
  rw [Stack.run?_append, hinner]
  rfl

/-- **Innermost first**: no contraction changes the value of a condition, and whichever are made of
the condition in parentheses, there is a next one until the truth word of its value is all that is
left, which happens after finitely many. -/
theorem contracts_to_word {t : Text} (h : Balanced t) :
    (∀ u, Contracts t u → Balanced u ∧ evaluate u = evaluate t) ∧
    Acc (fun v u => Contracts u v) ('(' :: (t ++ [')'])) ∧
    ∃ b, evaluate t = .ok b ∧
      ∀ u, Relation.ReflTransGen Contracts ('(' :: (t ++ [')'])) u →
        (¬ Parenless u ∧ ∃ v, Contracts u v) ∨ u = word b := by
  refine ⟨fun u hu => hu.evaluate_eq h, acc_contracts _, ?_⟩
  obtain ⟨b, hval⟩ := exists_evaluate_eq_ok_iff.2 h
  refine ⟨b, hval, fun u hu => ?_⟩
  obtain ⟨line, hline, rfl⟩ := evaluate_eq_ok_iff.1 hval
  have hword : Stack.init.run? u = some ⟨word (lineHolds line), []⟩ := by
    induction hu with
    | refl => exact run?_group hline
    | tail _ hstep ih => exact hstep.run?_eq _ ▸ ih
  by_cases hp : Parenless u
  · right
    have hself := Stack.run?_append_of_not_mem hp.1 hp.2 Stack.init []
    rw [List.append_nil, hword] at hself
    exact (Stack.mk.inj (Option.some.inj hself)).1.symm
  · left
    have hbalanced : Balanced u :=
      exists_evaluate_eq_ok_iff.1 ⟨_, evaluate_eq_ok_iff.2 ⟨_, hword, rfl⟩⟩
    exact ⟨hp, hbalanced.exists_contracts hp⟩

/-- Groups side by side and in one another, an empty one, and one with text glued to it. -/
def nestedGroups : Text := "((!a|b)+(!c))|()x".toList

theorem contracts_to_word_nestedGroups :
    Balanced nestedGroups ∧
    (∀ u, Contracts nestedGroups u → Balanced u ∧ evaluate u = evaluate nestedGroups) ∧
    Acc (fun v u => Contracts u v) ('(' :: (nestedGroups ++ [')'])) ∧
    (∃ b, evaluate nestedGroups = .ok b ∧
      ∀ u, Relation.ReflTransGen Contracts ('(' :: (nestedGroups ++ [')'])) u →
        (¬ Parenless u ∧ ∃ v, Contracts u v) ∨ u = word b) ∧
    evaluate nestedGroups = .ok true :=
  have h : Balanced nestedGroups := by decide
  have hall := contracts_to_word h
  ⟨h, hall.1, hall.2.1, hall.2.2, by decide⟩

end CitationNotes.Condition
