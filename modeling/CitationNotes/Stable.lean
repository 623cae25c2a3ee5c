/-!
Sorting that keeps the order of equals.
-/

namespace CitationNotes

variable {α : Type} (le : α → α → Bool)

/-- `a` in front of the first element that it may stand in front of. -/
def insertSorted (a : α) : List α → List α
  | [] => [a]
  | b :: l => if le a b then a :: b :: l else b :: insertSorted a l

def stableSort : List α → List α
  | [] => []
  | a :: l => insertSorted le a (stableSort l)

@[simp] theorem stableSort_nil : stableSort le [] = [] := rfl
@[simp] theorem stableSort_cons (a : α) (l : List α) :
    stableSort le (a :: l) = insertSorted le a (stableSort le l) := rfl

theorem insertSorted_perm (a : α) (l : List α) : (insertSorted le a l).Perm (a :: l) := by
  induction l with
  | nil => exact .refl _
  | cons b l ih =>
    rw [insertSorted]
    split
    · exact .refl _
    · exact (ih.cons b).trans (.swap a b l)

theorem stableSort_perm (l : List α) : (stableSort le l).Perm l := by
  induction l with
  | nil => exact .refl _
  | cons a l ih => exact (insertSorted_perm le a _).trans (ih.cons a)

variable {le}

theorem pairwise_insertSorted (trans : ∀ a b c, le a b → le b c → le a c)
    (total : ∀ a b, le a b || le b a) {a : α} {l : List α}
    (h : l.Pairwise fun a b => le a b = true) :
    (insertSorted le a l).Pairwise fun a b => le a b = true := by
  induction l with
  | nil => simp [insertSorted]
  | cons b l ih =>
    rw [List.pairwise_cons] at h
    rw [insertSorted]
    split
    · next hab =>
      refine .cons (fun c hc => ?_) (.cons h.1 h.2)
      rcases List.mem_cons.1 hc with rfl | hc
      · exact hab
      · exact trans a b c hab (h.1 c hc)
    · next hab =>
      refine .cons (fun c hc => ?_) (ih h.2)
      rcases List.mem_cons.1 ((insertSorted_perm le a l).mem_iff.1 hc) with rfl | hc
      · simpa [hab] using total c b
      · exact h.1 c hc

theorem pairwise_stableSort (trans : ∀ a b c, le a b → le b c → le a c)
    (total : ∀ a b, le a b || le b a) (l : List α) :
    (stableSort le l).Pairwise fun a b => le a b = true := by
  induction l with
  | nil => exact .nil
  | cons a l ih => exact pairwise_insertSorted trans total ih

section Map

variable {β : Type} (le' : β → β → Bool) (g : α → β)

theorem map_insertSorted (a : α) (l : List α) :
    insertSorted le' (g a) (l.map g) = (insertSorted (fun a b => le' (g a) (g b)) a l).map g := by
  induction l with
  | nil => rfl
  | cons b l ih =>
    rw [List.map_cons, insertSorted, insertSorted, ih]
    split <;> rfl

/-- Images come in the order of what they are images of, if that is sorted by their ranks. -/
theorem map_stableSort (l : List α) :
    stableSort le' (l.map g) = (stableSort (fun a b => le' (g a) (g b)) l).map g := by
  induction l with
  | nil => rfl
  | cons a l ih => rw [List.map_cons, stableSort_cons, ih, map_insertSorted, stableSort_cons]

end Map

theorem filter_insertSorted_of_neg {p : α → Bool} {a : α} (ha : p a = false) (l : List α) :
    (insertSorted le a l).filter p = l.filter p := by
  induction l with
  | nil => simp [insertSorted, ha]
  | cons b l ih =>
    rw [insertSorted]
    split
    · rw [List.filter_cons_of_neg (by simp [ha])]
    · rw [List.filter_cons, List.filter_cons, ih]

theorem insertSorted_eq_cons {a : α} {l : List α} (h : ∀ b ∈ l, le a b = true) :
    insertSorted le a l = a :: l := by
  cases l with
  | nil => rfl
  | cons b l => rw [insertSorted, if_pos (h b (List.mem_cons_self ..))]

theorem filter_insertSorted_of_pos (trans : ∀ a b c, le a b → le b c → le a c) {p : α → Bool}
    {a : α} (ha : p a = true) {l : List α} (h : l.Pairwise fun a b => le a b = true) :
    (insertSorted le a l).filter p = insertSorted le a (l.filter p) := by
  induction l with
  | nil => simp [insertSorted, ha]
  | cons b l ih =>
    rw [List.pairwise_cons] at h
    rw [insertSorted]
    split
    · next hab =>
      -- whatever is selected comes behind `a` as well
      have hle : ∀ c ∈ (b :: l).filter p, le a c = true := by
        intro c hc
        rcases List.mem_cons.1 (List.mem_filter.1 hc).1 with rfl | hc
        · exact hab
        · exact trans a b c hab (h.1 c hc)
      rw [List.filter_cons_of_pos ha, insertSorted_eq_cons hle]
    · next hab =>
      by_cases hb : p b = true
      · rw [List.filter_cons_of_pos hb, List.filter_cons_of_pos hb, insertSorted, if_neg hab,
          ih h.2]
      · rw [List.filter_cons_of_neg hb, List.filter_cons_of_neg hb, ih h.2]

/-- Selecting elements and sorting them may be done in either order. -/
theorem filter_stableSort (trans : ∀ a b c, le a b → le b c → le a c)
    (total : ∀ a b, le a b || le b a) (p : α → Bool) (l : List α) :
    (stableSort le l).filter p = stableSort le (l.filter p) := by
  induction l with
  | nil => rfl
  | cons a l ih =>
    by_cases ha : p a = true
    · rw [stableSort_cons, filter_insertSorted_of_pos trans ha (pairwise_stableSort trans total l),
        ih, List.filter_cons_of_pos ha, stableSort_cons]
    · rw [stableSort_cons, filter_insertSorted_of_neg (by simpa using ha), ih,
        List.filter_cons_of_neg ha]

end CitationNotes
