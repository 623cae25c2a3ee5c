import CitationNotes.Text.Basic

/-!
Finding a pattern in a text.

A search cuts the text at the first place where the pattern stands and hands back what is in
front of it and what follows.
-/

namespace CitationNotes.Text

/-- What follows `head`, for a text that starts with it. -/
def after? : (head t : Text) → Option Text
  | [], t => some t
  | _ :: _, [] => none
  | h :: head, c :: t => if h = c then after? head t else none

@[simp] theorem after?_nil (t : Text) : after? [] t = some t := by cases t <;> rfl

@[simp] theorem after?_append (head t : Text) : after? head (head ++ t) = some t := by
  induction head with
  | nil => simp
  | cons h head ih => simp [after?, ih]

theorem after?_eq_some_iff {head t rest : Text} :
    after? head t = some rest ↔ t = head ++ rest := by
  refine ⟨fun h => ?_, fun h => by simp [h]⟩
  fun_induction after? head t with
  | case1 => simpa using h
  | case2 => cases h
  | case3 head _ _ ih => simp [ih h]
  | case4 => cases h

/-- The text around the first occurrence of `pattern`. -/
def cut? (pattern : Text) : Text → Option (Text × Text)
  | [] => (after? pattern []).map fun rest => ([], rest)
  | c :: t =>
    match after? pattern (c :: t) with
    | some rest => some ([], rest)
    | none => (cut? pattern t).map fun p => (c :: p.1, p.2)

theorem eq_of_cut? {pattern t a b : Text} (h : cut? pattern t = some (a, b)) :
    t = a ++ pattern ++ b := by
  induction t generalizing a with
  | nil =>
    obtain ⟨rest, hr, he⟩ := Option.map_eq_some_iff.1 h
    cases he
    simpa using after?_eq_some_iff.1 hr
  | cons c t ih =>
    rw [cut?] at h
    split at h
    · next rest hr =>
      cases h
      simpa using after?_eq_some_iff.1 hr
    · obtain ⟨⟨a', b'⟩, hcut, he⟩ := Option.map_eq_some_iff.1 h
      cases he
      simp [ih hcut]

theorem length_of_cut? {pattern t a b : Text} (h : cut? pattern t = some (a, b)) :
    t.length = a.length + pattern.length + b.length := by
  simp [eq_of_cut? h, Nat.add_assoc]

/-- Whether `pattern` occurs. -/
def occurs (pattern t : Text) : Bool := (cut? pattern t).isSome

/-- The text around the first `sep`. -/
def cutAt? (sep : Char) : Text → Option (Text × Text)
  | [] => none
  | c :: t => if c = sep then some ([], t) else (cutAt? sep t).map fun p => (c :: p.1, p.2)

theorem cutAt?_append {sep : Char} {a : Text} (h : sep ∉ a) (b : Text) :
    cutAt? sep (a ++ sep :: b) = some (a, b) := by
  induction a with
  | nil => simp [cutAt?]
  | cons c a ih =>
    simp only [List.mem_cons, not_or] at h
    simp [cutAt?, Ne.symm h.1, ih h.2]

theorem cutAt?_eq_none_iff {sep : Char} {t : Text} : cutAt? sep t = none ↔ sep ∉ t := by
  induction t with
  | nil => simp [cutAt?]
  | cons c t ih =>
    by_cases hc : c = sep
    · simp [cutAt?, hc]
    · simp [cutAt?, hc, ih, Ne.symm hc]

theorem cutAt?_eq_some_iff {sep : Char} {t a b : Text} :
    cutAt? sep t = some (a, b) ↔ t = a ++ sep :: b ∧ sep ∉ a := by
  refine ⟨fun h => ?_, fun ⟨h, hs⟩ => h ▸ cutAt?_append hs b⟩
  induction t generalizing a with
  | nil => cases h
  | cons c t ih =>
    by_cases hc : c = sep
    · obtain ⟨rfl, rfl⟩ : a = [] ∧ t = b := by simpa [cutAt?, hc] using h
      simp [hc]
    · simp only [cutAt?, if_neg hc] at h
      obtain ⟨⟨a', b'⟩, hcut, he⟩ := Option.map_eq_some_iff.1 h
      cases he
      obtain ⟨h1, h2⟩ := ih hcut
      simp [h1, h2, Ne.symm hc]

end CitationNotes.Text
