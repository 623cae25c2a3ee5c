import Mathlib.Tactic.Lemma
import CitationNotes.Condition.Groups

/-!
The scan of a condition without its places.

Places only matter to the faults. What a condition comes to is settled by the levels that are being
read, a stack to which each character does one of three things. A level that is further out than
those that get closed makes no difference.
-/

namespace CitationNotes.Condition

/-- The level that is being read, and those around it from the inside out. -/
structure Stack where
  line : Text
  outer : List Text

namespace Stack

def init : Stack := ⟨[], []⟩

/-- The levels behind a character, unless it closes a group that is not open. -/
def step? (s : Stack) (c : Char) : Option Stack :=
  if c = '(' then some ⟨[], s.line :: s.outer⟩
  else if c = ')' then
    match s.outer with
    | [] => none
    | around :: outer => some ⟨around ++ word (lineHolds s.line), outer⟩
  else some ⟨s.line ++ [c], s.outer⟩

def run? (s : Stack) (t : Text) : Option Stack := t.foldlM step? s

variable {s s' : Stack} {c : Char}

@[simp] lemma run?_nil (s : Stack) : s.run? [] = some s := rfl
@[simp] lemma run?_cons (s : Stack) (c : Char) (t : Text) :
    s.run? (c :: t) = (s.step? c).bind fun s => s.run? t := rfl
lemma run?_append (s : Stack) (t u : Text) :
    s.run? (t ++ u) = (s.run? t).bind fun s => s.run? u := List.foldlM_append ..

lemma step?_open (s : Stack) : s.step? '(' = some ⟨[], s.line :: s.outer⟩ := rfl

lemma step?_close (line around : Text) (outer : List Text) :
    step? ⟨line, around :: outer⟩ ')' = some ⟨around ++ word (lineHolds line), outer⟩ := rfl

lemma step?_of_ne (hc : c ≠ '(' ∧ c ≠ ')') (s : Stack) :
    s.step? c = some ⟨s.line ++ [c], s.outer⟩ := by
  rw [step?, if_neg hc.1, if_neg hc.2]

/-- All that a character can do. -/
lemma step?_eq_some (h : s.step? c = some s') :
    (c = '(' ∧ s' = ⟨[], s.line :: s.outer⟩) ∨
    (c = ')' ∧ ∃ around outer, s.outer = around :: outer ∧
      s' = ⟨around ++ word (lineHolds s.line), outer⟩) ∨
    ((c ≠ '(' ∧ c ≠ ')') ∧ s' = ⟨s.line ++ [c], s.outer⟩) := by
  unfold step? at h
  split at h
  · next ho => exact .inl ⟨ho, (Option.some.inj h).symm⟩
  · next ho =>
    split at h
    · next hc =>
      split at h
      · cases h
      · next around outer houter =>
        exact .inr (.inl ⟨hc, around, outer, houter, (Option.some.inj h).symm⟩)
    · next hc => exact .inr (.inr ⟨⟨ho, hc⟩, (Option.some.inj h).symm⟩)

/-- Text without parentheses is appended to the level that is read. -/
lemma run?_append_of_not_mem {u : Text} (ho : '(' ∉ u) (hc : ')' ∉ u) (s : Stack) (t : Text) :
    s.run? (u ++ t) = run? ⟨s.line ++ u, s.outer⟩ t := by
  induction u generalizing s with
  | nil => rw [List.nil_append, List.append_nil]
  | cons c u ih =>
    rw [List.mem_cons, not_or] at ho hc
    rw [List.cons_append, run?_cons, step?_of_ne ⟨Ne.symm ho.1, Ne.symm hc.1⟩, Option.bind_some,
      ih ho.2 hc.2, List.append_assoc, List.singleton_append]

lemma step?_around (k : List Text) (h : s.step? c = some s') :
    step? ⟨s.line, s.outer ++ k⟩ c = some ⟨s'.line, s'.outer ++ k⟩ := by
  rcases step?_eq_some h with ⟨rfl, rfl⟩ | ⟨rfl, around, outer, houter, rfl⟩ | ⟨hc, rfl⟩
  · rfl
  · rw [houter]
    rfl
  · exact step?_of_ne hc _

/-- Stack further out stay as they are. -/
lemma run?_around (k : List Text) {t : Text} (h : s.run? t = some s') :
    run? ⟨s.line, s.outer ++ k⟩ t = some ⟨s'.line, s'.outer ++ k⟩ := by
  induction t generalizing s with
  | nil =>
    obtain rfl := Option.some.inj h
    rfl
  | cons c t ih =>
    obtain ⟨s₁, hc, ht⟩ := Option.bind_eq_some_iff.1 h
    rw [run?_cons, step?_around k hc]
    exact ih ht

end Stack

/-! ### The scan -/

namespace Scan

def stack (s : Scan) : Stack := ⟨s.line, s.outer.map Prod.snd⟩

lemma stack_step (s : Scan) (c : Char) : (s.step c).toOption.map stack = s.stack.step? c := by
  unfold step Stack.step?
  split
  · rfl
  · split
    · rcases s with ⟨p, l, _ | ⟨o, outer⟩⟩ <;> rfl
    · rfl

/-- The scan reads its stack. -/
lemma stack_run (s : Scan) (t : Text) : (s.run t).toOption.map stack = s.stack.run? t := by
  induction t generalizing s with
  | nil => rfl
  | cons c t ih =>
    rw [run_cons, Stack.run?_cons, ← stack_step]
    rcases s.step c with e | s'
    · rfl
    · exact ih s'

end Scan

lemma reduce_eq_ok_iff {t line : Text} :
    reduce t = .ok line ↔ Stack.init.run? t = some ⟨line, []⟩ := by
  have hstack : _ = Stack.init.run? t := Scan.stack_run Scan.init t
  rw [← hstack, reduce]
  rcases Scan.init.run t with e | ⟨p, l, o⟩
  · simp [Except.bind, Except.toOption]
  · rcases o with _ | ⟨q, o⟩ <;> simp [Except.bind, Except.toOption, Scan.finish, Scan.stack]

/-- **The value of a condition** is that of the level that is left when it has been read. -/
lemma evaluate_eq_ok_iff {t : Text} {b : Bool} :
    evaluate t = .ok b ↔ ∃ line, Stack.init.run? t = some ⟨line, []⟩ ∧ lineHolds line = b := by
  simp only [← reduce_eq_ok_iff]
  rw [evaluate]
  rcases reduce t with e | line <;> simp [Except.map]

end CitationNotes.Condition
