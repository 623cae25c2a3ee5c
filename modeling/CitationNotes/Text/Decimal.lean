import CitationNotes.Text.Basic

/-!
Whole numbers in decimal.

`decimal` writes the fewest digits, and `readDecimal` reads digits behind at most one plus
sign, leading zeros included, as far as a bound allows.
-/

namespace CitationNotes.Text

def decimal (n : Nat) : Text := Nat.toDigits 10 n

/-- Why a text is no number. -/
inductive NumberFault where
  | empty
  | notADigit
  | tooLarge
deriving DecidableEq, Repr

def NumberFault.message : NumberFault → Text
  | .empty => "cannot parse integer from empty string".toList
  | .notADigit => "invalid digit found in string".toList
  | .tooLarge => "number too large to fit in target type".toList

/-- The number whose leading digits are worth `value`, the rest being still to read. -/
def readDigits (bound : Nat) (value : Nat) : Text → Except NumberFault Nat
  | [] => .ok value
  | c :: t =>
    if c.isDigit then
      let next := 10 * value + (c.toNat - '0'.toNat)
      if next ≤ bound then readDigits bound next t else .error .tooLarge
    else .error .notADigit

def readDecimal (bound : Nat) (t : Text) : Except NumberFault Nat :=
  match t with
  | [] => .error .empty
  | ['+'] => .error .notADigit
  | '+' :: t => readDigits bound 0 t
  | t => readDigits bound 0 t

theorem readDigits_eq_ok {bound value : Nat} {t : Text} (hd : ∀ c ∈ t, c.isDigit = true)
    (hb : Nat.ofDigitChars 10 t value ≤ bound) :
    readDigits bound value t = .ok (Nat.ofDigitChars 10 t value) := by
  induction t generalizing value with
  | nil => simp [readDigits]
  | cons c t ih =>
    rw [Nat.ofDigitChars_cons] at hb ⊢
    have hle : 10 * value + (c.toNat - '0'.toNat) ≤ bound := by
      refine Nat.le_trans ?_ hb
      rw [Nat.ofDigitChars_eq_ofDigitChars_zero]
      exact Nat.le_trans (Nat.le_mul_of_pos_left _ (Nat.pow_pos (by decide)))
        (Nat.le_add_right _ _)
    simp only [readDigits, hd c (List.mem_cons_self ..), if_true]
    rw [if_pos hle]
    exact ih (fun x hx => hd x (List.mem_cons_of_mem _ hx)) hb

/-- What is written is read back. -/
theorem readDecimal_decimal {bound n : Nat} (h : n ≤ bound) :
    readDecimal bound (decimal n) = .ok n := by
  have hd : ∀ c ∈ decimal n, c.isDigit = true := fun c hc =>
    Nat.isDigit_of_mem_toDigits (by decide) (by decide) hc
  have hrd : readDigits bound 0 (decimal n) = .ok n := by
    have hb : Nat.ofDigitChars 10 (decimal n) 0 ≤ bound := by
      rw [decimal, Nat.ofDigitChars_ten_toDigits]
      exact h
    have := readDigits_eq_ok hd hb
    rwa [decimal, Nat.ofDigitChars_ten_toDigits] at this
  have hne : decimal n ≠ [] := Nat.toDigits_ne_nil
  revert hd hrd hne
  generalize decimal n = t
  intro hd hrd hne
  unfold readDecimal
  split
  · exact absurd rfl hne
  · exact absurd (hd '+' (by simp)) (by decide)
  · exact absurd (hd '+' (by simp)) (by decide)
  · exact hrd

end CitationNotes.Text
