import Mathlib.Order.Monotone.Basic
import Mathlib.Tactic.Lemma
import CitationNotes.Text.Basic

/-!
Slices of a text by its bytes.

A slice begins and ends where a character does. Any other place is refused, and so is one behind
the end of the text. What `byteOffset` makes of a number of characters is never refused.
-/

namespace CitationNotes.Text

/-- The text cut behind its first `i` bytes, if these are whole characters. -/
def splitBytes? : Text → Nat → Option (Text × Text)
  | t, 0 => some ([], t)
  | [], _ + 1 => none
  | c :: t, i + 1 =>
    if c.utf8Size ≤ i + 1 then (splitBytes? t (i + 1 - c.utf8Size)).map fun p => (c :: p.1, p.2)
    else none

/-- The part of the text from the byte `i` up to the byte `j`. -/
def slice? (t : Text) (i j : Nat) : Option Text :=
  if i ≤ j then (splitBytes? t i).bind fun p => (splitBytes? p.2 (j - i)).map Prod.fst else none

variable {t u a b : Text} {i j : ℕ}

@[simp] lemma splitBytes?_zero (t : Text) : splitBytes? t 0 = some ([], t) := by
  cases t <;> rfl

lemma splitBytes?_append (a b : Text) : splitBytes? (a ++ b) (byteLength a) = some (a, b) := by
  induction a with
  | nil => simp
  | cons c a ih =>
    obtain ⟨n, hn⟩ : ∃ n, byteLength (c :: a) = n + 1 :=
      Nat.exists_eq_add_one.2 (Nat.add_pos_left c.utf8Size_pos _)
    have hsize : c.utf8Size + byteLength a = n + 1 := hn
    have hrest : n + 1 - c.utf8Size = byteLength a := by omega
    rw [hn, List.cons_append, splitBytes?, if_pos (by omega), hrest, ih]
    rfl

lemma splitBytes?_eq_some_iff : splitBytes? t i = some (a, b) ↔ t = a ++ b ∧ byteLength a = i := by
  refine ⟨fun h => ?_, fun ⟨ht, hi⟩ => ht ▸ hi ▸ splitBytes?_append a b⟩
  induction t generalizing i a with
  | nil => cases i <;> simp_all [splitBytes?]
  | cons c t ih =>
    cases i with
    | zero => simp_all
    | succ i =>
      rw [splitBytes?] at h
      split at h
      · next hc =>
        obtain ⟨⟨a', b'⟩, hp, he⟩ := Option.map_eq_some_iff.1 h
        obtain ⟨rfl, rfl⟩ : c :: a' = a ∧ b' = b := by simpa using he
        obtain ⟨rfl, hlen⟩ := ih hp
        refine ⟨rfl, ?_⟩
        rw [byteLength_cons, hlen]
        omega
      · cases h

/-- **A slice** is a part of the text between two places at which characters begin or the text
ends. -/
lemma slice?_eq_some_iff : slice? t i j = some u ↔
    ∃ a b, t = a ++ u ++ b ∧ byteLength a = i ∧ byteLength a + byteLength u = j := by
  constructor
  · intro h
    rw [slice?] at h
    split at h
    · next hij =>
      obtain ⟨⟨a, v⟩, ha, h⟩ := Option.bind_eq_some_iff.1 h
      obtain ⟨⟨u, b⟩, hu, rfl⟩ := Option.map_eq_some_iff.1 h
      obtain ⟨rfl, rfl⟩ := splitBytes?_eq_some_iff.1 ha
      obtain ⟨rfl, hlen⟩ := splitBytes?_eq_some_iff.1 hu
      refine ⟨a, b, by simp, rfl, ?_⟩
      rw [hlen]
      omega
    · cases h
  · rintro ⟨a, b, rfl, rfl, rfl⟩
    rw [slice?, if_pos (Nat.le_add_right ..), Nat.add_sub_cancel_left, List.append_assoc,
      splitBytes?_append, Option.bind_some, splitBytes?_append]
    rfl

/-- What begins behind `a` reaches up to the end. -/
lemma slice?_append_byteLength (a u : Text) :
    slice? (a ++ u) (byteLength a) (byteLength (a ++ u)) = some u :=
  slice?_eq_some_iff.2 ⟨a, [], by simp, rfl, (byteLength_append a u).symm⟩

/-! ### The place of a character -/

/-- The bytes of a text are those of its UTF-8 form. -/
lemma size_utf8Encode (t : Text) : t.utf8Encode.size = byteLength t := by
  induction t with
  | nil => simp
  | cons c t ih =>
    rw [List.utf8Encode_cons, ByteArray.size_append, ih, List.utf8Encode_singleton,
      List.size_toByteArray, String.length_utf8EncodeChar, byteLength_cons]

lemma byteOffset_eq (t : Text) (k : ℕ) : byteOffset t k = byteLength (t.take k) := by
  induction t generalizing k with
  | nil => simp
  | cons c t ih =>
    cases k with
    | zero => simp
    | succ k => rw [byteOffset_cons_succ, ih, List.take_succ_cons, byteLength_cons]

lemma monotone_byteOffset (t : Text) : Monotone (byteOffset t) := by
  refine monotone_nat_of_le_succ fun k => ?_
  rw [byteOffset_eq, byteOffset_eq, List.take_add_one, byteLength_append]
  exact Nat.le_add_right ..

/-- The text in front of a character, as a slice. -/
lemma slice?_zero_byteOffset (t : Text) (k : ℕ) :
    slice? t 0 (byteOffset t k) = some (t.take k) := by
  refine slice?_eq_some_iff.2 ⟨[], t.drop k, ?_, rfl, ?_⟩
  · rw [List.nil_append, List.take_append_drop]
  · rw [byteOffset_eq, byteLength_nil, Nat.zero_add]

/-- The text from a character on, as a slice. -/
lemma slice?_byteOffset (t : Text) (k : ℕ) :
    slice? t (byteOffset t k) (byteLength t) = some (t.drop k) := by
  have h := slice?_append_byteLength (t.take k) (t.drop k)
  rwa [List.take_append_drop, ← byteOffset_eq] at h

end CitationNotes.Text
