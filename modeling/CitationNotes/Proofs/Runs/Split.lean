import CitationNotes.Proofs.Text.Slices
import CitationNotes.Runs.Splice

/-!
Where an insertion cuts.

A fragment is cut by characters, and the two parts are slices of its text by bytes, both of them at
the place that the number of characters leads to. Whatever the number is, that place lies between
two characters or at an end of the text.
-/

namespace CitationNotes

/-- The first `k` characters of a text and the rest of it, or all of it and nothing if there are no
more. Both are slices, cut at the place that `k` leads to. -/
structure Text.Halves (t : Text) (k : ℕ) (left right : Text) : Prop where
  text : left ++ right = t
  length : left.length = min k t.length
  slice_left : t.slice? 0 (t.byteOffset k) = some left
  slice_right : t.slice? (t.byteOffset k) t.byteLength = some right

lemma Text.halves_take_drop (t : Text) (k : ℕ) : t.Halves k (t.take k) (t.drop k) where
  text := List.take_append_drop k t
  length := List.length_take
  slice_left := slice?_zero_byteOffset t k
  slice_right := slice?_byteOffset t k

namespace Runs

lemma splitInsert_of_length_le {r : Runs} {index : ℕ} (h : r.length ≤ index) (offset : ℕ)
    (new : Fragment) : r.splitInsert index offset new = r ++ [new] := by
  induction r generalizing index with
  | nil => rfl
  | cons f r ih =>
    obtain ⟨index, rfl⟩ : ∃ i, index = i + 1 := Nat.exists_eq_add_one.2 (by simp at h; omega)
    rw [splitInsert, ih (Nat.le_of_succ_le_succ h), List.cons_append]

/-- What stands in front of the fragment does not matter. -/
lemma splitInsert_append (front : Runs) (f : Fragment) (rest : Runs) (offset : ℕ)
    (new : Fragment) : splitInsert (front ++ f :: rest) front.length offset new =
      front ++ splitInsert (f :: rest) 0 offset new := by
  induction front with
  | nil => rfl
  | cons g front ih => exact congrArg (g :: ·) ih

/-- **An insertion cuts between characters**: behind the last fragment it appends, in front of a
marker it changes nothing else, and any other fragment gives way to its two parts, with what is new
between them. The place of the cut is the UTF-8 length of what is in front of it, so it does not
move back for more characters and can always be cut at. -/
theorem splitInsert_exact (r : Runs) (index offset : ℕ) (new : Fragment) :
    (r.length ≤ index → r.splitInsert index offset new = r ++ [new]) ∧
    (∀ front f rest, r = front ++ f :: rest → front.length = index →
      (f.isMarker = true → r.splitInsert index offset new = front ++ new :: f :: rest) ∧
      (f.isMarker = false → ∃ left right, f.text.Halves offset left right ∧
        r.splitInsert index offset new =
          front ++ [f.withText left, new, f.withText right] ++ rest)) ∧
    ∀ t : Text, Monotone t.byteOffset ∧
      ∀ k, t.byteOffset k = (t.take (min k t.length)).utf8Encode.size ∧
        ∃ left right, t.Halves k left right := by
  refine ⟨fun h => splitInsert_of_length_le h offset new, ?_, fun t => ⟨t.monotone_byteOffset,
    fun k => ⟨?_, t.take k, t.drop k, t.halves_take_drop k⟩⟩⟩
  · rintro front f rest rfl rfl
    rw [splitInsert_append]
    constructor
    · intro hf
      rw [splitInsert, if_pos hf]
    · intro hf
      refine ⟨f.text.take offset, f.text.drop offset, f.text.halves_take_drop offset, ?_⟩
      rw [splitInsert, hf, if_neg Bool.false_ne_true, around, List.append_assoc]
  · rw [Text.size_utf8Encode, Text.byteOffset_eq, List.take_eq_take_min]

/-- A fragment with characters of one to four bytes, between a marker with text and an empty one. -/
def wideCharacters : Runs :=
  [⟨['x'], false, false, some 3⟩, ⟨"aé€𝄞".toList, true, false, none⟩, .plain []]

theorem splitInsert_exact_wideCharacters :
    (wideCharacters.length ≤ 18446744073709551615 ∧
      wideCharacters.splitInsert 18446744073709551615 1 (.footnote 4) =
        wideCharacters ++ [.footnote 4]) ∧
    wideCharacters.splitInsert 0 1 (.footnote 4) = .footnote 4 :: wideCharacters ∧
    (∃ left right, Text.Halves "aé€𝄞".toList 3 left right ∧
      wideCharacters.splitInsert 1 3 (.footnote 4) =
        [⟨['x'], false, false, some 3⟩] ++
          [⟨left, true, false, none⟩, .footnote 4, ⟨right, true, false, none⟩] ++ [.plain []]) ∧
    (∃ left right, Text.Halves "aé€𝄞".toList 18446744073709551615 left right) ∧
    (List.range 6).map (Text.byteOffset "aé€𝄞".toList) = [0, 1, 3, 6, 10, 10] := by
  have hend := (splitInsert_exact wideCharacters 18446744073709551615 1 (.footnote 4)).1 (by decide)
  have hmarker := (splitInsert_exact wideCharacters 0 1 (.footnote 4)).2.1 [] _ _ rfl rfl
  have hcut := (splitInsert_exact wideCharacters 1 3 (.footnote 4)).2.1 [_] _ _ rfl rfl
  have hplace := (splitInsert_exact wideCharacters 1 3 (.footnote 4)).2.2 "aé€𝄞".toList
  exact ⟨⟨by decide, hend⟩, hmarker.1 rfl, hcut.2 rfl, (hplace.2 _).2, by decide⟩

end Runs

end CitationNotes
