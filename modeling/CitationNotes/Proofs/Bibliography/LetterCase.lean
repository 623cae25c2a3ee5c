import CitationNotes.Proofs.Bibliography.Alphabet
import CitationNotes.Proofs.Text.Occurrence

/-!
Capitals and small letters in entries.

Letters count the same in either case, but an article is only known by its capital and the small
letters behind it. So entries that differ in the case of letters are of one rank exactly if both
of them open with an article, or neither.
-/

namespace CitationNotes

namespace Text

/-- The texts differ in the case of letters from A to Z and in nothing else. -/
def Recased (s t : Text) : Prop := s.map Char.toLower = t.map Char.toLower

instance (s t : Text) : Decidable (Recased s t) := inferInstanceAs (Decidable (_ = _))

/-! ### Characters -/

/-- The letters that are another one as a small letter. -/
def latinCapitals : Text := "ABCDEFGHIJKLMNOPQRSTUVWXYZ".toList

lemma toLower_eq_or_mem (c : Char) : c.toLower = c ∨ c ∈ latinCapitals := by
  have hcapitals : ∀ n ≤ 90, 65 ≤ n → Char.ofNat n ∈ latinCapitals := by decide
  by_cases h : 65 ≤ c.val ∧ c.val ≤ 90
  · have hmem := hcapitals c.toNat h.2 h.1
    rw [Char.ofNat_toNat] at hmem
    exact .inr hmem
  · exact .inl (dif_neg h)

/-- Whatever is asked of a character has the same answer for a letter in either case. -/
lemma classes_toLower (c : Char) :
    isBlank c.toLower = isBlank c ∧ isLetter c.toLower = isLetter c ∧
      lowercase c.toLower = lowercase c := by
  have hcapitals : latinCapitals.all fun c =>
      isBlank c.toLower = isBlank c ∧ isLetter c.toLower = isLetter c ∧
        lowercase c.toLower = lowercase c := by
    decide +kernel
  obtain h | h := toLower_eq_or_mem c
  · rw [h]
    exact ⟨rfl, rfl, rfl⟩
  · exact of_decide_eq_true (List.all_eq_true.1 hcapitals c h)

lemma trimStart_map_toLower (t : Text) :
    trimStart (t.map Char.toLower) = (trimStart t).map Char.toLower := by
  rw [trimStart, List.dropWhile_map]
  simp only [Function.comp_def, (classes_toLower _).1, trimStart]

end Text

namespace Bibliography

open Text (Recased trimStart)

variable {a a' : Text}

/-- What is left of a text when it is sorted: its letters, as small letters. -/
def letterKey (t : Text) : Text := (t.filter Text.isLetter).flatMap Text.lowercase

lemma sortKey_eq (entry : Text) : sortKey entry = letterKey (withoutArticle entry) := rfl

lemma letterKey_append (s t : Text) : letterKey (s ++ t) = letterKey s ++ letterKey t := by
  simp [letterKey]

lemma letterKey_map_toLower (t : Text) : letterKey (t.map Char.toLower) = letterKey t := by
  rw [letterKey, List.filter_map, List.flatMap_map]
  simp only [Function.comp_def, Text.classes_toLower, letterKey]

lemma letterKey_congr {s t : Text} (h : Recased s t) : letterKey s = letterKey t := by
  rw [← letterKey_map_toLower, h, letterKey_map_toLower]

/-! ### Articles -/

/-- Behind white space comes an article, in its one spelling. -/
def OpensWithArticle (entry : Text) : Prop := ∃ w ∈ articles, w <+: trimStart entry

instance (entry : Text) : Decidable (OpensWithArticle entry) :=
  inferInstanceAs (Decidable (∃ _ ∈ _, _))

lemma withoutArticle_of_not_opens {entry : Text} (h : ¬ OpensWithArticle entry) :
    withoutArticle entry = trimStart entry := by
  have hnone : articles.findSome? (fun w => Text.after? w (trimStart entry)) = none :=
    List.findSome?_eq_none_iff.2 fun w hw =>
      Text.after?_eq_none_iff.2 fun hprefix => h ⟨w, hw, hprefix⟩
  rw [withoutArticle, hnone, Option.getD_none]

lemma exists_trimStart_eq {entry : Text} (h : OpensWithArticle entry) :
    ∃ w ∈ articles, trimStart entry = w ++ withoutArticle entry := by
  obtain ⟨v, hv, hprefix⟩ := h
  rcases hfind : articles.findSome? fun w => Text.after? w (trimStart entry) with _ | rest
  · exact absurd hprefix (Text.after?_eq_none_iff.1 (List.findSome?_eq_none_iff.1 hfind v hv))
  · obtain ⟨w, hw, hafter⟩ := List.exists_of_findSome?_eq_some hfind
    refine ⟨w, hw, ?_⟩
    rw [withoutArticle, hfind]
    exact Text.after?_eq_some_iff.1 hafter

/-- The three articles are different in any case, and none of them starts like another one. -/
lemma recased_of_articles {v w s t : Text} (hv : v ∈ articles) (hw : w ∈ articles)
    (h : Recased (v ++ s) (w ++ t)) : Recased s t := by
  rw [Recased, List.map_append, List.map_append] at h
  simp only [articles, List.mem_cons, List.not_mem_nil, or_false] at hv hw
  rcases hv with rfl | rfl | rfl <;> rcases hw with rfl | rfl | rfl <;>
    simp [Recased] at h ⊢ <;> exact h

/-! ### Keys -/

lemma trimStart_recased (h : Recased a a') : Recased (trimStart a) (trimStart a') := by
  rw [Recased, ← Text.trimStart_map_toLower, h, Text.trimStart_map_toLower]

/-- Where the article is dropped from both or from neither, the same letters are left. -/
lemma sortKey_congr (h : Recased a a') (hopens : OpensWithArticle a ↔ OpensWithArticle a') :
    sortKey a = sortKey a' := by
  have htrim := trimStart_recased h
  rw [sortKey_eq, sortKey_eq]
  by_cases ha : OpensWithArticle a
  · obtain ⟨v, hv, hav⟩ := exists_trimStart_eq ha
    obtain ⟨w, hw, haw⟩ := exists_trimStart_eq (hopens.1 ha)
    rw [hav, haw] at htrim
    exact letterKey_congr (recased_of_articles hv hw htrim)
  · rw [withoutArticle_of_not_opens ha, withoutArticle_of_not_opens (hopens.not.1 ha)]
    exact letterKey_congr htrim

/-- An article in the wrong case is a word like any other. -/
lemma exists_sortKey_eq_append (h : Recased a a') (ha : OpensWithArticle a)
    (ha' : ¬ OpensWithArticle a') :
    ∃ w ∈ ["the", "a", "an"], sortKey a' = w.toList ++ sortKey a := by
  obtain ⟨v, hv, hav⟩ := exists_trimStart_eq ha
  have hwords : ∀ v ∈ articles, ∃ w ∈ ["the", "a", "an"], letterKey v = w.toList := by
    decide +kernel
  obtain ⟨w, hw, hvw⟩ := hwords v hv
  refine ⟨w, hw, ?_⟩
  rw [sortKey_eq, withoutArticle_of_not_opens ha', ← letterKey_congr (trimStart_recased h), hav,
    letterKey_append, hvw, sortKey_eq]

/-- The added word tells the keys apart. -/
lemma sortKey_ne (h : Recased a a') (ha : OpensWithArticle a) (ha' : ¬ OpensWithArticle a') :
    sortKey a ≠ sortKey a' := by
  obtain ⟨w, hw, hkey⟩ := exists_sortKey_eq_append h ha ha'
  have hne : ∀ w ∈ ["the", "a", "an"], w.toList ≠ [] := by decide
  rw [hkey, ne_eq, List.self_eq_append_left]
  exact hne w hw

/-- **The case of letters does not count** as long as it is not an article that it makes or breaks.
If it does, the broken article is sorted by as well. -/
theorem compareEntries_recased_iff (h : Recased a a') :
    ((∀ b, compareEntries a b = compareEntries a' b) ↔
      (OpensWithArticle a ↔ OpensWithArticle a')) ∧
    (compareEntries a a' = .eq ↔ (OpensWithArticle a ↔ OpensWithArticle a')) ∧
    (OpensWithArticle a → ¬ OpensWithArticle a' →
      ∃ w ∈ ["the", "a", "an"], sortKey a' = w.toList ++ sortKey a) := by
  have hiff : sortKey a = sortKey a' ↔ (OpensWithArticle a ↔ OpensWithArticle a') := by
    refine ⟨fun hkey => ⟨fun ha => ?_, fun ha' => ?_⟩, sortKey_congr h⟩
    · by_contra ha'
      exact sortKey_ne h ha ha' hkey
    · by_contra ha
      exact sortKey_ne h.symm ha' ha hkey.symm
  refine ⟨?_, compareEntries_eq_iff.trans hiff, exists_sortKey_eq_append h⟩
  rw [← hiff]
  refine ⟨fun hall => ?_, fun hkey b => by rw [compareEntries, hkey, compareEntries]⟩
  exact compareEntries_eq_iff.1 ((hall a').trans (compareEntries_eq_iff.2 rfl))

/-- The article stays one, or stops being one. -/
theorem compareEntries_recased_iff_zebra :
    Recased " The Zebra".toList " The zEBRA".toList ∧
    (∀ b, compareEntries " The Zebra".toList b = compareEntries " The zEBRA".toList b) ∧
    Recased " The Zebra".toList " tHE Zebra".toList ∧
    (∃ w ∈ ["the", "a", "an"],
      sortKey " tHE Zebra".toList = w.toList ++ sortKey " The Zebra".toList) ∧
    sortKey " tHE Zebra".toList = "thezebra".toList := by
  have hkept : Recased " The Zebra".toList " The zEBRA".toList := by decide
  have hbroken : Recased " The Zebra".toList " tHE Zebra".toList := by decide
  have hopens : OpensWithArticle " The Zebra".toList := by decide +kernel
  have hopens' : OpensWithArticle " The zEBRA".toList := by decide +kernel
  have hcloses : ¬ OpensWithArticle " tHE Zebra".toList := by decide +kernel
  exact ⟨hkept, (compareEntries_recased_iff hkept).1.2 ⟨fun _ => hopens', fun _ => hopens⟩, hbroken,
    (compareEntries_recased_iff hbroken).2.2 hopens hcloses, by decide +kernel⟩

/-- With a small letter the article counts, although nothing but the case of a letter differs. -/
theorem compareEntries_ne_of_small_article :
    ∃ a a' : Text, a = "The Zebra".toList ∧ a' = "the Zebra".toList ∧ Recased a a' ∧
      compareEntries a a' ≠ .eq ∧ ¬ ∀ b, compareEntries a b = compareEntries a' b := by
  refine ⟨_, _, rfl, rfl, by decide, by decide +kernel, fun h => ?_⟩
  exact absurd (h "the Zebra".toList) (by decide +kernel)

end Bibliography

end CitationNotes
