import CitationNotes.Proofs.Condition.Innermost
import CitationNotes.Template.Expansion
import CitationNotes.Template.Lint

/-!
Both operators on one level, seen before and during the evaluation.

The lint reads a condition as it was written and keeps the operators that it has seen on each open
level. The scan reads what the fields have made of it and keeps the levels themselves. Both go by
the marks of a condition alone, and names and truth words have none; so what the lint keeps are at
any time the operators of the levels that the scan keeps. A level with both operators is settled
sooner or later, unless its group is never closed.
-/

namespace CitationNotes.Template

open Condition

namespace Operators

/-- The operators that stand in a line. -/
def ofLine (line : Text) : Operators := ⟨line.contains '+', line.contains '|'⟩

lemma ofLine_append_of_not_mem (line : Text) {t : Text} (ha : '+' ∉ t) (ho : '|' ∉ t) :
    ofLine (line ++ t) = ofLine line := by
  simp [ofLine, ha, ho]

end Operators

open Operators

lemma isMixed_append_of_not_mem {line t : Text} (ha : '+' ∉ t) (ho : '|' ∉ t) :
    isMixed (line ++ t) = isMixed line := by
  simp [isMixed, ha, ho]

lemma isMixed_append_of_isMixed {line : Text} (h : isMixed line = true) (t : Text) :
    isMixed (line ++ t) = true := by
  simp only [isMixed, List.contains_eq_mem, Bool.and_eq_true, decide_eq_true_eq] at h ⊢
  exact ⟨List.mem_append_left t h.1, List.mem_append_left t h.2⟩

/-! ### The lint -/

section Lint

variable {level : Operators} {outer : List Operators} {t : Text} {c : Char}

lemma mixesFrom_open :
    mixesFrom level outer ('(' :: t) = mixesFrom ⟨false, false⟩ (level :: outer) t := by
  rw [mixesFrom]

lemma mixesFrom_close {l : Operators} :
    mixesFrom level (l :: outer) (')' :: t) = mixesFrom l outer t := by
  rw [mixesFrom]

lemma mixesFrom_of_not_isMark (hc : isMark c = false) :
    mixesFrom level outer (c :: t) = mixesFrom level outer t := by
  simp only [isMark, Bool.or_eq_false_iff, beq_eq_false_iff_ne] at hc
  rw [mixesFrom] <;> simp [hc]

/-- A character that opens and closes nothing mixes its level, or leaves it as it should be. -/
lemma mixesFrom_ofLine {line : Text} (hc : isParen c = false) (hl : isMixed line = false) :
    mixesFrom (ofLine line) outer (c :: t) =
      (isMixed (line ++ [c]) || mixesFrom (ofLine (line ++ [c])) outer t) := by
  by_cases ha : c = '+'
  · subst ha
    rw [mixesFrom]
    simp [ofLine, isMixed]
  · by_cases ho : c = '|'
    · subst ho
      rw [mixesFrom]
      simp [ofLine, isMixed]
    · have hmark : isMark c = false := by
        obtain ⟨hop, hcl⟩ : c ≠ '(' ∧ c ≠ ')' := by simpa [isParen] using hc
        simp [isMark, ha, ho, hop, hcl]
      have hnone {d : Char} (hd : c ≠ d) : d ∉ [c] := by simpa using hd.symm
      rw [mixesFrom_of_not_isMark hmark, isMixed_append_of_not_mem (hnone ha) (hnone ho), hl,
        ofLine_append_of_not_mem _ (hnone ha) (hnone ho), Bool.false_or]

/-- The lint goes by the marks alone. -/
lemma mixesFrom_filter (level : Operators) (outer : List Operators) (t : Text) :
    mixesFrom level outer (t.filter isMark) = mixesFrom level outer t := by
  induction t generalizing level outer with
  | nil => rfl
  | cons c t ih =>
    by_cases hc : isMark c = true
    · rw [List.filter_cons_of_pos hc]
      obtain rfl | rfl | rfl | rfl : c = '+' ∨ c = '|' ∨ c = '(' ∨ c = ')' := by
        simpa [isMark, or_assoc] using hc
      · rw [mixesFrom, mixesFrom, ih]
      · rw [mixesFrom, mixesFrom, ih]
      · rw [mixesFrom, mixesFrom, ih]
      · cases outer <;> rw [mixesFrom, mixesFrom, ih]
    · rw [List.filter_cons_of_neg hc, mixesFrom_of_not_isMark (by simpa using hc), ih]

/-- **The lint gives one verdict for all fields.** -/
lemma mixesOperators_substitute {fields : List Field}
    (hf : ∀ f ∈ fields, FieldName.fault? f.name = none) (t : Text) :
    mixesOperators (substitute t fields) = mixesOperators t := by
  rw [mixesOperators, ← mixesFrom_filter, filter_isMark_substitute hf, mixesFrom_filter,
    mixesOperators]

end Lint

/-! ### The scan -/

section Lines

variable {s : Scan} {t : Text} {c : Char}

lemma lines_open (s : Scan) (t : Text) :
    s.lines ('(' :: t) = Scan.lines ⟨s.place + 1, [], (s.place, s.line) :: s.outer⟩ t := rfl

lemma lines_close (place : ℕ) (line : Text) (o : ℕ × Text) (outer : List (ℕ × Text)) (t : Text) :
    Scan.lines ⟨place, line, o :: outer⟩ (')' :: t) =
      line :: Scan.lines ⟨place + 1, o.2 ++ word (lineHolds line), outer⟩ t := rfl

lemma lines_of_not_isParen (s : Scan) {c : Char} (hc : isParen c = false) (t : Text) :
    s.lines (c :: t) = Scan.lines ⟨s.place + c.utf8Size, s.line ++ [c], s.outer⟩ t := by
  obtain ⟨ho, hcl⟩ : c ≠ '(' ∧ c ≠ ')' := by simpa [isParen] using hc
  rw [Scan.lines, Scan.step, if_neg ho, if_neg hcl]
  simp [hcl]

lemma isMixed_append_word (line : Text) (b : Bool) : isMixed (line ++ word b) = isMixed line :=
  isMixed_append_of_not_mem (not_mem_of_isMark (isMark_word b) rfl)
    (not_mem_of_isMark (isMark_word b) rfl)

lemma ofLine_append_word (line : Text) (b : Bool) : ofLine (line ++ word b) = ofLine line :=
  ofLine_append_of_not_mem line (not_mem_of_isMark (isMark_word b) rfl)
    (not_mem_of_isMark (isMark_word b) rfl)

/-- A mixed level is settled by the end of a text that leaves nothing open. -/
lemma exists_isMixed_lines (hb : openAfter? s.outer.length t = some 0)
    (hm : ∃ line ∈ s.line :: s.outer.map Prod.snd, isMixed line = true) :
    ∃ line ∈ s.lines t, isMixed line = true := by
  induction t generalizing s with
  | nil =>
    have houter : s.outer = [] := List.eq_nil_of_length_eq_zero (Option.some.inj hb)
    simpa [Scan.lines, houter] using hm
  | cons c t ih =>
    rcases eq_or_not_isParen c with rfl | rfl | hc
    · rw [lines_open]
      exact ih hb (by simpa [isMixed] using hm)
    · obtain ⟨place, line, _ | ⟨o, outer⟩⟩ := s
      · cases hb
      rw [lines_close]
      by_cases hl : isMixed line = true
      · exact ⟨line, List.mem_cons_self, hl⟩
      · have hrest : ∃ l ∈ (o.2 ++ word (lineHolds line)) :: outer.map Prod.snd,
            isMixed l = true := by
          simpa [hl, isMixed_append_word] using hm
        obtain ⟨l, hmem, hl⟩ := ih (s := ⟨place + 1, _, outer⟩) hb hrest
        exact ⟨l, List.mem_cons_of_mem _ hmem, hl⟩
    · rw [openAfter?_of_not_isParen hc] at hb
      rw [lines_of_not_isParen s hc]
      refine ih hb ?_
      simp only [List.exists_mem_cons_iff] at hm ⊢
      exact hm.imp_left fun h => isMixed_append_of_isMixed h [c]

end Lines

/-! ### Both -/

section Flags

variable {s : Scan} {t : Text} {c : Char}

/-- No level that is being read has both operators. -/
structure Unmixed (s : Scan) : Prop where
  line : isMixed s.line = false
  outer : ∀ o ∈ s.outer, isMixed o.2 = false

lemma unmixed_init : Unmixed Scan.init := ⟨rfl, List.forall_mem_nil _⟩

lemma Unmixed.opened (h : Unmixed s) : Unmixed ⟨s.place + 1, [], (s.place, s.line) :: s.outer⟩ :=
  ⟨rfl, List.forall_mem_cons.2 ⟨h.line, h.outer⟩⟩

lemma Unmixed.closed {place : ℕ} {line : Text} {o : ℕ × Text} {outer : List (ℕ × Text)}
    (h : Unmixed ⟨place, line, o :: outer⟩) :
    Unmixed ⟨place + 1, o.2 ++ word (lineHolds line), outer⟩ := by
  obtain ⟨ho, houter⟩ := List.forall_mem_cons.1 h.outer
  exact ⟨(isMixed_append_word _ _).trans ho, houter⟩

/-- What the lint says in the middle of a condition, when it has seen the levels that the scan is
reading. -/
def flags (s : Scan) (t : Text) : Bool :=
  mixesFrom (ofLine s.line) (s.outer.map fun o => ofLine o.2) t

lemma flags_open (s : Scan) (t : Text) :
    flags s ('(' :: t) = flags ⟨s.place + 1, [], (s.place, s.line) :: s.outer⟩ t := mixesFrom_open

lemma flags_close (place : ℕ) (line : Text) (o : ℕ × Text) (outer : List (ℕ × Text)) (t : Text) :
    flags ⟨place, line, o :: outer⟩ (')' :: t) =
      flags ⟨place + 1, o.2 ++ word (lineHolds line), outer⟩ t := by
  rw [flags, flags, ofLine_append_word]
  exact mixesFrom_close

lemma flags_of_not_isParen (hs : Unmixed s) (hc : isParen c = false) (t : Text) :
    flags s (c :: t) =
      (isMixed (s.line ++ [c]) || flags ⟨s.place + c.utf8Size, s.line ++ [c], s.outer⟩ t) :=
  mixesFrom_ofLine hc hs.line

/-- A mixed level that gets settled has been flagged. -/
lemma flags_of_isMixed (hs : Unmixed s) {line : Text} (hline : line ∈ s.lines t)
    (hm : isMixed line = true) : flags s t = true := by
  induction t generalizing s with
  | nil =>
    rw [Scan.lines] at hline
    split at hline
    · rw [List.mem_singleton.1 hline, hs.line] at hm
      cases hm
    · cases hline
  | cons c t ih =>
    rcases eq_or_not_isParen c with rfl | rfl | hc
    · rw [flags_open]
      exact ih hs.opened hline
    · obtain ⟨place, level, _ | ⟨o, outer⟩⟩ := s
      · cases hline
      rw [flags_close]
      rw [lines_close] at hline
      rcases List.mem_cons.1 hline with rfl | hline
      · rw [hs.line] at hm
        cases hm
      · exact ih hs.closed hline
    · rw [flags_of_not_isParen hs hc]
      rw [lines_of_not_isParen s hc] at hline
      cases hl : isMixed (s.line ++ [c]) with
      | true => rfl
      | false => exact ih ⟨hl, hs.outer⟩ hline

/-- What has been flagged gets settled if nothing is left open. -/
lemma exists_isMixed_of_flags (hs : Unmixed s) (hb : openAfter? s.outer.length t = some 0)
    (h : flags s t = true) : ∃ line ∈ s.lines t, isMixed line = true := by
  induction t generalizing s with
  | nil => cases h
  | cons c t ih =>
    rcases eq_or_not_isParen c with rfl | rfl | hc
    · rw [flags_open] at h
      exact ih hs.opened hb h
    · obtain ⟨place, level, _ | ⟨o, outer⟩⟩ := s
      · cases hb
      rw [flags_close] at h
      obtain ⟨line, hline, hm⟩ := ih hs.closed hb h
      exact ⟨line, List.mem_cons_of_mem _ hline, hm⟩
    · rw [flags_of_not_isParen hs hc] at h
      rw [openAfter?_of_not_isParen hc] at hb
      rw [lines_of_not_isParen s hc]
      cases hl : isMixed (s.line ++ [c]) with
      | true => exact exists_isMixed_lines hb ⟨_, List.mem_cons_self, hl⟩
      | false =>
        rw [hl, Bool.false_or] at h
        exact ih ⟨hl, hs.outer⟩ hb h

end Flags

/-! ### What is told -/

/-- What is told of a level with both operators. -/
def mixedWarning (line : Text) : Log.Event :=
  Log.warn "'+' and '|' share one level of a condition, '|' is ignored; add parentheses"
    [("line", line)]

lemma mixedWarning_ne_warn {message : String}
    (h : message.toList ≠
      "'+' and '|' share one level of a condition, '|' is ignored; add parentheses".toList)
    (line : Text) (details : List (String × Text)) : mixedWarning line ≠ Log.warn message details :=
  fun he => h (congrArg Log.Event.message he).symm

lemma mixedWarning_mem_lineEvents {line l : Text} :
    mixedWarning l ∈ lineEvents line ↔ l = line ∧ isMixed line = true := by
  have hterm (t : Text) : mixedWarning l ∉ termEvents t := by
    rw [termEvents]
    split
    · exact fun h => mixedWarning_ne_warn (by decide) l _ (List.mem_singleton.1 h)
    · exact List.not_mem_nil
  have hterms (ts : List Text) : mixedWarning l ∉ ts.flatMap termEvents := fun h =>
    (List.mem_flatMap.1 h).elim fun t ht => hterm t ht.2
  rw [lineEvents, List.mem_append, or_iff_left (hterms _)]
  split
  · next hm =>
    rw [List.mem_singleton, and_iff_left hm]
    simp [mixedWarning, Log.warn]
  · next hm => simp [hm]

/-- The levels with both operators are told of as they are settled, and of no others. -/
lemma mixedWarning_mem_holdsEvents {condition l : Text} {fields : List Field} :
    mixedWarning l ∈ holdsEvents condition fields ↔
      l ∈ Scan.init.lines (substitute condition fields) ∧ isMixed l = true := by
  rw [holdsEvents, List.mem_append]
  refine (or_iff_left ?_).trans ?_
  · split
    · exact List.not_mem_nil
    · exact fun h => mixedWarning_ne_warn (by decide) l _ (List.mem_singleton.1 h)
  · rw [evaluateEvents, List.mem_flatMap]
    simp only [mixedWarning_mem_lineEvents]
    constructor
    · rintro ⟨line, hline, rfl, hm⟩
      exact ⟨hline, hm⟩
    · rintro ⟨hline, hm⟩
      exact ⟨l, hline, rfl, hm⟩

section Verdict

variable {fields : List Field} (hf : ∀ f ∈ fields, FieldName.fault? f.name = none)

include hf

lemma mixesOperators_of_isMixed {condition line : Text}
    (hline : line ∈ Scan.init.lines (substitute condition fields)) (hm : isMixed line = true) :
    mixesOperators condition = true := by
  rw [← mixesOperators_substitute hf]
  exact flags_of_isMixed unmixed_init hline hm

lemma exists_isMixed_of_mixesOperators {condition : Text} (hb : Balanced condition)
    (h : mixesOperators condition = true) :
    ∃ line ∈ Scan.init.lines (substitute condition fields), isMixed line = true := by
  rw [← mixesOperators_substitute hf] at h
  exact exists_isMixed_of_flags unmixed_init ((openAfter?_substitute hf 0 condition).trans hb) h

/-- **The lint and the evaluation** find the same conditions that mix operators. A condition whose
parentheses match is flagged exactly if some level of it has both when it is settled, whatever the
fields are, and exactly if that is told. Of a conditional that is not flagged it is never told, not
even if its parentheses do not match. -/
theorem mixesOperators_iff_isMixed :
    (∀ condition, Balanced condition →
      (mixesOperators condition = true ↔
        ∃ line ∈ Scan.init.lines (substitute condition fields), isMixed line = true) ∧
      (mixesOperators condition = true ↔
        ∃ line, mixedWarning line ∈ holdsEvents condition fields)) ∧
    ∀ template, ∀ p ∈ conditionals template, .mixedOperators p ∉ lint template →
      ∀ line, mixedWarning line ∉ conditionalEvents fields p := by
  refine ⟨fun condition hb => ?_, fun template p hp hpass line hmem => ?_⟩
  · have hlines : mixesOperators condition = true ↔
        ∃ line ∈ Scan.init.lines (substitute condition fields), isMixed line = true :=
      ⟨exists_isMixed_of_mixesOperators hf hb,
        fun ⟨_, hline, hm⟩ => mixesOperators_of_isMixed hf hline hm⟩
    refine ⟨hlines, hlines.trans ?_⟩
    simp only [mixedWarning_mem_holdsEvents]
  · rw [conditionalEvents] at hmem
    split at hmem
    · next condition output hcut =>
      obtain ⟨hline, hm⟩ := mixedWarning_mem_holdsEvents.1 hmem
      have hflag := mixesOperators_of_isMixed hf hline hm
      refine hpass (List.mem_filterMap.2 ⟨p, hp, ?_⟩)
      rw [warning?, hcut]
      simp only [hflag, if_true]
    · exact mixedWarning_ne_warn (by decide) line _ (List.mem_singleton.1 hmem)

end Verdict

/-- The first conditional has both operators on different levels only, the second in a group that
stands beside another. -/
def twoLevels : Text := "\x7b?(a+(ab|!a))|b:X\x7d\x7b?(a|b)+(a+!ab|b):Y\x7d".toList

theorem mixesOperators_iff_isMixed_twoLevels :
    (∀ f ∈ [Field.mk ['a'] ['A'] false false, ⟨"ab".toList, [], false, false⟩],
      FieldName.fault? f.name = none) ∧
    Balanced "(a|b)+(a+!ab|b)".toList ∧ mixesOperators "(a|b)+(a+!ab|b)".toList = true ∧
    (∃ line ∈ Scan.init.lines (substitute "(a|b)+(a+!ab|b)".toList
      [⟨['a'], ['A'], false, false⟩, ⟨"ab".toList, [], false, false⟩]), isMixed line = true) ∧
    ⟨'?', "(a+(ab|!a))|b:X".toList⟩ ∈ conditionals twoLevels ∧
    .mixedOperators ⟨'?', "(a+(ab|!a))|b:X".toList⟩ ∉ lint twoLevels ∧
    (∀ line, mixedWarning line ∉
      conditionalEvents [⟨['a'], ['A'], false, false⟩, ⟨"ab".toList, [], false, false⟩]
        ⟨'?', "(a+(ab|!a))|b:X".toList⟩) := by
  have hf : ∀ f ∈ [Field.mk ['a'] ['A'] false false, ⟨"ab".toList, [], false, false⟩],
      FieldName.fault? f.name = none := by decide
  have hb : Balanced "(a|b)+(a+!ab|b)".toList := by decide
  have hflag : mixesOperators "(a|b)+(a+!ab|b)".toList = true := by decide
  have hp : ⟨'?', "(a+(ab|!a))|b:X".toList⟩ ∈ conditionals twoLevels := by decide
  have hpass : .mixedOperators ⟨'?', "(a+(ab|!a))|b:X".toList⟩ ∉ lint twoLevels := by decide
  have hall := mixesOperators_iff_isMixed hf
  exact ⟨hf, hb, hflag, (hall.1 _ hb).1.1 hflag, hp, hpass, hall.2 _ _ hp hpass⟩

end CitationNotes.Template
