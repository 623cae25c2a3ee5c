import CitationNotes.Proofs.Template.Reading
import CitationNotes.Template.Lint

/-!
What is left of the template language in an expanded template.

The values of references and conditionals have no opening brace, and of the braces that are printed
as they are the closed ones begin with no sign. So a sign behind a brace comes from a placeholder
that is not closed, if the template has one: the check does not ask for the last brace to be
closed, and both searches pass over it.
-/

namespace CitationNotes.Template

variable {fields : List Field} {sign : Char}

/-! ### A brace and a sign -/

lemma infix_append_iff {x : Text} (h : '{' ∉ x) (y : Text) :
    ['{', sign] <:+: x ++ y ↔ ['{', sign] <:+: y := by
  induction x with
  | nil => rfl
  | cons c x ih =>
    rw [List.mem_cons, not_or] at h
    have hc : ¬ ['{', sign] <+: c :: (x ++ y) := fun hp => h.1 (List.cons_prefix_cons.1 hp).1
    rw [List.cons_append, List.infix_cons_iff, ih h.2, or_iff_right hc]

lemma infix_open_iff {x : Text} :
    ['{', sign] <:+: '{' :: x ↔ x.head? = some sign ∨ ['{', sign] <:+: x := by
  rw [List.infix_cons_iff, List.cons_prefix_cons]
  cases x with
  | nil => simp
  | cons c x => simp [eq_comm]

/-- A suffix without a character begins behind the last of it. -/
lemma suffix_of_suffix_append_cons {w x y : Text} {c : Char} (hc : c ∉ w) (h : w <:+ x ++ c :: y) :
    w <:+ y := by
  have hy : c :: y <:+ x ++ c :: y := List.suffix_append ..
  rcases List.suffix_or_suffix_of_suffix h hy with hw | hw
  · rcases List.suffix_cons_iff.1 hw with rfl | hw
    · exact absurd (List.mem_cons_self ..) hc
    · exact hw
  · exact absurd (hw.subset (List.mem_cons_self ..)) hc

/-! ### What segments leave -/

/-- The value of a placeholder has no opening brace, and other braces have no sign. -/
lemma text_runs_closed {body : Text} (hf : ∀ f ∈ fields, '{' ∉ f.text) (hb : Braceless body)
    (hcolon : ∀ b, body = '?' :: b → ':' ∈ b) :
    '{' ∉ ((Segment.closed body).runs fields).text ∨
    (body.head? ≠ some '@' ∧ body.head? ≠ some '?' ∧
      ((Segment.closed body).runs fields).text = (Segment.closed body).source) := by
  rcases body with _ | ⟨c, body⟩
  · right
    simp [Segment.runs]
  by_cases hat : c = '@'
  · left
    subst hat
    rw [Segment.runs]
    split
    · next f hfind => simpa using hf f (List.mem_of_find?_eq_some hfind)
    · simp
  by_cases hif : c = '?'
  · left
    subst hif
    rw [Segment.runs]
    split
    · next condition text hcut =>
      have htext : '{' ∉ text := fun hm => hb.not_open (by
        simp [(Text.cutAt?_eq_some_iff.1 hcut).1, hm])
      split
      · simpa using htext
      · simp
    · next hcut => exact absurd (hcolon body rfl) (Text.cutAt?_eq_none_iff.1 hcut)
  · right
    have hruns : (Segment.closed (c :: body)).runs fields =
        [.plain (Segment.closed (c :: body)).source] := by
      simp [Segment.runs, hat, hif]
    rw [hruns]
    simp [hat, hif]

/-- Braces without the sign are passed over. -/
lemma infix_source_append_iff {body : Text} (hb : Braceless body) (hhead : body.head? ≠ some sign)
    (hclose : sign ≠ '}') (y : Text) :
    ['{', sign] <:+: (Segment.closed body).source ++ y ↔ ['{', sign] <:+: y := by
  have hno : '{' ∉ body ++ ['}'] := by simp [hb.not_open]
  have hnext : (body ++ '}' :: y).head? ≠ some sign := by
    cases body with
    | nil => simpa using Ne.symm hclose
    | cons c body => exact hhead
  have hskip : ['{', sign] <:+: body ++ '}' :: y ↔ ['{', sign] <:+: y := by
    rw [List.append_cons]
    exact infix_append_iff hno y
  rw [Segment.source, List.cons_append, List.append_assoc, List.singleton_append, infix_open_iff,
    or_iff_right hnext, hskip]

/-- Only an unclosed placeholder leaves its brace and its sign. -/
lemma infix_flatMap_runs_iff (hs : sign = '@' ∨ sign = '?') (hf : ∀ f ∈ fields, '{' ∉ f.text)
    {ss : List Segment} (h : Clean ss)
    (hcolon : ∀ body, .closed ('?' :: body) ∈ ss → ':' ∈ body) :
    ['{', sign] <:+: (ss.flatMap fun s => (s.runs fields).text) ↔
      ∃ body, .unclosed (sign :: body) ∈ ss := by
  have hclose : sign ≠ '}' := by rcases hs with rfl | rfl <;> decide
  induction h with
  | nil => simp
  | @char c ss hc h ih =>
    have hno : '{' ∉ ((Segment.char c).runs fields).text := by
      simpa [Segment.runs, Segment.source] using Ne.symm hc.1
    have hrest := ih fun body hm => hcolon body (List.mem_cons_of_mem _ hm)
    rw [List.flatMap_cons, infix_append_iff hno]
    exact hrest.trans (by simp)
  | @closed body ss hb h ih =>
    have hrest := ih fun body hm => hcolon body (List.mem_cons_of_mem _ hm)
    have hmem : (∃ b, .unclosed (sign :: b) ∈ .closed body :: ss) ↔
        ∃ b, .unclosed (sign :: b) ∈ ss := by simp
    rw [List.flatMap_cons, hmem]
    rcases text_runs_closed hf hb fun b hbody => hcolon b (by simp [hbody]) with
      hno | ⟨hat, hif, htext⟩
    · exact (infix_append_iff hno _).trans hrest
    · have hhead : body.head? ≠ some sign := by
        rcases hs with rfl | rfl
        · exact hat
        · exact hif
      rw [htext]
      exact (infix_source_append_iff hb hhead hclose _).trans hrest
  | @unclosed body hb =>
    have hno : ¬ ['{', sign] <:+: body := fun hi => hb.not_open (hi.subset (by simp))
    have htext : ((Segment.unclosed body).runs fields).text = '{' :: body := by
      simp [Segment.runs, Segment.source]
    rw [List.flatMap_singleton, htext, infix_open_iff, or_iff_left hno, List.head?_eq_some_iff]
    simp [eq_comm]

/-- The unclosed placeholder is the one behind which no brace is closed. -/
lemma suffix_sourceOf_iff (hs : sign ≠ '}') {ss : List Segment} (h : Clean ss) :
    (∃ v, '{' :: sign :: v <:+ sourceOf ss ∧ '}' ∉ v) ↔ ∃ body, .unclosed (sign :: body) ∈ ss := by
  induction h with
  | nil => simp
  | @char c ss hc h ih =>
    simp [Segment.source, List.suffix_cons_iff, Ne.symm hc.1, ih]
  | @closed body ss hb h ih =>
    have hmem : (∃ b, .unclosed (sign :: b) ∈ .closed body :: ss) ↔
        ∃ b, .unclosed (sign :: b) ∈ ss := by simp
    have hsource : sourceOf (.closed body :: ss) = '{' :: body ++ '}' :: sourceOf ss := by
      simp [Segment.source]
    rw [hmem, ← ih, hsource]
    constructor
    · rintro ⟨v, hv, hclose⟩
      refine ⟨v, suffix_of_suffix_append_cons ?_ hv, hclose⟩
      simp [hclose, Ne.symm hs]
    · rintro ⟨v, hv, hclose⟩
      exact ⟨v, hv.trans (List.suffix_append_of_suffix (List.suffix_cons ..)), hclose⟩
  | @unclosed body hb =>
    rw [sourceOf_cons, sourceOf_nil, List.append_nil, Segment.source]
    constructor
    · rintro ⟨v, hv, -⟩
      rcases List.suffix_cons_iff.1 hv with he | hv
      · exact ⟨v, by simpa using (List.cons.inj he).2⟩
      · exact absurd (hv.subset (List.mem_cons_self ..)) hb.not_open
    · rintro ⟨v, hv⟩
      obtain rfl : sign :: v = body := by simpa using hv
      exact ⟨v, List.suffix_rfl, fun hm => hb.not_close (List.mem_cons_of_mem _ hm)⟩

/-! ### Expanded templates -/

lemma text_expand {template : Text} (hc : fault? template = none)
    (hf : ∀ f ∈ fields, '{' ∉ f.text) :
    (expand template fields).text = (segments template).flatMap fun s => (s.runs fields).text := by
  have hcells : (expand template fields).cells = (reading template fields).cells := by
    rw [(lays_expand hc hf).cells, items, List.map_map, List.flatMap_map, reading, Runs.cells,
      List.flatMap_assoc]
    exact congrArg (List.flatMap · _) (funext cells_settle)
  rw [Runs.text_congr hcells, reading, Runs.text, List.flatMap_assoc]
  rfl

/-- A conditional that is not complained about has a colon. -/
lemma colon_mem_of_lint_eq_nil {template : Text} (hc : fault? template = none)
    (hl : lint template = []) {body : Text} (hm : .closed ('?' :: body) ∈ segments template) :
    ':' ∈ body := by
  have hp : (⟨'?', body⟩ : Placeholder) ∈ conditionals template := by
    rw [conditionals, placeholders_eq (by decide) hc]
    exact List.mem_filterMap.2 ⟨_, hm, rfl⟩
  have hnone := List.filterMap_eq_nil_iff.1 hl _ hp
  rcases hcut : Text.cutAt? ':' body with _ | ⟨condition, text⟩
  · rw [warning?, hcut] at hnone
    cases hnone
  · simp [(Text.cutAt?_eq_some_iff.1 hcut).1]

/-- **What leaks of a template**: one that passes the check and is not complained about leaves a
brace with a sign behind it exactly if it ends in a placeholder of that kind that is not closed. -/
theorem infix_text_expand_iff {template : Text} (hs : sign = '@' ∨ sign = '?')
    (hc : fault? template = none) (hl : lint template = [])
    (hf : ∀ f ∈ fields, '{' ∉ f.text ∧ '}' ∉ f.text) :
    ['{', sign] <:+: (expand template fields).text ↔
      ∃ v, '{' :: sign :: v <:+ template ∧ '}' ∉ v := by
  have hclose : sign ≠ '}' := by rcases hs with rfl | rfl <;> decide
  have hopen : ∀ f ∈ fields, '{' ∉ f.text := fun f hm => (hf f hm).1
  have hclean := clean_segments hc
  rw [text_expand hc hopen, infix_flatMap_runs_iff hs hopen hclean fun body hm =>
    colon_mem_of_lint_eq_nil hc hl hm, ← suffix_sourceOf_iff hclose hclean, sourceOf_segments]

/-- Every kind of braces, and a reference that is not closed. -/
def openTemplate : Text := "\x7b@a\x7d\x7b?a+!b:in \x7d\x7b\x7d\x7bc\x7d\x7b@b".toList

/-- The reference leaks, and no conditional does. -/
theorem infix_text_expand_iff_openTemplate :
    fault? openTemplate = none ∧ lint openTemplate = [] ∧
    (∀ f ∈ [Field.mk ['a'] ['?', '@'] false false], '{' ∉ f.text ∧ '}' ∉ f.text) ∧
    (['{', '@'] <:+: (expand openTemplate [⟨['a'], ['?', '@'], false, false⟩]).text ↔
      ∃ v, '{' :: '@' :: v <:+ openTemplate ∧ '}' ∉ v) ∧
    (['{', '?'] <:+: (expand openTemplate [⟨['a'], ['?', '@'], false, false⟩]).text ↔
      ∃ v, '{' :: '?' :: v <:+ openTemplate ∧ '}' ∉ v) ∧
    (expand openTemplate [⟨['a'], ['?', '@'], false, false⟩]).text =
      "?@in \x7b\x7d\x7bc\x7d\x7b@b".toList :=
  ⟨by decide, by decide, by decide,
    infix_text_expand_iff (.inl rfl) (by decide) (by decide) (by decide),
    infix_text_expand_iff (.inr rfl) (by decide) (by decide) (by decide), by decide⟩

/-- The check and the search for doubtful conditionals let an unclosed placeholder pass, which is
then printed. -/
theorem infix_text_expand_of_unclosed :
    fault? "\x7b@a".toList = none ∧ lint "\x7b@a".toList = [] ∧
    (∀ f ∈ [Field.mk ['a'] ['1'] false false], '{' ∉ f.text ∧ '}' ∉ f.text) ∧
    ['{', '@'] <:+: (expand "\x7b@a".toList [⟨['a'], ['1'], false, false⟩]).text := by
  decide

end CitationNotes.Template
