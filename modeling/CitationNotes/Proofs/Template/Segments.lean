import Mathlib.Tactic.Lemma
import CitationNotes.Proofs.Text.Occurrence
import CitationNotes.Template.Check
import CitationNotes.Template.Placeholder

/-!
Templates as segments.

A segment is a character outside braces, all that a pair of braces encloses, or what follows
a brace that stays open. One pass over the template finds them. In a template that passes the
check no brace lies inside a segment, so the text of a closed segment occurs nowhere but where
that segment stands.
-/

namespace CitationNotes.Template

inductive Segment where
  | char (c : Char)
  | closed (body : Text)
  | unclosed (body : Text)
deriving DecidableEq, Repr

/-- The segment as it stands in the template. -/
def Segment.source : Segment → Text
  | char c => [c]
  | closed body => '{' :: (body ++ ['}'])
  | unclosed body => '{' :: body

def sourceOf (ss : List Segment) : Text := ss.flatMap Segment.source

@[simp] lemma sourceOf_nil : sourceOf [] = [] := rfl
@[simp] lemma sourceOf_cons (s : Segment) (ss : List Segment) :
    sourceOf (s :: ss) = s.source ++ sourceOf ss := rfl
@[simp] lemma sourceOf_append (ss ts : List Segment) :
    sourceOf (ss ++ ts) = sourceOf ss ++ sourceOf ts := by
  simp [sourceOf]

/-- The segments of what is still to read, outside braces or behind a brace and the part of
its body that has been read. -/
def segmentsFrom : Option Text → Text → List Segment
  | none, [] => []
  | some body, [] => [.unclosed body]
  | none, c :: t =>
    if c = '{' then segmentsFrom (some []) t else .char c :: segmentsFrom none t
  | some body, c :: t =>
    if c = '}' then .closed body :: segmentsFrom none t else segmentsFrom (some (body ++ [c])) t

def segments (template : Text) : List Segment := segmentsFrom none template

/-- What an open brace and its body take up in the template. -/
def openSource : Option Text → Text
  | none => []
  | some body => '{' :: body

lemma sourceOf_segmentsFrom (body? : Option Text) (t : Text) :
    sourceOf (segmentsFrom body? t) = openSource body? ++ t := by
  induction t generalizing body? with
  | nil => cases body? <;> simp [segmentsFrom, openSource, Segment.source]
  | cons c t ih =>
    cases body? with
    | none => by_cases hc : c = '{' <;> simp [segmentsFrom, openSource, Segment.source, hc, ih]
    | some body => by_cases hc : c = '}' <;> simp [segmentsFrom, openSource, Segment.source, hc, ih]

/-- Nothing of a template is lost. -/
lemma sourceOf_segments (template : Text) : sourceOf (segments template) = template := by
  simpa [segments, openSource] using sourceOf_segmentsFrom none template

/-! ### Templates that pass the check -/

/-- A text without braces. -/
def Braceless (t : Text) : Prop := ∀ c ∈ t, c ≠ '{' ∧ c ≠ '}'

lemma Braceless.not_open {t : Text} (h : Braceless t) : '{' ∉ t := fun hc => (h _ hc).1 rfl

lemma Braceless.not_close {t : Text} (h : Braceless t) : '}' ∉ t := fun hc => (h _ hc).2 rfl

/-- No brace lies inside a segment, and only the last segment may be unclosed. -/
inductive Clean : List Segment → Prop where
  | nil : Clean []
  | char {c : Char} {ss : List Segment} (hc : c ≠ '{' ∧ c ≠ '}') (h : Clean ss) :
    Clean (.char c :: ss)
  | closed {body : Text} {ss : List Segment} (hb : Braceless body) (h : Clean ss) :
    Clean (.closed body :: ss)
  | unclosed {body : Text} (hb : Braceless body) : Clean [.unclosed body]

lemma Clean.tail {s : Segment} {ss : List Segment} (h : Clean (s :: ss)) : Clean ss := by
  cases h with
  | char _ h => exact h
  | closed _ h => exact h
  | unclosed _ => exact .nil

lemma Clean.braceless {ss : List Segment} (h : Clean ss) {body : Text}
    (hm : Segment.closed body ∈ ss) : Braceless body := by
  induction h with
  | nil => simp at hm
  | char hc h ih => exact ih (by simpa using hm)
  | closed hb h ih =>
    rcases List.mem_cons.1 hm with he | hm
    · cases he
      exact hb
    · exact ih hm
  | unclosed hb => simp at hm

/-- The segments in front of a closed one and those behind it. -/
lemma Clean.split {pre post : List Segment} {body : Text}
    (h : Clean (pre ++ .closed body :: post)) : Clean pre ∧ Clean post := by
  induction pre with
  | nil =>
    cases h with
    | closed hb h => exact ⟨.nil, h⟩
  | cons s pre ih =>
    rw [List.cons_append] at h
    generalize hrest : pre ++ Segment.closed body :: post = rest at h ih
    cases h with
    | char hc h => exact ⟨.char hc (ih h).1, (ih h).2⟩
    | closed hb h => exact ⟨.closed hb (ih h).1, (ih h).2⟩
    | unclosed hb => simp at hrest

/-- What a step of the check tells about the character read. -/
lemma Check.step_part {s s' : Check} {c : Char} (h : s.step c = .ok s') :
    (c = '{' ∧ s.part = .outside ∧ s'.part ≠ .outside) ∨
    (c = '}' ∧ s.part ≠ .outside ∧ s'.part = .outside) ∨
    ((c ≠ '{' ∧ c ≠ '}') ∧ (s'.part = .outside ↔ s.part = .outside)) := by
  unfold Check.step at h
  split at h
  · split at h
    · next hp => cases h; exact .inl ⟨rfl, hp, by simp⟩
    · cases h
  · split at h
    · cases h
    · next hp => cases h; exact .inr (.inl ⟨rfl, hp, rfl⟩)
  · split at h
    · cases h
      refine .inr (.inr ⟨by decide, ?_⟩)
      cases hp : s.part <;> simp [Check.afterColon]
    · cases h
  · cases h
    exact .inr (.inr ⟨by decide, Iff.rfl⟩)
  · split at h
    · next hp =>
      split at h
      · cases h
      · cases h
        exact .inr (.inr ⟨by decide, by simp [hp]⟩)
    · cases h
      exact .inr (.inr ⟨by decide, Iff.rfl⟩)
  · next h1 h2 h3 h4 h5 =>
    cases h
    exact .inr (.inr ⟨⟨h1, h2⟩, Iff.rfl⟩)

/-- The check is inside braces exactly if the reading is. -/
lemma clean_segmentsFrom {s s' : Check} {body? : Option Text} {t : Text}
    (hs : s.part = .outside ↔ body? = none) (hb : ∀ body ∈ body?, Braceless body)
    (h : s.run t = .ok s') : Clean (segmentsFrom body? t) := by
  induction t generalizing s body? with
  | nil =>
    cases body? with
    | none => exact .nil
    | some body => exact .unclosed (hb body rfl)
  | cons c t ih =>
    rw [Check.run_cons] at h
    rcases hstep : s.step c with e | s₁
    · rw [hstep] at h
      cases h
    rw [hstep] at h
    have hrun : s₁.run t = .ok s' := h
    rcases Check.step_part hstep with ⟨rfl, hp, hp'⟩ | ⟨rfl, hp, hp'⟩ | ⟨hc, hp⟩
    · obtain rfl := hs.1 hp
      rw [segmentsFrom, if_pos rfl]
      exact ih (by simp [hp']) (by simp [Braceless]) hrun
    · rcases body? with _ | body
      · exact absurd (hs.2 rfl) hp
      rw [segmentsFrom, if_pos rfl]
      exact .closed (hb body rfl) (ih (by simp [hp']) (by simp) hrun)
    · rcases body? with _ | body
      · rw [segmentsFrom, if_neg hc.1]
        exact .char hc (ih (hp.trans hs) hb hrun)
      · rw [segmentsFrom, if_neg hc.2]
        refine ih ((hp.trans hs).trans (by simp)) ?_ hrun
        rintro _ ⟨⟩ d hd
        rcases List.mem_append.1 hd with hd | hd
        · exact hb body rfl d hd
        · obtain rfl := List.mem_singleton.1 hd
          exact hc

theorem clean_segments {template : Text} (h : fault? template = none) :
    Clean (segments template) := by
  rw [fault?] at h
  rcases hrun : Check.init.run template with e | s
  · rw [hrun] at h
    cases h
  · exact clean_segmentsFrom (by simp [Check.init]) (by simp) hrun

/-! ### Placeholders -/

/-- The placeholder of a kind that the segment is. -/
def Segment.placeholder? (sign : Char) : Segment → Option Placeholder
  | closed (c :: body) => if c = sign then some ⟨sign, body⟩ else none
  | _ => none

lemma Segment.placeholder?_eq_some_iff {sign : Char} {s : Segment} {p : Placeholder} :
    s.placeholder? sign = some p ↔ s = .closed (p.sign :: p.body) ∧ p.sign = sign := by
  obtain ⟨c, body⟩ := p
  cases s with
  | char d => simp [placeholder?]
  | unclosed b => simp [placeholder?]
  | closed b =>
    rcases b with _ | ⟨d, b⟩
    · simp [placeholder?]
    · by_cases hd : d = sign
      · simp [placeholder?, hd, and_comm, eq_comm]
      · simp only [placeholder?, if_neg hd, closed.injEq, List.cons.injEq, reduceCtorEq, false_iff]
        rintro ⟨⟨rfl, rfl⟩, rfl⟩
        exact hd rfl

lemma text_eq_source (p : Placeholder) : p.text = (Segment.closed (p.sign :: p.body)).source := rfl

lemma bodies_outside_append (sign : Char) {t : Text} (ht : '{' ∉ t) (u : Text) :
    Placeholder.Scan.outside.bodies sign (t ++ u) = Placeholder.Scan.outside.bodies sign u := by
  induction t with
  | nil => rfl
  | cons c t ih =>
    rw [List.mem_cons, not_or] at ht
    rw [List.cons_append, Placeholder.Scan.bodies, if_neg (Ne.symm ht.1), ih ht.2]

lemma bodies_inside_append {sign : Char} {t : Text} (ht : '}' ∉ t) (read u : Text) :
    (Placeholder.Scan.inside read).bodies sign (t ++ '}' :: u) =
      (read ++ t) :: Placeholder.Scan.outside.bodies sign u := by
  induction t generalizing read with
  | nil => simp [Placeholder.Scan.bodies]
  | cons c t ih =>
    rw [List.mem_cons, not_or] at ht
    rw [List.cons_append, Placeholder.Scan.bodies, if_neg (Ne.symm ht.1), ih ht.2]
    simp

lemma bodies_inside_of_not_mem {sign : Char} {t : Text} (ht : '}' ∉ t) (read : Text) :
    (Placeholder.Scan.inside read).bodies sign t = [] := by
  induction t generalizing read with
  | nil => simp
  | cons c t ih =>
    rw [List.mem_cons, not_or] at ht
    rw [Placeholder.Scan.bodies, if_neg (Ne.symm ht.1), ih ht.2]

lemma placeholders_append {sign : Char} {t : Text} (ht : '{' ∉ t) (u : Text) :
    placeholders sign (t ++ u) = placeholders sign u := by
  rw [placeholders, bodies_outside_append sign ht, placeholders]

/-- The scan behind an opening brace, for a body that is closed. -/
lemma placeholders_closed {sign : Char} (hs : sign ≠ '{' ∧ sign ≠ '}') {body : Text}
    (hb : Braceless body) (u : Text) :
    placeholders sign ((Segment.closed body).source ++ u) =
      ((Segment.closed body).placeholder? sign).toList ++ placeholders sign u := by
  have hrest : Placeholder.Scan.outside.bodies sign (body ++ '}' :: u) =
      Placeholder.Scan.outside.bodies sign u := by
    have h : '{' ∉ body ++ ['}'] := by simp [hb.not_open]
    simpa using bodies_outside_append sign h u
  simp only [placeholders, Segment.source, List.cons_append, List.append_assoc, List.nil_append]
  rw [Placeholder.Scan.bodies, if_pos rfl]
  rcases body with _ | ⟨c, body⟩
  · rw [List.nil_append, Placeholder.Scan.bodies, if_neg (Ne.symm hs.2), if_neg (by decide)]
    simp [Segment.placeholder?]
  · have hc := hb c (List.mem_cons_self ..)
    have hb' : '}' ∉ body := fun h => hb.not_close (List.mem_cons_of_mem _ h)
    rw [List.cons_append, Placeholder.Scan.bodies]
    by_cases hcs : c = sign
    · rw [if_pos hcs, bodies_inside_append hb']
      simp [Segment.placeholder?, hcs]
    · rw [if_neg hcs, if_neg hc.1]
      rw [List.cons_append, Placeholder.Scan.bodies, if_neg hc.1] at hrest
      rw [hrest]
      simp [Segment.placeholder?, hcs]

lemma placeholders_unclosed {sign : Char} {body : Text} (hb : Braceless body) :
    placeholders sign (Segment.unclosed body).source = [] := by
  simp only [placeholders, Segment.source, List.map_eq_nil_iff]
  rw [Placeholder.Scan.bodies, if_pos rfl]
  rcases body with _ | ⟨c, body⟩
  · simp
  · have ho : '{' ∉ body := fun h => hb.not_open (List.mem_cons_of_mem _ h)
    have hc : '}' ∉ body := fun h => hb.not_close (List.mem_cons_of_mem _ h)
    rw [Placeholder.Scan.bodies, if_neg (hb c (List.mem_cons_self ..)).1]
    split
    · exact bodies_inside_of_not_mem hc []
    · simpa using bodies_outside_append sign ho []

/-- **The scan for placeholders** finds the closed segments of their kind. -/
theorem placeholders_sourceOf {sign : Char} (hs : sign ≠ '{' ∧ sign ≠ '}') {ss : List Segment}
    (h : Clean ss) :
    placeholders sign (sourceOf ss) = ss.filterMap (Segment.placeholder? sign) := by
  induction h with
  | nil => rfl
  | char hc h ih =>
    rw [sourceOf_cons, placeholders_append (by simp [Segment.source, Ne.symm hc.1]), ih]
    rfl
  | @closed body ss hb h ih =>
    rw [sourceOf_cons, placeholders_closed hs hb, ih, List.filterMap_cons]
    cases (Segment.closed body).placeholder? sign <;> rfl
  | unclosed hb =>
    rw [sourceOf_cons, sourceOf_nil, List.append_nil, placeholders_unclosed hb]
    rfl

lemma placeholders_eq {sign : Char} (hs : sign ≠ '{' ∧ sign ≠ '}') {template : Text}
    (h : fault? template = none) :
    placeholders sign template = (segments template).filterMap (Segment.placeholder? sign) := by
  have := placeholders_sourceOf hs (clean_segments h)
  rwa [sourceOf_segments] at this

lemma closed_mem_of_mem_placeholders {sign : Char} (hs : sign ≠ '{' ∧ sign ≠ '}') {template : Text}
    (h : fault? template = none) {p : Placeholder} (hp : p ∈ placeholders sign template) :
    .closed (p.sign :: p.body) ∈ segments template ∧ p.sign = sign := by
  rw [placeholders_eq hs h] at hp
  obtain ⟨s, hmem, hp⟩ := List.mem_filterMap.1 hp
  obtain ⟨rfl, hsign⟩ := Segment.placeholder?_eq_some_iff.1 hp
  exact ⟨hmem, hsign⟩

/-! ### Where the text of a segment occurs -/

/-- A closed segment begins with no other closed segment. -/
lemma eq_of_source_isPrefix {b body t : Text} (hb : '}' ∉ b) (hbody : '}' ∉ body)
    (h : (Segment.closed body).source <+: (Segment.closed b).source ++ t) : body = b := by
  obtain ⟨rest, hr⟩ := h
  have h1 := Text.cutAt?_append hbody rest
  have h2 := Text.cutAt?_append hb t
  have he : body ++ '}' :: rest = b ++ '}' :: t := by simpa [Segment.source] using hr
  rw [he, h2] at h1
  exact (congrArg Prod.fst (Option.some.inj h1)).symm

/-- The text of a closed segment starts with a brace, so it starts nowhere else. -/
lemma not_source_isPrefix {body v t : Text} (hv : '{' ∉ v) (hne : v ≠ []) :
    ¬ (Segment.closed body).source <+: v ++ t := by
  rcases v with _ | ⟨c, v⟩
  · exact absurd rfl hne
  · intro h
    obtain ⟨rfl, -⟩ := List.cons_prefix_cons.1 h
    simp at hv

/-- Another segment is passed over in the search for a closed one. -/
lemma cut?_source_append {body : Text} (hbody : '}' ∉ body) {s : Segment} {ss : List Segment}
    (hs : Clean (s :: ss)) (hne : s ≠ .closed body) :
    Text.cut? (Segment.closed body).source (s.source ++ sourceOf ss) =
      (Text.cut? (Segment.closed body).source (sourceOf ss)).map
        fun q => (s.source ++ q.1, q.2) := by
  refine Text.cut?_append fun v hv hvne => ?_
  cases hs with
  | @char c _ hc _ =>
    refine not_source_isPrefix (fun hm => ?_) hvne
    exact hc.1 (by simpa [Segment.source, eq_comm] using hv.subset hm)
  | @closed b _ hb _ =>
    rw [Segment.source, List.suffix_cons_iff] at hv
    rcases hv with rfl | hv
    · exact fun h => hne (by rw [eq_of_source_isPrefix hb.not_close hbody h])
    · refine not_source_isPrefix (fun hm => ?_) hvne
      simpa [hb.not_open] using hv.subset hm
  | @unclosed b hb =>
    rw [Segment.source, List.suffix_cons_iff] at hv
    rcases hv with rfl | hv
    · rintro ⟨rest, hr⟩
      have he : body ++ '}' :: rest = b := by simpa [Segment.source] using hr
      exact hb.not_close (by simp [← he])
    · exact not_source_isPrefix (fun hm => hb.not_open (hv.subset hm)) hvne

lemma cut?_source_of_not_mem {body : Text} (hbody : '}' ∉ body) {ss : List Segment}
    (h : Clean ss) (hn : Segment.closed body ∉ ss) :
    Text.cut? (Segment.closed body).source (sourceOf ss) = none := by
  induction ss with
  | nil => rfl
  | cons s ss ih =>
    rw [List.mem_cons, not_or] at hn
    rw [sourceOf_cons, cut?_source_append hbody h (Ne.symm hn.1)]
    rw [ih h.tail hn.2, Option.map_none]

/-- **The first occurrence** of a closed segment's text is the first such segment. -/
theorem cut?_source {body : Text} {pre post : List Segment}
    (h : Clean (pre ++ .closed body :: post)) (hn : Segment.closed body ∉ pre) :
    Text.cut? (Segment.closed body).source (sourceOf (pre ++ .closed body :: post)) =
      some (sourceOf pre, sourceOf post) := by
  have hbody : '}' ∉ body := (h.braceless (by simp)).not_close
  induction pre with
  | nil => exact Text.cut?_self_append _ _
  | cons s pre ih =>
    rw [List.mem_cons, not_or] at hn
    rw [List.cons_append] at h
    rw [List.cons_append, sourceOf_cons, cut?_source_append hbody h (Ne.symm hn.1),
      ih h.tail hn.2]
    rfl

end CitationNotes.Template
