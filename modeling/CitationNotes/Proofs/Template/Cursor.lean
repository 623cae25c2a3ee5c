import CitationNotes.Proofs.Template.Gaps
import CitationNotes.Proofs.Text.Slices

/-!
The scan for placeholders by a cursor that counts bytes.

A round looks for the next brace behind the cursor. It ends the scan, or moves the cursor behind the
brace, or behind the placeholder that begins there, and each text that it looks at is a slice of the
template. The cursor always stands where a character begins, or at the end: what has been read and
what is still to read make up the template, and the cursor counts the bytes of the first.
-/

namespace CitationNotes

/-- The byte at which the first `c` begins. -/
def Text.byteOf? (c : Char) (t : Text) : Option ℕ := (cutAt? c t).map fun p => byteLength p.1

lemma Text.byteOf?_append {c : Char} {t : Text} (h : c ∉ t) (u : Text) :
    byteOf? c (t ++ c :: u) = some (byteLength t) := by
  rw [byteOf?, cutAt?_append h]
  rfl

lemma Text.byteOf?_of_not_mem {c : Char} {t : Text} (h : c ∉ t) : byteOf? c t = none := by
  rw [byteOf?, cutAt?_eq_none_iff.2 h]
  rfl

namespace Template

/-- What a round comes to: the end of the scan, or the next cursor, with a placeholder or without. -/
inductive Round where
  | ended
  | past (next : ℕ)
  | found (text : Text) (next : ℕ)
deriving DecidableEq, Repr

/-- The round that begins at the cursor. There is none if a slice is refused. -/
def round? (sign : Char) (template : Text) (cursor : ℕ) : Option Round := do
  let ahead ← template.slice? cursor template.byteLength
  match ahead.byteOf? '{' with
  | none => some .ended
  | some i =>
    let start := cursor + i
    let behind ← template.slice? (start + 1) template.byteLength
    if behind.head? = some sign then
      match behind.byteOf? '}' with
      | none => some .ended
      | some j =>
        let stop := start + 1 + j
        let text ← template.slice? start (stop + 1)
        some (.found text (stop + 1))
    else some (.past (start + 1))

/-- From the cursor on, the scan ends, no slice of it is refused, and it finds these placeholders. -/
inductive Rounds (sign : Char) (template : Text) : ℕ → List Text → Prop where
  | ended {cursor : ℕ} (h : round? sign template cursor = some .ended) :
    Rounds sign template cursor []
  | past {cursor next : ℕ} {texts : List Text} (h : round? sign template cursor = some (.past next))
    (hnext : Rounds sign template next texts) : Rounds sign template cursor texts
  | found {cursor next : ℕ} {text : Text} {texts : List Text}
    (h : round? sign template cursor = some (.found text next))
    (hnext : Rounds sign template next texts) : Rounds sign template cursor (text :: texts)

variable {sign : Char} {read gap t u body : Text}

lemma Rounds.unique {template : Text} {cursor : ℕ} {texts texts' : List Text}
    (h : Rounds sign template cursor texts) (h' : Rounds sign template cursor texts') :
    texts = texts' := by
  induction h generalizing texts' with
  | ended h =>
    cases h' with
    | ended h' => rfl
    | past h' _ => cases h.symm.trans h'
    | found h' _ => cases h.symm.trans h'
  | past h _ ih =>
    cases h' with
    | ended h' => cases h.symm.trans h'
    | past h' hnext =>
      cases h.symm.trans h'
      exact ih hnext
    | found h' _ => cases h.symm.trans h'
  | found h _ ih =>
    cases h' with
    | ended h' => cases h.symm.trans h'
    | past h' _ => cases h.symm.trans h'
    | found h' hnext =>
      cases h.symm.trans h'
      rw [ih hnext]

/-! ### One round -/

@[simp] lemma utf8Size_open : '{'.utf8Size = 1 := rfl
@[simp] lemma utf8Size_close : '}'.utf8Size = 1 := rfl

lemma round?_of_not_mem (ht : '{' ∉ t) : round? sign (read ++ t) read.byteLength = some .ended := by
  simp [round?, Text.slice?_append_byteLength, Text.byteOf?_of_not_mem ht]

/-- The text behind the brace that the round finds. -/
lemma slice?_behind (read gap u : Text) :
    (read ++ (gap ++ '{' :: u)).slice? (read.byteLength + gap.byteLength + 1)
      (read ++ (gap ++ '{' :: u)).byteLength = some u := by
  have h := Text.slice?_append_byteLength (read ++ gap ++ ['{']) u
  rw [Text.byteLength_append, Text.byteLength_append] at h
  simpa using h

lemma round?_past (hgap : '{' ∉ gap) (hu : u.head? ≠ some sign) :
    round? sign (read ++ (gap ++ '{' :: u)) read.byteLength =
      some (.past (read.byteLength + gap.byteLength + 1)) := by
  simp [round?, Text.slice?_append_byteLength, Text.byteOf?_append hgap, slice?_behind, hu]

lemma round?_unclosed (hgap : '{' ∉ gap) (hu : '}' ∉ sign :: u) :
    round? sign (read ++ (gap ++ '{' :: sign :: u)) read.byteLength = some .ended := by
  simp [round?, Text.slice?_append_byteLength, Text.byteOf?_append hgap, slice?_behind,
    Text.byteOf?_of_not_mem hu]

lemma byteLength_text (p : Placeholder) :
    p.text.byteLength = p.sign.utf8Size + p.body.byteLength + 2 := by
  simp only [Placeholder.text, Text.byteLength_cons, Text.byteLength_append, Text.byteLength_nil,
    utf8Size_open, utf8Size_close]
  omega

lemma round?_found (hgap : '{' ∉ gap) (hbody : '}' ∉ sign :: body) (u : Text) :
    round? sign (read ++ (gap ++ '{' :: (sign :: body ++ '}' :: u))) read.byteLength =
      some (.found (Placeholder.mk sign body).text
        (read.byteLength + gap.byteLength + (Placeholder.mk sign body).text.byteLength)) := by
  have hstop : read.byteLength + gap.byteLength + (Placeholder.mk sign body).text.byteLength =
      read.byteLength + gap.byteLength + 1 + Text.byteLength (sign :: body) + 1 := by
    simp only [byteLength_text, Text.byteLength_cons]
    omega
  have hslice : (read ++ (gap ++ '{' :: (sign :: body ++ '}' :: u))).slice?
      (read.byteLength + gap.byteLength)
      (read.byteLength + gap.byteLength + (Placeholder.mk sign body).text.byteLength) =
      some (Placeholder.mk sign body).text := by
    refine Text.slice?_eq_some_iff.2 ⟨read ++ gap, u, ?_, Text.byteLength_append .., ?_⟩
    · simp [Placeholder.text]
    · rw [Text.byteLength_append]
  have hhead : (sign :: body ++ '}' :: u).head? = some sign := rfl
  rw [hstop] at hslice ⊢
  simp only [round?, Text.slice?_append_byteLength, Text.byteOf?_append hgap, slice?_behind,
    Text.byteOf?_append hbody, Option.bind_eq_bind, Option.bind_some, hhead, if_pos, hslice]

/-! ### The run -/

lemma Rounds.append_past {texts : List Text} (hgap : '{' ∉ gap) (hu : u.head? ≠ some sign)
    (h : Rounds sign (read ++ gap ++ ['{'] ++ u) (read ++ gap ++ ['{']).byteLength texts) :
    Rounds sign (read ++ (gap ++ '{' :: u)) read.byteLength texts := by
  refine .past (round?_past hgap hu) ?_
  simpa [Text.byteLength_append, Nat.add_assoc] using h

lemma Rounds.append_found {texts : List Text} (hgap : '{' ∉ gap) (hbody : '}' ∉ sign :: body)
    (h : Rounds sign (read ++ gap ++ (Placeholder.mk sign body).text ++ u)
      (read ++ gap ++ (Placeholder.mk sign body).text).byteLength texts) :
    Rounds sign (read ++ (gap ++ '{' :: sign :: (body ++ '}' :: u))) read.byteLength
      ((Placeholder.mk sign body).text :: texts) := by
  refine .found (round?_found hgap hbody u) ?_
  simpa [Text.byteLength_append, Nat.add_assoc, Placeholder.text] using h

/-- The scan from any cursor on, in the length of what is still to read. -/
lemma rounds_placeholders (hs : sign ≠ '{' ∧ sign ≠ '}') (read t : Text) :
    Rounds sign (read ++ t) read.byteLength ((placeholders sign t).map Placeholder.text) := by
  by_cases ht : '{' ∈ t
  · obtain ⟨gap, u, htu, hgap⟩ := List.eq_append_cons_of_mem ht
    have hlen : u.length < t.length := by
      simp only [htu, List.length_append, List.length_cons]
      omega
    rw [htu, placeholders_append hgap]
    by_cases hu : u.head? = some sign
    · obtain ⟨v, rfl⟩ := List.head?_eq_some_iff.1 hu
      by_cases hv : '}' ∈ v
      · -- a placeholder
        obtain ⟨body, rest, rfl, hbody⟩ := List.eq_append_cons_of_mem hv
        have hshorter : rest.length < t.length := by
          simp only [List.length_cons, List.length_append] at hlen
          omega
        have htext : '{' :: sign :: (body ++ '}' :: rest) =
            (Placeholder.mk sign body).text ++ rest := by simp [Placeholder.text]
        rw [htext, placeholders_text_append hbody, ← htext]
        exact .append_found hgap (by simp [hbody, Ne.symm hs.2]) (rounds_placeholders hs _ rest)
      · -- one that is never closed
        have hopen : ¬ HasClosed sign ('{' :: sign :: v) := by
          rintro ⟨a, b, hab, hb⟩
          have hmem : '}' ∈ '{' :: sign :: v := by simp [hab, hb]
          exact hv (by simpa [Ne.symm hs.2] using hmem)
        rw [placeholders_of_not_hasClosed hopen]
        exact .ended (round?_unclosed hgap (by simp [hv, Ne.symm hs.2]))
    · -- another brace
      have hskip : ¬ ['{', sign] <+: '{' :: u := by
        rintro ⟨v, hv⟩
        obtain rfl : sign :: v = u := by simpa using hv
        exact hu rfl
      rw [placeholders_cons hskip]
      exact .append_past hgap hu (rounds_placeholders hs _ u)
  · have hnone : ¬ HasClosed sign t := by
      rintro ⟨a, b, rfl, -⟩
      exact ht (by simp)
    rw [placeholders_of_not_hasClosed hnone]
    exact .ended (round?_of_not_mem ht)
termination_by t.length

/-- The body as the slice between the first two characters and the last. -/
lemma slice?_text {p : Placeholder} (h : p.sign.utf8Size = 1) :
    p.text.slice? 2 (p.text.byteLength - 1) = some p.body := by
  refine Text.slice?_eq_some_iff.2 ⟨['{', p.sign], ['}'], rfl, ?_, ?_⟩
  · simp [h]
  · simp only [byteLength_text, Text.byteLength_cons, Text.byteLength_nil, utf8Size_open, h]
    omega

/-- **The scan for placeholders** decomposes every template, and in only one way. With a cursor that
counts bytes it ends, no slice that it takes of the template is refused, and it finds the same
placeholders; nor is the slice of a placeholder that holds its body. -/
theorem placeholders_decompose {sign : Char} (hs : sign = '@' ∨ sign = '?') (template : Text) :
    (∀ ps, Decomposes sign template ps ↔ ps = placeholders sign template) ∧
    (∀ texts, Rounds sign template 0 texts ↔
      texts = (placeholders sign template).map Placeholder.text) ∧
    ∀ p ∈ placeholders sign template,
      p.text.slice? 2 (p.text.byteLength - 1) = some p.body := by
  have hbrace : sign ≠ '{' ∧ sign ≠ '}' := by rcases hs with rfl | rfl <;> decide
  have hsize : sign.utf8Size = 1 := by rcases hs with rfl | rfl <;> rfl
  have hrun : Rounds sign template 0 ((placeholders sign template).map Placeholder.text) :=
    rounds_placeholders hbrace [] template
  refine ⟨fun ps => ?_, fun texts => ⟨fun h => h.unique hrun, fun h => h ▸ hrun⟩, fun p hp => ?_⟩
  · rw [← placeholders_eq_iff hbrace, eq_comm]
  · obtain ⟨body, -, rfl⟩ := List.mem_map.1 hp
    exact slice?_text hsize

/-- Braces twice in front of a sign, one that opens nothing, a placeholder that begins in another,
one of the other kind, and one that is not closed. -/
def bracesOfAllKinds : Text := "\x7b\x7b@é\x7dx\x7bb\x7b@\x7b@c\x7d\x7d\x7b?a:b\x7d\x7b@d".toList

theorem placeholders_decompose_bracesOfAllKinds :
    Decomposes '@' bracesOfAllKinds [⟨'@', ['é']⟩, ⟨'@', "\x7b@c".toList⟩] ∧
    Rounds '@' bracesOfAllKinds 0 ["\x7b@é\x7d".toList, "\x7b@\x7b@c\x7d".toList] ∧
    Text.slice? "\x7b@é\x7d".toList 2 4 = some ['é'] ∧
    Rounds '?' bracesOfAllKinds 0 ["\x7b?a:b\x7d".toList] := by
  obtain ⟨hgaps, hrounds, hbodies⟩ := placeholders_decompose (.inl rfl) bracesOfAllKinds
  have hif := (placeholders_decompose (.inr rfl) bracesOfAllKinds).2.1
  exact ⟨(hgaps _).2 (by decide), (hrounds _).2 (by decide), hbodies ⟨'@', ['é']⟩ (by decide),
    (hif _).2 (by decide)⟩

end Template

end CitationNotes
