import CitationNotes.Proofs.Runs.Cells
import CitationNotes.Proofs.Template.Segments
import CitationNotes.Template.Expansion

/-!
Expansion as simultaneous substitution.

The expansion looks for each placeholder anew in runs that grow from step to step. Here the
runs are laid out as items in template order, and a step turns out to exchange the one item
that it is meant for: what stands in front of it holds either no brace or other segments.
-/

namespace CitationNotes.Template

/-! ### One reading of the template -/

/-- What a segment stands for. -/
def Segment.runs (fields : List Field) : Segment → Runs
  | .closed ('@' :: name) =>
    match Field.named? fields name with
    | some f => [.styled f.text f.bold f.italic]
    | none => []
  | .closed ('?' :: body) =>
    match Text.cutAt? ':' body with
    | some (condition, text) => if Condition.holds condition fields then [.plain text] else []
    | none => [.plain (Segment.closed ('?' :: body)).source]
  | s => [.plain s.source]

/-- The template read once from left to right, each segment for itself. -/
def reading (template : Text) (fields : List Field) : Runs :=
  (segments template).flatMap (Segment.runs fields)

/-! ### Items -/

/-- A segment that is still to be searched, or what was put in the place of one. -/
inductive Item where
  | source (s : Segment)
  | filled (f : Fragment)
deriving DecidableEq, Repr

namespace Item

def cells : Item → List Cell
  | source s => (Fragment.plain s.source).cells
  | filled f => f.cells

def placeholder? (sign : Char) : Item → Option Placeholder
  | source s => s.placeholder? sign
  | filled _ => none

/-- The item after a pass that puts `value` in the place of placeholders of one kind. -/
def resolve (sign : Char) (value : Placeholder → Option Fragment) (i : Item) : Item :=
  match (i.placeholder? sign).bind value with
  | some f => filled f
  | none => i

end Item

/-- A fragment that no search for a placeholder stops at. -/
def Inert (f : Fragment) : Prop := '{' ∉ f.text

/-- The runs hold the items in their order, neighbouring segments in one fragment or several. -/
inductive Lays : Runs → List Item → Prop where
  | nil : Lays [] []
  | source {ss : List Segment} {r : Runs} {is : List Item} (hc : Clean ss) (h : Lays r is) :
    Lays (.plain (sourceOf ss) :: r) (ss.map Item.source ++ is)
  | filled {f : Fragment} {r : Runs} {is : List Item} (hf : Inert f) (h : Lays r is) :
    Lays (f :: r) (.filled f :: is)

lemma cells_sourceOf (ss : List Segment) :
    (Fragment.plain (sourceOf ss)).cells = (ss.map Item.source).flatMap Item.cells := by
  induction ss with
  | nil => rfl
  | cons s ss ih =>
    rw [Fragment.cells_plain] at ih ⊢
    rw [sourceOf_cons, List.map_append, ih]
    rfl

lemma Lays.cells {r : Runs} {is : List Item} (h : Lays r is) :
    r.cells = is.flatMap Item.cells := by
  induction h with
  | nil => rfl
  | source hc h ih => rw [Runs.cells_cons, cells_sourceOf, ih, List.flatMap_append]
  | filled hf h ih => rw [Runs.cells_cons, ih, List.flatMap_cons, Item.cells]

lemma Lays.braceless {r : Runs} {is : List Item} (h : Lays r is) {body : Text}
    (hm : .source (.closed body) ∈ is) : Braceless body := by
  induction h with
  | nil => simp at hm
  | source hc h ih =>
    rcases List.mem_append.1 hm with hm | hm
    · exact hc.braceless (by simpa using hm)
    · exact ih hm
  | filled hf h ih => exact ih (by simpa using hm)

/-! ### One placeholder -/

lemma replaceIn?_cons_of_cut?_eq_none {pattern : Text} {f : Fragment}
    (h : Text.cut? pattern f.text = none) (new : Fragment) (r : Runs) :
    Runs.replaceIn? pattern new (f :: r) = (Runs.replaceIn? pattern new r).map (f :: ·) := by
  have hc : (if f.isMarker then none else Text.cut? pattern f.text) = none := by
    rw [h, ite_self]
  rw [Runs.replaceIn?, hc]

lemma replaceIn?_cons_of_cut?_eq_some {pattern a b : Text} {f : Fragment}
    (hf : f.isMarker = false) (h : Text.cut? pattern f.text = some (a, b)) (new : Fragment)
    (r : Runs) :
    Runs.replaceIn? pattern new (f :: r) = some (Runs.around f a new b ++ r) := by
  have hc : (if f.isMarker then none else Text.cut? pattern f.text) = some (a, b) := by
    rw [hf, h]
    rfl
  rw [Runs.replaceIn?, hc]

/-- The search finds nothing, or the first item that it is for. -/
lemma Lays.replaceIn? {body : Text} (hb : '}' ∉ body) {new : Fragment} (hnew : Inert new)
    {r : Runs} {is : List Item} (h : Lays r is) :
    (Runs.replaceIn? (Segment.closed body).source new r = none ∧
      Item.source (.closed body) ∉ is) ∨
    ∃ r', Runs.replaceIn? (Segment.closed body).source new r = some r' ∧
      Lays r' (is.replace (.source (.closed body)) (.filled new)) := by
  induction h with
  | nil => exact .inl ⟨rfl, by simp⟩
  | @source ss r is hc h ih =>
    by_cases hm : Segment.closed body ∈ ss
    · obtain ⟨pre, post, rfl, hn⟩ := List.eq_append_cons_of_mem hm
      have hcut := cut?_source hc hn
      have hnot : Item.source (.closed body) ∉ pre.map Item.source := by simpa using hn
      refine .inr ⟨_, replaceIn?_cons_of_cut?_eq_some rfl hcut new r, ?_⟩
      rw [List.map_append, List.append_assoc, List.replace_append_right hnot, List.map_cons,
        List.cons_append, List.replace_cons_self]
      exact .source hc.split.1 (.filled hnew (.source hc.split.2 h))
    · have hcut := cut?_source_of_not_mem hb hc hm
      have hnot : Item.source (.closed body) ∉ ss.map Item.source := by simpa using hm
      rw [replaceIn?_cons_of_cut?_eq_none hcut, List.replace_append_right hnot]
      rcases ih with ⟨hr, hn⟩ | ⟨r', hr, hl⟩
      · exact .inl ⟨by rw [hr]; rfl, by simp [hnot, hn]⟩
      · exact .inr ⟨_, by rw [hr]; rfl, .source hc hl⟩
  | @filled f r is hf h ih =>
    have hcut : Text.cut? (Segment.closed body).source f.text = none :=
      Text.cut?_eq_none_of_not_mem (c := '{') (by simp [Segment.source]) hf
    have hne : (Item.source (.closed body) == .filled f) = false := by simp
    rw [replaceIn?_cons_of_cut?_eq_none hcut, List.replace_cons, hne]
    rcases ih with ⟨hr, hn⟩ | ⟨r', hr, hl⟩
    · exact .inl ⟨by rw [hr]; rfl, by simp [hn]⟩
    · exact .inr ⟨_, by rw [hr]; rfl, .filled hf hl⟩

/-- A step fills the first item of the placeholder's text. -/
lemma Lays.put {p : Placeholder} (hp : '}' ∉ p.sign :: p.body) {new : Fragment}
    (hnew : Inert new) {r : Runs} {is : List Item} (h : Lays r is) :
    Lays (put p new r) (is.replace (.source (.closed (p.sign :: p.body))) (.filled new)) := by
  have hne : (Segment.closed (p.sign :: p.body)).source.isEmpty = false := rfl
  rw [Template.put, text_eq_source, Runs.replaceFirst?, hne]
  rcases h.replaceIn? hp hnew with ⟨hr, hn⟩ | ⟨r', hr, hl⟩
  · simpa [hr, List.replace_of_not_mem hn] using h
  · simpa [hr] using hl

/-! ### A whole pass -/

/-- The placeholders in turn, each replaced by its value if it has one. -/
def pass (value : Placeholder → Option Fragment) (ps : List Placeholder) (r : Runs) : Runs :=
  ps.foldl (fun r p => match value p with
    | some new => put p new r
    | none => r) r

section Pass

variable {sign : Char} {value : Placeholder → Option Fragment}

@[simp] lemma pass_nil (r : Runs) : pass value [] r = r := rfl

lemma pass_append (ps qs : List Placeholder) (r : Runs) :
    pass value (ps ++ qs) r = pass value qs (pass value ps r) := by
  rw [pass, List.foldl_append, ← pass, ← pass]

/-- A placeholder that has a value is gone once it has been resolved. -/
lemma Item.resolve_ne {body : Text} (hv : value ⟨sign, body⟩ ≠ none) (i : Item) :
    i.resolve sign value ≠ .source (.closed (sign :: body)) := by
  intro h
  rcases hb : (i.placeholder? sign).bind value with _ | new
  · rw [Item.resolve, hb] at h
    change i = _ at h
    subst h
    exact hv (by simpa [Item.placeholder?, Segment.placeholder?] using hb)
  · rw [Item.resolve, hb] at h
    cases h

/-- One item's part in a pass. -/
lemma Lays.pass_placeholder?
    (hv : ∀ p new, Braceless (p.sign :: p.body) → value p = some new → Inert new)
    {r : Runs} {passed is : List Item} {i : Item}
    (hd : ∀ body, value ⟨sign, body⟩ ≠ none → .source (.closed (sign :: body)) ∉ passed)
    (h : Lays r (passed ++ i :: is)) :
    Lays (pass value (i.placeholder? sign).toList r)
      (passed ++ i.resolve sign value :: is) := by
  rcases hi : i.placeholder? sign with _ | p
  · simpa [Item.resolve, hi] using h
  obtain ⟨s, rfl, hs⟩ : ∃ s, i = .source s ∧ s.placeholder? sign = some p := by
    cases i with
    | source s => exact ⟨s, rfl, hi⟩
    | filled f => cases hi
  obtain ⟨rfl, rfl⟩ := Segment.placeholder?_eq_some_iff.1 hs
  rcases hval : value p with _ | new
  · simpa [pass, Item.resolve, hi, hval] using h
  · have hb : Braceless (p.sign :: p.body) := h.braceless (by simp)
    have hnot : Item.source (.closed (p.sign :: p.body)) ∉ passed := hd p.body (by simp [hval])
    have hput := h.put hb.not_close (hv p new hb hval)
    rw [List.replace_append_right hnot, List.replace_cons_self] at hput
    simpa [pass, Item.resolve, hi, hval] using hput

/-- What has been passed holds no placeholder that has a value, so the next one is found where
it stands. -/
lemma Lays.pass (hv : ∀ p new, Braceless (p.sign :: p.body) → value p = some new → Inert new)
    {r : Runs} {is passed : List Item}
    (hd : ∀ body, value ⟨sign, body⟩ ≠ none → .source (.closed (sign :: body)) ∉ passed)
    (h : Lays r (passed ++ is)) :
    Lays (pass value (is.filterMap (Item.placeholder? sign)) r)
      (passed ++ is.map (Item.resolve sign value)) := by
  induction is generalizing r passed with
  | nil => simpa using h
  | cons i is ih =>
    have hone := h.pass_placeholder? hv hd
    have hd' : ∀ body, value ⟨sign, body⟩ ≠ none →
        .source (.closed (sign :: body)) ∉ passed ++ [i.resolve sign value] := by
      intro body hb hm
      rcases List.mem_append.1 hm with hm | hm
      · exact hd body hb hm
      · exact Item.resolve_ne hb i (List.mem_singleton.1 hm).symm
    have hrest := ih hd' (by simpa using hone)
    have hps : (i :: is).filterMap (Item.placeholder? sign) =
        (i.placeholder? sign).toList ++ is.filterMap (Item.placeholder? sign) := by
      rw [List.filterMap_cons]
      cases i.placeholder? sign <;> rfl
    rw [hps, pass_append]
    simpa using hrest

end Pass

/-! ### Both passes -/

section Expand

variable {template : Text} {fields : List Field}

/-- The items of a template before anything is filled in. -/
def items (template : Text) : List Item := (segments template).map .source

def referenceValue (fields : List Field) (p : Placeholder) : Option Fragment :=
  some (referenced fields p.body)

/-- An item after both passes. -/
def Item.settle (fields : List Field) (i : Item) : Item :=
  (i.resolve '@' (referenceValue fields)).resolve '?' (decided? fields)

lemma inert_referenced (hf : ∀ f ∈ fields, '{' ∉ f.text) (name : Text) :
    Inert (referenced fields name) := by
  rw [referenced]
  split
  · next f hfind => exact hf f (List.mem_of_find?_eq_some hfind)
  · simp [Inert, Fragment.empty, Fragment.plain, Fragment.styled]

lemma inert_of_decided? {p : Placeholder} {new : Fragment} (hb : Braceless (p.sign :: p.body))
    (h : decided? fields p = some new) : Inert new := by
  obtain ⟨⟨condition, text⟩, hcut, rfl⟩ := Option.map_eq_some_iff.1 h
  obtain ⟨hbody, -⟩ := Text.cutAt?_eq_some_iff.1 hcut
  rw [output]
  split
  · intro hm
    exact hb.not_open (by simp [hbody, show '{' ∈ text from hm])
  · simp [Inert, Fragment.empty, Fragment.plain, Fragment.styled]

/-- Filling in references leaves the conditionals. -/
lemma placeholder?_resolve_references (i : Item) :
    (i.resolve '@' (referenceValue fields)).placeholder? '?' = i.placeholder? '?' := by
  rcases i with s | f
  · rcases hs : s.placeholder? '@' with _ | p
    · simp [Item.resolve, Item.placeholder?, hs]
    · obtain ⟨rfl, hp⟩ := Segment.placeholder?_eq_some_iff.1 hs
      simp [Item.resolve, Item.placeholder?, referenceValue, Segment.placeholder?, hp]
  · rfl

lemma lays_expand (hc : fault? template = none) (hf : ∀ f ∈ fields, '{' ∉ f.text) :
    Lays (expand template fields) ((items template).map (Item.settle fields)) := by
  have hclean := clean_segments hc
  have hplaceholders (sign : Char) (hs : sign ≠ '{' ∧ sign ≠ '}') :
      placeholders sign template = (items template).filterMap (Item.placeholder? sign) := by
    rw [placeholders_eq hs hc, items, List.filterMap_map]
    rfl
  have hstart : Lays [.plain template] ([] ++ items template) := by
    simpa [sourceOf_segments, items] using Lays.source hclean .nil
  have href : Lays (pass (referenceValue fields) _ _)
      ([] ++ (items template).map (Item.resolve '@' (referenceValue fields))) := hstart.pass
    (fun p new _ h => Option.some.inj h ▸ inert_referenced hf p.body) (by simp)
  rw [← hplaceholders '@' (by decide), List.nil_append] at href
  have hcond : Lays (pass (decided? fields) _ _) ([] ++ List.map (Item.resolve '?' _) _) :=
    Lays.pass (fun p new hb h => inert_of_decided? hb h) (by simp) href
  have hsame : ((items template).map (Item.resolve '@' (referenceValue fields))).filterMap
      (Item.placeholder? '?') = placeholders '?' template := by
    rw [hplaceholders '?' (by decide), List.filterMap_map]
    exact congrArg (List.filterMap · _) (funext placeholder?_resolve_references)
  rw [hsame, List.nil_append, List.map_map] at hcond
  exact hcond

lemma settle_of_placeholder?_eq_none {i : Item} (href : i.placeholder? '@' = none)
    (hcond : (i.placeholder? '?').bind (decided? fields) = none) : i.settle fields = i := by
  have h : i.resolve '@' (referenceValue fields) = i := by rw [Item.resolve, href]; rfl
  rw [Item.settle, h, Item.resolve, hcond]

/-- Both passes make of a segment what it stands for. -/
lemma cells_settle (s : Segment) :
    (Item.settle fields (.source s)).cells = (s.runs fields).cells := by
  have hverbatim (h : Item.settle fields (.source s) = .source s)
      (hr : s.runs fields = [.plain s.source]) :
      (Item.settle fields (.source s)).cells = (s.runs fields).cells := by
    rw [h, hr, Runs.cells_cons, Runs.cells_nil, List.append_nil, Item.cells]
  rcases s with c | (_ | ⟨c, body⟩) | body
  · exact hverbatim rfl rfl
  · exact hverbatim rfl rfl
  · by_cases hat : c = '@'
    · -- a reference
      subst hat
      have h : Item.settle fields (.source (.closed ('@' :: body))) =
          .filled (referenced fields body) := rfl
      rw [h, Item.cells, referenced, Segment.runs]
      cases Field.named? fields body <;> simp [Fragment.empty]
    by_cases hif : c = '?'
    · -- a conditional
      subst hif
      have hp : (Item.source (.closed ('?' :: body))).placeholder? '?' = some ⟨'?', body⟩ := rfl
      rcases hcut : Text.cutAt? ':' body with _ | ⟨condition, text⟩
      · refine hverbatim (settle_of_placeholder?_eq_none rfl ?_) ?_
        · simp [hp, decided?, hcut]
        · simp only [Segment.runs, hcut]
      · have h : Item.settle fields (.source (.closed ('?' :: body))) =
            .filled (output fields condition text) := by
          change Item.resolve '?' (decided? fields) (.source (.closed ('?' :: body))) = _
          simp [Item.resolve, hp, decided?, hcut]
        rw [h, Item.cells, output]
        simp only [Segment.runs, hcut]
        split <;> simp [Fragment.empty]
    · -- braces of another kind
      refine hverbatim (settle_of_placeholder?_eq_none ?_ ?_) ?_
      · simp [Item.placeholder?, Segment.placeholder?, hat]
      · simp [Item.placeholder?, Segment.placeholder?, hif]
      · simp [Segment.runs, hat, hif]
  · exact hverbatim rfl rfl

/-- **Expansion is simultaneous substitution**: what comes out of a checked template is its
reading, up to how the text is cut into fragments. -/
theorem normalize_expand (hc : fault? template = none) (hf : ∀ f ∈ fields, '{' ∉ f.text) :
    (expand template fields).normalize = (reading template fields).normalize := by
  apply Runs.normalize_congr
  rw [(lays_expand hc hf).cells, items, reading]
  rw [List.map_map, List.flatMap_map]
  rw [Runs.cells, List.flatMap_assoc]
  exact congrArg (List.flatMap · _) (funext cells_settle)

/-- Repeated and adjacent placeholders, one without a colon, and a brace that stays open. -/
def crowdedTemplate : Text :=
  "\x7b@t\x7d\x7b@t\x7d, \x7b?a+!b:in \x7d\x7b?q\x7d\x7b@a\x7d\x7b?q\x7d\x7b@a".toList

def crowdedFields : List Field :=
  [⟨['a'], ['A'], true, false⟩, ⟨['t'], ['T', '}'], false, false⟩, ⟨['a'], [], false, false⟩,
    ⟨['b'], [], false, false⟩]

theorem normalize_expand_crowded :
    fault? crowdedTemplate = none ∧ (∀ f ∈ crowdedFields, '{' ∉ f.text) ∧
    (expand crowdedTemplate crowdedFields).normalize =
      (reading crowdedTemplate crowdedFields).normalize ∧
    (reading crowdedTemplate crowdedFields).normalize =
      [.plain "T\x7dT\x7d, in \x7b?q\x7d".toList, .styled ['A'] true false,
        .plain "\x7b?q\x7d\x7b@a".toList] :=
  ⟨by decide, by decide, normalize_expand (by decide) (by decide), by decide⟩

end Expand

end CitationNotes.Template
