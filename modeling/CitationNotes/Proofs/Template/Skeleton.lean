import CitationNotes.Proofs.Condition.Marks
import CitationNotes.Proofs.Runs.Holes
import CitationNotes.Proofs.Template.Markers
import CitationNotes.Proofs.Template.Reading

/-!
What the value of one field does to the expansion.

The expansion of a template is a skeleton with the value in its holes, as long as the value holds
none of the placeholders that are still to be resolved once it has been put in. The skeleton is
found by expanding with a marker in the place of the value: nothing that is done to the runs looks
into a marker, and a conditional reads of the field only that it is not empty.
-/

namespace CitationNotes.Template

/-! ### Both passes as one -/

section Pass

variable {value : Placeholder → Option Fragment}

lemma pass_cons (p : Placeholder) (ps : List Placeholder) (r : Runs) :
    pass value (p :: ps) r = pass value ps (pass value [p] r) := pass_append [p] ps r

lemma pass_singleton_of_eq_some {p : Placeholder} {new : Fragment} (h : value p = some new)
    (r : Runs) : pass value [p] r = put p new r := by
  simp [pass, h]

lemma pass_singleton_of_eq_none {p : Placeholder} (h : value p = none) (r : Runs) :
    pass value [p] r = r := by
  simp [pass, h]

lemma pass_congr {value' : Placeholder → Option Fragment} {ps : List Placeholder}
    (h : ∀ p ∈ ps, value p = value' p) (r : Runs) : pass value ps r = pass value' ps r := by
  induction ps generalizing r with
  | nil => rfl
  | cons p ps ih =>
    rw [List.forall_mem_cons] at h
    rw [pass_cons, pass_cons, ih h.2]
    simp [pass, h.1]

lemma pass_filter {keep : Placeholder → Bool} {ps : List Placeholder}
    (h : ∀ p ∈ ps, keep p = false → value p = none) (r : Runs) :
    pass value (ps.filter keep) r = pass value ps r := by
  induction ps generalizing r with
  | nil => rfl
  | cons p ps ih =>
    rw [List.forall_mem_cons] at h
    rw [pass_cons]
    cases hk : keep p
    · rw [List.filter_cons_of_neg (by simp [hk]), ih h.2, pass_singleton_of_eq_none (h.1 hk)]
    · rw [List.filter_cons_of_pos hk, pass_cons, ih h.2]

lemma markers_pass {ps : List Placeholder}
    (h : ∀ p ∈ ps, ∀ new, value p = some new → new.marker = none) (r : Runs) :
    (pass value ps r).markers = r.markers := by
  induction ps generalizing r with
  | nil => rfl
  | cons p ps ih =>
    rw [List.forall_mem_cons] at h
    rw [pass_cons, ih h.2]
    rcases hp : value p with _ | new
    · rw [pass_singleton_of_eq_none hp]
    · rw [pass_singleton_of_eq_some hp, markers_put p (h.1 new hp)]

end Pass

/-- What is put in the place of a placeholder of either kind. -/
def valueOf (fields : List Field) (p : Placeholder) : Option Fragment :=
  if p.sign = '@' then referenceValue fields p else decided? fields p

/-- The placeholders that are replaced, in the order in which that happens. -/
def resolved (template : Text) : List Placeholder :=
  references template ++ (conditionals template).filter fun p => p.body.contains ':'

lemma sign_of_mem_placeholders {sign : Char} {template : Text} {p : Placeholder}
    (h : p ∈ placeholders sign template) : p.sign = sign := by
  obtain ⟨b, -, rfl⟩ := List.mem_map.1 h
  rfl

lemma expand_eq_pass (template : Text) (fields : List Field) :
    expand template fields = pass (valueOf fields) (resolved template) [.plain template] := by
  have href : ∀ p ∈ references template, referenceValue fields p = valueOf fields p :=
    fun p hp => by rw [valueOf, if_pos (sign_of_mem_placeholders hp)]
  have hcond : ∀ p ∈ conditionals template, decided? fields p = valueOf fields p :=
    fun p hp => by rw [valueOf, sign_of_mem_placeholders hp, if_neg (by decide)]
  have hcolon : ∀ p ∈ conditionals template, p.body.contains ':' = false →
      valueOf fields p = none := by
    intro p hp hno
    have hcut : Text.cutAt? ':' p.body = none := Text.cutAt?_eq_none_iff.2 (by simpa using hno)
    rw [valueOf, sign_of_mem_placeholders hp, if_neg (by decide), decided?, hcut]
    rfl
  calc expand template fields
      = pass (decided? fields) (conditionals template)
          (pass (referenceValue fields) (references template) [.plain template]) := rfl
    _ = pass (valueOf fields) (resolved template) [.plain template] := by
        rw [pass_congr href, pass_congr hcond, resolved, pass_append, pass_filter hcolon]

lemma marker_of_valueOf {fields : List Field} {p : Placeholder} {new : Fragment}
    (h : valueOf fields p = some new) : new.marker = none := by
  rw [valueOf] at h
  split at h
  · exact Option.some.inj h ▸ marker_referenced p.body
  · exact marker_of_decided? h

/-! ### Holes in the runs -/

lemma put_fill {v new : Fragment} (hv : v.isMarker = false) {p : Placeholder} {r : Runs}
    (h : r.markers ≠ [] → ¬ p.text <:+: v.text) :
    put p (v.fill new) (r.fill v) = (put p new r).fill v := by
  have hne : p.text.isEmpty = false := rfl
  rw [put, put, Runs.replaceFirst?, Runs.replaceFirst?, hne]
  simp only [Bool.false_eq_true, if_false]
  rw [Runs.replaceIn?_fill hv h]
  cases Runs.replaceIn? p.text new r <;> rfl

/-- A pass over runs with holes, if the placeholders that come once there are holes are not in
what belongs into them. -/
lemma pass_fill {value : Placeholder → Option Fragment} {v : Fragment} (hv : v.isMarker = false)
    {ps : List Placeholder} {r : Runs}
    (h : ∀ pre p post, ps = pre ++ p :: post → (pass value pre r).markers ≠ [] →
      ¬ p.text <:+: v.text) :
    pass (fun p => (value p).map v.fill) ps (r.fill v) = (pass value ps r).fill v := by
  induction ps generalizing r with
  | nil => rfl
  | cons p ps ih =>
    have hone : pass (fun p => (value p).map v.fill) [p] (r.fill v) =
        (pass value [p] r).fill v := by
      rcases hp : value p with _ | new
      · rw [pass_singleton_of_eq_none hp, pass_singleton_of_eq_none (by simp [hp])]
      · rw [pass_singleton_of_eq_some hp, pass_singleton_of_eq_some (by rw [hp]; rfl)]
        exact put_fill hv (h [] p ps rfl)
    rw [pass_cons, hone, pass_cons p ps r]
    refine ih fun pre q post hps hne => h (p :: pre) q post (by rw [hps]; rfl) ?_
    rwa [pass_cons]

/-! ### Every placeholder is found -/

/-- The runs hold these segments of the template, among whatever else has been put in. -/
inductive Holds : Runs → List Segment → Prop where
  | nil : Holds [] []
  | source {f : Fragment} {ss ts : List Segment} {r : Runs} (hf : f.isMarker = false)
    (hc : Clean ss) (ht : f.text = sourceOf ss) (h : Holds r ts) : Holds (f :: r) (ss ++ ts)
  | other {ss : List Segment} {r : Runs} (f : Fragment) (h : Holds r ss) : Holds (f :: r) ss

/-- A segment that is there can be replaced, and the others stay. What is replaced is perhaps not
the segment but a copy of it in something that has been put in. -/
lemma Holds.replaceIn? {body : Text} (hb : '}' ∉ body) {r : Runs} {ss : List Segment}
    (h : Holds r ss) (hm : .closed body ∈ ss) (new : Fragment) :
    ∃ r' ss', Runs.replaceIn? (Segment.closed body).source new r = some r' ∧ Holds r' ss' ∧
      (ss.erase (.closed body)).Sublist ss' := by
  induction h with
  | nil => simp at hm
  | @source f ss ts r hf hc ht h ih =>
    by_cases hs : Segment.closed body ∈ ss
    · obtain ⟨pre, post, rfl, hn⟩ := List.eq_append_cons_of_mem hs
      have hcut := cut?_source hc hn
      rw [← ht] at hcut
      refine ⟨_, pre ++ (post ++ ts), replaceIn?_cons_of_cut?_eq_some hf hcut new r, ?_, ?_⟩
      · exact .source hf hc.split.1 rfl (.other new (.source hf hc.split.2 rfl h))
      · rw [List.append_assoc, List.erase_append_right _ hn, List.cons_append,
          List.erase_cons_head]
    · have hcut := cut?_source_of_not_mem hb hc hs
      rw [← ht] at hcut
      obtain ⟨r', ts', hr, hh, hsub⟩ := ih ((List.mem_append.1 hm).resolve_left hs)
      refine ⟨f :: r', ss ++ ts', ?_, .source hf hc ht hh, ?_⟩
      · rw [replaceIn?_cons_of_cut?_eq_none hcut, hr, Option.map_some]
      · rw [List.erase_append_right _ hs]
        exact hsub.append_left ss
  | @other ss r f h ih =>
    obtain ⟨r', ss', hr, hh, hsub⟩ := ih hm
    rcases hf : f.isMarker
    · rcases hcut : Text.cut? (Segment.closed body).source f.text with _ | ⟨a, b⟩
      · refine ⟨f :: r', ss', ?_, .other f hh, hsub⟩
        rw [replaceIn?_cons_of_cut?_eq_none hcut, hr, Option.map_some]
      · exact ⟨_, ss, replaceIn?_cons_of_cut?_eq_some hf hcut new r,
          .other _ (.other new (.other _ h)), List.erase_sublist⟩
    · refine ⟨f :: r', ss', ?_, .other f hh, hsub⟩
      rw [Runs.replaceIn?_cons_of_isMarker hf, hr, Option.map_some]

/-- The segment that a placeholder is. -/
def segmentOf (p : Placeholder) : Segment := .closed (p.sign :: p.body)

lemma map_segmentOf_sublist (sign : Char) (ss : List Segment) :
    ((ss.filterMap (Segment.placeholder? sign)).map segmentOf).Sublist ss := by
  induction ss with
  | nil => exact .slnil
  | cons s ss ih =>
    rcases hs : s.placeholder? sign with _ | p
    · rw [List.filterMap_cons_none hs]
      exact ih.cons s
    · obtain ⟨rfl, -⟩ := Segment.placeholder?_eq_some_iff.1 hs
      rw [List.filterMap_cons_some hs]
      exact ih.cons_cons _

/-- Each of the placeholders is found in its turn. -/
lemma Holds.length_markers_pass {value : Placeholder → Option Fragment} {r : Runs}
    {ss : List Segment} {ps : List Placeholder} (h : Holds r ss)
    (hps : (ps.map segmentOf).Sublist ss) (hb : ∀ p ∈ ps, '}' ∉ p.sign :: p.body) :
    (pass value ps r).markers.length =
      r.markers.length + (Runs.markers (ps.filterMap value)).length := by
  induction ps generalizing r ss with
  | nil => rfl
  | cons p ps ih =>
    rw [List.forall_mem_cons] at hb
    rw [List.map_cons] at hps
    rw [pass_cons]
    rcases hp : value p with _ | new
    · rw [pass_singleton_of_eq_none hp, List.filterMap_cons_none hp]
      exact ih h (List.sublist_of_cons_sublist hps) hb.2
    · obtain ⟨r', ss', hr, hh, hsub⟩ :=
        h.replaceIn? hb.1 (hps.subset (List.mem_cons_self ..)) new
      have hput : put p new r = r' := by
        rw [put, text_eq_source, Runs.replaceFirst?, show
          (Segment.closed (p.sign :: p.body)).source.isEmpty = false from rfl]
        simp [hr]
      have hrest : (ps.map segmentOf).Sublist ss' := by
        have := hps.erase (segmentOf p)
        rw [List.erase_cons_head] at this
        exact this.trans hsub
      rw [pass_singleton_of_eq_some hp, hput, ih hh hrest hb.2,
        Runs.length_markers_replaceIn? hr, List.filterMap_cons_some hp, Runs.markers_cons new [],
        Runs.markers_cons new (ps.filterMap value)]
      simp only [List.length_append, Runs.markers_nil, List.length_nil]
      omega

/-! ### The skeleton -/

/-- The fields with the text of `x` set to `v`. -/
def assign (x v : Text) (fields : List Field) : List Field :=
  fields.map fun f => if f.name = x then { f with text := v } else f

section Skeleton

variable {template x v : Text} {fields : List Field}

lemma named?_assign (name : Text) :
    Field.named? (assign x v fields) name =
      (Field.named? fields name).map fun f => if f.name = x then { f with text := v } else f := by
  rw [Field.named?, assign, List.find?_map, Field.named?]
  congr 2
  funext f
  by_cases hf : f.name = x <;> simp [hf]

lemma referenced_assign_self {f : Field} (hf : Field.named? fields x = some f) :
    referenced (assign x v fields) x = .styled v f.bold f.italic := by
  have hx : f.name = x := by simpa using List.find?_some hf
  rw [referenced, named?_assign, hf, Option.map_some, if_pos hx]

lemma referenced_assign_of_ne {name : Text} (hne : name ≠ x) :
    referenced (assign x v fields) name = referenced fields name := by
  rw [referenced, referenced, named?_assign]
  rcases hf : Field.named? fields name with _ | f
  · rfl
  · have hname : f.name = name := by simpa using List.find?_some hf
    rw [Option.map_some, if_neg (by rwa [hname])]

/-- A conditional sees that the field is not empty, and nothing else of its text. -/
lemma decided?_assign {w : Text} (hv : v ≠ []) (hw : w ≠ []) (p : Placeholder) :
    decided? (assign x v fields) p = decided? (assign x w fields) p := by
  let g (f : Field) : Field := if f.name = x then { f with text := v } else f
  have hname (f : Field) : (g f).name = f.name := by
    by_cases hf : f.name = x <;> simp [g, hf]
  have hassign : assign x v fields = (assign x w fields).map g := by
    rw [assign, assign, List.map_map]
    refine List.map_congr_left fun f _ => ?_
    by_cases hf : f.name = x <;> simp [g, hf]
  have hfilled : ∀ f ∈ assign x w fields, (g f).isFilled = f.isFilled := by
    intro f hf
    obtain ⟨f, -, rfl⟩ := List.mem_map.1 hf
    have hv' : v.isEmpty = false := by simpa using hv
    have hw' : w.isEmpty = false := by simpa using hw
    by_cases hf : f.name = x <;> simp [g, hf, Field.isFilled, hv', hw']
  rw [hassign, decided?, decided?]
  congr 1
  funext c
  rw [output, output, Condition.holds, Condition.holds, Condition.substitute_map hname hfilled]

/-- What is put in the place of a placeholder, with a hole for the text of `x`. -/
def hollow (x : Text) (fields : List Field) (p : Placeholder) : Option Fragment :=
  if p = ⟨'@', x⟩ then some (.footnote 0) else valueOf (assign x ['_'] fields) p

lemma valueOf_assign {f : Field} (hf : Field.named? fields x = some f) (hv : v ≠ [])
    (p : Placeholder) :
    valueOf (assign x v fields) p =
      (hollow x fields p).map (Fragment.fill (.styled v f.bold f.italic)) := by
  rw [hollow]
  split
  · next hp =>
    subst hp
    rw [valueOf, if_pos rfl, referenceValue, referenced_assign_self hf]
    rfl
  · next hp =>
    have hsame : valueOf (assign x v fields) p = valueOf (assign x ['_'] fields) p := by
      rw [valueOf, valueOf]
      split
      · next hs =>
        have hne : p.body ≠ x := fun hb => hp (by rw [← hs, ← hb])
        rw [referenceValue, referenceValue, referenced_assign_of_ne hne,
          referenced_assign_of_ne hne]
      · exact decided?_assign hv (by simp) p
    rw [hsame]
    rcases hval : valueOf (assign x ['_'] fields) p with _ | new
    · rfl
    · have hm : new.isMarker = false := by simp [Fragment.isMarker, marker_of_valueOf hval]
      rw [Option.map_some, Fragment.fill_of_not_isMarker hm]

lemma marker_of_hollow {p : Placeholder} (hp : p ≠ ⟨'@', x⟩) {new : Fragment}
    (h : hollow x fields p = some new) : new.marker = none := by
  rw [hollow, if_neg hp] at h
  exact marker_of_valueOf h

lemma length_markers_hollow (ps : List Placeholder) :
    (Runs.markers (ps.filterMap (hollow x fields))).length = ps.count ⟨'@', x⟩ := by
  induction ps with
  | nil => rfl
  | cons p ps ih =>
    by_cases hp : p = ⟨'@', x⟩
    · have hval : hollow x fields p = some (.footnote 0) := if_pos hp
      rw [List.filterMap_cons_some hval, Runs.markers_cons, hp, List.count_cons_self, ← ih]
      simp [Fragment.footnote, Nat.add_comm]
    · rw [List.count_cons_of_ne hp]
      rcases hval : hollow x fields p with _ | new
      · rw [List.filterMap_cons_none hval, ih]
      · rw [List.filterMap_cons_some hval, Runs.markers_cons, marker_of_hollow hp hval]
        exact ih

/-- The expansion with the value of `x` left open. -/
def hollowed (template x : Text) (fields : List Field) : Runs :=
  pass (hollow x fields) (resolved template) [.plain template]

/-- The placeholders that are resolved once the first reference to `x` has been. -/
def resolvedAfter (template x : Text) : List Placeholder :=
  ((resolved template).dropWhile (· != ⟨'@', x⟩)).tail

lemma mem_resolvedAfter {pre post : List Placeholder} {p : Placeholder}
    (h : resolved template = pre ++ p :: post) (hx : ⟨'@', x⟩ ∈ pre) :
    p ∈ resolvedAfter template x := by
  obtain ⟨as, bs, rfl, hn⟩ := List.eq_append_cons_of_mem hx
  have has : ∀ q ∈ as, (q != (⟨'@', x⟩ : Placeholder)) = true := by
    intro q hq
    simpa using fun he : q = ⟨'@', x⟩ => hn (he ▸ hq)
  rw [resolvedAfter, h, List.append_assoc, List.dropWhile_append_of_pos has]
  simp

lemma length_markers_hollowed (hc : fault? template = none) :
    (hollowed template x fields).markers.length = (references template).count ⟨'@', x⟩ := by
  have hclean := clean_segments hc
  have hsource := sourceOf_segments template
  have hstart : Holds [.plain template] (segments template ++ []) :=
    .source rfl hclean hsource.symm .nil
  rw [List.append_nil] at hstart
  have hconditionals : ∀ p ∈ (conditionals template).filter fun p => p.body.contains ':',
      ∀ new, hollow x fields p = some new → new.marker = none := by
    intro p hp new hnew
    have hsign := sign_of_mem_placeholders (List.mem_filter.1 hp).1
    exact marker_of_hollow (fun he => by rw [he] at hsign; simp at hsign) hnew
  rw [hollowed, resolved, pass_append, markers_pass hconditionals, hstart.length_markers_pass]
  · rw [length_markers_hollow]
    exact Nat.zero_add _
  · rw [references, placeholders_eq (by decide) hc]
    exact map_segmentOf_sublist '@' _
  · intro p hp
    obtain ⟨hs, -⟩ := closed_mem_of_mem_placeholders (by decide) hc hp
    exact (hclean.braceless hs).not_close

/-- The expansion with a value in every hole. -/
lemma expand_assign {f : Field} (hf : Field.named? fields x = some f) (hv : v ≠ [])
    (hafter : ∀ p ∈ resolvedAfter template x, ¬ p.text <:+: v) :
    expand template (assign x v fields) =
      (hollowed template x fields).fill (.styled v f.bold f.italic) := by
  have hvalue := funext (valueOf_assign hf hv)
  rw [expand_eq_pass, hvalue, hollowed]
  refine pass_fill (r := [.plain template]) rfl fun pre p post hps hmarkers => ?_
  have hx : ⟨'@', x⟩ ∈ pre := by
    by_contra hx
    refine hmarkers ((markers_pass (fun q hq new hnew => ?_) _).trans rfl)
    exact marker_of_hollow (fun he => hx (he ▸ hq)) hnew
  exact hafter p (mem_resolvedAfter hps hx)

/-- **The text of a field is data**, up to placeholders that it holds itself: for every value that
holds none of those that are resolved after the first reference to the field, the text of the
expansion is one and the same skeleton with the value in each hole, one hole for each reference. -/
theorem exists_skeleton (hc : fault? template = none) (hx : ∃ f ∈ fields, f.name = x) :
    ∃ skeleton : List Text,
      skeleton.length = (references template).count ⟨'@', x⟩ + 1 ∧
      ∀ v : Text, v ≠ [] → (∀ p ∈ resolvedAfter template x, ¬ p.text <:+: v) →
        (expand template (assign x v fields)).text = Text.join v skeleton := by
  obtain ⟨f, hf⟩ : ∃ f, Field.named? fields x = some f := by
    obtain ⟨f, hmem, hname⟩ := hx
    exact Option.isSome_iff_exists.1 (List.find?_isSome.2 ⟨f, hmem, by simp [hname]⟩)
  refine ⟨(hollowed template x fields).pieces, ?_, fun v hv hafter => ?_⟩
  · rw [Runs.length_pieces, length_markers_hollowed hc]
  · rw [expand_assign hf hv hafter, Runs.text_fill]
    rfl

/-- Two references around a conditional, and another field that brings in a reference itself. -/
def nestedTemplate : Text := "\x7b@y\x7d\x7b@x\x7d, \x7b?x:in \x7d\x7b@x\x7d".toList

def nestedFields : List Field :=
  [⟨['x'], [], true, false⟩, ⟨['y'], "\x7b@x\x7d".toList, false, false⟩]

theorem exists_skeleton_nested :
    fault? nestedTemplate = none ∧ (∃ f ∈ nestedFields, f.name = ['x']) ∧
    (∀ p ∈ resolvedAfter nestedTemplate ['x'], ¬ p.text <:+: "\x7b@y\x7d?\x7bx".toList) ∧
    ∃ skeleton : List Text, skeleton.length = 3 ∧
      (expand nestedTemplate (assign ['x'] "\x7b@y\x7d?\x7bx".toList nestedFields)).text =
        Text.join "\x7b@y\x7d?\x7bx".toList skeleton := by
  have hc : fault? nestedTemplate = none := by decide
  have hx : ∃ f ∈ nestedFields, f.name = ['x'] := by decide
  have hcut : ∀ p ∈ resolvedAfter nestedTemplate ['x'],
      Text.cut? p.text "\x7b@y\x7d?\x7bx".toList = none := by decide
  have hafter : ∀ p ∈ resolvedAfter nestedTemplate ['x'],
      ¬ p.text <:+: "\x7b@y\x7d?\x7bx".toList :=
    fun p hp => Text.cut?_eq_none_iff.1 (hcut p hp)
  have hcount : (references nestedTemplate).count ⟨'@', ['x']⟩ = 2 := by decide
  obtain ⟨skeleton, hlen, h⟩ := exists_skeleton hc hx
  rw [hcount] at hlen
  exact ⟨hc, hx, hafter, skeleton, hlen, h _ (by decide) hafter⟩

/-- A value that is also a conditional of the template is replaced in the place of it. -/
theorem not_exists_skeleton_of_conditional :
    fault? "\x7b@x\x7d\x7b?x:out\x7d".toList = none ∧ FieldName.fault? ['x'] = none ∧
    ¬ ∃ skeleton : List Text,
      skeleton.length = (references "\x7b@x\x7d\x7b?x:out\x7d".toList).count ⟨'@', ['x']⟩ + 1 ∧
      ∀ v : Text, v ≠ [] →
        (expand "\x7b@x\x7d\x7b?x:out\x7d".toList [⟨['x'], v, false, false⟩]).text =
          Text.join v skeleton := by
  refine ⟨by decide, by decide, ?_⟩
  rintro ⟨skeleton, hlen, h⟩
  obtain ⟨a, b, rfl⟩ : ∃ a b, skeleton = [a, b] := List.length_eq_two.1 hlen
  have hone : ['1', 'o', 'u', 't'] = a ++ ['1'] ++ b := h ['1'] (by decide)
  have hconditional : 'o' :: "ut\x7b?x:out\x7d".toList = a ++ '{' :: "?x:out\x7d".toList ++ b :=
    h "\x7b?x:out\x7d".toList (by decide)
  rcases a with _ | ⟨c, a⟩
  · -- the first hole is at the start, and the text does not start with the value
    exact absurd (List.cons.inj hconditional).1 (by decide)
  · have hmem : '1' ∈ ['o', 'u', 't'] := by
      rw [(List.cons.inj hone).2]
      simp
    exact absurd hmem (by decide)

end Skeleton

end CitationNotes.Template
