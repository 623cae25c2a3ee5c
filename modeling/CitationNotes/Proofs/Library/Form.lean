import Mathlib.Data.List.Nodup
import CitationNotes.Proofs.Library.Reload

/-!
Forms filled in.

A text goes to the first input of its name, and loading does not ask whether a name is taken. Texts
that are entered and cleared change nothing else in a source, so which inputs a text can go to is
settled by the draft: each of them if the names are distinct, and if not, none whose name stands
further up. Those keep the empty text that they are loaded with.
-/

namespace CitationNotes

/-- What is done to a form. -/
inductive FormEdit where
  | set (name text : Text)
  | clear

namespace Source

def names (s : Source) : List Text := s.inputs.map Input.name

/-- The source with the text of the input at a place set. -/
def setAt (s : Source) (k : Nat) (text : Text) : Source :=
  { s with inputs := s.inputs.modify k (·.setText text) }

/-- Nothing is done where no input has the name. -/
def edit (s : Source) : FormEdit → Source
  | .set name text => (s.setField? name text).getD s
  | .clear => s.clearForm

def edits (s : Source) (es : List FormEdit) : Source := es.foldl edit s

/-- An input further up has the name of this one. -/
def Shadowed (s : Source) (k : Nat) : Prop :=
  ∃ j < k, ∃ name, s.names[j]? = some name ∧ s.names[k]? = some name

/-- Any text can be entered by the name of the input, and goes nowhere else. -/
def Fills (s : Source) (k : Nat) : Prop :=
  ∀ i, s.inputs[k]? = some i → ∀ text, s.setField? i.name text = some (s.setAt k text)

variable {s : Source} {j k : Nat} {name : Text} {i : Input}

lemma getElem?_names (h : s.inputs[k]? = some i) : s.names[k]? = some i.name := by
  rw [names, List.getElem?_map, h]
  rfl

lemma exists_of_getElem?_names (h : s.names[k]? = some name) :
    ∃ i, s.inputs[k]? = some i ∧ i.name = name := by
  rwa [names, List.getElem?_map, Option.map_eq_some_iff] at h

lemma nodup_names_iff : s.names.Nodup ↔ ∀ k, ¬ s.Shadowed k := by
  rw [List.nodup_iff_getElem?_ne_getElem?]
  constructor
  · rintro h k ⟨j, hjk, name, hj, hk⟩
    exact h j k hjk (List.getElem?_eq_some_iff.1 hk).1 (hj.trans hk.symm)
  · intro h j k hjk hk heq
    have hname := List.getElem?_eq_getElem hk
    exact h k ⟨j, hjk, _, heq.trans hname, hname⟩

/-! ### Where a text goes -/

lemma setInput?_eq (name text : Text) (is : List Input) :
    setInput? name text is =
      ((is.map Input.name).idxOf? name).map fun k => is.modify k (·.setText text) := by
  induction is with
  | nil => rfl
  | cons i is ih =>
    rw [setInput?, List.map_cons, List.idxOf?_cons, ih]
    by_cases h : i.name = name
    · rw [if_pos h, if_pos (beq_iff_eq.2 h)]
      rfl
    · rw [if_neg h, if_neg (by simpa using h), Option.map_map, Option.map_map]
      rfl

lemma setField?_eq (s : Source) (name text : Text) :
    s.setField? name text = (s.names.idxOf? name).map (s.setAt · text) := by
  rw [setField?, setInput?_eq, Option.map_map]
  rfl

/-- The first place of a name is the one that is not shadowed. -/
lemma idxOf?_names_eq_some :
    s.names.idxOf? name = some k ↔ s.names[k]? = some name ∧ ¬ s.Shadowed k := by
  rw [List.idxOf?_eq_some_iff]
  constructor
  · rintro ⟨hk, rfl, hfirst⟩
    refine ⟨List.getElem?_eq_getElem hk, ?_⟩
    rintro ⟨j, hjk, name, hj, hname⟩
    obtain ⟨_, rfl⟩ := List.getElem?_eq_some_iff.1 hname
    obtain ⟨_, hj⟩ := List.getElem?_eq_some_iff.1 hj
    exact hfirst j hjk hj
  · rintro ⟨hname, hk⟩
    obtain ⟨hlt, rfl⟩ := List.getElem?_eq_some_iff.1 hname
    refine ⟨hlt, rfl, fun j hjk hj => hk ⟨j, hjk, s.names[k], ?_, hname⟩⟩
    exact List.getElem?_eq_some_iff.2 ⟨Nat.lt_trans hjk hlt, hj⟩

/-- A text goes to one input of its name, which is not behind any other. -/
lemma exists_setField?_eq (h : s.names[k]? = some name) :
    ∃ j ≤ k, s.names[j]? = some name ∧ ¬ s.Shadowed j ∧
      ∀ text, s.setField? name text = some (s.setAt j text) := by
  obtain ⟨j, hj⟩ := Option.isSome_iff_exists.1 (List.isSome_idxOf?.2 (List.mem_of_getElem? h))
  obtain ⟨hname, hfirst⟩ := idxOf?_names_eq_some.1 hj
  refine ⟨j, ?_, hname, hfirst, fun text => by rw [setField?_eq, hj]; rfl⟩
  by_contra hlt
  exact hfirst ⟨k, by omega, name, h, hname⟩

lemma getElem?_setAt (s : Source) (j k : Nat) (text : Text) :
    (s.setAt j text).inputs[k]? =
      (s.inputs[k]?).map fun i => if j = k then i.setText text else i :=
  List.getElem?_modify ..

/-- A new text shows where it was set. -/
lemma eq_of_setAt_eq {text : Text} (hi : s.inputs[k]? = some i) (hnew : i.text ≠ text)
    (h : s.setAt j text = s.setAt k text) : j = k := by
  by_contra hjk
  have hk : (s.setAt j text).inputs[k]? = (s.setAt k text).inputs[k]? := by rw [h]
  rw [getElem?_setAt, getElem?_setAt, hi, Option.map_some, Option.map_some, if_neg hjk, if_pos rfl,
    Option.some_inj] at hk
  exact hnew (congrArg Input.text hk)

lemma fills_iff : s.Fills k ↔ ¬ s.Shadowed k := by
  constructor
  · rintro h ⟨j, hjk, name, hj, hname⟩
    obtain ⟨i, hi, rfl⟩ := exists_of_getElem?_names hname
    obtain ⟨first, -, -, hfirst, hset⟩ := exists_setField?_eq hname
    have hnew : i.text ≠ 'x' :: i.text := (List.cons_ne_self _ _).symm
    have heq := Option.some_inj.1 ((hset _).symm.trans (h i hi ('x' :: i.text)))
    exact hfirst (eq_of_setAt_eq hi hnew heq ▸ ⟨j, hjk, i.name, hj, hname⟩)
  · intro h i hi text
    rw [setField?_eq, idxOf?_names_eq_some.2 ⟨getElem?_names hi, h⟩]
    rfl

/-! ### Editing -/

/-- An edit does nothing, sets the text of an input that is not shadowed, or takes all texts
away. -/
lemma edit_cases (s : Source) (e : FormEdit) :
    s.edit e = s ∨ (∃ k text, ¬ s.Shadowed k ∧ s.edit e = s.setAt k text) ∨
    s.edit e = s.clearForm := by
  rcases e with ⟨name, text⟩ | _
  · rw [edit, setField?_eq]
    rcases hk : s.names.idxOf? name with _ | k
    · exact .inl rfl
    · exact .inr (.inl ⟨k, text, (idxOf?_names_eq_some.1 hk).2, rfl⟩)
  · exact .inr (.inr rfl)

lemma clearForm_setAt (s : Source) (k : Nat) (text : Text) :
    (s.setAt k text).clearForm = s.clearForm := by
  refine congrArg (Source.mk s.title s.bibliography s.footnote) (List.ext_getElem? fun n => ?_)
  rw [List.getElem?_map, getElem?_setAt, List.getElem?_map, Option.map_map]
  refine Option.map_congr fun i _ => ?_
  dsimp only [Function.comp_apply]
  split <;> rfl

lemma clearForm_clearForm (s : Source) : s.clearForm.clearForm = s.clearForm := by
  rw [clearForm, clearForm, List.map_map]
  rfl

lemma clearForm_edit (s : Source) (e : FormEdit) : (s.edit e).clearForm = s.clearForm := by
  obtain h | ⟨k, text, -, h⟩ | h := s.edit_cases e
  · rw [h]
  · rw [h, clearForm_setAt]
  · rw [h, clearForm_clearForm]

lemma clearForm_edits (s : Source) (es : List FormEdit) : (s.edits es).clearForm = s.clearForm := by
  induction es generalizing s with
  | nil => rfl
  | cons e es ih => exact (ih (s.edit e)).trans (s.clearForm_edit e)

lemma names_clearForm (s : Source) : s.clearForm.names = s.names := List.map_map

lemma names_edits (s : Source) (es : List FormEdit) : (s.edits es).names = s.names := by
  rw [← names_clearForm, clearForm_edits, names_clearForm]

lemma shadowed_congr {s' : Source} (h : s'.names = s.names) : s'.Shadowed k ↔ s.Shadowed k := by
  rw [Shadowed, Shadowed, h]

/-- No edit reaches an input that is shadowed and empty. -/
lemma getElem?_edit (hk : s.Shadowed k) (hi : s.inputs[k]? = some i) (htext : i.text = [])
    (e : FormEdit) : (s.edit e).inputs[k]? = some i := by
  obtain h | ⟨j, text, hj, h⟩ | h := s.edit_cases e
  · rw [h, hi]
  · have hjk : j ≠ k := fun heq => hj (heq ▸ hk)
    rw [h, getElem?_setAt, hi, Option.map_some, if_neg hjk]
  · rw [h, clearForm, List.getElem?_map, hi, Option.map_some, Input.clear, Input.setText, ← htext]

lemma getElem?_edits (hk : s.Shadowed k) (hi : s.inputs[k]? = some i) (htext : i.text = [])
    (es : List FormEdit) : (s.edits es).inputs[k]? = some i := by
  induction es generalizing s with
  | nil => exact hi
  | cons e es ih =>
    exact ih ((shadowed_congr (s.names_edits [e])).2 hk) (getElem?_edit hk hi htext e)

lemma Sound.clearForm_eq (h : s.Sound) : s.clearForm = s := by
  refine congrArg (Source.mk s.title s.bibliography s.footnote) ?_
  refine (List.map_congr_left fun i hi => ?_).trans (List.map_id s.inputs)
  rw [Input.clear, Input.setText, ← (h.inputs i hi).text]
  rfl

end Source

/-- Loading neither adds a name nor takes one out, whether or not it is there already. -/
lemma SourceDraft.names_source (d : SourceDraft) :
    d.source.names.map some = (d.inputs.filter InputDraft.isUsable).map InputDraft.name := by
  rw [Source.names, source, List.map_map, List.map_map]
  refine List.map_congr_left fun x hx => ?_
  obtain ⟨-, name, -, hname, -⟩ := InputDraft.isUsable_iff.1 (List.mem_filter.1 hx).2
  simp only [Function.comp_apply, InputDraft.input, hname, Option.getD_some]

namespace LibraryDraft

lemma sources_library (d : LibraryDraft) :
    d.library.sources = d.usableSources.map SourceDraft.source := by
  rw [library, Library.sources, usableSources, List.flatMap_map, List.map_flatMap]
  rfl

/-- **What can be filled in**: whatever was entered and cleared in a form, it is cleared to the
source that was loaded. A text entered by a name goes to the first input of that name alone, and an
input with the name of one further up stays as empty as it was loaded. So each input can be filled
exactly if the names are distinct, and they are those of the usable inputs of the draft. -/
theorem edits_fills_iff {d : LibraryDraft} {s : Source} (hs : s ∈ d.load.1.sources)
    (es : List FormEdit) :
    (s.edits es).clearForm = s ∧
    (∀ k name, s.names[k]? = some name →
      ∃ j ≤ k, s.names[j]? = some name ∧ ¬ s.Shadowed j ∧
        ∀ text, (s.edits es).setField? name text = some ((s.edits es).setAt j text)) ∧
    (∀ k, s.Shadowed k → (s.edits es).inputs[k]? = s.inputs[k]?) ∧
    (∀ k, (s.edits es).Fills k ↔ ¬ s.Shadowed k) ∧
    ((∀ k, (s.edits es).Fills k) ↔ s.names.Nodup) ∧
    ∃ x ∈ d.usableSources, s = x.source ∧
      s.names.map some = (x.inputs.filter InputDraft.isUsable).map InputDraft.name := by
  rw [fst_load] at hs
  have hsound : s.Sound := d.sound_library.sources s hs
  have hnames := s.names_edits es
  have hfills : ∀ k, (s.edits es).Fills k ↔ ¬ s.Shadowed k := fun k =>
    Source.fills_iff.trans (not_congr (Source.shadowed_congr hnames))
  refine ⟨(s.clearForm_edits es).trans hsound.clearForm_eq, fun k name hk => ?_, fun k hk => ?_,
    hfills, (forall_congr' hfills).trans Source.nodup_names_iff.symm, ?_⟩
  · rw [← hnames] at hk ⊢
    obtain ⟨j, hjk, hj, hfirst, hset⟩ := Source.exists_setField?_eq hk
    exact ⟨j, hjk, hj, mt (Source.shadowed_congr hnames).2 hfirst, hset⟩
  · have ⟨_, _, _, _, hname⟩ := hk
    obtain ⟨i, hi, -⟩ := Source.exists_of_getElem?_names hname
    rw [hi]
    exact Source.getElem?_edits hk hi (hsound.inputs i (List.mem_of_getElem? hi)).text es
  · rw [sources_library, List.mem_map] at hs
    obtain ⟨x, hx, rfl⟩ := hs
    exact ⟨x, hx, rfl, x.names_source⟩

/-- A library whose only form has two inputs of one name. -/
def twins : LibraryDraft :=
  ⟨none, [⟨some ['c'], [⟨some ['s'], some ['{', '@', 'a', '}'], some ['{', '@', 'a', '}'],
    [⟨.text, some ['a'], some ['A'], false, false⟩,
      ⟨.text, some ['a'], some ['B'], false, false⟩]⟩]⟩]⟩

/-- The form that `twins` has. -/
def twinForm : Source :=
  ⟨['s'], ['{', '@', 'a', '}'], ['{', '@', 'a', '}'],
    [⟨.text, ['a'], ['A'], [], false, false⟩, ⟨.text, ['a'], ['B'], [], false, false⟩]⟩

/-- The first input is filled, emptied and filled again, and the second is never reached. -/
theorem edits_fills_iff_twins :
    let s := twinForm.edits [.set ['a'] ['x'], .clear, .set ['b'] ['z'], .set ['a'] ['y']]
    twinForm ∈ twins.load.1.sources ∧ s.inputs.map Input.text = [['y'], []] ∧
    s.clearForm = twinForm ∧ s.Fills 0 ∧ ¬ s.Fills 1 ∧ s.inputs[1]? = twinForm.inputs[1]? := by
  have hmem : twinForm ∈ twins.load.1.sources := by decide
  have hshadowed : twinForm.Shadowed 1 := ⟨0, by decide, ['a'], rfl, rfl⟩
  have hfirst : ¬ twinForm.Shadowed 0 := fun ⟨j, hj, _⟩ => Nat.not_lt_zero j hj
  obtain ⟨hclear, -, hkept, hfills, -⟩ :=
    edits_fills_iff hmem [.set ['a'] ['x'], .clear, .set ['b'] ['z'], .set ['a'] ['y']]
  exact ⟨hmem, by decide, hclear, (hfills 0).2 hfirst, fun h => (hfills 1).1 h hshadowed,
    hkept 1 hshadowed⟩

/-- Nothing is said against the library. A text for the second input is taken, and is found in the
first. -/
theorem not_fills_of_twins :
    twins.report.isClean = true ∧ twins.load.1.sources = [twinForm] ∧
    twinForm.inputs[1]?.map Input.name = some ['a'] ∧
    twinForm.setField? ['a'] ['x'] = some (twinForm.setAt 0 ['x']) ∧
    (twinForm.setAt 0 ['x']).inputs.map Input.text = [['x'], []] ∧
    ¬ twinForm.Fills 1 ∧ ¬ twinForm.names.Nodup :=
  ⟨by decide, by decide, rfl, by decide, rfl,
    fun h => absurd (h _ rfl ['x']) (by decide), by decide⟩

end LibraryDraft

end CitationNotes
