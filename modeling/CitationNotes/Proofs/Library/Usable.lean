import Mathlib.Tactic.Lemma
import CitationNotes.Library.Load

/-!
What a library has of its draft.

Whether an entry can be used depends on the entry alone, not on where it stands or what stands
beside it: an input needs a title and a name that is accepted, a source a title, two templates that
pass their check and a usable input, and a category a title and a usable source. The library has
the usable entries in their order, and the report one record on each of the others that is read.
-/

namespace CitationNotes

/-! ### What is reported -/

namespace Report

@[simp] lemma skipped_nil : (ofRemarks []).skipped = [] := rfl
@[simp] lemma skipped_append (rs ss : List Remark) :
    (ofRemarks (rs ++ ss)).skipped = (ofRemarks rs).skipped ++ (ofRemarks ss).skipped :=
  List.filterMap_append
@[simp] lemma skipped_cons_skipped (e : Skip) (rs : List Remark) :
    (ofRemarks (.skipped e :: rs)).skipped = e :: (ofRemarks rs).skipped := rfl
@[simp] lemma skipped_cons_reading (c : Text) (rs : List Remark) :
    (ofRemarks (.reading c :: rs)).skipped = (ofRemarks rs).skipped := rfl
@[simp] lemma skipped_cons_loaded (s : Text) (n : Nat) (rs : List Remark) :
    (ofRemarks (.loaded s n :: rs)).skipped = (ofRemarks rs).skipped := rfl

@[simp] lemma warnings_nil : (ofRemarks []).warnings = [] := rfl
@[simp] lemma warnings_append (rs ss : List Remark) :
    (ofRemarks (rs ++ ss)).warnings = (ofRemarks rs).warnings ++ (ofRemarks ss).warnings :=
  List.filterMap_append
@[simp] lemma warnings_cons_skipped (e : Skip) (rs : List Remark) :
    (ofRemarks (.skipped e :: rs)).warnings = (ofRemarks rs).warnings := rfl
@[simp] lemma warnings_cons_reading (c : Text) (rs : List Remark) :
    (ofRemarks (.reading c :: rs)).warnings = (ofRemarks rs).warnings := rfl
@[simp] lemma warnings_cons_loaded (s : Text) (n : Nat) (rs : List Remark) :
    (ofRemarks (.loaded s n :: rs)).warnings = (ofRemarks rs).warnings := rfl

@[simp] lemma skipped_map_suspicious (s : Text) (role : TemplateRole)
    (ws : List Template.Warning) :
    (ofRemarks (ws.map (.suspicious s role))).skipped = [] := by
  induction ws with
  | nil => rfl
  | cons w ws ih => exact ih

@[simp] lemma warnings_map_suspicious (s : Text) (role : TemplateRole)
    (ws : List Template.Warning) :
    (ofRemarks (ws.map (.suspicious s role))).warnings = ws.map (s, ·) := by
  induction ws with
  | nil => rfl
  | cons w ws ih => exact congrArg ((s, w) :: ·) ih

lemma skipped_flatMap {α : Type} (f : α → List Remark) (xs : List α) :
    (ofRemarks (xs.flatMap f)).skipped = xs.flatMap fun x => (ofRemarks (f x)).skipped := by
  induction xs with
  | nil => rfl
  | cons x xs ih => rw [List.flatMap_cons, skipped_append, ih, List.flatMap_cons]

end Report

/-! ### Inputs -/

namespace InputDraft

def isUsable (d : InputDraft) : Bool :=
  d.title.isSome && d.name.any fun n => (FieldName.fault? n).isNone

/-- The input with what the draft has; of use where the draft is usable. -/
def input (d : InputDraft) : Input :=
  ⟨d.kind, d.name.getD [], d.title.getD [], [], d.bold, d.italic⟩

/-- What can be said against an input of a source with the title. -/
inductive Blames (source : Text) (d : InputDraft) : Skip → Prop where
  | untitled (ht : d.title = none) : Blames source d (.untitledInput source)
  | unnamed {title : Text} (ht : d.title = some title) (hn : d.name = none) :
    Blames source d (.unnamedInput title)
  | invalidName {title name : Text} {e : FieldName.Fault} (ht : d.title = some title)
    (hn : d.name = some name) (he : FieldName.fault? name = some e) :
    Blames source d (.invalidName title e)

lemma load_cases (source : Text) (d : InputDraft) :
    (d.isUsable = true ∧ d.load source = .ok d.input) ∨
    (d.isUsable = false ∧ ∃ e, d.load source = .error e ∧ d.Blames source e) := by
  rcases ht : d.title with _ | title
  · exact .inr ⟨by simp [isUsable, ht], _, by rw [load, ht], .untitled ht⟩
  rcases hn : d.name with _ | name
  · exact .inr ⟨by simp [isUsable, hn], _, by rw [load, ht, hn], .unnamed ht hn⟩
  rcases he : FieldName.fault? name with _ | e
  · exact .inl ⟨by simp [isUsable, ht, hn, he], by simp only [load, ht, hn, he, input]; rfl⟩
  · exact .inr ⟨by simp [isUsable, hn, he], _, by simp only [load, ht, hn, he],
      .invalidName ht hn he⟩

lemma fst_loadAll (source : Text) (ds : List InputDraft) :
    (loadAll source ds).1 = (ds.filter isUsable).map input := by
  induction ds with
  | nil => rfl
  | cons d ds ih =>
    obtain ⟨hd, hload⟩ | ⟨hd, e, hload, -⟩ := load_cases source d
    · rw [loadAll, hload, List.filter_cons_of_pos hd, List.map_cons, ← ih]
    · rw [loadAll, hload, List.filter_cons_of_neg (by simp [hd]), ← ih]

/-- The record on an input, if there is one. -/
def skips (source : Text) (d : InputDraft) : List Skip :=
  match d.load source with
  | .ok _ => []
  | .error e => [e]

lemma skipped_loadAll (source : Text) (ds : List InputDraft) (n : Nat) :
    (Report.ofRemarks (loadAll source ds).2).skipped =
      (ds.zipIdx n).flatMap fun p => p.1.skips source := by
  induction ds generalizing n with
  | nil => rfl
  | cons d ds ih =>
    rw [List.zipIdx_cons, List.flatMap_cons, ← ih, skips, loadAll]
    cases d.load source <;> rfl

lemma warnings_loadAll (source : Text) (ds : List InputDraft) :
    (Report.ofRemarks (loadAll source ds).2).warnings = [] := by
  induction ds with
  | nil => rfl
  | cons d ds ih =>
    obtain ⟨-, hload⟩ | ⟨-, e, hload, -⟩ := load_cases source d <;> rw [loadAll, hload] <;> exact ih

end InputDraft

/-! ### Sources -/

namespace Template

/-- Whether there is a template and it passes its check. -/
def passes (template : Option Text) : Bool := template.any fun t => (fault? t).isNone

end Template

namespace SourceDraft

def template (d : SourceDraft) : TemplateRole → Option Text
  | .bibliography => d.bibliography
  | .footnote => d.footnote

/-- Whether the source has a title and both templates, so that its inputs are read. -/
def isFormed (d : SourceDraft) : Bool :=
  d.title.isSome && Template.passes d.bibliography && Template.passes d.footnote

def isUsable (d : SourceDraft) : Bool := d.isFormed && d.inputs.any InputDraft.isUsable

def source (d : SourceDraft) : Source :=
  ⟨d.title.getD [], d.bibliography.getD [], d.footnote.getD [],
    (d.inputs.filter InputDraft.isUsable).map InputDraft.input⟩

/-- What can be said against a source with the number, in a category with the title. Nothing is
said of the footnote template while there is something to say of the other. -/
inductive Blames (category : Text) (number : Nat) (d : SourceDraft) : Skip → Prop where
  | untitled (ht : d.title = none) : Blames category number d (.untitledSource number category)
  | missingTemplate {title : Text} {role : TemplateRole} (ht : d.title = some title)
    (hfirst : role = .footnote → Template.passes d.bibliography = true)
    (hnone : d.template role = none) : Blames category number d (.missingTemplate title role)
  | invalidTemplate {title t : Text} {role : TemplateRole} {e : Template.Fault}
    (ht : d.title = some title)
    (hfirst : role = .footnote → Template.passes d.bibliography = true)
    (hsome : d.template role = some t) (he : Template.fault? t = some e) :
    Blames category number d (.invalidTemplate title role e)
  | noInputs {title : Text} (ht : d.title = some title) (hformed : d.isFormed = true)
    (hnone : ∀ i ∈ d.inputs, i.isUsable = false) : Blames category number d (.noInputs title)

/-- The warnings on the templates of a source, as far as these are read. -/
def lints (d : SourceDraft) : List (Text × Template.Warning) :=
  let warnings (t : Option Text) := (Template.lint (t.getD [])).map (d.title.getD [], ·)
  if d.title.isSome && Template.passes d.bibliography then
    warnings d.bibliography ++ if Template.passes d.footnote then warnings d.footnote else []
  else []

lemma loadTemplate_cases (category : Text) (number : Nat) (role : TemplateRole) {title : Text}
    {d : SourceDraft} (ht : d.title = some title)
    (hfirst : role = .footnote → Template.passes d.bibliography = true) :
    (Template.passes (d.template role) = true ∧
      loadTemplate title role (d.template role) =
        .ok ((d.template role).getD [],
          (Template.lint ((d.template role).getD [])).map (.suspicious title role))) ∨
    (Template.passes (d.template role) = false ∧
      ∃ e, loadTemplate title role (d.template role) = .error e ∧ d.Blames category number e) := by
  rcases hsome : d.template role with _ | t
  · exact .inr ⟨rfl, _, rfl, .missingTemplate ht hfirst hsome⟩
  rcases he : Template.fault? t with _ | e
  · refine .inl ⟨by simp [Template.passes, he], ?_⟩
    simp only [loadTemplate, he, Option.getD_some]
  · refine .inr ⟨by simp [Template.passes, he], .invalidTemplate title role e, ?_,
      .invalidTemplate ht hfirst hsome he⟩
    simp only [loadTemplate, he]

/-- The form, and a record behind those on the inputs if none of these is of use. -/
lemma loadForm_eq (title bibliography footnote : Text) (ds : List InputDraft) :
    (loadForm title bibliography footnote ds).1 =
      (if ds.any InputDraft.isUsable then
        some ⟨title, bibliography, footnote, (ds.filter InputDraft.isUsable).map InputDraft.input⟩
      else none) ∧
    (Report.ofRemarks (loadForm title bibliography footnote ds).2).skipped =
      (Report.ofRemarks (InputDraft.loadAll title ds).2).skipped ++
        (if ds.any InputDraft.isUsable then [] else [.noInputs title]) ∧
    (Report.ofRemarks (loadForm title bibliography footnote ds).2).warnings = [] := by
  have hwarnings := InputDraft.warnings_loadAll title ds
  have hany : ds.any InputDraft.isUsable = !(InputDraft.loadAll title ds).1.isEmpty := by
    rw [InputDraft.fst_loadAll, Bool.eq_iff_iff]
    simp
  rw [← InputDraft.fst_loadAll title, hany, loadForm]
  generalize InputDraft.loadAll title ds = inputs at hwarnings ⊢
  rcases inputs with ⟨_ | ⟨i, is⟩, rs⟩
  · simpa using hwarnings
  · simpa using hwarnings

/-- A source without a title or a template leaves one record. A source whose inputs are read leaves
the records on these and, if none of them is of use, its own. -/
lemma load_cases (category : Text) (number : Nat) (d : SourceDraft) :
    (Report.ofRemarks (d.load category number).2).warnings = d.lints ∧
    ((d.isFormed = false ∧ (d.load category number).1 = none ∧
      ∃ e, d.Blames category number e ∧
        (Report.ofRemarks (d.load category number).2).skipped = [e]) ∨
    (d.isFormed = true ∧ ∃ title, d.title = some title ∧
      (d.load category number).1 = (if d.isUsable then some d.source else none) ∧
      (Report.ofRemarks (d.load category number).2).skipped =
        (Report.ofRemarks (InputDraft.loadAll title d.inputs).2).skipped ++
          (if d.isUsable then [] else [.noInputs title]))) := by
  rcases ht : d.title with _ | title
  · refine ⟨by simp [load, lints, ht], .inl ⟨by simp [isFormed, ht], ?_, _, .untitled ht, ?_⟩⟩ <;>
      simp [load, ht]
  have hbibliography := loadTemplate_cases category number .bibliography ht nofun
  rw [template] at hbibliography
  obtain ⟨hb, hbload⟩ | ⟨hb, e, hbload, hblame⟩ := hbibliography
  · have hfootnote := loadTemplate_cases category number .footnote ht fun _ => hb
    rw [template] at hfootnote
    obtain ⟨hf, hfload⟩ | ⟨hf, e, hfload, hblame⟩ := hfootnote
    · have hformed : d.isFormed = true := by simp [isFormed, ht, hb, hf]
      obtain ⟨hsource, hskipped, hwarnings⟩ :=
        loadForm_eq title (d.bibliography.getD []) (d.footnote.getD []) d.inputs
      refine ⟨?_, .inr ⟨hformed, title, rfl, ?_, ?_⟩⟩
      · simp [load, lints, ht, hbload, hfload, hwarnings, hb, hf]
      · simp only [load, ht, hbload, hfload, hsource, isUsable, hformed, source, Option.getD_some]
        rfl
      · simp [load, ht, hbload, hfload, hskipped, isUsable, hformed]
    · refine ⟨by simp [load, lints, ht, hbload, hfload, hb, hf], .inl ⟨?_, ?_, e, hblame, ?_⟩⟩
      · simp [isFormed, hf]
      · simp [load, ht, hbload, hfload]
      · simp [load, ht, hbload, hfload]
  · refine ⟨by simp [load, lints, ht, hbload, hb], .inl ⟨?_, ?_, e, hblame, ?_⟩⟩
    · simp [isFormed, hb]
    · simp [load, ht, hbload]
    · simp [load, ht, hbload]

lemma fst_load (category : Text) (number : Nat) (d : SourceDraft) :
    (d.load category number).1 = if d.isUsable then some d.source else none := by
  obtain ⟨-, ⟨hformed, hsource, -⟩ | ⟨-, title, -, hsource, -⟩⟩ := load_cases category number d
  · simp [isUsable, hformed, hsource]
  · exact hsource

lemma fst_loadAll (category : Text) (number : Nat) (ds : List SourceDraft) :
    (loadAll category number ds).1 = (ds.filter isUsable).map source := by
  induction ds generalizing number with
  | nil => rfl
  | cons d ds ih =>
    rw [loadAll, fst_load, ih]
    rcases hd : d.isUsable <;> simp [hd]

lemma snd_loadAll (category : Text) (number : Nat) (ds : List SourceDraft) :
    (loadAll category (number + 1) ds).2 =
      (ds.zipIdx number).flatMap fun p => (p.1.load category (p.2 + 1)).2 := by
  induction ds generalizing number with
  | nil => rfl
  | cons d ds ih => rw [loadAll, ih, List.zipIdx_cons, List.flatMap_cons]

lemma warnings_loadAll (category : Text) (number : Nat) (ds : List SourceDraft) :
    (Report.ofRemarks (loadAll category number ds).2).warnings = ds.flatMap lints := by
  induction ds generalizing number with
  | nil => rfl
  | cons d ds ih =>
    rw [loadAll, Report.warnings_append, (load_cases category number d).1, ih, List.flatMap_cons]

end SourceDraft

/-! ### Categories -/

namespace CategoryDraft

def isUsable (d : CategoryDraft) : Bool := d.title.isSome && d.sources.any SourceDraft.isUsable

def category (d : CategoryDraft) : Category :=
  ⟨d.title.getD [], (d.sources.filter SourceDraft.isUsable).map SourceDraft.source⟩

/-- What can be said against a category with the number. -/
inductive Blames (number : Nat) (d : CategoryDraft) : Skip → Prop where
  | untitled (ht : d.title = none) : Blames number d (.untitledCategory number)
  | empty {title : Text} (ht : d.title = some title)
    (hnone : ∀ s ∈ d.sources, s.isUsable = false) : Blames number d (.emptyCategory title)

/-- A category without a title leaves one record. Any other leaves those on its sources and, if none
of them is of use, its own. -/
lemma load_cases (number : Nat) (d : CategoryDraft) :
    (d.title = none ∧ d.load number = (none, [.skipped (.untitledCategory number)])) ∨
    (∃ title, d.title = some title ∧
      (d.load number).1 = (if d.isUsable then some d.category else none) ∧
      (Report.ofRemarks (d.load number).2).skipped =
        (Report.ofRemarks (SourceDraft.loadAll title 1 d.sources).2).skipped ++
          (if d.isUsable then [] else [.emptyCategory title]) ∧
      (Report.ofRemarks (d.load number).2).warnings = d.sources.flatMap SourceDraft.lints) := by
  rcases ht : d.title with _ | title
  · exact .inl ⟨rfl, by rw [load, ht]⟩
  have hany : d.isUsable = !(SourceDraft.loadAll title 1 d.sources).1.isEmpty := by
    rw [SourceDraft.fst_loadAll, isUsable, ht, Bool.eq_iff_iff]
    simp
  have hcategory : d.category = ⟨title, (SourceDraft.loadAll title 1 d.sources).1⟩ := by
    rw [SourceDraft.fst_loadAll, category, ht, Option.getD_some]
  rw [hany, hcategory, ← SourceDraft.warnings_loadAll title 1, load, ht]
  dsimp only
  refine .inr ⟨title, rfl, ?_⟩
  rcases SourceDraft.loadAll title 1 d.sources with ⟨_ | ⟨s, ss⟩, rs⟩ <;> simp

lemma fst_load (number : Nat) (d : CategoryDraft) :
    (d.load number).1 = if d.isUsable then some d.category else none := by
  obtain ⟨ht, hload⟩ | ⟨title, -, hcategory, -⟩ := load_cases number d
  · simp [isUsable, ht, hload]
  · exact hcategory

lemma fst_loadAll (number : Nat) (ds : List CategoryDraft) :
    (loadAll number ds).1 = (ds.filter isUsable).map category := by
  induction ds generalizing number with
  | nil => rfl
  | cons d ds ih =>
    rw [loadAll, fst_load, ih]
    rcases hd : d.isUsable <;> simp [hd]

lemma snd_loadAll (number : Nat) (ds : List CategoryDraft) :
    (loadAll (number + 1) ds).2 =
      (ds.zipIdx number).flatMap fun p => (p.1.load (p.2 + 1)).2 := by
  induction ds generalizing number with
  | nil => rfl
  | cons d ds ih => rw [loadAll, ih, List.zipIdx_cons, List.flatMap_cons]

lemma warnings_loadAll (number : Nat) (ds : List CategoryDraft) :
    (Report.ofRemarks (loadAll number ds).2).warnings =
      ((ds.filter fun d => d.title.isSome).flatMap sources).flatMap SourceDraft.lints := by
  induction ds generalizing number with
  | nil => rfl
  | cons d ds ih =>
    rw [loadAll, Report.warnings_append, ih]
    obtain ⟨ht, hload⟩ | ⟨title, ht, -, -, hwarnings⟩ := d.load_cases number
    · simp [hload, ht]
    · simp [hwarnings, ht]

end CategoryDraft

/-! ### Libraries -/

namespace LibraryDraft

/-- The usable entries of the draft, in order. -/
def library (d : LibraryDraft) : Library :=
  ⟨d.title.getD [], (d.categories.filter CategoryDraft.isUsable).map CategoryDraft.category⟩

def report (d : LibraryDraft) : Report := .ofRemarks d.load.2

/-- The sources of titled categories. -/
def readSources (d : LibraryDraft) : List SourceDraft :=
  (d.categories.filter fun c => c.title.isSome).flatMap CategoryDraft.sources

/-- A library is what can be used of its draft. -/
lemma fst_load (d : LibraryDraft) : d.load.1 = d.library := by
  rw [load, library, ← CategoryDraft.fst_loadAll 1]

lemma warnings_report (d : LibraryDraft) :
    d.report.warnings = d.readSources.flatMap SourceDraft.lints :=
  CategoryDraft.warnings_loadAll 1 d.categories

end LibraryDraft

end CitationNotes
