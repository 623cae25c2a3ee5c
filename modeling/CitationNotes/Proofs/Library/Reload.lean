import Mathlib.Data.List.Flatten
import Mathlib.Logic.Relation
import CitationNotes.Proofs.Library.Records

/-!
Loading again, and loading with more in the draft.

What was loaded is loaded as it is from its own draft, and nothing is said this time but the
warnings on what is still there. Entries that are given up have no part in a library: as many of
them as one likes may be put between the others, on any level.
-/

namespace CitationNotes

/-! ### Warnings again -/

namespace SourceDraft

variable {d : SourceDraft}

/-- A source that was loaded has the templates of its draft, and so their warnings. -/
lemma lints_draft_source (h : d.isUsable = true) : d.source.draft.lints = d.lints := by
  obtain ⟨title, t, u, ht, hb, hbf, hf, hff⟩ := isFormed_iff.1 (isUsable_iff.1 h).1
  simp [lints, source, Source.draft, ht, hb, hf]

end SourceDraft

namespace LibraryDraft

/-- The sources that a library has of its draft. -/
def usableSources (d : LibraryDraft) : List SourceDraft :=
  (d.categories.filter CategoryDraft.isUsable).flatMap fun c =>
    c.sources.filter SourceDraft.isUsable

lemma usableSources_sublist (d : LibraryDraft) : d.usableSources.Sublist d.readSources := by
  rw [usableSources, readSources]
  induction d.categories with
  | nil => exact .slnil
  | cons c cs ih =>
    rcases hu : c.isUsable
    · rw [List.filter_cons_of_neg (by simp [hu])]
      exact ih.trans (((List.sublist_cons_self c cs).filter _).flatMap _)
    · have ht := (CategoryDraft.isUsable_iff.1 hu).1
      rw [List.filter_cons_of_pos hu, List.filter_cons_of_pos (by simp [ht]), List.flatMap_cons,
        List.flatMap_cons]
      exact List.filter_sublist.append ih

lemma readSources_draft_library (d : LibraryDraft) :
    d.library.draft.readSources = d.usableSources.map fun s => s.source.draft := by
  have htitled : ∀ c ∈ d.library.draft.categories, c.title.isSome = true := by
    intro c hc
    obtain ⟨x, -, rfl⟩ := List.mem_map.1 hc
    rfl
  rw [readSources, List.filter_eq_self.2 htitled, usableSources, List.map_flatMap]
  simp only [library, Library.draft, List.map_map, List.flatMap_map]
  exact List.flatMap_congr fun c _ => List.map_map

lemma warnings_report_sublist (d : LibraryDraft) :
    d.library.draft.report.warnings.Sublist d.report.warnings := by
  have hlints : d.usableSources.flatMap (fun s => s.source.draft.lints) =
      d.usableSources.flatMap SourceDraft.lints := by
    refine List.flatMap_congr fun s hs => SourceDraft.lints_draft_source ?_
    obtain ⟨c, -, hs⟩ := List.mem_flatMap.1 hs
    exact (List.mem_filter.1 hs).2
  rw [warnings_report, warnings_report, readSources_draft_library, List.flatMap_map, hlints]
  exact d.usableSources_sublist.flatMap _

end LibraryDraft

/-! ### More in the draft -/

/-- The second draft has one more entry, somewhere, that is given up when it is read. -/
inductive LibraryDraft.Padded : LibraryDraft → LibraryDraft → Prop where
  | category {title : Option Text} (before after : List CategoryDraft) {c : CategoryDraft}
    (number : Nat) (h : (c.load number).1 = none) :
    Padded ⟨title, before ++ after⟩ ⟨title, before ++ c :: after⟩
  | source {title categoryTitle : Option Text} (cs cs' : List CategoryDraft)
    (before after : List SourceDraft) {s : SourceDraft} (category : Text) (number : Nat)
    (h : (s.load category number).1 = none) :
    Padded ⟨title, cs ++ ⟨categoryTitle, before ++ after⟩ :: cs'⟩
      ⟨title, cs ++ ⟨categoryTitle, before ++ s :: after⟩ :: cs'⟩
  | input {title categoryTitle sourceTitle bibliography footnote : Option Text}
    (cs cs' : List CategoryDraft) (ss ss' : List SourceDraft) (before after : List InputDraft)
    {x : InputDraft} (source : Text) {e : Skip} (h : x.load source = .error e) :
    Padded
      ⟨title, cs ++ ⟨categoryTitle,
        ss ++ ⟨sourceTitle, bibliography, footnote, before ++ after⟩ :: ss'⟩ :: cs'⟩
      ⟨title, cs ++ ⟨categoryTitle,
        ss ++ ⟨sourceTitle, bibliography, footnote, before ++ x :: after⟩ :: ss'⟩ :: cs'⟩

lemma InputDraft.isUsable_of_load_eq_error {source : Text} {d : InputDraft} {e : Skip}
    (h : d.load source = .error e) : d.isUsable = false := by
  obtain ⟨-, hload⟩ | ⟨hu, -⟩ := d.load_cases source
  · rw [hload] at h
    cases h
  · exact hu

lemma SourceDraft.isUsable_of_load_eq_none {category : Text} {number : Nat} {d : SourceDraft}
    (h : (d.load category number).1 = none) : d.isUsable = false := by
  rw [fst_load] at h
  simpa using h

lemma CategoryDraft.isUsable_of_load_eq_none {number : Nat} {d : CategoryDraft}
    (h : (d.load number).1 = none) : d.isUsable = false := by
  rw [fst_load] at h
  simpa using h

lemma filter_append_cons_of_neg {α : Type} {p : α → Bool} {x : α} (h : p x = false)
    (before after : List α) : (before ++ x :: after).filter p = (before ++ after).filter p := by
  simp [List.filter_append, h]

lemma any_append_cons_of_neg {α : Type} {p : α → Bool} {x : α} (h : p x = false)
    (before after : List α) : (before ++ x :: after).any p = (before ++ after).any p := by
  simp [h]

/-- A member may be changed where no view of the list sees it. -/
lemma map_filter_append_cons_congr {α β : Type} {p : α → Bool} {f : α → β} {x y : α}
    (hp : p x = p y) (hf : f x = f y) (before after : List α) :
    ((before ++ x :: after).filter p).map f = ((before ++ y :: after).filter p).map f := by
  rcases hy : p y <;> simp [List.filter_append, hp, hy, hf]

namespace LibraryDraft

variable {d d' : LibraryDraft}

/-- One entry that is given up leaves the library as it was. -/
lemma Padded.library_eq (h : Padded d d') : d'.library = d.library := by
  cases h with
  | category before after _ h =>
    have hu := CategoryDraft.isUsable_of_load_eq_none h
    rw [library, library, filter_append_cons_of_neg hu]
  | source cs cs' before after _ _ h =>
    have hu := SourceDraft.isUsable_of_load_eq_none h
    refine congrArg (Library.mk _) (map_filter_append_cons_congr ?_ ?_ cs cs')
    · simp only [CategoryDraft.isUsable, any_append_cons_of_neg hu]
    · simp only [CategoryDraft.category, filter_append_cons_of_neg hu]
  | input cs cs' ss ss' before after _ h =>
    have hu := InputDraft.isUsable_of_load_eq_error h
    refine congrArg (Library.mk _) (map_filter_append_cons_congr ?_ ?_ cs cs')
    · simp only [CategoryDraft.isUsable, List.any_append, List.any_cons, SourceDraft.isUsable,
        SourceDraft.isFormed, any_append_cons_of_neg hu]
    · refine congrArg (Category.mk _) (map_filter_append_cons_congr ?_ ?_ ss ss')
      · simp only [SourceDraft.isUsable, SourceDraft.isFormed, any_append_cons_of_neg hu]
      · simp only [SourceDraft.source, filter_append_cons_of_neg hu]

/-- **Loading is tolerant**: a loaded library loads as it is, with no record and with no warning
that there was not at first; **and isolated**: entries that are given up change nothing. -/
theorem load_draft_load (d : LibraryDraft) :
    d.load.1.draft.load.1 = d.load.1 ∧
    d.load.1.draft.report.skipped = [] ∧
    d.load.1.draft.report.warnings.Sublist d.report.warnings ∧
    ∀ d', Relation.ReflTransGen Padded d d' → d'.load.1 = d.load.1 := by
  rw [fst_load, fst_load]
  refine ⟨d.sound_library.library_draft, ?_, d.warnings_report_sublist, fun d' h => ?_⟩
  · exact skipped_eq_nil_iff.2 d.sound_library.complete_draft
  · rw [fst_load]
    induction h with
    | refl => rfl
    | tail _ h ih => exact h.library_eq.trans ih

/-- What can be used of `patchy`. -/
def sparse : LibraryDraft :=
  ⟨none, [⟨some ['b'], [⟨some ['v'], some ['{', '?', 'm', '}'], some ['{', '@', 'm', '}'],
    [⟨.text, some ['m'], some ['M'], true, false⟩]⟩]⟩]⟩

/-- An input, a source and two categories more, with the warning on one of the sources, which is
not repeated when what was loaded is loaded again. -/
theorem load_draft_load_patchy :
    Relation.ReflTransGen Padded sparse patchy ∧ patchy.load.1 = sparse.load.1 ∧
    patchy.load.1.draft ≠ patchy ∧ patchy.load.1.draft.load.1 = patchy.load.1 ∧
    patchy.load.1.draft.report.skipped = [] ∧
    patchy.load.1.draft.report.warnings = [(['v'], .missingSeparator ⟨'?', ['m']⟩)] ∧
    patchy.report.warnings =
      [(['s'], .missingSeparator ⟨'?', []⟩), (['v'], .missingSeparator ⟨'?', ['m']⟩)] := by
  have hpadded : Relation.ReflTransGen Padded sparse patchy :=
    .head (.input [] [] [] [] [_] [] ['v'] rfl) <|
      .head (.source [] [] [] [_] ['b'] 1 rfl) <|
        .head (.category [] [_] 2 rfl) <|
          .single (.category [] [_, _] 1 rfl)
  obtain ⟨hload, hskipped, -, -⟩ := load_draft_load patchy
  exact ⟨hpadded, (load_draft_load sparse).2.2.2 patchy hpadded, by decide, hload, hskipped,
    by decide, by decide⟩

end LibraryDraft

end CitationNotes
