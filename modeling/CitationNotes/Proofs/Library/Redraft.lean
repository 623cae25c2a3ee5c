import CitationNotes.Proofs.Library.Usable

/-!
Libraries written down again.

A library that was loaded has nothing in it that could not be used, and its own draft has all of it.
The draft of a library is the one it came from exactly if that was complete, which is to say usable
down to the last input.
-/

namespace CitationNotes

/-! ### The draft of a library -/

def Input.draft (i : Input) : InputDraft := ⟨i.kind, some i.name, some i.title, i.bold, i.italic⟩

def Source.draft (s : Source) : SourceDraft :=
  ⟨some s.title, some s.bibliography, some s.footnote, s.inputs.map Input.draft⟩

def Category.draft (c : Category) : CategoryDraft :=
  ⟨some c.title, c.sources.map Source.draft⟩

def Library.draft (l : Library) : LibraryDraft :=
  ⟨some l.title, l.categories.map Category.draft⟩

/-! ### Sound libraries -/

/-- An input as it is before anything is entered, with a name that is accepted. -/
structure Input.Sound (i : Input) : Prop where
  text : i.text = []
  name : FieldName.fault? i.name = none

/-- Both templates pass their check, and there is a form to fill in. -/
structure Source.Sound (s : Source) : Prop where
  bibliography : Template.fault? s.bibliography = none
  footnote : Template.fault? s.footnote = none
  inputs_ne_nil : s.inputs ≠ []
  inputs : ∀ i ∈ s.inputs, i.Sound

structure Category.Sound (c : Category) : Prop where
  sources_ne_nil : c.sources ≠ []
  sources : ∀ s ∈ c.sources, s.Sound

def Library.Sound (l : Library) : Prop := ∀ c ∈ l.categories, c.Sound

lemma Library.Sound.sources {l : Library} (h : l.Sound) : ∀ s ∈ l.sources, s.Sound := by
  intro s hs
  obtain ⟨c, hc, hs⟩ := List.mem_flatMap.1 hs
  exact (h c hc).sources s hs

/-! ### Complete drafts -/

/-- Nothing of the source is left out. -/
structure SourceDraft.Complete (d : SourceDraft) : Prop where
  usable : d.isUsable = true
  inputs : ∀ x ∈ d.inputs, x.isUsable = true

structure CategoryDraft.Complete (d : CategoryDraft) : Prop where
  usable : d.isUsable = true
  sources : ∀ s ∈ d.sources, s.Complete

def LibraryDraft.Complete (d : LibraryDraft) : Prop := ∀ c ∈ d.categories, c.Complete

/-! ### From drafts to libraries -/

lemma map_map_eq_self {α β : Type} {f : α → β} {g : β → α} {xs : List α}
    (h : ∀ x ∈ xs, g (f x) = x) : (xs.map f).map g = xs := by
  rw [List.map_map]
  exact (List.map_congr_left h).trans (List.map_id xs)

lemma Template.passes_iff {template : Option Text} :
    passes template = true ↔ ∃ t, template = some t ∧ fault? t = none := by
  rcases template with _ | t <;> simp [passes]

namespace InputDraft

variable {d : InputDraft}

lemma isUsable_iff :
    d.isUsable = true ↔
      ∃ title name, d.title = some title ∧ d.name = some name ∧ FieldName.fault? name = none := by
  rcases ht : d.title with _ | title <;> rcases hn : d.name with _ | name <;>
    simp [isUsable, ht, hn]

lemma draft_input (h : d.isUsable = true) : d.input.draft = d := by
  obtain ⟨title, name, ht, hn, -⟩ := isUsable_iff.1 h
  obtain ⟨kind, name', title', bold, italic⟩ := d
  obtain rfl : title' = some title := ht
  obtain rfl : name' = some name := hn
  rfl

lemma sound_input (h : d.isUsable = true) : d.input.Sound := by
  obtain ⟨title, name, -, hn, hname⟩ := isUsable_iff.1 h
  exact ⟨rfl, by rw [input, hn]; exact hname⟩

end InputDraft

namespace SourceDraft

variable {d : SourceDraft}

lemma isFormed_iff :
    d.isFormed = true ↔ ∃ title bibliography footnote, d.title = some title ∧
      d.bibliography = some bibliography ∧ Template.fault? bibliography = none ∧
      d.footnote = some footnote ∧ Template.fault? footnote = none := by
  rw [isFormed, Bool.and_eq_true, Bool.and_eq_true, Option.isSome_iff_exists, Template.passes_iff,
    Template.passes_iff]
  constructor
  · rintro ⟨⟨⟨title, ht⟩, t, hb⟩, u, hf⟩
    exact ⟨title, t, u, ht, hb.1, hb.2, hf⟩
  · rintro ⟨title, t, u, ht, hb, hbf, hf⟩
    exact ⟨⟨⟨title, ht⟩, t, hb, hbf⟩, u, hf⟩

lemma isUsable_iff :
    d.isUsable = true ↔ d.isFormed = true ∧ ∃ i ∈ d.inputs, i.isUsable = true := by
  rw [isUsable, Bool.and_eq_true, List.any_eq_true]

lemma sound_source (h : d.isUsable = true) : d.source.Sound := by
  obtain ⟨hformed, x, hx, hu⟩ := isUsable_iff.1 h
  obtain ⟨title, t, u, -, hb, hbf, hf, hff⟩ := isFormed_iff.1 hformed
  refine ⟨by rw [source, hb]; exact hbf, by rw [source, hf]; exact hff, ?_, ?_⟩
  · exact List.ne_nil_of_mem (List.mem_map_of_mem (List.mem_filter.2 ⟨hx, hu⟩))
  · intro i hi
    obtain ⟨x, hx, rfl⟩ := List.mem_map.1 hi
    exact InputDraft.sound_input (List.mem_filter.1 hx).2

lemma Complete.draft_source (h : d.Complete) : d.source.draft = d := by
  obtain ⟨title, t, u, ht, hb, -, hf, -⟩ := isFormed_iff.1 (isUsable_iff.1 h.usable).1
  have hinputs := map_map_eq_self fun x hx => InputDraft.draft_input (h.inputs x hx)
  rw [source, List.filter_eq_self.2 h.inputs, Source.draft, hinputs]
  obtain ⟨title', t', u', inputs⟩ := d
  obtain rfl : title' = some title := ht
  obtain rfl : t' = some t := hb
  obtain rfl : u' = some u := hf
  rfl

end SourceDraft

namespace CategoryDraft

variable {d : CategoryDraft}

lemma isUsable_iff :
    d.isUsable = true ↔ d.title.isSome = true ∧ ∃ s ∈ d.sources, s.isUsable = true := by
  rw [isUsable, Bool.and_eq_true, List.any_eq_true]

lemma sound_category (h : d.isUsable = true) : d.category.Sound := by
  obtain ⟨-, x, hx, hu⟩ := isUsable_iff.1 h
  refine ⟨List.ne_nil_of_mem (List.mem_map_of_mem (List.mem_filter.2 ⟨hx, hu⟩)), fun s hs => ?_⟩
  obtain ⟨x, hx, rfl⟩ := List.mem_map.1 hs
  exact SourceDraft.sound_source (List.mem_filter.1 hx).2

lemma Complete.draft_category (h : d.Complete) : d.category.draft = d := by
  obtain ⟨title, ht⟩ := Option.isSome_iff_exists.1 (isUsable_iff.1 h.usable).1
  have hfilter := List.filter_eq_self.2 fun s hs => (h.sources s hs).usable
  have hsources := map_map_eq_self fun s hs => (h.sources s hs).draft_source
  rw [category, hfilter, Category.draft, hsources]
  obtain ⟨title', sources⟩ := d
  obtain rfl : title' = some title := ht
  rfl

end CategoryDraft

namespace LibraryDraft

variable {d : LibraryDraft}

lemma sound_library (d : LibraryDraft) : d.library.Sound := by
  intro c hc
  obtain ⟨x, hx, rfl⟩ := List.mem_map.1 hc
  exact CategoryDraft.sound_category (List.mem_filter.1 hx).2

lemma Complete.categories_draft_library (h : d.Complete) :
    d.library.draft.categories = d.categories := by
  have hfilter := List.filter_eq_self.2 fun c hc => (h c hc).usable
  rw [library, hfilter, Library.draft]
  exact map_map_eq_self fun c hc => (h c hc).draft_category

end LibraryDraft

/-! ### From libraries to drafts -/

lemma Input.Sound.isUsable_draft {i : Input} (h : i.Sound) : i.draft.isUsable = true :=
  InputDraft.isUsable_iff.2 ⟨i.title, i.name, rfl, rfl, h.name⟩

lemma Input.Sound.input_draft {i : Input} (h : i.Sound) : i.draft.input = i := by
  obtain ⟨kind, name, title, text, bold, italic⟩ := i
  obtain rfl : text = [] := h.text
  rfl

namespace Source

variable {s : Source}

lemma Sound.complete_draft (h : s.Sound) : s.draft.Complete := by
  have hinputs : ∀ x ∈ s.draft.inputs, x.isUsable = true := by
    intro x hx
    obtain ⟨i, hi, rfl⟩ := List.mem_map.1 hx
    exact (h.inputs i hi).isUsable_draft
  have hformed : s.draft.isFormed = true := SourceDraft.isFormed_iff.2
    ⟨s.title, s.bibliography, s.footnote, rfl, rfl, h.bibliography, rfl, h.footnote⟩
  obtain ⟨i, hi⟩ := List.exists_mem_of_ne_nil s.inputs h.inputs_ne_nil
  have hmem : i.draft ∈ s.draft.inputs := List.mem_map_of_mem hi
  exact ⟨SourceDraft.isUsable_iff.2 ⟨hformed, i.draft, hmem, hinputs i.draft hmem⟩, hinputs⟩

lemma Sound.source_draft (h : s.Sound) : s.draft.source = s := by
  have hfilter := List.filter_eq_self.2 h.complete_draft.inputs
  have hinputs := map_map_eq_self fun i hi => (h.inputs i hi).input_draft
  rw [SourceDraft.source, hfilter]
  exact congrArg (Source.mk s.title s.bibliography s.footnote) hinputs

end Source

namespace Category

variable {c : Category}

lemma Sound.complete_draft (h : c.Sound) : c.draft.Complete := by
  have hsources : ∀ x ∈ c.draft.sources, x.Complete := by
    intro x hx
    obtain ⟨s, hs, rfl⟩ := List.mem_map.1 hx
    exact (h.sources s hs).complete_draft
  obtain ⟨s, hs⟩ := List.exists_mem_of_ne_nil c.sources h.sources_ne_nil
  have hmem : s.draft ∈ c.draft.sources := List.mem_map_of_mem hs
  have husable := (hsources s.draft hmem).usable
  exact ⟨CategoryDraft.isUsable_iff.2 ⟨rfl, s.draft, hmem, husable⟩, hsources⟩

lemma Sound.category_draft (h : c.Sound) : c.draft.category = c := by
  have hfilter := List.filter_eq_self.2 fun s hs => (h.complete_draft.sources s hs).usable
  have hsources := map_map_eq_self fun s hs => (h.sources s hs).source_draft
  rw [CategoryDraft.category, hfilter]
  exact congrArg (Category.mk c.title) hsources

end Category

namespace Library

variable {l : Library}

lemma Sound.complete_draft (h : l.Sound) : l.draft.Complete := by
  intro x hx
  obtain ⟨c, hc, rfl⟩ := List.mem_map.1 hx
  exact (h c hc).complete_draft

lemma Sound.library_draft (h : l.Sound) : l.draft.library = l := by
  have hfilter := List.filter_eq_self.2 fun c hc => (h.complete_draft c hc).usable
  have hcategories := map_map_eq_self fun c hc => (h c hc).category_draft
  rw [LibraryDraft.library, hfilter]
  exact congrArg (Library.mk l.title) hcategories

end Library

/-- A draft is complete exactly if it is that of its library, but for the title. -/
lemma LibraryDraft.complete_iff {d : LibraryDraft} :
    d.Complete ↔ d.library.draft.categories = d.categories := by
  refine ⟨Complete.categories_draft_library, fun h => ?_⟩
  have hcomplete := d.sound_library.complete_draft
  rwa [Complete, h] at hcomplete

end CitationNotes
