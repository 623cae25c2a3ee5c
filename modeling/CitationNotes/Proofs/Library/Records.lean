import Mathlib.Algebra.GroupWithZero.Nat
import Mathlib.Data.List.Forall2
import Mathlib.Data.List.Nodup
import CitationNotes.Proofs.Library.Redraft

/-!
The records on what is left out.

Entries are told apart by where they stand, since two of them may be alike. An entry that is read
and cannot be used has a record of its own; all else that is missing stands in such an entry. An
entry comes behind those that stand in it, as it is given up only after they are read.
-/

namespace CitationNotes

/-- Where an entry stands, its place on each level numbered from zero. -/
inductive EntryPath where
  | category (i : Nat)
  | source (i j : Nat)
  | input (i j k : Nat)
deriving DecidableEq, Repr

namespace EntryPath

/-- The first entry stands in the second. -/
def IsIn : EntryPath → EntryPath → Prop
  | source i _, category i' => i = i'
  | input i _ _, category i' => i = i'
  | input i j _, source i' j' => i = i' ∧ j = j'
  | _, _ => False

lemma not_isIn_self (e : EntryPath) : ¬ e.IsIn e := by
  cases e <;> exact id

def categoryIndex : EntryPath → Nat
  | category i => i
  | source i _ => i
  | input i _ _ => i

def sourceIndex : EntryPath → Nat
  | category _ => 0
  | source _ j => j
  | input _ j _ => j

def inputIndex : EntryPath → Nat
  | input _ _ k => k
  | _ => 0

end EntryPath

namespace LibraryDraft

/-- The entry is not in the library, since it or one around it cannot be used. -/
def Missing (d : LibraryDraft) : EntryPath → Prop
  | .category i => ∃ c, d.categories[i]? = some c ∧ c.isUsable = false
  | .source i j => ∃ c s, d.categories[i]? = some c ∧ c.sources[j]? = some s ∧
    (c.isUsable = false ∨ s.isUsable = false)
  | .input i j k => ∃ c s x, d.categories[i]? = some c ∧ c.sources[j]? = some s ∧
    s.inputs[k]? = some x ∧ (c.isUsable = false ∨ s.isUsable = false ∨ x.isUsable = false)

/-- The entry is given up when it is read: sources of titled categories are, and inputs of sources
with a title and two templates. -/
def Dropped (d : LibraryDraft) : EntryPath → Prop
  | .category i => ∃ c, d.categories[i]? = some c ∧ c.isUsable = false
  | .source i j => ∃ c s, d.categories[i]? = some c ∧ c.title.isSome = true ∧
    c.sources[j]? = some s ∧ s.isUsable = false
  | .input i j k => ∃ c s x, d.categories[i]? = some c ∧ c.title.isSome = true ∧
    c.sources[j]? = some s ∧ s.isFormed = true ∧ s.inputs[k]? = some x ∧ x.isUsable = false

/-- The record says of the entry what is wrong with it. -/
def Blames (d : LibraryDraft) : EntryPath → Skip → Prop
  | .category i, e => ∃ c, d.categories[i]? = some c ∧ c.Blames (i + 1) e
  | .source i j, e => ∃ c title s, d.categories[i]? = some c ∧ c.title = some title ∧
    c.sources[j]? = some s ∧ s.Blames title (j + 1) e
  | .input i j k, e => ∃ c s title x, d.categories[i]? = some c ∧ c.sources[j]? = some s ∧
    s.title = some title ∧ s.inputs[k]? = some x ∧ x.Blames title e

/-- The inputs of the sources that have a title and two templates that pass their check, in titled
categories. -/
def readInputs (d : LibraryDraft) : List InputDraft :=
  (d.readSources.filter SourceDraft.isFormed).flatMap SourceDraft.inputs

end LibraryDraft

/-! ### The entries given up, in the order of their records -/

/-- The entry itself, if it is of no use, behind those that stand in it. -/
def EntryPath.behind (own : EntryPath) (es : List EntryPath) (usable : Bool) : List EntryPath :=
  es ++ if usable then [] else [own]

def InputDraft.dropsAt (i j k : Nat) (x : InputDraft) : List EntryPath :=
  EntryPath.behind (.input i j k) [] x.isUsable

def SourceDraft.dropsAt (i j : Nat) (s : SourceDraft) : List EntryPath :=
  EntryPath.behind (.source i j)
    (if s.isFormed then s.inputs.zipIdx.flatMap fun p => p.1.dropsAt i j p.2 else []) s.isUsable

def CategoryDraft.dropsAt (i : Nat) (c : CategoryDraft) : List EntryPath :=
  EntryPath.behind (.category i)
    (if c.title.isSome then c.sources.zipIdx.flatMap fun p => p.1.dropsAt i p.2 else []) c.isUsable

def LibraryDraft.drops (d : LibraryDraft) : List EntryPath :=
  d.categories.zipIdx.flatMap fun p => p.1.dropsAt p.2

lemma EntryPath.mem_behind {own e : EntryPath} {es : List EntryPath} {usable : Bool} :
    e ∈ own.behind es usable ↔ e ∈ es ∨ usable = false ∧ e = own := by
  cases usable <;> simp [behind]

lemma mem_flatMap_zipIdx {α β : Type} {xs : List α} {f : α × Nat → List β} {b : β} :
    b ∈ xs.zipIdx.flatMap f ↔ ∃ n x, xs[n]? = some x ∧ b ∈ f (x, n) := by
  simp only [List.mem_flatMap, Prod.exists, List.mem_zipIdx_iff_getElem?]
  exact exists_comm

lemma SourceDraft.mem_dropsAt {i j : Nat} {s : SourceDraft} {e : EntryPath} :
    e ∈ s.dropsAt i j ↔
      (s.isFormed = true ∧ ∃ k x, s.inputs[k]? = some x ∧ x.isUsable = false ∧ e = .input i j k) ∨
      (s.isUsable = false ∧ e = .source i j) := by
  rw [dropsAt, EntryPath.mem_behind]
  refine or_congr ?_ Iff.rfl
  rcases s.isFormed
  · simp
  · rw [if_pos rfl, mem_flatMap_zipIdx]
    simp [InputDraft.dropsAt, EntryPath.mem_behind]

lemma CategoryDraft.mem_dropsAt {i : Nat} {c : CategoryDraft} {e : EntryPath} :
    e ∈ c.dropsAt i ↔
      (c.title.isSome = true ∧
        ∃ (j : Nat) (s : SourceDraft), c.sources[j]? = some s ∧ e ∈ s.dropsAt i j) ∨
      (c.isUsable = false ∧ e = .category i) := by
  rw [dropsAt, EntryPath.mem_behind]
  refine or_congr ?_ Iff.rfl
  rcases c.title.isSome
  · simp
  · rw [if_pos rfl, mem_flatMap_zipIdx]
    simp

namespace LibraryDraft

variable {d : LibraryDraft}

lemma mem_drops_iff_dropped {e : EntryPath} : e ∈ d.drops ↔ d.Dropped e := by
  simp only [drops, mem_flatMap_zipIdx, CategoryDraft.mem_dropsAt, SourceDraft.mem_dropsAt]
  cases e with
  | category i =>
    constructor
    · rintro ⟨i, c, hc, ⟨-, j, s, -, ⟨-, k, x, -, -, h⟩ | ⟨-, h⟩⟩ | ⟨hu, h⟩⟩ <;> cases h
      exact ⟨c, hc, hu⟩
    · rintro ⟨c, hc, hu⟩
      exact ⟨i, c, hc, .inr ⟨hu, rfl⟩⟩
  | source i j =>
    constructor
    · rintro ⟨i, c, hc, ⟨ht, j, s, hs, ⟨-, k, x, -, -, h⟩ | ⟨hu, h⟩⟩ | ⟨-, h⟩⟩ <;> cases h
      exact ⟨c, s, hc, ht, hs, hu⟩
    · rintro ⟨c, s, hc, ht, hs, hu⟩
      exact ⟨i, c, hc, .inl ⟨ht, j, s, hs, .inr ⟨hu, rfl⟩⟩⟩
  | input i j k =>
    constructor
    · rintro ⟨i, c, hc, ⟨ht, j, s, hs, ⟨hf, k, x, hx, hu, h⟩ | ⟨-, h⟩⟩ | ⟨-, h⟩⟩ <;> cases h
      exact ⟨c, s, x, hc, ht, hs, hf, hx, hu⟩
    · rintro ⟨c, s, x, hc, ht, hs, hf, hx, hu⟩
      exact ⟨i, c, hc, .inl ⟨ht, j, s, hs, .inl ⟨hf, k, x, hx, hu, rfl⟩⟩⟩

end LibraryDraft

/-! ### No entry twice -/

/-- Lists made for the members of a list are disjoint if they tell the number of their member. -/
lemma nodup_flatMap_zipIdx {α β : Type} {xs : List α} {f : α × Nat → List β} (key : β → Nat)
    (hnodup : ∀ p ∈ xs.zipIdx, (f p).Nodup) (hkey : ∀ p ∈ xs.zipIdx, ∀ b ∈ f p, key b = p.2) :
    (xs.zipIdx.flatMap f).Nodup := by
  refine List.nodup_flatMap.2 ⟨hnodup, ?_⟩
  have hlt : (xs.zipIdx.map Prod.snd).Pairwise (· < ·) := by
    rw [List.zipIdx_map_snd]
    exact List.pairwise_lt_range'
  refine (List.pairwise_map.1 hlt).imp_of_mem fun {p q} hp hq hpq b hbp hbq => ?_
  exact absurd ((hkey p hp b hbp).symm.trans (hkey q hq b hbq)) (Nat.ne_of_lt hpq)

lemma EntryPath.nodup_behind {own : EntryPath} {es : List EntryPath} (usable : Bool)
    (hnodup : es.Nodup) (hin : ∀ e ∈ es, e.IsIn own) : (own.behind es usable).Nodup := by
  refine List.nodup_append.2 ⟨hnodup, by cases usable <;> simp, ?_⟩
  rintro e he _ he' rfl
  cases usable
  · obtain rfl := List.mem_singleton.1 he'
    exact not_isIn_self e (hin e he)
  · cases he'

lemma SourceDraft.nodup_dropsAt (i j : Nat) (s : SourceDraft) : (s.dropsAt i j).Nodup := by
  refine EntryPath.nodup_behind _ ?_ fun e he => ?_
  · split
    · refine nodup_flatMap_zipIdx EntryPath.inputIndex (fun p _ => ?_) fun p _ e he => ?_
      · exact EntryPath.nodup_behind _ List.nodup_nil (List.forall_mem_nil _)
      · obtain he | ⟨-, rfl⟩ := EntryPath.mem_behind.1 he
        · cases he
        · rfl
    · exact List.nodup_nil
  · split at he
    · obtain ⟨k, x, -, he⟩ := mem_flatMap_zipIdx.1 he
      obtain he | ⟨-, rfl⟩ := EntryPath.mem_behind.1 he
      · cases he
      · exact ⟨rfl, rfl⟩
    · cases he

lemma CategoryDraft.nodup_dropsAt (i : Nat) (c : CategoryDraft) : (c.dropsAt i).Nodup := by
  refine EntryPath.nodup_behind _ ?_ fun e he => ?_
  · split
    · refine nodup_flatMap_zipIdx EntryPath.sourceIndex (fun p _ => p.1.nodup_dropsAt i p.2) ?_
      intro p _ e he
      obtain ⟨-, k, x, -, -, rfl⟩ | ⟨-, rfl⟩ := SourceDraft.mem_dropsAt.1 he <;> rfl
    · exact List.nodup_nil
  · split at he
    · obtain ⟨j, s, -, he⟩ := mem_flatMap_zipIdx.1 he
      obtain ⟨-, k, x, -, -, rfl⟩ | ⟨-, rfl⟩ := SourceDraft.mem_dropsAt.1 he <;> rfl
    · cases he

lemma LibraryDraft.nodup_drops (d : LibraryDraft) : d.drops.Nodup := by
  refine nodup_flatMap_zipIdx EntryPath.categoryIndex (fun p _ => p.1.nodup_dropsAt p.2) ?_
  intro p _ e he
  obtain ⟨-, j, s, -, he⟩ | ⟨-, rfl⟩ := CategoryDraft.mem_dropsAt.1 he
  · obtain ⟨-, k, x, -, -, rfl⟩ | ⟨-, rfl⟩ := SourceDraft.mem_dropsAt.1 he <;> rfl
  · rfl

/-! ### One record on each -/

lemma forall₂_flatMap {α β γ : Type} {R : β → γ → Prop} {xs : List α} {f : α → List β}
    {g : α → List γ} (h : ∀ x ∈ xs, List.Forall₂ R (f x) (g x)) :
    List.Forall₂ R (xs.flatMap f) (xs.flatMap g) := by
  induction xs with
  | nil => exact .nil
  | cons x xs ih =>
    rw [List.forall_mem_cons] at h
    exact List.rel_append h.1 (ih h.2)

namespace LibraryDraft

variable {d : LibraryDraft} {c : CategoryDraft} {s : SourceDraft} {title : Text} {i j : Nat}

lemma forall₂_blames_inputs (hc : d.categories[i]? = some c) (hs : c.sources[j]? = some s)
    (ht : s.title = some title) :
    List.Forall₂ d.Blames (s.inputs.zipIdx.flatMap fun p => p.1.dropsAt i j p.2)
      (Report.ofRemarks (InputDraft.loadAll title s.inputs).2).skipped := by
  rw [InputDraft.skipped_loadAll title s.inputs 0]
  refine forall₂_flatMap fun p hp => ?_
  have hx := List.mem_zipIdx_iff_getElem?.1 hp
  obtain ⟨hu, hload⟩ | ⟨hu, e, hload, hblame⟩ := p.1.load_cases title
  · rw [InputDraft.dropsAt, hu, InputDraft.skips, hload]
    exact .nil
  · rw [InputDraft.dropsAt, hu, InputDraft.skips, hload]
    exact .cons ⟨c, s, title, p.1, hc, hs, ht, hx, hblame⟩ .nil

lemma forall₂_blames_source (hc : d.categories[i]? = some c) (hct : c.title = some title)
    (hs : c.sources[j]? = some s) :
    List.Forall₂ d.Blames (s.dropsAt i j)
      (Report.ofRemarks (s.load title (j + 1)).2).skipped := by
  have hblames {e : Skip} (h : s.Blames title (j + 1) e) : d.Blames (.source i j) e :=
    ⟨c, title, s, hc, hct, hs, h⟩
  obtain ⟨-, ⟨hformed, -, e, hblame, hskipped⟩ | ⟨hformed, t, ht, -, hskipped⟩⟩ :=
    s.load_cases title (j + 1)
  · have hu : s.isUsable = false := by rw [SourceDraft.isUsable, hformed, Bool.false_and]
    rw [hskipped, SourceDraft.dropsAt, hformed, hu]
    exact .cons (hblames hblame) .nil
  · rw [hskipped, SourceDraft.dropsAt, if_pos hformed]
    refine List.rel_append (forall₂_blames_inputs hc hs ht) ?_
    rcases hu : s.isUsable
    · have hnone : ∀ x ∈ s.inputs, x.isUsable = false := by
        simpa [SourceDraft.isUsable, hformed] using hu
      exact .cons (hblames (.noInputs ht hformed hnone)) .nil
    · exact .nil

lemma forall₂_blames_category (hc : d.categories[i]? = some c) :
    List.Forall₂ d.Blames (c.dropsAt i) (Report.ofRemarks (c.load (i + 1)).2).skipped := by
  obtain ⟨ht, hload⟩ | ⟨title, ht, -, hskipped, -⟩ := c.load_cases (i + 1)
  · have hu : c.isUsable = false := by rw [CategoryDraft.isUsable, ht, Option.isSome_none,
      Bool.false_and]
    rw [hload, CategoryDraft.dropsAt, ht, hu]
    exact .cons ⟨c, hc, .untitled ht⟩ .nil
  · rw [hskipped, SourceDraft.snd_loadAll, Report.skipped_flatMap, CategoryDraft.dropsAt, ht]
    refine List.rel_append (forall₂_flatMap fun p hp => ?_) ?_
    · exact forall₂_blames_source hc ht (List.mem_zipIdx_iff_getElem?.1 hp)
    rcases hu : c.isUsable
    · have hnone : ∀ s ∈ c.sources, s.isUsable = false := by
        simpa [CategoryDraft.isUsable, ht] using hu
      exact .cons ⟨c, hc, .empty ht hnone⟩ .nil
    · exact .nil

lemma forall₂_blames (d : LibraryDraft) : List.Forall₂ d.Blames d.drops d.report.skipped := by
  rw [report, load, CategoryDraft.snd_loadAll, Report.skipped_flatMap]
  exact forall₂_flatMap fun p hp => forall₂_blames_category (List.mem_zipIdx_iff_getElem?.1 hp)

end LibraryDraft

/-! ### How many there are -/

lemma EntryPath.length_behind (own : EntryPath) (es : List EntryPath) (usable : Bool) :
    (own.behind es usable).length = es.length + if usable then 0 else 1 := by
  cases usable <;> simp [behind]

lemma length_flatMap_zipIdx {α β : Type} {f : α × Nat → List β} {size : α → Nat} {xs : List α}
    (h : ∀ p, (f p).length = size p.1) : (xs.zipIdx.flatMap f).length = (xs.map size).sum := by
  have hsize : (fun p => (f p).length) = size ∘ Prod.fst := funext h
  rw [List.length_flatMap, hsize, ← List.map_map, List.zipIdx_map_fst]

namespace InputDraft

def dropCount (x : InputDraft) : Nat := if x.isUsable then 0 else 1

lemma length_dropsAt (i j k : Nat) (x : InputDraft) : (x.dropsAt i j k).length = x.dropCount := by
  rw [dropsAt, EntryPath.length_behind, dropCount, List.length_nil, Nat.zero_add]

lemma sum_dropCount (xs : List InputDraft) :
    (xs.map dropCount).sum = xs.countP fun x => !x.isUsable := by
  induction xs with
  | nil => rfl
  | cons x xs ih =>
    rw [List.map_cons, List.sum_cons, ih, List.countP_cons, dropCount]
    cases x.isUsable <;> simp [Nat.add_comm]

end InputDraft

namespace SourceDraft

/-- The number of records on a source and what stands in it. -/
def dropCount (s : SourceDraft) : Nat :=
  (if s.isFormed then s.inputs.countP fun x => !x.isUsable else 0) + if s.isUsable then 0 else 1

lemma length_dropsAt (i j : Nat) (s : SourceDraft) : (s.dropsAt i j).length = s.dropCount := by
  rw [dropsAt, EntryPath.length_behind, dropCount]
  split
  · rw [length_flatMap_zipIdx fun p => p.1.length_dropsAt i j p.2, InputDraft.sum_dropCount]
  · rfl

lemma sum_dropCount (ss : List SourceDraft) :
    (ss.map dropCount).sum =
      (ss.countP fun s => !s.isUsable) +
        ((ss.filter isFormed).flatMap SourceDraft.inputs).countP fun x => !x.isUsable := by
  induction ss with
  | nil => rfl
  | cons s ss ih =>
    rw [List.map_cons, List.sum_cons, ih, dropCount, List.countP_cons]
    rcases hf : s.isFormed <;> rcases s.isUsable <;> simp [hf, List.countP_append] <;> omega

end SourceDraft

namespace CategoryDraft

/-- The number of records on a category and what stands in it. -/
def dropCount (c : CategoryDraft) : Nat :=
  (if c.title.isSome then (c.sources.map SourceDraft.dropCount).sum else 0) +
    if c.isUsable then 0 else 1

lemma length_dropsAt (i : Nat) (c : CategoryDraft) : (c.dropsAt i).length = c.dropCount := by
  rw [dropsAt, EntryPath.length_behind, dropCount]
  split
  · rw [length_flatMap_zipIdx fun p => p.1.length_dropsAt i p.2]
  · rfl

end CategoryDraft

namespace LibraryDraft

variable {d : LibraryDraft}

lemma length_drops (d : LibraryDraft) :
    d.drops.length =
      (d.categories.countP fun c => !c.isUsable) + (d.readSources.countP fun s => !s.isUsable) +
        d.readInputs.countP fun x => !x.isUsable := by
  rw [drops, length_flatMap_zipIdx fun p => p.1.length_dropsAt p.2, readInputs, readSources]
  induction d.categories with
  | nil => rfl
  | cons c cs ih =>
    rw [List.map_cons, List.sum_cons, ih, CategoryDraft.dropCount, SourceDraft.sum_dropCount,
      List.countP_cons]
    rcases ht : c.title.isSome <;> rcases c.isUsable <;>
      simp [ht, List.countP_append, List.filter_append] <;> omega

/-- What is missing without a record stands in something that has one. -/
lemma Missing.dropped {e : EntryPath} (h : d.Missing e) :
    d.Dropped e ∨ ∃ e', d.Dropped e' ∧ e.IsIn e' := by
  cases e with
  | category i => exact .inl h
  | source i j =>
    obtain ⟨c, s, hc, hs, hu⟩ := h
    rcases hcu : c.isUsable
    · exact .inr ⟨.category i, ⟨c, hc, hcu⟩, rfl⟩
    · have ht := (CategoryDraft.isUsable_iff.1 hcu).1
      exact .inl ⟨c, s, hc, ht, hs, hu.resolve_left (by simp [hcu])⟩
  | input i j k =>
    obtain ⟨c, s, x, hc, hs, hx, hu⟩ := h
    rcases hcu : c.isUsable
    · exact .inr ⟨.category i, ⟨c, hc, hcu⟩, rfl⟩
    have ht := (CategoryDraft.isUsable_iff.1 hcu).1
    rcases hsu : s.isUsable
    · exact .inr ⟨.source i j, ⟨c, s, hc, ht, hs, hsu⟩, rfl, rfl⟩
    · have hxu : x.isUsable = false := by simpa [hcu, hsu] using hu
      exact .inl ⟨c, s, x, hc, ht, hs, (SourceDraft.isUsable_iff.1 hsu).1, hx, hxu⟩

/-- A draft is complete if no entry of it is given up. -/
lemma complete_iff_forall_not_dropped : d.Complete ↔ ∀ e, ¬ d.Dropped e := by
  constructor
  · intro h e he
    cases e with
    | category i =>
      obtain ⟨c, hc, hu⟩ := he
      exact absurd (h c (List.mem_of_getElem? hc)).usable (by simp [hu])
    | source i j =>
      obtain ⟨c, s, hc, -, hs, hu⟩ := he
      have hcomplete := (h c (List.mem_of_getElem? hc)).sources s (List.mem_of_getElem? hs)
      exact absurd hcomplete.usable (by simp [hu])
    | input i j k =>
      obtain ⟨c, s, x, hc, -, hs, -, hx, hu⟩ := he
      have hcomplete := (h c (List.mem_of_getElem? hc)).sources s (List.mem_of_getElem? hs)
      exact absurd (hcomplete.inputs x (List.mem_of_getElem? hx)) (by simp [hu])
  · intro h c hc
    obtain ⟨i, hc⟩ := List.mem_iff_getElem?.1 hc
    have hcu : c.isUsable = true := by
      by_contra hu
      exact h (.category i) ⟨c, hc, by simpa using hu⟩
    have ht := (CategoryDraft.isUsable_iff.1 hcu).1
    refine ⟨hcu, fun s hs => ?_⟩
    obtain ⟨j, hs⟩ := List.mem_iff_getElem?.1 hs
    have hsu : s.isUsable = true := by
      by_contra hu
      exact h (.source i j) ⟨c, s, hc, ht, hs, by simpa using hu⟩
    refine ⟨hsu, fun x hx => ?_⟩
    obtain ⟨k, hx⟩ := List.mem_iff_getElem?.1 hx
    by_contra hu
    exact h (.input i j k)
      ⟨c, s, x, hc, ht, hs, (SourceDraft.isUsable_iff.1 hsu).1, hx, by simpa using hu⟩

/-- Nothing is reported exactly if nothing had to be left out. -/
lemma skipped_eq_nil_iff : d.report.skipped = [] ↔ d.Complete := by
  rw [complete_iff_forall_not_dropped, ← List.length_eq_zero_iff, ← d.forall₂_blames.length_eq,
    List.length_eq_zero_iff, List.eq_nil_iff_forall_not_mem]
  simp only [mem_drops_iff_dropped]

/-- **Nothing is left out in silence**: the library has the usable entries of its draft, each entry
given up has one record of its own, and whatever else is missing stands in such an entry. There is
no record exactly if the whole draft is in the library, and what is in it is sound in any case. -/
theorem skipped_accounts (d : LibraryDraft) :
    d.load.1 = d.library ∧
    (∃ es : List EntryPath, es.Nodup ∧ (∀ e, e ∈ es ↔ d.Dropped e) ∧
      List.Forall₂ d.Blames es d.report.skipped) ∧
    d.report.skipped.length =
      (d.categories.countP fun c => !c.isUsable) + (d.readSources.countP fun s => !s.isUsable) +
        (d.readInputs.countP fun x => !x.isUsable) ∧
    (∀ e, d.Missing e → d.Dropped e ∨ ∃ e', d.Dropped e' ∧ e.IsIn e') ∧
    (d.report.skipped = [] ↔ d.load.1.draft.categories = d.categories) ∧
    ∀ s ∈ d.load.1.sources, s.Sound := by
  rw [fst_load]
  refine ⟨rfl, ⟨d.drops, d.nodup_drops, fun _ => mem_drops_iff_dropped, d.forall₂_blames⟩,
    ?_, fun _ => Missing.dropped, skipped_eq_nil_iff.trans complete_iff, d.sound_library.sources⟩
  rw [← d.forall₂_blames.length_eq, length_drops]

/-- A category without a title, one with a source for every fault that a source may have, and one
that loses a source and an input. -/
def patchy : LibraryDraft :=
  ⟨none,
    [⟨none, []⟩,
      ⟨some ['a'],
        [⟨none, none, none, []⟩,
          ⟨some ['s'], some ['{', '?', '}'], none, []⟩,
          ⟨some ['t'], some ['}'], none, [⟨.text, some ['m'], some ['M'], false, false⟩]⟩,
          ⟨some ['u'], some [], some [],
            [⟨.text, some ['m'], none, false, false⟩, ⟨.date, none, some ['N'], false, false⟩,
              ⟨.link, some [':'], some ['O'], false, false⟩]⟩]⟩,
      ⟨some ['b'],
        [⟨none, some [], some [], []⟩,
          ⟨some ['v'], some ['{', '?', 'm', '}'], some ['{', '@', 'm', '}'],
            [⟨.text, some ['m'], some ['M'], true, false⟩,
              ⟨.text, none, some ['N'], false, false⟩]⟩]⟩]⟩

/-- Two categories, five sources and four inputs with a record each. The input of the source with
the faulty template has none; the source has. -/
theorem skipped_accounts_patchy :
    patchy.load.1 = ⟨[], [⟨['b'], [⟨['v'], ['{', '?', 'm', '}'], ['{', '@', 'm', '}'],
      [⟨.text, ['m'], ['M'], [], true, false⟩]⟩]⟩]⟩ ∧
    patchy.report.skipped = [.untitledCategory 1, .untitledSource 1 ['a'],
      .missingTemplate ['s'] .footnote, .invalidTemplate ['t'] .bibliography .unmatchedClosingBrace,
      .untitledInput ['u'], .unnamedInput ['N'], .invalidName ['O'] (.reserved ':'),
      .noInputs ['u'], .emptyCategory ['a'], .untitledSource 1 ['b'],
      .unnamedInput ['N']] ∧
    patchy.report.skipped.length = 2 + 5 + 4 ∧
    patchy.Missing (.input 1 2 0) ∧
    (patchy.Dropped (.input 1 2 0) ∨
      ∃ e, patchy.Dropped e ∧ EntryPath.IsIn (.input 1 2 0) e) ∧
    ∃ s, patchy.load.1.sources = [s] ∧ s.Sound := by
  have hmissing : patchy.Missing (.input 1 2 0) := ⟨_, _, _, rfl, rfl, rfl, .inl rfl⟩
  obtain ⟨-, -, hlength, hinside, -, hsound⟩ := skipped_accounts patchy
  exact ⟨by decide, by decide, hlength.trans (by decide), hmissing, hinside _ hmissing, _, rfl,
    hsound _ List.mem_cons_self⟩

end LibraryDraft

end CitationNotes
