import CitationNotes.Proofs.Condition.Marks

/-!
The cut of a condition when the longest names go first.

After any number of turns, a part of the condition lies in one stretch that is still kept, or a
stretch that has been resolved overlaps it. A field finds its name in the kept stretches only, and
leaves none of it there; so each occurrence of a name that it does not resolve was overlapped
before, by a name that is at least as long. A second field of the same name finds nothing.
-/

namespace CitationNotes.Condition

/-- How many characters of the condition the stretches take up. -/
def width (ss : List Stretch) : ℕ := (ss.flatMap Stretch.source).length

/-- The characters of the condition from `i` up to `j` lie in one kept stretch. -/
def Untouched (ss : List Stretch) (i j : ℕ) : Prop :=
  ∃ as t bs, ss = as ++ .kept t :: bs ∧ width as ≤ i ∧ j ≤ width as + t.length

/-- A stretch resolved from `atom` overlaps the characters of the condition from `i` up to `j`. -/
def Overlaps (ss : List Stretch) (atom : Text) (holds : Bool) (i j : ℕ) : Prop :=
  ∃ as bs, ss = as ++ .resolved atom holds :: bs ∧ width as < j ∧ i < width as + atom.length

/-- The field is the first of its name, and calls for the truth value of the atom. -/
structure Decides (fields : List Field) (f : Field) (atom : Text) (holds : Bool) : Prop where
  name_ne_nil : f.name ≠ []
  first : Field.named? fields f.name = some f
  settles : Settles f atom holds

/-- The condition cut into the stretches `ss`, with longer names before shorter ones. -/
structure LongestFirst (fields : List Field) (condition : Text) (ss : List Stretch) : Prop where
  source : ss.flatMap Stretch.source = condition
  resolved : ∀ atom holds, .resolved atom holds ∈ ss → ∃ f, Decides fields f atom holds
  kept : ∀ t, .kept t ∈ ss → ∀ f ∈ fields, f.name ≠ [] → ¬ f.name <:+: t
  overlap : ∀ f ∈ fields, f.name ≠ [] → ∀ a b, condition = a ++ f.name ++ b →
    ∃ g atom holds, Decides fields g atom holds ∧ f.name.length ≤ g.name.length ∧
      Overlaps ss atom holds a.length (a.length + f.name.length)

variable {ss : List Stretch} {atom t : Text} {holds : Bool} {i j : ℕ}

/-! ### Places in the condition -/

@[simp] lemma width_append (ss ts : List Stretch) : width (ss ++ ts) = width ss + width ts := by
  simp [width]

@[simp] lemma width_flatMap_resolve (atom : Text) (holds : Bool) (ss : List Stretch) :
    width (ss.flatMap (resolve atom holds)) = width ss := by
  rw [width, List.flatMap_assoc]
  simp only [source_resolve]
  rfl

lemma untouched_kept_cons (hj : j ≤ t.length) (ss : List Stretch) :
    Untouched (.kept t :: ss) i j :=
  ⟨[], t, ss, rfl, Nat.zero_le _, by simpa [width] using hj⟩

lemma Untouched.glue (h : Untouched ss i j) (as bs : List Stretch) :
    Untouched (as ++ (ss ++ bs)) (width as + i) (width as + j) := by
  obtain ⟨cs, t, ds, rfl, hi, hj⟩ := h
  refine ⟨as ++ cs, t, ds ++ bs, by simp, ?_, ?_⟩ <;> rw [width_append] <;> omega

lemma Overlaps.glue (h : Overlaps ss atom holds i j) (as bs : List Stretch) :
    Overlaps (as ++ (ss ++ bs)) atom holds (width as + i) (width as + j) := by
  obtain ⟨cs, ds, rfl, hi, hj⟩ := h
  refine ⟨as ++ cs, ds ++ bs, by simp, ?_, ?_⟩ <;> rw [width_append] <;> omega

/-- What stands in a part of the condition that is untouched is part of a kept stretch. -/
lemma Untouched.exists_isInfix {a n b : Text} (hsource : ss.flatMap Stretch.source = a ++ n ++ b)
    (h : Untouched ss a.length (a.length + n.length)) : ∃ t, .kept t ∈ ss ∧ n <:+: t := by
  obtain ⟨as, t, bs, rfl, hi, hj⟩ := h
  have hsplit : as.flatMap Stretch.source ++ (t ++ bs.flatMap Stretch.source) = a ++ (n ++ b) := by
    simpa [Stretch.source] using hsource
  have hfront : as.flatMap Stretch.source <+: a :=
    List.prefix_of_prefix_length_le ⟨_, hsplit⟩ (List.prefix_append a _) hi
  obtain ⟨u, rfl⟩ := hfront
  rw [List.append_assoc, List.append_cancel_left_eq] at hsplit
  have hlen : (u ++ n).length ≤ t.length := by
    simp only [width, List.length_append] at hj ⊢
    omega
  have hpart : u ++ n <+: t ++ bs.flatMap Stretch.source := ⟨b, by rw [hsplit, List.append_assoc]⟩
  have hpart := List.prefix_of_prefix_length_le hpart (List.prefix_append t _) hlen
  exact ⟨t, by simp, (List.suffix_append u n).isInfix.trans hpart.isInfix⟩

/-! ### One pattern -/

lemma untouched_or_overlaps_resolveUpTo (atom : Text) (holds : Bool) (n : ℕ) (hij : i ≤ j)
    (hj : j ≤ t.length) : Untouched (resolveUpTo atom holds n t) i j ∨
      Overlaps (resolveUpTo atom holds n t) atom holds i j := by
  induction n generalizing t i j with
  | zero => exact .inl (untouched_kept_cons hj [])
  | succ n ih =>
    rw [resolveUpTo]
    split
    · exact .inl (untouched_kept_cons hj [])
    · next a b hcut =>
      have hlen := Text.length_of_cut? hcut
      have hwidth : width [.kept a, .resolved atom holds] = a.length + atom.length := by
        simp [width, Stretch.source]
      -- in front of the occurrence, overlapping it, or behind it
      by_cases hja : j ≤ a.length
      · exact .inl (untouched_kept_cons hja _)
      by_cases hia : i < a.length + atom.length
      · refine .inr ⟨[.kept a], _, rfl, ?_, ?_⟩ <;> simp [width, Stretch.source] <;> omega
      obtain ⟨i, rfl⟩ := Nat.exists_eq_add_of_le (Nat.le_of_not_lt hia)
      obtain ⟨j, rfl⟩ := Nat.exists_eq_add_of_le ((Nat.le_of_not_lt hia).trans hij)
      have hij' : i ≤ j := Nat.le_of_add_le_add_left hij
      have hjb : j ≤ b.length := by omega
      rw [← hwidth]
      refine (ih hij' hjb).imp (fun h => ?_) fun h => ?_
      · simpa using h.glue [.kept a, .resolved atom holds] []
      · simpa using h.glue [.kept a, .resolved atom holds] []

lemma Untouched.resolve (h : Untouched ss i j) (hij : i ≤ j) (atom : Text) (holds : Bool) :
    Untouched (ss.flatMap (resolve atom holds)) i j ∨
      Overlaps (ss.flatMap (resolve atom holds)) atom holds i j := by
  obtain ⟨as, t, bs, rfl, hi, hj⟩ := h
  obtain ⟨i, rfl⟩ := Nat.exists_eq_add_of_le hi
  obtain ⟨j, rfl⟩ := Nat.exists_eq_add_of_le (hi.trans hij)
  have hmid := untouched_or_overlaps_resolveUpTo atom holds t.length
    (Nat.le_of_add_le_add_left hij) (Nat.le_of_add_le_add_left hj)
  rw [List.flatMap_append, List.flatMap_cons, ← width_flatMap_resolve atom holds as]
  exact hmid.imp (fun h => h.glue _ _) fun h => h.glue _ _

lemma kept_mem_flatMap_resolve (h : .kept t ∈ ss.flatMap (resolve atom holds)) :
    ∃ u, .kept u ∈ ss ∧ t <:+: u := by
  obtain ⟨s, hs, ht⟩ := List.mem_flatMap.1 h
  cases s with
  | kept u =>
    have hpart := source_isInfix ht
    rw [source_resolve] at hpart
    exact ⟨u, hs, hpart⟩
  | resolved a b => cases List.mem_singleton.1 ht

lemma not_isInfix_of_mem_resolveUpTo {n : ℕ} {u : Text} (hne : atom ≠ []) (hn : u.length ≤ n)
    (h : .kept t ∈ resolveUpTo atom holds n u) : ¬ atom <:+: t := by
  induction n generalizing u with
  | zero =>
    obtain rfl : u = [] := List.eq_nil_of_length_eq_zero (by omega)
    obtain rfl : t = [] := by simpa [resolveUpTo] using h
    simpa using hne
  | succ n ih =>
    rw [resolveUpTo] at h
    split at h
    · next hcut =>
      obtain rfl : t = u := by simpa using h
      exact Text.cut?_eq_none_iff.1 hcut
    · next a b hcut =>
      rcases List.mem_cons.1 h with he | h
      · obtain rfl : t = a := by simpa using he
        exact Text.not_isInfix_of_cut? hne hcut
      · have hlen := Text.length_of_cut? hcut
        have hpos := List.length_pos_iff.2 hne
        have hb : b.length ≤ n := by omega
        exact ih hb (by simpa using h)

lemma not_isInfix_of_mem_flatMap_resolve (hne : atom ≠ [])
    (h : .kept t ∈ ss.flatMap (resolve atom holds)) : ¬ atom <:+: t := by
  obtain ⟨s, hs, ht⟩ := List.mem_flatMap.1 h
  cases s with
  | kept u => exact not_isInfix_of_mem_resolveUpTo hne le_rfl ht
  | resolved a b => cases List.mem_singleton.1 ht

lemma Overlaps.resolve (h : Overlaps ss atom holds i j) (atom' : Text) (holds' : Bool) :
    Overlaps (ss.flatMap (resolve atom' holds')) atom holds i j := by
  obtain ⟨as, bs, rfl, hi, hj⟩ := h
  refine ⟨as.flatMap (Condition.resolve atom' holds'), bs.flatMap (Condition.resolve atom' holds'),
    by simp [Condition.resolve], ?_, ?_⟩
  · rwa [width_flatMap_resolve]
  · rwa [width_flatMap_resolve]

/-! ### One turn -/

lemma Overlaps.resolveField (h : Overlaps ss atom holds i j) (f : Field) :
    Overlaps (resolveField f ss) atom holds i j :=
  (h.resolve _ _).resolve _ _

lemma Untouched.resolveField (h : Untouched ss i j) (hij : i ≤ j) (f : Field) :
    Untouched (resolveField f ss) i j ∨
      ∃ atom holds, Settles f atom holds ∧ Overlaps (resolveField f ss) atom holds i j := by
  rcases h.resolve hij ('!' :: f.name) !f.isFilled with h | h
  · rcases h.resolve hij f.name f.isFilled with h | h
    · exact .inl h
    · exact .inr ⟨f.name, f.isFilled, .inl ⟨rfl, rfl⟩, h⟩
  · exact .inr ⟨'!' :: f.name, !f.isFilled, .inr ⟨rfl, rfl⟩, h.resolve _ _⟩

lemma kept_mem_resolveField {f : Field} (h : .kept t ∈ resolveField f ss) :
    ∃ u, .kept u ∈ ss ∧ t <:+: u := by
  obtain ⟨u, hu, htu⟩ := kept_mem_flatMap_resolve h
  obtain ⟨v, hv, huv⟩ := kept_mem_flatMap_resolve hu
  exact ⟨v, hv, htu.trans huv⟩

lemma resolved_mem_resolveField {f : Field} (h : .resolved atom holds ∈ resolveField f ss) :
    .resolved atom holds ∈ ss ∨ Settles f atom holds := by
  rcases resolved_mem_flatMap_resolve h with h | hname
  · exact (resolved_mem_flatMap_resolve h).imp_right .inr
  · exact .inr (.inl hname)

/-- After the turns of `fs`, each part of the condition is untouched, or overlapped by a stretch that
one of them has resolved. -/
structure LongestSoFar (fs : List Field) (condition : Text) (ss : List Stretch) : Prop
    extends LongestFirst fs condition ss where
  cover : ∀ i j, i ≤ j → j ≤ condition.length → Untouched ss i j ∨
    ∃ f atom holds, Decides fs f atom holds ∧ Overlaps ss atom holds i j

lemma Decides.mem {fs : List Field} {f : Field} (h : Decides fs f atom holds) : f ∈ fs :=
  List.mem_of_find?_eq_some h.first

lemma Decides.append {fs : List Field} {f : Field} (h : Decides fs f atom holds) (gs : List Field) :
    Decides (fs ++ gs) f atom holds where
  name_ne_nil := h.name_ne_nil
  first := by
    have hfirst := h.first
    rw [Field.named?] at hfirst ⊢
    rw [List.find?_append, hfirst, Option.some_or]
  settles := h.settles

namespace LongestSoFar

variable {fs : List Field} {g : Field} {condition : Text} (h : LongestSoFar fs condition ss)
  (hg : g.name ≠ [])

include h hg

/-- A field that finds its name is the first of that name. -/
lemma resolveField_eq_or_named?_eq :
    resolveField g ss = ss ∨ Field.named? (fs ++ [g]) g.name = some g := by
  by_cases hfind : ∃ t, .kept t ∈ ss ∧ g.name <:+: t
  · obtain ⟨t, ht, hi⟩ := hfind
    -- another field of that name has left nothing of it
    have hnone : fs.find? (fun f => f.name == g.name) = none := by
      refine List.find?_eq_none.2 fun f hf he => ?_
      have hname : f.name = g.name := by simpa using he
      exact h.kept t ht f hf (hname ▸ hg) (hname ▸ hi)
    right
    rw [Field.named?, List.find?_append, hnone]
    simp
  · exact .inl (resolveField_eq_self fun t ht hi => hfind ⟨t, ht, hi⟩)

lemma resolved_resolveField (hmem : .resolved atom holds ∈ resolveField g ss) :
    ∃ f, Decides (fs ++ [g]) f atom holds := by
  have hold (hmem : .resolved atom holds ∈ ss) : ∃ f, Decides (fs ++ [g]) f atom holds :=
    (h.resolved atom holds hmem).imp fun f hf => hf.append [g]
  rcases h.resolveField_eq_or_named?_eq hg with hself | hfirst
  · exact hold (hself ▸ hmem)
  · exact (resolved_mem_resolveField hmem).elim hold fun hs => ⟨g, hg, hfirst, hs⟩

lemma cover_resolveField (hij : i ≤ j) (hj : j ≤ condition.length) :
    Untouched (resolveField g ss) i j ∨
      ∃ f atom holds, Decides (fs ++ [g]) f atom holds ∧
        Overlaps (resolveField g ss) atom holds i j := by
  rcases h.cover i j hij hj with hu | ⟨f, atom, holds, hf, ho⟩
  · rcases h.resolveField_eq_or_named?_eq hg with hself | hfirst
    · exact .inl (hself.symm ▸ hu)
    · refine (hu.resolveField hij g).imp_right ?_
      rintro ⟨atom, holds, hs, ho⟩
      exact ⟨g, atom, holds, ⟨hg, hfirst, hs⟩, ho⟩
  · exact .inr ⟨f, atom, holds, hf.append [g], ho.resolveField g⟩

lemma kept_resolveField (hmem : .kept t ∈ resolveField g ss) :
    ∀ f ∈ fs ++ [g], f.name ≠ [] → ¬ f.name <:+: t := by
  intro f hf hne
  rcases List.mem_append.1 hf with hf | hf
  · obtain ⟨u, hu, htu⟩ := kept_mem_resolveField hmem
    exact fun hi => h.kept u hu f hf hne (hi.trans htu)
  · obtain rfl := List.mem_singleton.1 hf
    exact not_isInfix_of_mem_flatMap_resolve hne hmem

/-- **One turn**, of a field with no longer name than those before. -/
lemma concat (hlen : ∀ f ∈ fs, g.name.length ≤ f.name.length) :
    LongestSoFar (fs ++ [g]) condition (resolveField g ss) where
  source := by rw [source_resolveField, h.source]
  resolved _ _ := h.resolved_resolveField hg
  kept _ := h.kept_resolveField hg
  cover _ _ := h.cover_resolveField hg
  overlap := by
    intro f hf hne a b hcondition
    rcases List.mem_append.1 hf with hf | hf
    · obtain ⟨f', atom, holds, hd, hle, ho⟩ := h.overlap f hf hne a b hcondition
      exact ⟨f', atom, holds, hd.append [g], hle, ho.resolveField g⟩
    obtain rfl := List.mem_singleton.1 hf
    have hsource : (resolveField f ss).flatMap Stretch.source = a ++ f.name ++ b := by
      rw [source_resolveField, h.source, hcondition]
    have hj : a.length + f.name.length ≤ condition.length := by
      rw [hcondition, List.length_append, List.length_append]
      omega
    rcases h.cover_resolveField hg (Nat.le_add_right ..) hj with hu | ⟨f', atom, holds, hd, ho⟩
    · -- an occurrence in a kept stretch would have been found
      obtain ⟨t, ht, hi⟩ := hu.exists_isInfix hsource
      exact absurd hi (h.kept_resolveField hg ht f (by simp) hg)
    · refine ⟨f', atom, holds, hd, ?_, ho⟩
      rcases List.mem_append.1 hd.mem with hf' | hf'
      · exact hlen f' hf'
      · rw [List.mem_singleton.1 hf']

end LongestSoFar

/-! ### All turns -/

lemma longestSoFar_afterTurns {fs : List Field} (hne : ∀ f ∈ fs, f.name ≠ [])
    (hlen : fs.Pairwise fun f g => g.name.length ≤ f.name.length) (condition : Text) :
    LongestSoFar fs condition (afterTurns fs [.kept condition]) := by
  induction fs using List.reverseRecOn with
  | nil =>
    refine ⟨⟨by simp [Stretch.source], by simp, by simp, by simp⟩, fun i j hij hj => ?_⟩
    exact .inl (untouched_kept_cons hj [])
  | append_singleton fs g ih =>
    obtain ⟨hfs, -, hg⟩ := List.pairwise_append.1 hlen
    rw [afterTurns_append]
    exact (ih (fun f hf => hne f (by simp [hf])) hfs).concat (hne g (by simp))
      fun f hf => hg f hf g (by simp)

lemma decides_turns_iff {fields : List Field} {f : Field} :
    Decides (turns fields) f atom holds ↔ Decides fields f atom holds := by
  constructor
  · rintro ⟨hne, hfirst, hs⟩
    exact ⟨hne, named?_turns hne ▸ hfirst, hs⟩
  · rintro ⟨hne, hfirst, hs⟩
    exact ⟨hne, (named?_turns hne).trans hfirst, hs⟩

lemma longestFirst_stretches (condition : Text) (fields : List Field) :
    LongestFirst fields condition (stretches condition fields) := by
  have h := longestSoFar_afterTurns (fun f hf => (mem_turns.1 hf).2) (pairwise_turns fields)
    condition
  rw [← stretches_eq] at h
  refine ⟨h.source, fun atom holds hr => ?_, fun t ht f hf hne => ?_, fun f hf hne a b hc => ?_⟩
  · exact (h.resolved atom holds hr).imp fun f => decides_turns_iff.1
  · exact h.kept t ht f (mem_turns.2 ⟨hf, hne⟩) hne
  · obtain ⟨g, atom, holds, hd, hrest⟩ := h.overlap f (mem_turns.2 ⟨hf, hne⟩) hne a b hc
    exact ⟨g, atom, holds, decides_turns_iff.1 hd, hrest⟩

/-! ### All searches -/

/-- What is searched for, in the order of the searches, and the truth value that it gets. -/
def searches (fields : List Field) : List (Text × Bool) :=
  (turns fields).flatMap fun f => [('!' :: f.name, !f.isFilled), (f.name, f.isFilled)]

def afterSearches (ps : List (Text × Bool)) (ss : List Stretch) : List Stretch :=
  ps.foldl (fun ss p => ss.flatMap (resolve p.1 p.2)) ss

lemma stretches_eq_afterSearches (condition : Text) (fields : List Field) :
    stretches condition fields = afterSearches (searches fields) [.kept condition] := by
  rw [stretches, searches, afterSearches, List.foldl_flatMap]
  rfl

lemma afterSearches_append (ps qs : List (Text × Bool)) (ss : List Stretch) :
    afterSearches (ps ++ qs) ss = afterSearches qs (afterSearches ps ss) := by
  simp [afterSearches]

lemma afterSearches_append_resolved_cons (ps : List (Text × Bool)) (as : List Stretch)
    (atom : Text) (holds : Bool) (bs : List Stretch) :
    afterSearches ps (as ++ .resolved atom holds :: bs) =
      afterSearches ps as ++ .resolved atom holds :: afterSearches ps bs := by
  induction ps generalizing as bs with
  | nil => rfl
  | cons p ps ih =>
    have hsearch : (as ++ .resolved atom holds :: bs).flatMap (resolve p.1 p.2) =
        as.flatMap (resolve p.1 p.2) ++ .resolved atom holds :: bs.flatMap (resolve p.1 p.2) := by
      simp [resolve]
    have hcons (ss : List Stretch) :
        afterSearches (p :: ps) ss = afterSearches ps (ss.flatMap (resolve p.1 p.2)) := rfl
    rw [hcons, hsearch, ih, hcons, hcons]

/-- **Substitution prefers longer names**: it writes out a cut of the condition in which nothing
kept has a name in it, and which overlaps each occurrence of a name by one that is at least as long.
What has once been resolved is not searched again; the searches that follow go on around it. -/
theorem substitute_longestFirst (condition : Text) (fields : List Field) :
    substitute condition fields = (stretches condition fields).flatMap Stretch.output ∧
    LongestFirst fields condition (stretches condition fields) ∧
    ∀ ps qs as atom holds bs, searches fields = ps ++ qs →
      afterSearches ps [.kept condition] = as ++ .resolved atom holds :: bs →
      stretches condition fields =
        afterSearches qs as ++ .resolved atom holds :: afterSearches qs bs := by
  refine ⟨rfl, longestFirst_stretches condition fields, ?_⟩
  intro ps qs as atom holds bs hsearches hsplit
  rw [stretches_eq_afterSearches, hsearches, afterSearches_append, hsplit,
    afterSearches_append_resolved_cons]

/-- A name that occurs twice with a common character, one that is given twice, and one that is part
of the truth words. -/
def crowdedNames : List Field :=
  [⟨['b'], [], false, false⟩, ⟨['a', 'a'], ['x'], false, false⟩, ⟨['a', 'a'], [], false, false⟩,
    ⟨"STATEMENT".toList, ['x'], false, false⟩, ⟨[], [], false, false⟩]

theorem substitute_longestFirst_crowdedNames :
    substitute "aaa+!STATEMENT|!aab".toList crowdedNames =
      word true ++ "a+".toList ++ word false ++ ['|'] ++ word false ++ word false ∧
    LongestFirst crowdedNames "aaa+!STATEMENT|!aab".toList
      (stretches "aaa+!STATEMENT|!aab".toList crowdedNames) ∧
    (∃ g atom holds, Decides crowdedNames g atom holds ∧ 2 ≤ g.name.length ∧
      Overlaps (stretches "aaa+!STATEMENT|!aab".toList crowdedNames) atom holds 1 3) ∧
    stretches "aaa+!STATEMENT|!aab".toList crowdedNames =
      afterSearches (searches crowdedNames).tail [.kept "aaa+".toList] ++
        .resolved "!STATEMENT".toList false ::
          afterSearches (searches crowdedNames).tail [.kept "|!aab".toList] := by
  obtain ⟨hout, hcut, hrest⟩ := substitute_longestFirst "aaa+!STATEMENT|!aab".toList crowdedNames
  have hsecond := hcut.overlap ⟨['a', 'a'], [], false, false⟩ (by decide) (by decide) ['a']
    "+!STATEMENT|!aab".toList (by decide)
  exact ⟨hout.trans (by decide), hcut, hsecond,
    hrest [("!STATEMENT".toList, false)] _ _ _ _ _ (by decide) (by decide)⟩

end CitationNotes.Condition
