import CitationNotes.Proofs.Condition.Atoms

/-!
Names that are not supplied.

An absent name counts as an empty field, but a field can have its name inside an atom that is not
about it, and takes the atom all the same unless another one with a name as long does. Then the
atom holds as the negation of the field or not at all, whatever it did before.
-/

namespace CitationNotes.Condition

open Text

variable {fields : List Field} {f g : Field} {n x : Text} {bold italic : Bool}

/-! ### Without the field -/

/-- Where nothing is supplied, only negations hold, and of those the ones without a truth word. -/
lemma termHolds_iff (hx : ∀ c ∈ x, isMark c = false) (hne : x ≠ word true) :
    termHolds x = true ↔ ∃ y, x = '!' :: y ∧ y ≠ [] ∧ ∀ b, ¬ word b <:+: y := by
  have hword (b : Bool) (y : Text) : word b <:+: '!' :: y ↔ word b <:+: y := by
    rw [List.infix_cons_iff, or_iff_right]
    intro hp
    cases b <;> exact absurd (List.cons_prefix_cons.1 hp).1 (by decide)
  have habsent : isAbsent x = true ↔ x ≠ [] ∧ ∀ b, ¬ word b <:+: x := by
    have hplus : '+' ∉ x := not_mem_of_isMark hx rfl
    have hbar : '|' ∉ x := not_mem_of_isMark hx rfl
    simp only [isAbsent, Bool.and_eq_true, Bool.not_eq_true', List.isEmpty_eq_false_iff,
      List.contains_eq_mem, hplus, hbar, decide_false, and_true, Bool.forall_bool, ← occurs_iff,
      Bool.not_eq_true]
    constructor
    · rintro ⟨⟨hnil, htrue⟩, hfalse⟩
      exact ⟨hnil, hfalse, htrue⟩
    · rintro ⟨hnil, hfalse, htrue⟩
      exact ⟨⟨hnil, htrue⟩, hfalse⟩
  unfold termHolds
  rw [if_neg hne, Bool.and_eq_true, habsent]
  constructor
  · rintro ⟨⟨-, hw⟩, hsign⟩
    split at hsign
    · next y => exact ⟨y, rfl, by simpa using hsign, fun b hb => hw b ((hword b y).2 hb)⟩
    · cases hsign
  · rintro ⟨y, rfl, hy, hw⟩
    exact ⟨⟨List.cons_ne_nil _ _, fun b hb => hw b ((hword b y).1 hb)⟩, by simpa using hy⟩

/-! ### With the field -/

/-- A field with the name `n` behind all others takes the text. -/
structure Takes (fields : List Field) (n x : Text) : Prop where
  within : n <:+: x
  longest : ∀ f ∈ fields, f.name <:+: x → f.name.length < n.length

lemma taker?_concat_of_takes (hne : g.name ≠ []) (h : Takes fields g.name x) :
    taker? (fields ++ [g]) x = some g := by
  refine taker?_eq_some_iff.2 ⟨hne, ?_, ?_⟩
  · rw [List.forall_mem_append, List.forall_mem_singleton]
    exact ⟨fun f hf hx => (h.longest f hf hx).le, fun _ => le_rfl⟩
  · have hnone : fields.find? (fun f => occurs f.name x && f.name.length == g.name.length) = none := by
      simp only [List.find?_eq_none, Bool.and_eq_true, beq_iff_eq, occurs_iff]
      exact fun f hf hx => (h.longest f hf hx.1).ne hx.2
    rw [List.find?_append, hnone]
    simp [occurs_iff.2 h.within]

lemma taker?_concat_of_not_takes (hf : ∀ f ∈ fields, f.name ≠ []) (h : ¬ Takes fields g.name x) :
    taker? (fields ++ [g]) x = taker? fields x := by
  have hlong (hx : g.name <:+: x) : ∃ f ∈ fields, f.name <:+: x ∧ g.name.length ≤ f.name.length := by
    by_contra hall
    push Not at hall
    exact h ⟨hx, hall⟩
  rcases htaker : taker? fields x with _ | f
  · rw [taker?_eq_none_iff] at htaker ⊢
    intro f hft hx
    rcases List.mem_append.1 (mem_turns.1 hft).1 with hmem | hmem
    · exact htaker f (mem_turns.2 ⟨hmem, hf f hmem⟩) hx
    · obtain rfl := List.mem_singleton.1 hmem
      obtain ⟨f', hf', hx', -⟩ := hlong hx
      exact htaker f' (mem_turns.2 ⟨hf', hf f' hf'⟩) hx'
  · obtain ⟨hne, hall, hfirst⟩ := taker?_eq_some_iff.1 htaker
    refine taker?_eq_some_iff.2 ⟨hne, ?_, ?_⟩
    · rw [List.forall_mem_append, List.forall_mem_singleton]
      refine ⟨hall, fun hx => ?_⟩
      obtain ⟨f', hf', hx', hle⟩ := hlong hx
      exact hle.trans (hall f' hf' hx')
    · rw [List.find?_append, hfirst]
      rfl

/-- An atom that the field takes holds only as the negation of it. -/
lemma termHolds_concat_of_takes (hne : g.name ≠ []) (hempty : g.isFilled = false)
    (h : Takes fields g.name x) :
    termHolds (substitute x (fields ++ [g])) = true ↔ x = '!' :: g.name := by
  rw [termHolds_substitute_iff (taker?_concat_of_takes hne h), Settles, hempty]
  simp

/-- Any other atom holds as before. -/
lemma termHolds_concat_of_not_takes (hf : ∀ f ∈ fields, f.name ≠ [])
    (h : ¬ Takes fields g.name x) :
    termHolds (substitute x (fields ++ [g])) = termHolds (substitute x fields) := by
  have hconcat := taker?_concat_of_not_takes hf h
  rcases htaker : taker? fields x with _ | f
  · rw [htaker] at hconcat
    rw [substitute_of_taker?_eq_none hconcat, substitute_of_taker?_eq_none htaker]
  · rw [htaker] at hconcat
    rw [Bool.eq_iff_iff, termHolds_substitute_iff hconcat, termHolds_substitute_iff htaker]

/-! ### The difference -/

/-- An empty field `n` changes the value of an atom. -/
inductive Sways (fields : List Field) (n : Text) : Text → Prop where
  /-- The negation of the field holds from now on; another name or a truth word is inside. -/
  | gains (ht : Takes fields n ('!' :: n))
    (h : (∃ f ∈ fields, f.name <:+: '!' :: n) ∨ ∃ b, word b <:+: n) : Sways fields n ('!' :: n)
  /-- The negation of another absent name has held so far. -/
  | loses {y : Text} (hin : n <:+: '!' :: y) (hny : n ≠ y) (hy : y ≠ [])
    (hf : ∀ f ∈ fields, ¬ f.name <:+: '!' :: y) (hw : ∀ b, ¬ word b <:+: y) :
    Sways fields n ('!' :: y)
  /-- The field is called like the negation of an empty one, which has held so far. -/
  | negates {f : Field} (h : taker? fields n = some f) (hn : n = '!' :: f.name)
    (hempty : f.isFilled = false) : Sways fields n n

section Names

variable (hf : ∀ f ∈ fields, f.name ≠ []) (hne : n ≠ []) (hnew : ∀ f ∈ fields, f.name ≠ n)
  (hx : ∀ c ∈ x, isMark c = false) (hword : x ≠ word true)

/-- What a shorter name takes holds only if it is the negation of that name. -/
lemma termHolds_substitute_of_takes (ht : Takes fields n x) (h : taker? fields x = some f) :
    termHolds (substitute x fields) = true ↔ x = n ∧ n = '!' :: f.name ∧ f.isFilled = false := by
  have hshort := ht.longest f (mem_turns.1 (mem_of_taker? h)).1 (exists_turns_of_taker? h).1
  have hle := ht.within.length_le
  rw [termHolds_substitute_iff h]
  constructor
  · rintro (⟨rfl, -⟩ | ⟨rfl, hempty⟩)
    · omega
    · rw [List.length_cons] at hle
      have hself : n = '!' :: f.name := ht.within.eq_of_length (by rw [List.length_cons]; omega)
      exact ⟨hself.symm, hself, by simpa using hempty.symm⟩
  · rintro ⟨rfl, hn, hempty⟩
    exact .inr ⟨hn, by rw [hempty]; rfl⟩

include hx hword in
/-- An atom without a supplied name holds as what it is. -/
lemma termHolds_substitute_of_forall (hnone : ∀ f ∈ fields, ¬ f.name <:+: x) :
    termHolds (substitute x fields) = true ↔
      ∃ y, x = '!' :: y ∧ y ≠ [] ∧ ∀ b, ¬ word b <:+: y := by
  rw [substitute_eq_self fun f hft => hnone f (mem_turns.1 hft).1, termHolds_iff hx hword]

include hf in
/-- Either no name is in a text, or one takes it. -/
lemma forall_or_exists_taker? (x : Text) :
    (∀ f ∈ fields, ¬ f.name <:+: x) ∨ ∃ f, taker? fields x = some f := by
  rcases h : taker? fields x with _ | f
  · exact .inl fun f hmem => taker?_eq_none_iff.1 h f (mem_turns.2 ⟨hmem, hf f hmem⟩)
  · exact .inr ⟨f, rfl⟩

include hf hne hnew hx hword

/-- The field takes the atom and turns its value around. -/
lemma sways_iff : Sways fields n x ↔
    Takes fields n x ∧ (x = '!' :: n ↔ ¬ termHolds (substitute x fields) = true) := by
  constructor
  · intro h
    cases h with
    | gains ht h =>
      refine ⟨ht, iff_of_true rfl ?_⟩
      rcases forall_or_exists_taker? hf ('!' :: n) with hnone | ⟨f, htaker⟩
      · rw [termHolds_substitute_of_forall hx hword hnone]
        rintro ⟨y, hy, -, hw⟩
        obtain rfl := (List.cons.inj hy).2
        rcases h with ⟨f, hmem, hfx⟩ | ⟨b, hb⟩
        · exact hnone f hmem hfx
        · exact hw b hb
      · rw [termHolds_substitute_of_takes ht htaker]
        exact fun h => List.cons_ne_self '!' n h.1
    | loses hin hny hy hnone hw =>
      refine ⟨⟨hin, fun f hmem hfx => absurd hfx (hnone f hmem)⟩, iff_of_false ?_ ?_⟩
      · exact fun he => hny (List.cons.inj he).2.symm
      · rw [not_not, termHolds_substitute_of_forall hx hword hnone]
        exact ⟨_, rfl, hy, hw⟩
    | negates h hn hempty =>
      have ht : Takes fields n n := ⟨List.infix_rfl, fun g hg hgn =>
        lt_of_le_of_ne hgn.length_le fun he => hnew g hg (hgn.eq_of_length he)⟩
      refine ⟨ht, iff_of_false (List.cons_ne_self '!' n).symm ?_⟩
      rw [not_not, termHolds_substitute_of_takes ht h]
      exact ⟨rfl, hn, hempty⟩
  · rintro ⟨ht, hvalue⟩
    by_cases hxn : x = '!' :: n
    · subst hxn
      refine .gains ht ?_
      by_contra hclear
      push Not at hclear
      refine hvalue.1 rfl ?_
      rw [termHolds_substitute_of_forall hx hword hclear.1]
      exact ⟨n, rfl, hne, hclear.2⟩
    · have hholds := not_not.1 (mt hvalue.2 hxn)
      rcases forall_or_exists_taker? hf x with hnone | ⟨f, htaker⟩
      · rw [termHolds_substitute_of_forall hx hword hnone] at hholds
        obtain ⟨y, rfl, hy, hw⟩ := hholds
        exact .loses ht.within (fun he => hxn (by rw [he])) hy hnone hw
      · obtain ⟨rfl, hn, hempty⟩ := (termHolds_substitute_of_takes ht htaker).1 hholds
        exact .negates htaker hn hempty

lemma termHolds_concat_eq_iff :
    termHolds (substitute x fields) =
      termHolds (substitute x (fields ++ [⟨n, [], bold, italic⟩])) ↔ ¬ Sways fields n x := by
  rw [sways_iff hf hne hnew hx hword]
  by_cases ht : Takes fields n x
  · rw [Bool.eq_iff_iff, termHolds_concat_of_takes hne rfl ht, and_iff_right ht, not_iff,
      not_iff_not]
    exact Iff.comm
  · rw [termHolds_concat_of_not_takes hf ht]
    exact iff_of_true rfl fun h => ht h.1

end Names

section Atoms

variable (hf : ∀ f ∈ fields, FieldName.fault? f.name = none) (hn : FieldName.fault? n = none)
  (hnew : ∀ f ∈ fields, f.name ≠ n)

include hf hn hnew

lemma substituteAtom_concat_eq_iff {m : Text} (hm : FieldName.fault? m = none) (negated : Bool) :
    termHolds (substituteAtom fields negated m) =
      termHolds (substituteAtom (fields ++ [⟨n, [], bold, italic⟩]) negated m) ↔
      ¬ Sways fields n (Lexeme.name negated m).text := by
  have hmarks := isMark_of_fault?_eq_none hm
  refine termHolds_concat_eq_iff (fun f hmem => (FieldName.fault?_eq_none_iff.1 (hf f hmem)).1)
    (FieldName.fault?_eq_none_iff.1 hn).1 hnew ?_ ?_
  · cases negated with
    | false => exact hmarks
    | true => exact List.forall_mem_cons.2 ⟨rfl, hmarks⟩
  · cases negated with
    | false => exact (FieldName.fault?_eq_none_iff.1 hm).2.2 true
    | true => exact fun he => absurd (List.cons.inj he).1 (by decide)

/-- **A field that is absent counts as an empty one** exactly in the conditions over atoms that its
name does not sway. -/
theorem holds_concat_empty_iff {atoms : List (Bool × Text)}
    (hatoms : ∀ a ∈ atoms, FieldName.fault? a.2 = none) :
    (∀ e : Expr, (∀ negated m, .name negated m ∈ e.lexemes → (negated, m) ∈ atoms) →
      holds e.text fields = holds e.text (fields ++ [⟨n, [], bold, italic⟩])) ↔
    ∀ a ∈ atoms, ¬ Sways fields n (Lexeme.name a.1 a.2).text := by
  have hmarks : ∀ f ∈ fields, ∀ c ∈ f.name, isMark c = false := fun f hmem =>
    isMark_of_fault?_eq_none (hf f hmem)
  have hmarks' : ∀ f ∈ fields ++ [⟨n, [], bold, italic⟩], ∀ c ∈ f.name, isMark c = false := by
    rw [List.forall_mem_append, List.forall_mem_singleton]
    exact ⟨hmarks, isMark_of_fault?_eq_none hn⟩
  constructor
  · rintro h ⟨negated, m⟩ ha
    have hm := hatoms _ ha
    have hunmarked := isMark_of_fault?_eq_none hm
    -- the condition that is this atom
    have hatom := h (.atom (.name negated m)) (by simpa [Expr.lexemes, Atom.lexemes] using ha)
    have htext : (Expr.atom (.name negated m)).text = (Lexeme.name negated m).text :=
      List.append_nil _
    rw [htext, holds_atom hmarks hunmarked, holds_atom hmarks' hunmarked] at hatom
    exact (substituteAtom_concat_eq_iff hf hn hnew hm negated).1 hatom
  · intro h e he
    have hnames : ∀ m ∈ e.names, ∀ c ∈ m, isMark c = false := by
      intro m hm
      obtain ⟨negated, hlexeme⟩ := Expr.exists_mem_lexemes hm
      exact isMark_of_fault?_eq_none (hatoms _ (he negated m hlexeme))
    rw [holds_eq_valueBy hmarks hnames, holds_eq_valueBy hmarks' hnames]
    refine Expr.valueBy_congr fun negated m hm => ?_
    have ha := he negated m hm
    exact (substituteAtom_concat_eq_iff hf hn hnew (hatoms _ ha) negated).2 (h _ ha)

end Atoms

/-- One name that is supplied. -/
def halfSupplied : List Field := [⟨['a'], ['x'], false, false⟩]

/-- An empty `b` makes no difference to conditions over `a`, `b` and `!b`. It does to `!cb`, and an
empty `ab` to its own negation. -/
theorem holds_concat_empty_iff_halfSupplied :
    (∀ f ∈ halfSupplied, FieldName.fault? f.name = none) ∧
    (∀ f ∈ halfSupplied, f.name ≠ ['b'] ∧ f.name ≠ ['a', 'b']) ∧
    (∀ e : Expr, (∀ negated m, .name negated m ∈ e.lexemes →
        (negated, m) ∈ [(false, ['a']), (false, ['b']), (true, ['b'])]) →
      holds e.text halfSupplied = holds e.text (halfSupplied ++ [⟨['b'], [], true, false⟩])) ∧
    (∃ e : Expr, (∀ negated m, .name negated m ∈ e.lexemes →
        (negated, m) ∈ [(true, ['c', 'b'])]) ∧
      holds e.text halfSupplied ≠ holds e.text (halfSupplied ++ [⟨['b'], [], true, false⟩])) ∧
    ∃ e : Expr, (∀ negated m, .name negated m ∈ e.lexemes →
        (negated, m) ∈ [(true, ['a', 'b'])]) ∧
      holds e.text halfSupplied ≠
        holds e.text (halfSupplied ++ [⟨['a', 'b'], [], true, false⟩]) := by
  have hf : ∀ f ∈ halfSupplied, FieldName.fault? f.name = none := by decide
  have hb : FieldName.fault? ['b'] = none := by decide
  have hab : FieldName.fault? ['a', 'b'] = none := by decide
  refine ⟨hf, by decide, ?_, ?_, ?_⟩
  · refine (holds_concat_empty_iff hf hb (by decide) (by decide)).2 ?_
    have hclear {x : Text} (hx : ∀ c ∈ x, isMark c = false) (hword : x ≠ word true)
        (h : ¬ (Takes halfSupplied ['b'] x ∧
          (x = ['!', 'b'] ↔ ¬ termHolds (substitute x halfSupplied) = true))) :
        ¬ Sways halfSupplied ['b'] x :=
      mt (sways_iff (by decide) (by decide) (by decide) hx hword).1 h
    have hapart : ¬ Sways halfSupplied ['b'] ['a'] :=
      hclear (by simp [isMark]) (by decide) fun h => absurd h.1.within (by decide)
    have hname : ¬ Sways halfSupplied ['b'] ['b'] :=
      hclear (by simp [isMark]) (by decide) fun h => absurd (h.2.2 (by decide)) (by decide)
    have hnegation : ¬ Sways halfSupplied ['b'] ['!', 'b'] :=
      hclear (by simp [isMark]) (by decide) fun h => h.2.1 rfl (by decide)
    simp only [List.forall_mem_cons]
    exact ⟨hapart, hname, hnegation, by simp⟩
  · have hsways : Sways halfSupplied ['b'] (Lexeme.name true ['c', 'b']).text :=
      .loses (by decide) (by decide) (by decide) (by decide) (by decide)
    by_contra hall
    push Not at hall
    exact (holds_concat_empty_iff hf hb (by decide) (by decide)).1 hall (true, ['c', 'b'])
      (List.mem_singleton_self _) hsways
  · have hsways : Sways halfSupplied ['a', 'b'] (Lexeme.name true ['a', 'b']).text :=
      .gains ⟨by decide, by decide⟩ (.inl (by decide))
    by_contra hall
    push Not at hall
    exact (holds_concat_empty_iff hf hab (by decide) (by decide)).1 hall (true, ['a', 'b'])
      (List.mem_singleton_self _) hsways

/-- A name inside an absent one is taken out of it: `!ab` holds while nothing is supplied, and no
more once there is an empty field `a`. A field called `!a` takes the negation of `a` for itself. -/
theorem holds_ne_of_name_in_negation :
    FieldName.fault? ['a'] = none ∧ FieldName.fault? ['a', 'b'] = none ∧
    holds (Expr.atom (.name true ['a', 'b'])).text [] = true ∧
    holds (Expr.atom (.name true ['a', 'b'])).text ([] ++ [⟨['a'], [], false, false⟩]) = false ∧
    FieldName.fault? ['!', 'a'] = none ∧
    holds (Expr.atom (.name true ['a'])).text [] = true ∧
    holds (Expr.atom (.name true ['a'])).text ([] ++ [⟨['!', 'a'], [], false, false⟩]) = false := by
  decide

end CitationNotes.Condition
