import CitationNotes.Condition.Groups
import CitationNotes.Proofs.Condition.Levels
import CitationNotes.Proofs.Condition.Marks

/-!
Atoms, and the fields that take them.

A condition is decided atom by atom, since no name reaches over a mark. Between marks the first turn
decides: the text falls to the field with the longest name in it, and to the first of several whose
names are equally long. The text gets a truth value if it is that name or its negation, and is
ruined otherwise: there is a truth word in it then, and the rest keeps it from holding.
-/

namespace CitationNotes.Condition

open Text

variable {fields : List Field} {f g : Field} {x : Text}

/-! ### Atom by atom -/

/-- What becomes of an atom when it is the whole condition. -/
def substituteAtom (fields : List Field) (negated : Bool) (n : Text) : Text :=
  substitute (Lexeme.name negated n).text fields

lemma substitute_cons_of_isMark (hf : ∀ f ∈ fields, ∀ c ∈ f.name, isMark c = false) {m : Char}
    (hm : isMark m = true) (s t : Text) :
    substitute (s ++ m :: t) fields = substitute s fields ++ m :: substitute t fields := by
  refine substitute_append_cons (fun f hmem => ?_) s t
  refine not_mem_of_isMark (List.forall_mem_cons.2 ⟨rfl, hf f hmem⟩) hm

/-- Lexemes that begin with a mark, or none at all, are substituted by themselves. -/
lemma substitute_append_textOf (hf : ∀ f ∈ fields, ∀ c ∈ f.name, isMark c = false)
    {ls : List Lexeme} (hls : ∀ l ∈ ls.head?, l.isName = false) (t : Text) :
    substitute (t ++ textOf ls) fields = substitute t fields ++ substitute (textOf ls) fields := by
  rcases ls with _ | ⟨l, ls⟩
  · simp
  · obtain ⟨c, hc, hm⟩ := Lexeme.exists_text_eq (hls l rfl)
    have hfirst := substitute_cons_of_isMark hf hm [] (textOf ls)
    rw [List.nil_append, substitute_nil, List.nil_append] at hfirst
    rw [textOf_cons, hc, List.singleton_append, hfirst, substitute_cons_of_isMark hf hm]

lemma substitute_textOf (hf : ∀ f ∈ fields, ∀ c ∈ f.name, isMark c = false) {ls : List Lexeme}
    (hs : Spaced ls) :
    substitute (textOf ls) fields = ls.flatMap (Lexeme.write (substituteAtom fields)) := by
  induction ls with
  | nil => simp
  | cons l ls ih =>
    obtain ⟨hnext, hs⟩ := List.isChain_cons.1 hs
    rw [List.flatMap_cons, ← ih hs, textOf_cons]
    by_cases hl : l.isName = true
    · have hls : ∀ m ∈ ls.head?, m.isName = false := fun m hm =>
        (hnext m hm).resolve_left (by simp [hl])
      rw [substitute_append_textOf hf hls]
      cases l with
      | name negated n => rfl
      | operator | opening | closing => cases hl
    · obtain ⟨c, hc, hm⟩ := Lexeme.exists_text_eq (by simpa using hl)
      have hwrite : l.write (substituteAtom fields) = l.text := by
        cases l with
        | name => exact absurd rfl hl
        | operator | opening | closing => rfl
      have hfirst := substitute_cons_of_isMark hf hm [] (textOf ls)
      rw [hwrite, hc, List.singleton_append, List.singleton_append]
      simpa using hfirst

/-- **A condition is decided atom by atom**: each name, negated or not, is substituted as if it
stood alone, and holds or not by what that gives. -/
theorem holds_eq_valueBy {e : Expr} (hf : ∀ f ∈ fields, ∀ c ∈ f.name, isMark c = false)
    (hnames : ∀ n ∈ e.names, ∀ c ∈ n, isMark c = false) :
    holds e.text fields = e.valueBy fun negated n => termHolds (substituteAtom fields negated n) := by
  have hunmarked : Unmarked (substituteAtom fields) e.lexemes := by
    intro negated n hn c hc
    rcases mem_of_mem_substitute hc with hc | ⟨b, hc⟩
    · have hname := hnames n (Expr.mem_names hn)
      cases negated with
      | false => exact hname c hc
      | true =>
        rcases List.mem_cons.1 hc with rfl | hc
        · rfl
        · exact hname c hc
    · exact isMark_word b c hc
  rw [holds, Expr.text, substitute_textOf hf e.spaced, evaluate_write e hunmarked]

/-- The condition that is one atom. -/
lemma holds_atom (hf : ∀ f ∈ fields, ∀ c ∈ f.name, isMark c = false) {n : Text}
    (hn : ∀ c ∈ n, isMark c = false) (negated : Bool) :
    holds (Lexeme.name negated n).text fields = termHolds (substituteAtom fields negated n) := by
  have htext : (Expr.atom (.name negated n)).text = (Lexeme.name negated n).text :=
    List.append_nil _
  have hnames : ∀ m ∈ (Expr.atom (.name negated n)).names, ∀ c ∈ m, isMark c = false := by
    simpa [Expr.names, Expr.lexemes, Atom.lexemes] using hn
  have hvalue := holds_eq_valueBy hf hnames
  rw [htext] at hvalue
  rw [hvalue]
  simp [Expr.valueBy, Expr.valuesBy, Atom.valueBy, Expr.operators, combine]

/-! ### Ruined text -/

lemma occurs_iff {pattern t : Text} : occurs pattern t = true ↔ pattern <:+: t := by
  rw [occurs, Option.isSome_iff_ne_none, Ne, cut?_eq_none_iff, not_not]

/-- A term with a truth word in it holds only if it is the true one. -/
lemma eq_word_of_termHolds {t : Text} {b : Bool} (h : termHolds t = true) (hb : word b <:+: t) :
    t = word true := by
  by_contra hne
  have hocc : occurs (word b) t = true := occurs_iff.2 hb
  have habsent : isAbsent t = false := by
    cases b <;> simp [isAbsent, hocc]
  unfold termHolds at h
  rw [if_neg hne, habsent] at h
  cases h

lemma source_eq_nil_of_output_eq_nil {ss : List Stretch}
    (h : ss.flatMap Stretch.output = []) : ss.flatMap Stretch.source = [] := by
  rw [List.flatMap_eq_nil_iff] at h ⊢
  intro s hs
  have hs := h s hs
  cases s with
  | kept t => exact hs
  | resolved a b => cases b <;> cases hs

/-- Whether a truth word is left in the text that is not all of it, or is the false one. -/
def Ruined (t : Text) : Prop := (word true).length < t.length ∧ ∃ b, word b <:+: t

lemma ruined_word_false : Ruined (word false) := ⟨by decide, false, List.infix_rfl⟩

lemma Ruined.termHolds {t : Text} (h : Ruined t) : termHolds t = false := by
  obtain ⟨hlen, b, hb⟩ := h
  by_contra hholds
  rw [Bool.not_eq_false] at hholds
  rw [eq_word_of_termHolds hholds hb] at hlen
  exact lt_irrefl _ hlen

/-- A name is resolved as a whole, or nothing with its truth word in it holds. -/
lemma eq_word_or_ruined_of_resolved {x a : Text} {b : Bool}
    (h : .resolved a b ∈ stretches x fields) :
    (a = x ∧ substitute x fields = word b) ∨ Ruined (substitute x fields) := by
  obtain ⟨as, bs, hsplit⟩ := List.append_of_mem h
  have houtput : substitute x fields =
      as.flatMap Stretch.output ++ word b ++ bs.flatMap Stretch.output := by
    rw [substitute, hsplit, List.flatMap_append, List.flatMap_cons, ← List.append_assoc]
    rfl
  have hsource := source_stretches x fields
  rw [hsplit, List.flatMap_append, List.flatMap_cons] at hsource
  by_cases hnil : as.flatMap Stretch.output = [] ∧ bs.flatMap Stretch.output = []
  · left
    rw [source_eq_nil_of_output_eq_nil hnil.1, source_eq_nil_of_output_eq_nil hnil.2,
      List.append_nil, List.nil_append] at hsource
    rw [houtput, hnil.1, hnil.2, List.append_nil, List.nil_append]
    exact ⟨hsource, rfl⟩
  · -- there is more than the word
    right
    rw [houtput]
    refine ⟨?_, b, List.infix_append ..⟩
    have hword : (word true).length ≤ (word b).length := by cases b <;> decide
    have hmore : 0 < (as.flatMap Stretch.output).length + (bs.flatMap Stretch.output).length := by
      rw [← List.length_append, List.length_pos_iff, Ne, List.append_eq_nil_iff]
      exact hnil
    rw [List.length_append, List.length_append]
    omega

/-! ### Who takes a text -/

/-- The field that has its turn first of those whose names are in the text. -/
def taker? (fields : List Field) (x : Text) : Option Field :=
  (turns fields).find? fun f => occurs f.name x

lemma taker?_eq_none_iff : taker? fields x = none ↔ ∀ f ∈ turns fields, ¬ f.name <:+: x := by
  simp [taker?, List.find?_eq_none, ← occurs_iff]

lemma exists_turns_of_taker? (h : taker? fields x = some f) : f.name <:+: x ∧
    ∃ fs gs, turns fields = fs ++ f :: gs ∧ ∀ g ∈ fs, ¬ g.name <:+: x := by
  obtain ⟨hf, fs, gs, hturns, hfs⟩ := List.find?_eq_some_iff_append.1 h
  refine ⟨occurs_iff.1 hf, fs, gs, hturns, fun g hg => ?_⟩
  rw [← occurs_iff, Bool.not_eq_true, ← Bool.not_eq_true']
  exact hfs g hg

lemma mem_of_taker? (h : taker? fields x = some f) : f ∈ turns fields := List.mem_of_find?_eq_some h

/-- No longer name is in the text. -/
lemma length_le_of_taker? (h : taker? fields x = some f) (hg : g ∈ turns fields)
    (hx : g.name <:+: x) : g.name.length ≤ f.name.length := by
  obtain ⟨-, fs, gs, hturns, hfs⟩ := exists_turns_of_taker? h
  have hsorted := pairwise_turns fields
  rw [hturns, List.pairwise_append, List.pairwise_cons] at hsorted
  rw [hturns, List.mem_append, List.mem_cons] at hg
  rcases hg with hg | rfl | hg
  · exact absurd hx (hfs g hg)
  · exact le_rfl
  · exact hsorted.2.1.1 g hg

/-- Of the longest names in a text, the first among the fields takes it. -/
lemma taker?_eq_some_iff : taker? fields x = some f ↔
    f.name ≠ [] ∧ (∀ g ∈ fields, g.name <:+: x → g.name.length ≤ f.name.length) ∧
      fields.find? (fun g => occurs g.name x && g.name.length == f.name.length) = some f := by
  let p (g : Field) : Bool := occurs g.name x && g.name.length == f.name.length
  have hp {g : Field} : p g = true ↔ g.name <:+: x ∧ g.name.length = f.name.length := by
    simp [p, occurs_iff]
  have hfind (hne : f.name ≠ []) : (turns fields).find? p = fields.find? p := by
    refine find?_turns (fun g hg hnil => hne (List.eq_nil_of_length_eq_zero ?_))
      (fun g h hg hh => (hp.1 hg).2.trans (hp.1 hh).2.symm) fields
    rw [← (hp.1 hg).2, hnil, List.length_nil]
  -- whoever takes the text is the first of the fields with a name of that length in it
  have hfirst {g : Field} (h : taker? fields x = some g)
      (hlen : g.name.length = f.name.length) : (turns fields).find? p = some g := by
    obtain ⟨hgx, fs, gs, hturns, hfs⟩ := exists_turns_of_taker? h
    refine List.find?_eq_some_iff_append.2 ⟨hp.2 ⟨hgx, hlen⟩, fs, gs, hturns, fun i hi => ?_⟩
    simp only [Bool.not_eq_true', ← Bool.not_eq_true, hp]
    exact fun hi' => hfs i hi hi'.1
  constructor
  · intro h
    have hne : f.name ≠ [] := (mem_turns.1 (mem_of_taker? h)).2
    refine ⟨hne, fun g hg hgx => ?_, (hfind hne).symm.trans (hfirst h rfl)⟩
    by_cases hnil : g.name = []
    · simp [hnil]
    · exact length_le_of_taker? h (mem_turns.2 ⟨hg, hnil⟩) hgx
  · rintro ⟨hne, hlong, hf⟩
    rw [← hfind hne] at hf
    have hmem := List.mem_of_find?_eq_some hf
    have hx := (hp.1 (List.find?_some hf)).1
    rcases h : taker? fields x with _ | g
    · exact absurd hx (taker?_eq_none_iff.1 h f hmem)
    have hlen : g.name.length = f.name.length :=
      (hlong g (mem_turns.1 (mem_of_taker? h)).1 (exists_turns_of_taker? h).1).antisymm
        (length_le_of_taker? h hmem hx)
    rw [← hf, hfirst h hlen]

/-! ### What becomes of the text -/

lemma resolveText_self {atom : Text} (hne : atom ≠ []) (holds : Bool) :
    resolveText atom holds atom = [.kept [], .resolved atom holds, .kept []] := by
  have hcut := cut?_self_append atom []
  rw [List.append_nil] at hcut
  rw [resolveText_of_cut?_eq_some hne holds hcut, resolveText_eq_self (by simpa using hne)]

/-- A field takes its own name, or the negation of it, if none that has its turn before takes part
of that. -/
lemma substitute_of_settles {fs gs : List Field} {f : Field} {x : Text} {b : Bool}
    (hturns : turns fields = fs ++ f :: gs) (hfs : ∀ g ∈ fs, ¬ g.name <:+: x)
    (h : Settles f x b) : substitute x fields = word b := by
  have hne (g : Field) (hg : g ∈ fs ++ f :: gs) : g.name ≠ [] := (mem_turns.1 (hturns ▸ hg)).2
  have hnf : f.name ≠ [] := hne f (by simp)
  have hnil : resolveText f.name f.isFilled [] = [.kept []] :=
    resolveText_eq_self (by simpa using hnf) _
  have hturn : resolveField f [.kept x] = [.kept [], .resolved x b, .kept []] := by
    rcases h with ⟨rfl, rfl⟩ | ⟨rfl, rfl⟩
    · have hnegated : ¬ '!' :: f.name <:+: f.name := fun hi => by
        have := hi.length_le
        rw [List.length_cons] at this
        omega
      simp [resolveField, resolve, resolveText_eq_self hnegated, resolveText_self hnf]
    · simp [resolveField, resolve, resolveText_self, hnil]
  have hafter : afterTurns gs [.kept [], .resolved x b, .kept []] =
      [.kept [], .resolved x b, .kept []] := by
    refine afterTurns_eq_self fun g hg t ht => ?_
    obtain rfl : t = [] := by simpa using ht
    simpa using hne g (by simp [hg])
  rw [substitute, stretches_eq, hturns, afterTurns_append, afterTurns_kept hfs, afterTurns_cons,
    hturn, hafter]
  simp [Stretch.output]

lemma substitute_of_taker?_eq_none (h : taker? fields x = none) : substitute x fields = x :=
  substitute_eq_self (taker?_eq_none_iff.1 h)

lemma substitute_of_taker? {b : Bool} (h : taker? fields x = some f) (hs : Settles f x b) :
    substitute x fields = word b := by
  obtain ⟨-, fs, gs, hturns, hfs⟩ := exists_turns_of_taker? h
  exact substitute_of_settles hturns hfs hs

/-- A field that finds its name resolves it, with the sign in front of it or without. -/
lemma exists_resolved_of_isInfix (hne : f.name ≠ []) (hx : f.name <:+: x) :
    ∃ a b, .resolved a b ∈ resolveField f [.kept x] ∧ Settles f a b := by
  rw [resolveField, List.flatMap_singleton, resolve]
  rcases hcut : cut? ('!' :: f.name) x with _ | ⟨u, v⟩
  · rcases hname : cut? f.name x with _ | ⟨u, v⟩
    · exact absurd hx (cut?_eq_none_iff.1 hname)
    · refine ⟨f.name, f.isFilled, ?_, .inl ⟨rfl, rfl⟩⟩
      rw [resolveText_of_cut?_eq_none (List.cons_ne_nil _ _) _ hcut, List.flatMap_singleton,
        resolve, resolveText_of_cut?_eq_some hne _ hname]
      simp
  · refine ⟨'!' :: f.name, !f.isFilled, ?_, .inr ⟨rfl, rfl⟩⟩
    rw [resolveText_of_cut?_eq_some (List.cons_ne_nil _ _) _ hcut]
    simp [resolve]

lemma resolved_mem_afterTurns_of_mem {fs : List Field} {ss : List Stretch} {a : Text} {b : Bool}
    (h : .resolved a b ∈ ss) : .resolved a b ∈ afterTurns fs ss := by
  have hkeep {atom : Text} {holds : Bool} {ss : List Stretch} (h : .resolved a b ∈ ss) :
      .resolved a b ∈ ss.flatMap (resolve atom holds) :=
    List.mem_flatMap.2 ⟨_, h, List.mem_singleton_self _⟩
  induction fs generalizing ss with
  | nil => exact h
  | cons f fs ih => exact ih (hkeep (hkeep h))

/-- Text that is more than the name and its sign is ruined. -/
lemma ruined_of_taker? (h : taker? fields x = some f) (hs : ∀ b, ¬ Settles f x b) :
    Ruined (substitute x fields) := by
  obtain ⟨hx, fs, gs, hturns, hfs⟩ := exists_turns_of_taker? h
  obtain ⟨a, b, hmem, hab⟩ := exists_resolved_of_isInfix (mem_turns.1 (mem_of_taker? h)).2 hx
  have hstretches : .resolved a b ∈ stretches x fields := by
    rw [stretches_eq, hturns, afterTurns_append, afterTurns_kept hfs, afterTurns_cons]
    exact resolved_mem_afterTurns_of_mem hmem
  rcases eq_word_or_ruined_of_resolved hstretches with ⟨rfl, -⟩ | hruined
  · exact absurd hab (hs b)
  · exact hruined

/-- A text that is taken holds only as a name or a negation that is settled so. -/
lemma termHolds_substitute_iff (h : taker? fields x = some f) :
    termHolds (substitute x fields) = true ↔ Settles f x true := by
  constructor
  · intro hholds
    by_contra hs
    by_cases hs' : Settles f x false
    · rw [substitute_of_taker? h hs', termHolds_word] at hholds
      cases hholds
    · rw [(ruined_of_taker? h (Bool.forall_bool.2 ⟨hs', hs⟩)).termHolds] at hholds
      cases hholds
  · intro hs
    rw [substitute_of_taker? h hs, termHolds_word]

end CitationNotes.Condition
