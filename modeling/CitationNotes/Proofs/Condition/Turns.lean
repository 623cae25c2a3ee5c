import CitationNotes.Condition.Substitution
import CitationNotes.Proofs.Condition.Syntax
import CitationNotes.Proofs.Text.Occurrence

/-!
What the turns of the fields make of a condition.

The stretches are laid out as items, one for each lexeme of the condition. When a field has its
turn, all longer names are settled, so its name occurs in a lexeme that is still to be settled
only where it is all of that lexeme, or all but the sign of its negation; and the negated name
goes first.
-/

namespace CitationNotes.Condition

/-! ### The order of the turns -/

/-- Sorting keeps the first of the elements that are looked for, if all of them are equals. -/
lemma find?_stableSort {α : Type} {le : α → α → Bool} {p : α → Bool}
    (h : ∀ a b, p a = true → p b = true → le a b = true) (l : List α) :
    (stableSort le l).find? p = l.find? p := by
  have hinsert (a : α) (l : List α) : (insertSorted le a l).find? p = (a :: l).find? p := by
    induction l with
    | nil => rfl
    | cons b l ih =>
      rw [insertSorted]
      split
      · rfl
      · next hab =>
        rw [List.find?_cons, ih]
        by_cases ha : p a = true
        · have hb : p b = false := by
            by_contra hb
            exact hab (h a b ha (by simpa using hb))
          simp [hb, ha]
        · simp [List.find?_cons, ha]
  induction l with
  | nil => rfl
  | cons a l ih => rw [stableSort_cons, hinsert, List.find?_cons, List.find?_cons, ih]

/-- Of fields whose names are equally long, the first has its turn first. -/
lemma find?_turns {p : Field → Bool} (hne : ∀ f, p f = true → f.name ≠ [])
    (h : ∀ f g, p f = true → p g = true → f.name.length = g.name.length) (fields : List Field) :
    (turns fields).find? p = fields.find? p := by
  rw [turns, find?_stableSort fun f g hf hg => by simp [h f g hf hg], List.find?_filter]
  congr 1
  funext f
  by_cases hf : p f = true
  · simp [hf, hne f hf]
  · simp [hf]

lemma named?_turns {fields : List Field} {n : Text} (hn : n ≠ []) :
    Field.named? (turns fields) n = Field.named? fields n := by
  refine find?_turns (fun f hf => ?_) (fun f g hf hg => ?_) fields
  · rw [beq_iff_eq.1 hf]
    exact hn
  · rw [beq_iff_eq.1 hf, beq_iff_eq.1 hg]

lemma mem_turns {fields : List Field} {f : Field} :
    f ∈ turns fields ↔ f ∈ fields ∧ f.name ≠ [] := by
  rw [turns, (stableSort_perm _ _).mem_iff, List.mem_filter]
  simp

/-- Longer names have their turn first. -/
lemma pairwise_turns (fields : List Field) :
    (turns fields).Pairwise fun f g => g.name.length ≤ f.name.length := by
  have h : (turns fields).Pairwise fun f g => decide (g.name.length ≤ f.name.length) = true :=
    pairwise_stableSort (by simp only [decide_eq_true_eq]; omega)
      (by simp only [Bool.or_eq_true, decide_eq_true_eq]; omega) _
  simpa using h

/-- The order of the turns is a matter of the names. -/
lemma turns_map {g : Field → Field} (hg : ∀ f, (g f).name = f.name) (fields : List Field) :
    turns (fields.map g) = (turns fields).map g := by
  have hfilter : (fields.map g).filter (fun f => !f.name.isEmpty) =
      (fields.filter fun f => !f.name.isEmpty).map g := by
    rw [List.filter_map]
    simp only [Function.comp_def, hg]
  rw [turns, turns, hfilter, map_stableSort]
  simp only [hg]

/-! ### Items -/

/-- A lexeme that is still searched, or the truth value that one has got. -/
inductive Item where
  | pending (l : Lexeme)
  | settled (holds : Bool)
deriving DecidableEq, Repr

namespace Item

def output : Item → Text
  | pending l => l.text
  | settled holds => word holds

/-- The item after all occurrences of `atom` have been resolved. -/
def resolve (atom : Text) (holds : Bool) : Item → Item
  | pending l => if l.text = atom then settled holds else pending l
  | i => i

end Item

/-- The stretches hold the items in their order. -/
inductive Lays : List Stretch → List Item → Prop where
  | nil : Lays [] []
  | kept {ls : List Lexeme} {ss : List Stretch} {is : List Item} (hl : Spaced ls)
    (h : Lays ss is) : Lays (.kept (textOf ls) :: ss) (ls.map Item.pending ++ is)
  | resolved {atom : Text} {holds : Bool} {ss : List Stretch} {is : List Item} (h : Lays ss is) :
    Lays (.resolved atom holds :: ss) (.settled holds :: is)

lemma Lays.append {ss ts : List Stretch} {is js : List Item} (h : Lays ss is)
    (h' : Lays ts js) : Lays (ss ++ ts) (is ++ js) := by
  induction h with
  | nil => exact h'
  | kept hl h ih => simpa using Lays.kept hl ih
  | resolved h ih => exact .resolved ih

lemma Lays.output {ss : List Stretch} {is : List Item} (h : Lays ss is) :
    ss.flatMap Stretch.output = is.flatMap Item.output := by
  induction h with
  | nil => rfl
  | @kept ls ss is hl h ih =>
    have hls : (ls.map Item.pending).flatMap Item.output = textOf ls := by
      rw [List.flatMap_map]
      rfl
    rw [List.flatMap_cons, ih, List.flatMap_append, hls, Stretch.output]
  | resolved h ih => rw [List.flatMap_cons, ih, List.flatMap_cons]; rfl

/-! ### One search -/

/-- A pattern that can only occur inside a name, if it occurs. -/
def Markless (t : Text) : Prop := t ≠ [] ∧ ∀ c ∈ t, isMark c = false

lemma Markless.negated {t : Text} (h : Markless t) : Markless ('!' :: t) :=
  ⟨List.cons_ne_nil _ _, List.forall_mem_cons.2 ⟨rfl, h.2⟩⟩

lemma Markless.not_mem {t : Text} (h : Markless t) {c : Char} (hc : isMark c = true) : c ∉ t := by
  intro hm
  rw [h.2 c hm] at hc
  cases hc

/-- The pattern is all of the lexeme or no part of it. -/
def Whole (atom : Text) (l : Lexeme) : Prop := l.text = atom ∨ ¬ atom <:+: l.text

lemma Markless.not_isInfix {atom : Text} (h : Markless atom) {l : Lexeme}
    (hl : l.isName = false) : ¬ atom <:+: l.text := by
  obtain ⟨c, hc, hm⟩ := Lexeme.exists_text_eq hl
  rw [hc]
  intro hi
  obtain ⟨d, hd⟩ := List.exists_mem_of_ne_nil _ h.1
  obtain rfl : d = c := by simpa using hi.subset hd
  exact h.not_mem hm hd

lemma Item.resolve_of_not_isName {atom : Text} (h : Markless atom) {l : Lexeme}
    (hl : l.isName = false) (holds : Bool) : (pending l).resolve atom holds = pending l := by
  refine if_neg fun he => h.not_isInfix hl ?_
  exact he ▸ List.infix_rfl

/-- Behind a name comes a mark, at which an occurrence would have to end. -/
lemma Markless.isPrefix_of_isPrefix_append {atom v : Text} (h : Markless atom)
    {l : Lexeme} {ls : List Lexeme} (hs : Spaced (l :: ls)) (hl : l.isName = true)
    (hp : atom <+: v ++ textOf ls) : atom <+: v := by
  rcases ls with _ | ⟨m, ls⟩
  · rwa [textOf_nil, List.append_nil] at hp
  have hm : m.isName = false := by
    have := (List.isChain_cons.1 hs).1 m rfl
    simpa [hl] using this
  obtain ⟨c, hc, hmark⟩ := Lexeme.exists_text_eq hm
  rw [textOf_cons, hc] at hp
  exact Text.isPrefix_of_isPrefix_append_cons (h.not_mem hmark) hp

/-- A lexeme that the pattern is no part of is passed over. -/
lemma cut?_text_append {atom : Text} (h : Markless atom) {l : Lexeme} {ls : List Lexeme}
    (hs : Spaced (l :: ls)) (hn : ¬ atom <:+: l.text) :
    Text.cut? atom (l.text ++ textOf ls) =
      (Text.cut? atom (textOf ls)).map fun q => (l.text ++ q.1, q.2) := by
  refine Text.cut?_append fun v hv hne hp => ?_
  by_cases hl : l.isName = true
  · exact hn ((h.isPrefix_of_isPrefix_append hs hl hp).isInfix.trans hv.isInfix)
  · obtain ⟨c, hc, hmark⟩ := Lexeme.exists_text_eq (by simpa using hl)
    obtain ⟨d, t, rfl⟩ := List.exists_cons_of_ne_nil h.1
    obtain ⟨e, v, rfl⟩ := List.exists_cons_of_ne_nil hne
    obtain ⟨rfl, -⟩ := List.cons_prefix_cons.1 hp
    have he : d = c := by simpa [hc] using hv.subset (List.mem_cons_self ..)
    exact h.not_mem hmark (he ▸ List.mem_cons_self)

/-- The search finds nothing, or the first lexeme that the pattern is all of. -/
lemma cut?_textOf {atom : Text} (h : Markless atom) {ls : List Lexeme} (hs : Spaced ls)
    (hw : ∀ l ∈ ls, Whole atom l) :
    (Text.cut? atom (textOf ls) = none ∧ ∀ l ∈ ls, l.text ≠ atom) ∨
    ∃ pre l post, ls = pre ++ l :: post ∧ l.text = atom ∧ (∀ m ∈ pre, m.text ≠ atom) ∧
      Text.cut? atom (textOf ls) = some (textOf pre, textOf post) := by
  induction ls with
  | nil =>
    obtain ⟨c, t, rfl⟩ := List.exists_cons_of_ne_nil h.1
    exact .inl ⟨rfl, by simp⟩
  | cons l ls ih =>
    by_cases hl : l.text = atom
    · refine .inr ⟨[], l, ls, rfl, hl, by simp, ?_⟩
      rw [textOf_cons, hl, Text.cut?_self_append]
      rfl
    have hn : ¬ atom <:+: l.text := (hw l (List.mem_cons_self ..)).resolve_left hl
    have hcut := cut?_text_append h hs hn
    rcases ih (List.isChain_cons.1 hs).2 fun m hm => hw m (List.mem_cons_of_mem _ hm) with
      ⟨hc, hne⟩ | ⟨pre, m, post, rfl, hm, hpre, hc⟩
    · refine .inl ⟨by rw [textOf_cons, hcut, hc]; rfl, ?_⟩
      intro m hm
      rcases List.mem_cons.1 hm with rfl | hm
      · exact hl
      · exact hne m hm
    · refine .inr ⟨l :: pre, m, post, rfl, hm, ?_, by rw [textOf_cons, hcut, hc]; rfl⟩
      intro k hk
      rcases List.mem_cons.1 hk with rfl | hk
      · exact hl
      · exact hpre k hk

lemma map_resolve_of_ne {atom : Text} {ls : List Lexeme} (h : ∀ l ∈ ls, l.text ≠ atom)
    (holds : Bool) :
    (ls.map Item.pending).map (Item.resolve atom holds) = ls.map Item.pending := by
  rw [List.map_map]
  exact List.map_congr_left fun l hl => if_neg (h l hl)

lemma lays_kept_of_ne {atom : Text} {ls : List Lexeme} (hs : Spaced ls)
    (h : ∀ l ∈ ls, l.text ≠ atom) (holds : Bool) :
    Lays [.kept (textOf ls)] ((ls.map Item.pending).map (Item.resolve atom holds)) := by
  rw [map_resolve_of_ne h]
  simpa using Lays.kept hs .nil

lemma lays_resolveUpTo {atom : Text} (h : Markless atom) (holds : Bool) {n : ℕ}
    {ls : List Lexeme} (hn : (textOf ls).length ≤ n) (hs : Spaced ls)
    (hw : ∀ l ∈ ls, Whole atom l) :
    Lays (resolveUpTo atom holds n (textOf ls))
      ((ls.map Item.pending).map (Item.resolve atom holds)) := by
  induction n generalizing ls with
  | zero =>
    refine lays_kept_of_ne hs (fun l hl he => h.1 ?_) holds
    have hnil : textOf ls = [] := List.eq_nil_of_length_eq_zero (by omega)
    rw [← he]
    exact List.flatMap_eq_nil_iff.1 hnil l hl
  | succ n ih =>
    rw [resolveUpTo]
    rcases cut?_textOf h hs hw with ⟨hc, hne⟩ | ⟨pre, l, post, rfl, hl, hpre, hc⟩
    · rw [hc]
      exact lays_kept_of_ne hs hne holds
    · rw [hc]
      have hlen := Text.length_of_cut? hc
      have hpos : 0 < atom.length := List.length_pos_iff.2 h.1
      have hspost : Spaced post := (List.isChain_cons.1 hs.right_of_append).2
      have hpost := ih (by omega) hspost fun m hm => hw m (by simp [hm])
      rw [List.map_append, List.map_cons, List.map_append, List.map_cons,
        map_resolve_of_ne hpre, Item.resolve, if_pos hl]
      exact .kept hs.left_of_append (.resolved hpost)

lemma Lays.resolve {atom : Text} (h : Markless atom) (holds : Bool) {ss : List Stretch}
    {is : List Item} (hl : Lays ss is) (hw : ∀ l, .pending l ∈ is → Whole atom l) :
    Lays (ss.flatMap (resolve atom holds)) (is.map (Item.resolve atom holds)) := by
  induction hl with
  | nil => exact .nil
  | @kept ls ss is hs hl ih =>
    rw [List.flatMap_cons, List.map_append]
    refine Lays.append ?_ (ih fun l hl => hw l (by simp [hl]))
    exact lays_resolveUpTo h holds le_rfl hs fun l hl => hw l (by simp [hl])
  | resolved hl ih => exact .resolved (ih fun l hl => hw l (by simp [hl]))

/-! ### One turn after the other -/

/-- The item after the turns of `fs`. -/
def Item.finish (fs : List Field) : Item → Item
  | pending (.name negated n) =>
    match Field.named? fs n with
    | some f => settled (negated != f.isFilled)
    | none => pending (.name negated n)
  | i => i

lemma Item.finish_nil (i : Item) : i.finish [] = i := by
  rcases i with (_ | _ | _ | _) | _ <;> rfl

/-- Only a negation of a name as long as `m` has room for the negation of `m`. -/
lemma whole_negated {m : Text} (hm : Markless ('!' :: m)) {l : Lexeme}
    (hl : ∀ negated n, l = .name negated n → n.length ≤ m.length) : Whole ('!' :: m) l := by
  refine or_iff_not_imp_right.2 fun hi => ?_
  rw [not_not] at hi
  refine (hi.eq_of_length_le ?_).symm
  rcases l with ⟨negated, n⟩ | _ | _ | _
  · have := hl negated n rfl
    cases negated <;> simp [Lexeme.text] <;> omega
  all_goals exact absurd hi (hm.not_isInfix rfl)

/-- What holds `m` and is not longer is `m` itself or its negation. -/
lemma whole_name {m : Text} (hm : Markless m) (hb : m.head? ≠ some '!') {l : Lexeme}
    (hl : ∀ negated n, l = .name negated n → n.length ≤ m.length) (hne : l.text ≠ '!' :: m) :
    Whole m l := by
  refine or_iff_not_imp_right.2 fun hi => ?_
  rw [not_not] at hi
  rcases l with ⟨_ | _, n⟩ | _ | _ | _
  · exact (hi.eq_of_length_le (hl _ _ rfl)).symm
  · exfalso
    rcases List.infix_cons_iff.1 hi with hp | hi
    · obtain ⟨c, t, rfl⟩ := List.exists_cons_of_ne_nil hm.1
      obtain ⟨rfl, -⟩ := List.cons_prefix_cons.1 hp
      exact hb rfl
    · have hn : m = n := hi.eq_of_length_le (hl _ _ rfl)
      exact hne (by rw [hn]; rfl)
  all_goals exact absurd hi (hm.not_isInfix rfl)

lemma Item.mem_map_resolve {atom : Text} {holds : Bool} {is : List Item} {l : Lexeme}
    (h : .pending l ∈ is.map (Item.resolve atom holds)) : .pending l ∈ is ∧ l.text ≠ atom := by
  obtain ⟨i, hi, he⟩ := List.mem_map.1 h
  rcases i with m | b
  · by_cases hm : m.text = atom
    · simp [resolve, hm] at he
    · obtain rfl : m = l := by simpa [resolve, hm] using he
      exact ⟨hi, hm⟩
  · cases he

/-- A turn settles the items that bear the field's name, and what the field says is settled no
more. -/
lemma Item.finish_resolve {f : Field} (hm : Markless f.name) (hb : f.name.head? ≠ some '!')
    {i : Item} (hi : ∀ negated n, i = .pending (.name negated n) → n.head? ≠ some '!')
    (fs : List Field) :
    ((i.resolve ('!' :: f.name) !f.isFilled).resolve f.name f.isFilled).finish fs =
      i.finish (f :: fs) := by
  rcases i with l | b
  swap
  · rfl
  rcases l with ⟨negated, n⟩ | op | _ | _
  · have hn := hi negated n rfl
    by_cases he : f.name = n
    · -- the field's own name
      subst he
      have hself : f.name ≠ '!' :: f.name := fun h => hn (by rw [h]; rfl)
      cases negated <;> simp [resolve, Lexeme.text, hself, finish, Field.named?]
    · -- another name
      have hnamed : Field.named? (f :: fs) n = Field.named? fs n := by
        simp [Field.named?, he]
      have h1 : n ≠ '!' :: f.name := fun h => hn (by rw [h]; rfl)
      have h2 : '!' :: n ≠ f.name := fun h => hb (by rw [← h]; rfl)
      cases negated
      · simp [resolve, Lexeme.text, h1, Ne.symm he, finish, hnamed]
      · simp [resolve, Lexeme.text, h2, Ne.symm he, finish, hnamed]
  all_goals
    rw [resolve_of_not_isName hm.negated rfl, resolve_of_not_isName hm rfl]
    rfl

/-- The fields take turns, and every name that is pending has one to come. -/
lemma Lays.turns {fs : List Field} (hs : fs.Pairwise fun f g => g.name.length ≤ f.name.length)
    (hf : ∀ f ∈ fs, Markless f.name ∧ f.name.head? ≠ some '!') {ss : List Stretch}
    {is : List Item} (h : Lays ss is)
    (hp : ∀ negated n, .pending (.name negated n) ∈ is → ∃ f ∈ fs, f.name = n) :
    Lays (fs.foldl (fun ss f => resolveField f ss) ss) (is.map (Item.finish fs)) := by
  induction fs generalizing ss is with
  | nil => simpa [funext Item.finish_nil] using h
  | cons f fs ih =>
    obtain ⟨hlong, hs⟩ := List.pairwise_cons.1 hs
    obtain ⟨hm, hb⟩ := hf f (List.mem_cons_self ..)
    have hlen : ∀ negated n, .pending (.name negated n) ∈ is → n.length ≤ f.name.length := by
      intro negated n hn
      obtain ⟨g, hg, rfl⟩ := hp negated n hn
      rcases List.mem_cons.1 hg with rfl | hg
      · exact le_rfl
      · exact hlong g hg
    have hnegated := h.resolve hm.negated (!f.isFilled) fun l hl =>
      whole_negated hm.negated fun negated n he => hlen negated n (he ▸ hl)
    have hname := hnegated.resolve hm f.isFilled fun l hl =>
      have hl := Item.mem_map_resolve hl
      whole_name hm hb (fun negated n he => hlen negated n (he ▸ hl.1)) hl.2
    have hrest := ih hs (fun g hg => hf g (List.mem_cons_of_mem _ hg)) hname fun negated n hn => by
      obtain ⟨hn, h1⟩ := Item.mem_map_resolve hn
      obtain ⟨hn, h2⟩ := Item.mem_map_resolve hn
      obtain ⟨g, hg, rfl⟩ := hp negated n hn
      rcases List.mem_cons.1 hg with rfl | hg
      · cases negated
        · exact absurd rfl h1
        · exact absurd rfl h2
      · exact ⟨g, hg, rfl⟩
    rw [List.foldl_cons, resolveField]
    rw [List.map_map, List.map_map] at hrest
    have hsame : is.map (Item.finish (f :: fs)) = is.map (Item.finish fs ∘
        Item.resolve f.name f.isFilled ∘ Item.resolve ('!' :: f.name) !f.isFilled) := by
      refine List.map_congr_left fun i hi => (Item.finish_resolve hm hb ?_ fs).symm
      rintro negated n rfl
      obtain ⟨g, hg, rfl⟩ := hp negated n hi
      exact (hf g hg).2
    rw [hsame]
    exact hrest

/-! ### The whole substitution -/

/-- A lexeme with the name in it settled. -/
def Lexeme.truth (fields : List Field) : Lexeme → Text
  | name negated n => word (negated != filled fields n)
  | l => l.text

lemma output_finish_turns {fields : List Field} {l : Lexeme}
    (hl : ∀ negated n, l = .name negated n → n ≠ [] ∧ ∃ f ∈ fields, f.name = n) :
    ((Item.pending l).finish (turns fields)).output = l.truth fields := by
  rcases l with ⟨negated, n⟩ | op | _ | _
  · obtain ⟨hn, f, hf, rfl⟩ := hl negated n rfl
    obtain ⟨g, hg⟩ : ∃ g, Field.named? fields f.name = some g :=
      Option.isSome_iff_exists.1 (List.find?_isSome.2 ⟨f, hf, by simp⟩)
    simp [Item.finish, named?_turns hn, hg, Item.output, Lexeme.truth, filled]
  all_goals rfl

/-- **Substitution** puts a truth word in the place of each name, and leaves all else. -/
lemma substitute_text {e : Expr} {fields : List Field}
    (hnames : ∀ n ∈ e.names, n ≠ [] ∧ ∃ f ∈ fields, f.name = n)
    (hfields : ∀ f ∈ fields, f.name.head? ≠ some '!' ∧ ∀ c ∈ f.name, isMark c = false) :
    substitute e.text fields = e.lexemes.flatMap (Lexeme.truth fields) := by
  have hstart : Lays [.kept e.text] (e.lexemes.map Item.pending) := by
    simpa [Expr.text] using Lays.kept e.spaced .nil
  have hlays := hstart.turns (pairwise_turns fields)
    (fun f hf => ⟨⟨(mem_turns.1 hf).2, (hfields f (mem_turns.1 hf).1).2⟩,
      (hfields f (mem_turns.1 hf).1).1⟩)
    (fun negated n hn => by
      obtain ⟨hne, f, hf, rfl⟩ := hnames n (Expr.mem_names (by simpa using hn))
      exact ⟨f, mem_turns.2 ⟨hf, hne⟩, rfl⟩)
  rw [substitute, stretches, hlays.output, List.map_map, List.flatMap_map]
  refine List.flatMap_congr fun l hl => output_finish_turns ?_
  rintro negated n rfl
  exact hnames n (Expr.mem_names hl)

end CitationNotes.Condition
